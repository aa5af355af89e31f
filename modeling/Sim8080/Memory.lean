
namespace Sim8080

def addressSpace : Nat := 0x10000

/-- 64K bytes of memory. -/
structure Memory where
  bytes : ByteArray
  size_eq : bytes.size = addressSpace

namespace Memory

def filled (v : UInt8) : Memory :=
  ⟨⟨Array.replicate addressSpace v⟩, by simp only [ByteArray.size, Array.size_replicate]⟩

instance : Inhabited Memory := ⟨filled 0⟩

def tabulate (f : Nat → UInt8) : Memory :=
  ⟨⟨Array.ofFn (n := addressSpace) fun i => f i.val⟩, by simp only [ByteArray.size, Array.size_ofFn]⟩

theorem bytes_size_set (b : ByteArray) (i : Nat) (v : UInt8) (h : i < b.size) :
    (b.set i v h).size = b.size := by
  cases b
  simp only [ByteArray.set, ByteArray.size, Array.size_set]

theorem lt_size (m : Memory) (a : UInt16) : a.toNat < m.bytes.size := by
  rw [m.size_eq]; exact a.toNat_lt

def read (m : Memory) (a : UInt16) : UInt8 := m.bytes.get a.toNat (m.lt_size a)

def write (m : Memory) (a : UInt16) (v : UInt8) : Memory :=
  ⟨m.bytes.set a.toNat v (m.lt_size a), by rw [bytes_size_set, m.size_eq]⟩

def slice (m : Memory) (addr : UInt16) (len : Nat) : List UInt8 :=
  (List.range len).map fun i => m.read (addr + i.toUInt16)

def writeAll (m : Memory) (addr : UInt16) (data : List UInt8) : Memory :=
  (data.zipIdx).foldl (fun m (v, i) => m.write (addr + i.toUInt16) v) m

def toByteArray (m : Memory) : ByteArray := m.bytes

def ofByteArray (b : ByteArray) (h : b.size = addressSpace) : Memory := ⟨b, h⟩

end Memory

end Sim8080
