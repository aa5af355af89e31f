import Mathlib
import Sim8080.Proofs.SnapshotLoading
import Sim8080.Proofs.StatusInvariant
import Sim8080.Trace

namespace Sim8080

-- What the round trip assumes of the libraries: zlib inflates what it deflated back to the
-- same bytes, and the JSON library reads the text it writes of a snapshot as a value that
-- holds its format tag and version where a document's are looked for, and that deserializes
-- as the snapshot. The checksum is a function of the chunks it is fed by its type.

def Flate.Inverts (flate : Flate) (raw : ByteArray) : Prop :=
  flate.inflate (flate.deflate raw) = (raw, none)

def Snapshot.Codec.ReadsBack (codec : Snapshot.Codec) (parse : String → Except String Json)
    (s : Snapshot) : Prop :=
  ∃ v, parse (codec.toText s) = .ok v ∧ Snapshot.formatOf v = s.format ∧
    Snapshot.versionOf v = s.version ∧ codec.ofValue v = .ok s

namespace Snapshot

theorem ofText_toText {parse : String → Except String Json} {codec : Codec} {s : Snapshot}
    (hf : s.format = formatTag) (hv : s.version = formatVersion) (h : codec.ReadsBack parse s) :
    ofText parse codec (codec.toText s) = .ok s := by
  obtain ⟨v, hp, hfv, hvv, hs⟩ := h
  rw [ofText_eq, hp]
  simp only [hfv, hf, hvv, hv, if_true, hs]
  rfl

end Snapshot

theorem ByteArray.extract_zero_of_size_le {b : ByteArray} {n : Nat} (h : b.size ≤ n) :
    b.extract 0 n = b := by
  calc b.extract 0 n = b.extract 0 (max n b.size) := by rw [Nat.max_eq_left h]
    _ = b := ByteArray.extract_zero_max_size

theorem MemoryImage.decode_encode {flate : Flate} {raw : ByteArray} (h : raw.size = addressSpace)
    (hz : flate.Inverts raw) (c : Compressor) : (MemoryImage.encode flate raw c).decode flate = .ok raw := by
  -- the decoder's limit lies past the image, so it reads the whole of it
  have hinflate : (MemoryImage.encode flate raw c).inflate flate = .ok raw := by
    cases c
    case zlib =>
      unfold Flate.Inverts at hz
      simp only [MemoryImage.inflate, MemoryImage.encode, MemoryImage.inflateAtMost, hz]
      rw [ByteArray.extract_zero_of_size_le (by omega)]
    case stored => rfl
  rw [MemoryImage.decode_eq_ok]
  exact ⟨h, hinflate, h, rfl⟩

-- `m'` holds the bytes of `m` at every address of the region.
def Region.Agrees (r : Region) (m m' : Memory) : Prop :=
  ∀ a : UInt16, r.offset.toNat ≤ a.toNat → a.toNat < r.offset.toNat + r.size.toNat →
    m'.read a = m.read a

theorem Region.bytes_congr {r : Region} {m m' : Memory} (hv : r.isValid) (h : r.Agrees m m') :
    r.bytes m' = r.bytes m := by
  have hv' : r.offset.toNat + r.size.toNat ≤ addressSpace := of_decide_eq_true hv
  rw [addressSpace] at hv'
  apply List.map_congr_left
  intro i hi
  rw [List.mem_range] at hi
  -- a valid region does not wrap, so its addresses are the offset plus the index
  have ha : (r.offset + i.toUInt16).toNat = r.offset.toNat + i := by
    rw [UInt16.toNat_add, Nat.toUInt16_eq, UInt16.toNat_ofNat']
    omega
  exact h _ (by omega) (by omega)

theorem RomDigest.compute_congr (flate : Flate) {m m' : Memory} {R : List Region}
    (hv : ∀ r ∈ R, r.isValid) (h : ∀ r ∈ R, r.Agrees m m') :
    RomDigest.compute flate m' R = RomDigest.compute flate m R := by
  unfold compute
  rw [List.map_congr_left fun r hr => by rw [Region.bytes_congr (hv r hr) (h r hr)]]

set_option maxRecDepth 100000 in
theorem Flags.Fixed.normalize_eq {f : UInt8} (h : Flags.Fixed f) : Flags.normalize f = f := by
  revert f
  apply forall_byte
  decide

theorem Cpu.ofSaved_save {s : Cpu} (h : Flags.Fixed s.f) :
    Cpu.ofSaved s.save = { s with eiDelay := false, pending := none } := by
  simp [Cpu.ofSaved, Cpu.save, h.normalize_eq]

theorem Snapshot.restore_capture {flate : Flate} {cpu : Cpu} {M M' : Memory} {R : List Region}
    (c : Compressor) (hz : flate.Inverts M.toByteArray) (hf : Flags.Fixed cpu.f)
    (hv : ∀ r ∈ R, r.isValid) (h : ∀ r ∈ R, r.Agrees M M') :
    ((Snapshot.capture flate cpu M c).withRom flate M R).restore flate M' =
      .ok (M, { cpu with eiDelay := false, pending := none }) := by
  have hmem := MemoryImage.decode_encode M.size_eq hz c
  have hreg : (RomDigest.compute flate M R).regions = R := rfl
  simp [restore, capture, withRom, hreg, RomDigest.compute_congr flate hv h, hmem,
    M.size_eq, Memory.toByteArray, Memory.ofByteArray, Cpu.ofSaved_save hf, bind, Except.bind,
    pure, Except.pure]

-- A zlib that keeps the bytes as they are, and a JSON library that reads every text as the
-- one snapshot `s`: between them they keep both assumptions for `s`.
def Flate.verbatim : Flate where
  deflate := id
  inflate bytes := (bytes, none)
  crc32 _ := 0

def Libraries.holding (s : Snapshot) : Libraries where
  parse _ := .ok (.obj #[("format", .str s.format), ("version", .num (.nat s.version))])
  options := default
  snapshots := { toText := fun _ => "", ofValue := fun _ => .ok s }
  flate := Flate.verbatim

end Sim8080
