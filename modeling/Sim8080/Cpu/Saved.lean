import Sim8080.Cpu.Registers

namespace Sim8080

/-- The registers a snapshot keeps. -/
structure SavedCpu where
  a : UInt8
  b : UInt8
  c : UInt8
  d : UInt8
  e : UInt8
  h : UInt8
  l : UInt8
  f : UInt8
  sp : UInt16
  pc : UInt16
  iff : Bool
  halted : Bool
  deriving Repr, DecidableEq, Inhabited

namespace Cpu

def save (s : Cpu) : SavedCpu :=
  { a := s.a, b := s.b, c := s.c, d := s.d, e := s.e, h := s.h, l := s.l, f := s.f
    sp := s.sp, pc := s.pc, iff := s.iff, halted := s.halted }

def ofSaved (st : SavedCpu) : Cpu :=
  { a := st.a, b := st.b, c := st.c, d := st.d, e := st.e, h := st.h, l := st.l
    f := Flags.normalize st.f, sp := st.sp, pc := st.pc, iff := st.iff, halted := st.halted }

end Cpu

def SavedCpu.toBytes (st : SavedCpu) : List UInt8 :=
  [st.a, st.b, st.c, st.d, st.e, st.h, st.l, st.f,
    Word.lo st.pc, Word.hi st.pc, Word.lo st.sp, Word.hi st.sp]

end Sim8080
