import Sim8080.Validation.File
import Sim8080.Script.Settings
import Sim8080.Script.Probe

namespace Sim8080

def CaseState.toJson (st : CaseState) : Json :=
  .mkObj [("pc", .ofNat st.pc.toNat), ("sp", .ofNat st.sp.toNat), ("a", .ofNat st.a.toNat),
    ("b", .ofNat st.b.toNat), ("c", .ofNat st.c.toNat), ("d", .ofNat st.d.toNat),
    ("e", .ofNat st.e.toNat), ("h", .ofNat st.h.toNat), ("l", .ofNat st.l.toNat),
    ("f", .ofNat st.f.toNat), ("iff", .bool st.iff),
    ("ram", .arr (st.ram.map fun (a, v) => Json.arr #[.ofNat a.toNat, .ofNat v.toNat]).toArray)]

namespace TestCase

def script (input : Json) : Json :=
  let files := Files.ofScript (input.listD "files")
  let preload := (input.listD "preload").filterMap fun p => match p with
    | .arr #[a, bs] => some (((Json.asNat? a).getD 0).toUInt16, (Json.asBytes? bs).getD [])
    | _ => none
  match load files (input.stringD "file" "") with
  | .error e => .failure "Io" e.message
  | .ok cases =>
    .mkObj [("cases", .arr (cases.map fun tc =>
      let o := tc.run preload
      Json.mkObj [("name", .str tc.name), ("t_states", .ofNat o.tStates),
        ("final", o.final.toJson), ("cycles", .arr (o.cycles.map BusCycle.toJson).toArray),
        ("pass", .bool o.pass)]).toArray)]

end TestCase

end Sim8080
