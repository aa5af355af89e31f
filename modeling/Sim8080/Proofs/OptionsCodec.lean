import Mathlib
import Sim8080.Proofs.OptionsFields
import Sim8080.Json.Derived

namespace Sim8080

namespace Json

theorem unsigned_ofNat {name : String} {max n : Nat} (h : n ≤ max) :
    unsigned name max (ofNat n) = .ok n := by
  simp [unsigned, ofNat, h]

theorem u16_ofNat (b : UInt16) : u16 (ofNat b.toNat) = .ok b := by
  rw [u16, unsigned_ofNat (by have := b.toNat_lt; omega)]
  simp [Except.map]

theorem u32_ofNat (b : UInt32) : u32 (ofNat b.toNat) = .ok b := by
  rw [u32, unsigned_ofNat (by have := b.toNat_lt; simp; omega)]
  simp [Except.map]

theorem mapM_map_ok {α : Type} (f : α → Json) (d : Decoder α) (h : ∀ a, d (f a) = .ok a) :
    ∀ l : List α, (l.map f).mapM d = .ok l
  | [] => rfl
  | a :: l => by
    rw [List.map_cons, List.mapM_cons, h, mapM_map_ok f d h l]
    rfl

theorem list_arr {α : Type} (f : α → Json) (d : Decoder α) (h : ∀ a, d (f a) = .ok a)
    (l : List α) : list d (.arr (l.map f).toArray) = .ok l := by
  rw [list, List.toList_toArray, mapM_map_ok f d h]

end Json

theorem Except.mapError_eq_ok {ε ε' α : Type} {f : ε → ε'} {x : Except ε α} {a : α} :
    x.mapError f = .ok a ↔ x = .ok a := by
  cases x <;> simp [Except.mapError]

theorem Compressor.decode_toJson (c : Compressor) : Compressor.decode c.toJson = .ok c := by
  cases c <;> rfl

theorem Region.decode_toJson (r : Region) : Region.decode r.toJson = .ok r := by
  simp [Region.decode, Region.toJson, Json.record, Json.u16_ofNat, Json.u32_ofNat, Except.map,
    bind, Except.bind, pure, Except.pure]

namespace Options

namespace Key

def decoder : (k : Key) → Json.Decoder k.Value
  | cpu => Json.string
  | clockResolution => Json.i64
  | isrFreq => Json.f64
  | runAsync => Json.boolean
  | exitAddress => Json.option Json.u16
  | compressor => Compressor.decode
  | rom => Json.list Region.decode

def write : (k : Key) → k.Value → Json
  | cpu, (s : String) => .str s
  | clockResolution, (n : Int) => .ofInt n
  | isrFreq, (x : Float) => Json.ofFloat x
  | runAsync, (b : Bool) => .bool b
  | exitAddress, (a : Option UInt16) => a.elim .null fun a => .ofNat a.toNat
  | compressor, (c : Compressor) => c.toJson
  | rom, (rs : List Region) => .arr (rs.map Region.toJson).toArray

def field (k : Key) : Json.Field Options :=
  { name := k.name, optional := true, store := fun v o => (k.decoder v).map (k.set o) }

theorem decode_eq : decode = Json.record "Options" (all.map field) true {} := rfl

theorem find?_field (s : String) :
    (all.map field).find? (·.name == s) = (ofName? s).map field := by
  rw [List.find?_map]
  rfl

theorem decoder_write (k : Key) (x : k.Value) (h : k.Fits x) : k.decoder (k.write x) = .ok x := by
  cases k with
  | cpu => rfl
  | clockResolution =>
    change Int at x
    obtain ⟨hlo, hhi⟩ := h
    simp only [decoder, write, Json.ofInt]
    split
    · rfl
    · simp only [Json.i64, show (x : Int).toNat < Nat.pow 2 63 by omega, ↓reduceIte]
      rw [Int.toNat_of_nonneg (by omega)]
      rfl
  | isrFreq =>
    have hx : (x : Float).isFinite = true := h
    simp only [decoder, write, Json.ofFloat, hx, ↓reduceIte, Json.f64]
    rfl
  | runAsync => rfl
  | exitAddress =>
    cases (x : Option UInt16) with
    | none => rfl
    | some a =>
      have ha := Json.u16_ofNat a
      simp only [Json.ofNat] at ha
      simp [decoder, write, Json.ofNat, Json.option, ha]
      rfl
  | compressor => exact Compressor.decode_toJson _
  | rom => exact Json.list_arr _ _ Region.decode_toJson _

-- A clock resolution past a signed 64-bit word and a poll frequency that is not finite do not
-- read back at all; every other value reads back as itself.
theorem decoder_write_eq {k : Key} {x y : k.Value} (h : k.decoder (k.write x) = .ok y) : y = x := by
  cases k with
  | clockResolution =>
    simp only [decoder, write, Json.ofInt] at h
    split at h
    · exact (Except.ok.inj h).symm
    · simp only [Json.i64] at h
      split at h
      · rw [← Except.ok.inj h]
        exact Int.toNat_of_nonneg (by omega)
      · cases h
  | isrFreq =>
    simp only [decoder, write, Json.ofFloat] at h
    split at h
    · exact (Except.ok.inj h).symm
    · cases h
  | cpu | runAsync => exact (Except.ok.inj h).symm
  | exitAddress => exact Except.ok.inj (h.symm.trans (decoder_write exitAddress x trivial))
  | compressor => exact Except.ok.inj (h.symm.trans (decoder_write compressor x trivial))
  | rom => exact Except.ok.inj (h.symm.trans (decoder_write rom x trivial))

end Key

def jsonFields (k : Key) : FieldCodec k.Value where
  write := k.write
  read v := (k.decoder v).mapError (·.message)

theorem toJson_eq (o : Options) : o.toJson = .obj (membersBy jsonFields o) := by
  -- the exit address is split so that both sides' matches on it reduce
  obtain ⟨cpu, cr, f, ra, _ | a, c, r⟩ := o <;>
  simp +decide only [toJson, Options.members, Json.mkObj, Json.insertMember, List.foldl_cons,
    List.foldl_nil, ↓reduceIte, List.append_nil, List.filter_toArray, List.push_toArray,
    List.append_toArray, List.filter_cons, List.filter_nil, List.nil_append, List.cons_append] <;>
  rfl

def readMember (o : Options) (kv : String × Json) : Except Json.DecodeError Options :=
  match Key.ofName? kv.1 with
  | some k => (k.decoder kv.2).map (k.set o)
  | none => .error (.unknownField kv.1 (Key.all.map Key.name))

theorem decode_obj (ms : Array (String × Json)) : decode (.obj ms) = ms.toList.foldlM readMember {} := by
  rw [Key.decode_eq, Json.record, ← Array.foldlM_toList]
  -- Every field may be missing, so the names seen along the way serve nothing.
  have hmissing : ∀ seen : List String,
      (Key.all.map Key.field).find? (fun f => !f.optional && !seen.contains f.name) = none := by
    intro seen
    simp [Key.all, Key.field]
  simp only [Key.find?_field, hmissing, if_true]
  generalize ({} : Options) = o
  generalize ([] : List String) = seen
  induction ms.toList generalizing o seen with
  | nil => rfl
  | cons kv l ih =>
    rw [List.foldlM_cons, List.foldlM_cons, readMember]
    rcases hk : Key.ofName? kv.1 with _ | k
    · simp [List.map_map]
      rfl
    · rcases hv : k.decoder kv.2 with e | x
      · simp [Key.field, hv]
        rfl
      · simp [Key.field, hv]
        exact ih _ _

section Takes

variable {ms : List (String × Json)} {o next : Options} {k : Key} {v : Json}

theorem takes_cons_self {x : k.Value} (hv : k.decoder v = .ok x) (hnone : ms.lookup k.name = none) :
    Takes jsonFields ((k.name, v) :: ms) o next k ↔ Takes jsonFields ms (k.set o x) next k := by
  simp only [Takes, List.lookup_cons, beq_self_eq_true, hnone, Key.get_set_self, jsonFields, hv]
  exact ⟨fun h => (Except.ok.inj h).symm, fun h => congrArg Except.ok h.symm⟩

theorem takes_cons_of_ne {k' : Key} (h : k' ≠ k) (x : k.Value) :
    Takes jsonFields ((k.name, v) :: ms) o next k' ↔ Takes jsonFields ms (k.set o x) next k' := by
  have hb : (k'.name == k.name) = false := beq_false_of_ne fun he => h (Key.name_inj he)
  simp only [Takes, List.lookup_cons, hb, Key.get_set_of_ne (Ne.symm h)]

end Takes

theorem foldlM_readMember {ms : List (String × Json)} (hms : (ms.map Prod.fst).Nodup) {o next : Options} :
    ms.foldlM readMember o = .ok next ↔ Known ms ∧ Overlays jsonFields ms o next := by
  induction ms generalizing o with
  | nil =>
    simp only [List.foldlM_nil, Known, List.not_mem_nil, false_imp_iff, implies_true, true_and, Overlays,
      Takes, List.lookup_nil]
    exact ⟨fun h k => by cases h; rfl, fun h => congrArg Except.ok (Key.ext fun k => (h k).symm)⟩
  | cons kv ms ih =>
    obtain ⟨s, v⟩ := kv
    rw [List.map_cons, List.nodup_cons] at hms
    rw [List.foldlM_cons, readMember]
    rcases hk : Key.ofName? s with _ | k
    · -- A key that names no field is refused.
      refine ⟨fun h => (by cases h), fun h => ?_⟩
      obtain ⟨k, hks⟩ := h.1 (s, v) List.mem_cons_self
      rw [show s = k.name from hks.symm, Key.ofName?_name] at hk
      cases hk
    obtain rfl := Key.name_of_ofName? hk
    dsimp only
    have hnone : ms.lookup k.name = none := by
      rw [← Option.not_isSome_iff_eq_none, List.lookup_isSome_iff]
      rintro ⟨p, hp, hkp⟩
      exact hms.1 (List.mem_map.mpr ⟨p, hp, (beq_iff_eq.mp hkp).symm⟩)
    have hknown : Known ((k.name, v) :: ms) ↔ Known ms :=
      ⟨fun h kv hkv => h kv (List.mem_cons_of_mem _ hkv),
        fun h kv hkv => (List.mem_cons.mp hkv).elim (fun he => ⟨k, by rw [he]⟩) (h kv)⟩
    rcases hv : k.decoder v with e | x
    · -- A value its field cannot read is refused.
      refine ⟨fun h => (by cases h), fun h => ?_⟩
      have := h.2 k
      simp only [Takes, List.lookup_cons, beq_self_eq_true, jsonFields, hv] at this
      cases this
    · rw [show (Except.map (k.set o) (.ok x) >>= fun o' => ms.foldlM readMember o') =
          ms.foldlM readMember (k.set o x) from rfl, ih hms.2, hknown]
      refine and_congr_right fun _ => forall_congr' fun k' => ?_
      by_cases hkk : k' = k
      · subst hkk
        exact (takes_cons_self hv hnone).symm
      · exact (takes_cons_of_ne hkk x).symm

theorem jsonCodec_lawful : jsonCodec.Lawful jsonFields where
  toValue := toJson_eq
  ofValue ms hs next := by
    show (decode (.obj ms)).mapError (·.message) = .ok next ↔ _
    rw [Except.mapError_eq_ok, decode_obj, foldlM_readMember hs.nodup]
  readsBack k x hx := Except.mapError_eq_ok.mpr (k.decoder_write x hx)
  faithful _ _ _ h := Key.decoder_write_eq (Except.mapError_eq_ok.mp h)

end Options

end Sim8080
