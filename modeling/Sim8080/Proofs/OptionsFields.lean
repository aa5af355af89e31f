import Mathlib
import Sim8080.Options

namespace Sim8080

namespace Json

def Sorted (ms : Array (String × Json)) : Prop := ms.toList.Pairwise (·.1 < ·.1)

theorem Sorted.nodup {ms : Array (String × Json)} (h : Sorted ms) : (ms.toList.map Prod.fst).Nodup := by
  rw [List.Nodup, List.pairwise_map]
  exact h.imp fun hlt => ne_of_lt hlt

theorem sorted_insertMember {acc : Array (String × Json)} (h : Sorted acc) (k : String) (v : Json) :
    Sorted (insertMember acc k v) := by
  unfold Sorted at h ⊢
  simp only [insertMember, Array.toList_append, Array.toList_push, Array.toList_filter,
    List.append_assoc, List.singleton_append]
  rw [List.pairwise_append]
  refine ⟨h.filter _, ?_, ?_⟩
  · rw [List.pairwise_cons]
    refine ⟨fun kv hkv => by simpa using (List.mem_filter.mp hkv).2, h.filter _⟩
  · intro a ha b hb
    have hak : a.1 < k := by simpa using (List.mem_filter.mp ha).2
    rcases List.mem_cons.mp hb with rfl | hb
    · exact hak
    · exact hak.trans (by simpa using (List.mem_filter.mp hb).2)

theorem lookup_filter (l : List (String × Json)) (p : String → Bool) (k : String) :
    (l.filter (fun kv => p kv.1)).lookup k = if p k then l.lookup k else none := by
  induction l with
  | nil => simp
  | cons kv l ih =>
    obtain ⟨k', v'⟩ := kv
    by_cases hk : k = k'
    · subst hk
      by_cases hp : p k <;> simp [hp, ih]
    · have hb : (k == k') = false := beq_false_of_ne hk
      by_cases hp : p k' <;> simp [hp, ih, hb, List.lookup_cons]

theorem lookup_insertMember (acc : Array (String × Json)) (k : String) (v : Json) (k' : String) :
    (insertMember acc k v).toList.lookup k' = if k' = k then some v else acc.toList.lookup k' := by
  simp only [insertMember, Array.toList_append, Array.toList_push, Array.toList_filter,
    List.append_assoc, List.singleton_append, List.lookup_append, List.lookup_cons]
  rw [lookup_filter acc.toList (fun s => decide (s < k)), lookup_filter acc.toList (fun s => decide (k < s))]
  -- The key falls below `k`, on it, or above it.
  rcases lt_trichotomy k' k with hlt | rfl | hgt
  · simp [hlt, ne_of_lt hlt, not_lt_of_gt hlt, beq_false_of_ne (ne_of_lt hlt)]
  · simp
  · simp [hgt, ne_of_gt hgt, not_lt_of_gt hgt, beq_false_of_ne (ne_of_gt hgt)]

theorem mem_insertMember {acc : Array (String × Json)} {k : String} {v : Json} {kv : String × Json}
    (h : kv ∈ (insertMember acc k v).toList) : kv ∈ acc.toList ∨ kv = (k, v) := by
  simp only [insertMember, Array.toList_append, Array.toList_push, Array.toList_filter,
    List.mem_append, List.mem_filter, List.mem_singleton] at h
  rcases h with (⟨h, -⟩ | h) | ⟨h, -⟩
  · exact .inl h
  · exact .inr h
  · exact .inl h

def overlay (base update : Array (String × Json)) : Array (String × Json) :=
  update.foldl (fun acc (k, v) => insertMember acc k v) base

def overlayList (base : Array (String × Json)) (update : List (String × Json)) : Array (String × Json) :=
  update.foldl (fun acc (k, v) => insertMember acc k v) base

theorem overlay_eq (base update : Array (String × Json)) : overlay base update = overlayList base update.toList := by
  rw [overlay, overlayList, Array.foldl_toList]

theorem sorted_overlayList {base : Array (String × Json)} (h : Sorted base) (update : List (String × Json)) :
    Sorted (overlayList base update) := by
  induction update generalizing base with
  | nil => exact h
  | cons kv l ih => exact ih (sorted_insertMember h kv.1 kv.2)

theorem lookup_overlayList (base : Array (String × Json)) {update : List (String × Json)}
    (hu : (update.map Prod.fst).Nodup) (k : String) :
    (overlayList base update).toList.lookup k = (update.lookup k).or (base.toList.lookup k) := by
  induction update generalizing base with
  | nil => simp [overlayList]
  | cons kv l ih =>
    obtain ⟨k', v'⟩ := kv
    rw [List.map_cons, List.nodup_cons] at hu
    rw [overlayList, List.foldl_cons, ← overlayList, ih _ hu.2, lookup_insertMember, List.lookup_cons]
    by_cases hk : k = k'
    · -- A key of the update appears in it once, so the rest of the update does not have it.
      subst hk
      have hnone : l.lookup k = none := by
        rw [← Option.not_isSome_iff_eq_none, List.lookup_isSome_iff]
        rintro ⟨p, hp, hkp⟩
        exact hu.1 (List.mem_map.mpr ⟨p, hp, (beq_iff_eq.mp hkp).symm⟩)
      simp [hnone]
    · simp [hk, beq_false_of_ne hk]

theorem mem_overlayList {base : Array (String × Json)} {update : List (String × Json)} {kv : String × Json}
    (h : kv ∈ (overlayList base update).toList) : kv ∈ base.toList ∨ kv ∈ update := by
  induction update generalizing base with
  | nil => exact .inl h
  | cons kv' l ih =>
    rcases ih h with h | h
    · rcases mem_insertMember h with h | rfl
      · exact .inl h
      · exact .inr List.mem_cons_self
    · exact .inr (List.mem_cons_of_mem _ h)

end Json

namespace Options

inductive Key where
  | cpu
  | clockResolution
  | isrFreq
  | runAsync
  | exitAddress
  | compressor
  | rom
  deriving DecidableEq

namespace Key

def name : Key → String
  | cpu => "cpu"
  | clockResolution => "clockResolution"
  | isrFreq => "isrFreq"
  | runAsync => "runAsync"
  | exitAddress => "exitAddress"
  | compressor => "compressor"
  | rom => "rom"

def Value : Key → Type
  | cpu => String
  | clockResolution => Int
  | isrFreq => Float
  | runAsync => Bool
  | exitAddress => Option UInt16
  | compressor => Compressor
  | rom => List Region

def get : (k : Key) → Options → k.Value
  | cpu, o => o.cpu
  | clockResolution, o => o.clockResolution
  | isrFreq, o => o.isrFreq
  | runAsync, o => o.runAsync
  | exitAddress, o => o.exitAddress
  | compressor, o => o.compressor
  | rom, o => o.rom

def set : (k : Key) → Options → k.Value → Options
  | cpu, o, x => { o with cpu := x }
  | clockResolution, o, x => { o with clockResolution := x }
  | isrFreq, o, x => { o with isrFreq := x }
  | runAsync, o, x => { o with runAsync := x }
  | exitAddress, o, x => { o with exitAddress := x }
  | compressor, o, x => { o with compressor := x }
  | rom, o, x => { o with rom := x }

def Fits : (k : Key) → k.Value → Prop
  | clockResolution, (x : Int) => -(Nat.pow 2 63 : Int) ≤ x ∧ x < (Nat.pow 2 63 : Int)
  | isrFreq, (x : Float) => x.isFinite = true
  | _, _ => True

def all : List Key := [cpu, clockResolution, isrFreq, runAsync, exitAddress, compressor, rom]

def ofName? (s : String) : Option Key := all.find? (·.name == s)

def sorted : List Key := [clockResolution, compressor, cpu, exitAddress, isrFreq, rom, runAsync]

theorem sorted_pairwise_name : sorted.Pairwise (·.name < ·.name) := by decide

@[simp] theorem get_set_self (k : Key) (o : Options) (x : k.Value) : k.get (k.set o x) = x := by
  cases k <;> rfl

theorem get_set_of_ne {k k' : Key} (h : k ≠ k') (o : Options) (x : k.Value) :
    k'.get (k.set o x) = k'.get o := by
  cases k <;> cases k' <;> simp only [ne_eq, not_true_eq_false] at h <;> rfl

theorem ext {a b : Options} (h : ∀ k : Key, k.get a = k.get b) : a = b := by
  cases a
  cases b
  congr
  exacts [h cpu, h clockResolution, h isrFreq, h runAsync, h exitAddress, h compressor, h rom]

theorem name_inj {k k' : Key} (h : k.name = k'.name) : k = k' := by
  cases k <;> cases k' <;> simp_all [name]

@[simp] theorem ofName?_name (k : Key) : ofName? k.name = some k := by
  cases k <;> rfl

theorem name_of_ofName? {s : String} {k : Key} (h : ofName? s = some k) : k.name = s := by
  simpa using List.find?_some h

end Key

structure FieldCodec (α : Type) where
  write : α → Json
  read : Json → Except String α

def membersBy (F : (k : Key) → FieldCodec k.Value) (o : Options) : Array (String × Json) :=
  (Key.sorted.map fun k => (k.name, (F k).write (k.get o))).toArray

section Fields

variable (F : (k : Key) → FieldCodec k.Value)

theorem sorted_membersBy (o : Options) : Json.Sorted (membersBy F o) := by
  rw [Json.Sorted, membersBy, List.toList_toArray, List.pairwise_map]
  exact Key.sorted_pairwise_name

theorem lookup_membersBy (o : Options) (k : Key) :
    (membersBy F o).toList.lookup k.name = some ((F k).write (k.get o)) := by
  cases k <;> rfl

def Takes (ms : List (String × Json)) (o next : Options) (k : Key) : Prop :=
  match ms.lookup k.name with
  | none => k.get next = k.get o
  | some v => (F k).read v = .ok (k.get next)

def Overlays (ms : List (String × Json)) (o next : Options) : Prop := ∀ k : Key, Takes F ms o next k

end Fields

def Known (ms : List (String × Json)) : Prop := ∀ kv ∈ ms, ∃ k : Key, k.name = kv.1

theorem known_keys (f : Key → Json) : Known (Key.sorted.map fun k => (k.name, f k)) := by
  intro kv hkv
  obtain ⟨k, -, rfl⟩ := List.mem_map.mp hkv
  exact ⟨k, rfl⟩

-- What the options' JSON form is, as serde derives it for a record whose fields all have
-- defaults and that refuses unknown fields: an object with one member per field, under its
-- name; an object is read field by field from the defaults, and only if each of its keys names
-- a field; each field's value reads back from what it is written as, where it fits; and what
-- does read back from it is that value.
structure Codec.Lawful (codec : Codec) (F : (k : Key) → FieldCodec k.Value) : Prop where
  toValue : ∀ o, codec.toValue o = .obj (membersBy F o)
  ofValue : ∀ ms, Json.Sorted ms → ∀ next,
    codec.ofValue (.obj ms) = .ok next ↔ Known ms.toList ∧ Overlays F ms.toList {} next
  readsBack : ∀ (k : Key) (x : k.Value), k.Fits x → (F k).read ((F k).write x) = .ok x
  faithful : ∀ (k : Key) (x y : k.Value), (F k).read ((F k).write x) = .ok y → y = x

end Options

end Sim8080
