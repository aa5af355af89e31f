import Mathlib
import Sim8080.Proofs.OptionsCodec
import Sim8080.Proofs.MachineSettings

namespace Sim8080

namespace Options

variable {codec : Codec} {F : (k : Key) → FieldCodec k.Value}

theorem known_overlay (o : Options) {u : List (String × Json)} (hu : (u.map Prod.fst).Nodup) :
    Known (Json.overlayList (membersBy F o) u).toList ↔ Known u := by
  constructor
  · intro h kv hkv
    -- The overlay has a member with the key of every member of the update.
    obtain ⟨v, hv⟩ : ∃ v, (Json.overlayList (membersBy F o) u).toList.lookup kv.1 = some v := by
      rw [Json.lookup_overlayList _ hu]
      obtain ⟨w, hw⟩ := Option.isSome_iff_exists.mp
        (List.lookup_isSome_iff.mpr ⟨kv, hkv, beq_self_eq_true kv.1⟩)
      exact ⟨w, by rw [hw]; rfl⟩
    obtain ⟨l₁, l₂, hl, -⟩ := List.lookup_eq_some_iff.mp hv
    exact h (kv.1, v) (by rw [hl]; simp)
  · intro h kv hkv
    rcases Json.mem_overlayList hkv with hm | hm
    · rw [membersBy, List.toList_toArray] at hm
      exact known_keys _ kv hm
    · exact h kv hm

theorem known_overlayList {base : Array (String × Json)} {u : List (String × Json)}
    (hb : Known base.toList) (hu : Known u) : Known (Json.overlayList base u).toList :=
  fun kv hkv => (Json.mem_overlayList hkv).elim (hb kv) (hu kv)

variable (F) in
def ReadsBackOutside (o : Options) (u : List (String × Json)) : Prop :=
  ∀ k : Key, u.lookup k.name = none → (F k).read ((F k).write (k.get o)) = .ok (k.get o)

section Overlay

variable {o next : Options} {u : List (String × Json)} (hu : (u.map Prod.fst).Nodup)
include hu

theorem takes_overlay (hcodec : codec.Lawful F) {k : Key}
    (h : Takes F (Json.overlayList (membersBy F o) u).toList {} next k) : Takes F u o next k := by
  simp only [Takes, Json.lookup_overlayList _ hu, lookup_membersBy] at h ⊢
  rcases hl : u.lookup k.name with _ | v
  · -- A key the update lacks keeps the value the options' own member holds.
    simp only [hl, Option.none_or] at h
    exact hcodec.faithful k _ _ h
  · simpa only [hl, Option.some_or] using h

theorem takes_overlay_of {k : Key}
    (hback : u.lookup k.name = none → (F k).read ((F k).write (k.get o)) = .ok (k.get o))
    (h : Takes F u o next k) : Takes F (Json.overlayList (membersBy F o) u).toList {} next k := by
  simp only [Takes, Json.lookup_overlayList _ hu, lookup_membersBy] at h ⊢
  rcases hl : u.lookup k.name with _ | v
  · simp only [hl] at h
    simp only [Option.none_or, hback hl, h]
  · simpa only [hl, Option.some_or] using h

end Overlay

section Value

variable (hcodec : codec.Lawful F) {o next : Options} {u : Array (String × Json)} (hu : Json.Sorted u)
include hcodec hu

-- Reading the options' own members with sorted members laid over them reads those members over
-- the options.
theorem ofValue_overlay_iff (hback : ReadsBackOutside F o u.toList) :
    codec.ofValue (.obj (Json.overlay (membersBy F o) u)) = .ok next ↔ Known u.toList ∧ Overlays F u.toList o next := by
  rw [Json.overlay_eq, hcodec.ofValue _ (Json.sorted_overlayList (sorted_membersBy F o) _), known_overlay o hu.nodup]
  exact and_congr_right fun _ => forall_congr' fun k =>
    ⟨takes_overlay hu.nodup hcodec, takes_overlay_of hu.nodup (hback k)⟩

theorem ofValue_overlay_ok (h : codec.ofValue (.obj (Json.overlay (membersBy F o) u)) = .ok next) :
    Known u.toList ∧ Overlays F u.toList o next := by
  rw [Json.overlay_eq, hcodec.ofValue _ (Json.sorted_overlayList (sorted_membersBy F o) _), known_overlay o hu.nodup] at h
  exact ⟨h.1, fun k => takes_overlay hu.nodup hcodec (h.2 k)⟩

end Value

section MergeValue

variable (hcodec : codec.Lawful F) {o next : Options} {u : Array (String × Json)}
include hcodec

theorem mergeValue_of_ofValue_ok (h : codec.ofValue (.obj (Json.overlay (membersBy F o) u)) = .ok next) :
    o.mergeValue codec (.obj u) = (do next.validate; pure next : Except OptionsError Options) := by
  unfold mergeValue
  rw [hcodec.toValue o]
  dsimp only
  rw [← Json.overlay, h]

theorem mergeValue_of_ofValue_error {m : String}
    (h : codec.ofValue (.obj (Json.overlay (membersBy F o) u)) = .error m) :
    o.mergeValue codec (.obj u) = .error (.json m) := by
  unfold mergeValue
  rw [hcodec.toValue o]
  dsimp only
  rw [← Json.overlay, h]
  rfl

end MergeValue

theorem bind_pure_eq_ok {x : Except OptionsError Unit} {a b : Options} :
    (do x; pure a : Except OptionsError Options) = .ok b ↔ x = .ok () ∧ a = b := by
  rcases x with e | ⟨⟩
  · exact ⟨fun h => (by cases h), fun h => (by cases h.1)⟩
  · exact ⟨fun h => ⟨rfl, Except.ok.inj h⟩, fun h => by rw [h.2]; rfl⟩

theorem Overlays.idem {u : List (String × Json)} {o next : Options} (h : Overlays F u o next) :
    Overlays F u next next := fun k => by
  have hk := h k
  unfold Takes at hk ⊢
  rcases hl : u.lookup k.name with _ | v
  · rfl
  · simpa only [hl] using hk

theorem Overlays.overlay {u₁ u₂ : Array (String × Json)} (hu₂ : (u₂.toList.map Prod.fst).Nodup)
    {o o₁ o₂ : Options} (h₁ : Overlays F u₁.toList o o₁) (h₂ : Overlays F u₂.toList o₁ o₂) :
    Overlays F (Json.overlay u₁ u₂).toList o o₂ := fun k => by
  have t₁ := h₁ k
  have t₂ := h₂ k
  unfold Takes at t₁ t₂ ⊢
  rw [Json.overlay_eq, Json.lookup_overlayList _ hu₂]
  rcases hl₂ : u₂.toList.lookup k.name with _ | v₂
  · -- A key `u₂` lacks keeps what `u₁` left in it.
    simp only [hl₂] at t₂
    rcases hl₁ : u₁.toList.lookup k.name with _ | v₁
    · simp only [hl₁] at t₁
      simp only [Option.none_or]
      exact t₂.trans t₁
    · simp only [hl₁] at t₁
      simp only [Option.none_or, t₂]
      exact t₁
  · simpa only [hl₂, Option.some_or] using t₂

theorem ReadsBackOutside.overlays {u : List (String × Json)} {o next : Options}
    (hback : ReadsBackOutside F o u) (h : Overlays F u o next) : ReadsBackOutside F next u := fun k hl => by
  have hk := h k
  simp only [Takes, hl] at hk
  rw [hk]
  exact hback k hl

theorem isrFreq_finite_of_validate {o : Options} (hv : o.validate = .ok ()) : o.isrFreq.isFinite = true := by
  unfold validate at hv
  split at hv
  · cases hv
  split at hv
  · cases hv
  rename_i hfreq
  simp only [Bool.or_eq_true, Bool.not_eq_eq_eq_not, Bool.not_true, decide_eq_true_eq, not_or] at hfreq
  simpa using hfreq.1

theorem fits_of_ne_isrFreq {o : Options} (hc : Key.clockResolution.Fits o.clockResolution) {k : Key}
    (hk : k ≠ .isrFreq) : k.Fits (k.get o) := by
  cases k
  case clockResolution => exact hc
  case isrFreq => exact absurd rfl hk
  all_goals trivial

theorem fits_of_validate {o : Options} (hv : o.validate = .ok ())
    (hc : Key.clockResolution.Fits o.clockResolution) (k : Key) : k.Fits (k.get o) := by
  by_cases hk : k = .isrFreq
  · subst hk
    exact isrFreq_finite_of_validate hv
  · exact fits_of_ne_isrFreq hc hk

theorem readsBackOutside_of_fits (hcodec : codec.Lawful F) {o : Options} (h : ∀ k : Key, k.Fits (k.get o))
    (u : List (String × Json)) : ReadsBackOutside F o u :=
  fun k _ => hcodec.readsBack k _ (h k)

section MergeValue

variable (hcodec : codec.Lawful F) {o next : Options} {u : Array (String × Json)} (hu : Json.Sorted u)
include hcodec hu

theorem mergeValue_ok (h : o.mergeValue codec (.obj u) = .ok next) :
    Known u.toList ∧ Overlays F u.toList o next ∧ next.validate = .ok () := by
  rcases hd : codec.ofValue (.obj (Json.overlay (membersBy F o) u)) with m | next'
  · rw [mergeValue_of_ofValue_error hcodec hd] at h
    cases h
  · rw [mergeValue_of_ofValue_ok hcodec hd] at h
    obtain ⟨hv, rfl⟩ := bind_pure_eq_ok.mp h
    obtain ⟨hk, hov⟩ := ofValue_overlay_ok hcodec hu hd
    exact ⟨hk, hov, hv⟩

theorem mergeValue_eq (hback : ReadsBackOutside F o u.toList) (hk : Known u.toList)
    (hov : Overlays F u.toList o next) :
    o.mergeValue codec (.obj u) = (do next.validate; pure next : Except OptionsError Options) :=
  mergeValue_of_ofValue_ok hcodec ((ofValue_overlay_iff hcodec hu hback).mpr ⟨hk, hov⟩)

theorem mergeValue_of (hback : ReadsBackOutside F o u.toList) (hk : Known u.toList)
    (hov : Overlays F u.toList o next) (hv : next.validate = .ok ()) :
    o.mergeValue codec (.obj u) = .ok next := by
  rw [mergeValue_eq hcodec hu hback hk hov]
  exact bind_pure_eq_ok.mpr ⟨hv, rfl⟩

theorem mergeValue_error (h : ∀ next, ¬ Overlays F u.toList o next) :
    ∃ m, o.mergeValue codec (.obj u) = .error (.json m) := by
  rcases hd : codec.ofValue (.obj (Json.overlay (membersBy F o) u)) with m | next'
  · exact ⟨m, mergeValue_of_ofValue_error hcodec hd⟩
  · exact absurd (ofValue_overlay_ok hcodec hu hd).2 (h next')

end MergeValue

theorem mergeValue_notObject (codec : Codec) (o : Options) {v : Json} (hv : ∀ u, v ≠ .obj u) :
    o.mergeValue codec v = .error .notAnObject := by
  unfold mergeValue
  cases v with
  | obj u => exact absurd rfl (hv u)
  | _ => rfl

theorem merge_of_parse {parse : String → Except String Json} {o : Options} {files : Files}
    {text t : String} {v : Json} (ht : source files text = .ok t) (hp : parse t = .ok v) :
    o.merge parse codec files text = o.mergeValue codec v := by
  unfold merge
  rw [ht]
  dsimp only [bind, Except.bind]
  rw [hp]

section Merge

variable {parse : String → Except String Json} (hparse : ∀ t ms, parse t = .ok (.obj ms) → Json.Sorted ms)
  (hcodec : codec.Lawful F) {o next : Options} {files : Files} {text : String}
include hparse hcodec

theorem merge_ok (h : o.merge parse codec files text = .ok next) :
    ∃ t u, source files text = .ok t ∧ parse t = .ok (.obj u) ∧
      Known u.toList ∧ Overlays F u.toList o next ∧ next.validate = .ok () := by
  obtain ⟨t, ht, h⟩ := Except.exists_of_bind_eq_ok h
  split at h
  · rename_i v hp
    cases v with
    | obj u => exact ⟨t, u, ht, hp, mergeValue_ok hcodec (hparse t u hp) h⟩
    | _ =>
      rw [mergeValue_notObject codec o (by simp)] at h
      cases h
  · cases h

theorem merge_of {t : String} {u : Array (String × Json)} (ht : source files text = .ok t)
    (hp : parse t = .ok (.obj u)) (hback : ReadsBackOutside F o u.toList) (hk : Known u.toList)
    (hov : Overlays F u.toList o next) (hv : next.validate = .ok ()) :
    o.merge parse codec files text = .ok next := by
  rw [merge_of_parse ht hp]
  exact mergeValue_of hcodec (hparse t u hp) hback hk hov hv

end Merge

end Options

namespace Machine

variable {σ : Type}

theorem setOptions_of_merge_error {m : Machine σ} {files : Files} {t : String} {e : OptionsError}
    (h : m.context.options.merge m.context.lib.parse m.context.lib.options files t = .error e) :
    ((setOptions files (some t)).run m).2 = m := by
  unfold setOptions
  rw [run_idle_bind]
  rcases hi : m.idle with e' | ctx
  · rfl
  · rw [idle_eq_ok hi]
    simp only [h]
    rfl

end Machine

namespace Options

variable {codec : Codec} {F : (k : Key) → FieldCodec k.Value}

-- Merging JSON objects into valid options, field by field, for a JSON library that reads objects
-- with their keys sorted and a codec that keeps the contract.
theorem merge_laws {parse : String → Except String Json}
    (hparse : ∀ t ms, parse t = .ok (.obj ms) → Json.Sorted ms) (hcodec : codec.Lawful F)
    {o : Options} (hv : o.validate = .ok ()) (hc : Key.clockResolution.Fits o.clockResolution)
    (files : Files) :
    (∀ text next, o.merge parse codec files text = .ok next ↔
      ∃ t u, source files text = .ok t ∧ parse t = .ok (.obj u) ∧ Known u.toList ∧
        Overlays F u.toList o next ∧ next.validate = .ok ()) ∧
    (∀ (u₁ u₂ : Array (String × Json)) (o₁ o₂ : Options), Json.Sorted u₁ → Json.Sorted u₂ →
      o.mergeValue codec (.obj u₁) = .ok o₁ → o₁.mergeValue codec (.obj u₂) = .ok o₂ →
      o.mergeValue codec (.obj (Json.overlay u₁ u₂)) = .ok o₂) ∧
    (∀ text next, o.merge parse codec files text = .ok next → next.merge parse codec files text = .ok next) ∧
    ∀ {σ : Type} (m : Machine σ) text e, m.context.options = o → m.context.lib.parse = parse →
      m.context.lib.options = codec → o.merge parse codec files text = .error e →
      ((Machine.setOptions files (some text)).run m).2 = m := by
  have hback := readsBackOutside_of_fits hcodec (fits_of_validate hv hc)
  refine ⟨fun text next => ⟨merge_ok hparse hcodec, ?_⟩, fun u₁ u₂ o₁ o₂ hs₁ hs₂ h₁ h₂ => ?_,
    fun text next h => ?_, fun m text e hm hp hl h => ?_⟩
  · rintro ⟨t, u, ht, hp, hk, hov, hnext⟩
    exact merge_of hparse hcodec ht hp (hback _) hk hov hnext
  · -- Both merges lay their members over the options; the overlay lays them over in one go.
    obtain ⟨hk₁, hov₁, -⟩ := mergeValue_ok hcodec hs₁ h₁
    obtain ⟨hk₂, hov₂, hv₂⟩ := mergeValue_ok hcodec hs₂ h₂
    have hs : Json.Sorted (Json.overlay u₁ u₂) := by
      rw [Json.overlay_eq]
      exact Json.sorted_overlayList hs₁ _
    have hk : Known (Json.overlay u₁ u₂).toList := by
      rw [Json.overlay_eq]
      exact known_overlayList hk₁ hk₂
    exact mergeValue_of hcodec hs (hback _) hk (hov₁.overlay hs₂.nodup hov₂) hv₂
  · obtain ⟨t, u, ht, hp, hk, hov, hnext⟩ := merge_ok hparse hcodec h
    exact merge_of hparse hcodec ht hp ((hback _).overlays hov) hk hov.idem hnext
  · subst hm hp hl
    exact Machine.setOptions_of_merge_error h

def runAsyncParse (_ : String) : Except String Json := .ok (.obj #[("runAsync", .bool true)])

theorem default_merge_idempotent :
    (∀ t ms, runAsyncParse t = .ok (.obj ms) → Json.Sorted ms) ∧ jsonCodec.Lawful jsonFields ∧
      ({} : Options).validate = .ok () ∧ Key.clockResolution.Fits ({} : Options).clockResolution ∧
      ∀ text next, ({} : Options).merge runAsyncParse jsonCodec {} text = .ok next →
        next.merge runAsyncParse jsonCodec {} text = .ok next :=
  have hparse : ∀ t ms, runAsyncParse t = .ok (.obj ms) → Json.Sorted ms := fun _ _ h => by
    cases h
    exact List.pairwise_singleton _ _
  ⟨hparse, jsonCodec_lawful, validate_default, ⟨by decide, by decide⟩,
    (merge_laws hparse jsonCodec_lawful validate_default ⟨by decide, by decide⟩ {}).2.2.1⟩

end Options

end Sim8080
