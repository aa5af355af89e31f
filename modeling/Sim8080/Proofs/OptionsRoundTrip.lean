import Mathlib
import Sim8080.Proofs.OptionsMerge
import Sim8080.Json.Read

namespace Sim8080.Options

variable {codec : Codec} {F : (k : Key) → FieldCodec k.Value}

variable (F) in
def membersWith (o : Options) (w : Json) : Array (String × Json) :=
  (Key.sorted.map fun k => (k.name, if k = .isrFreq then w else (F k).write (k.get o))).toArray

theorem sorted_membersWith (o : Options) (w : Json) : Json.Sorted (membersWith F o w) := by
  rw [Json.Sorted, membersWith, List.toList_toArray, List.pairwise_map]
  exact Key.sorted_pairwise_name

theorem lookup_membersWith (o : Options) (w : Json) (k : Key) :
    (membersWith F o w).toList.lookup k.name = some (if k = .isrFreq then w else (F k).write (k.get o)) := by
  cases k <;> rfl

theorem known_membersWith (o : Options) (w : Json) : Known (membersWith F o w).toList := by
  rw [membersWith, List.toList_toArray]
  exact known_keys _

theorem overlays_membersWith (hcodec : codec.Lawful F) {o : Options}
    (hc : Key.clockResolution.Fits o.clockResolution) {w : Json} {y : Float}
    (hy : (F .isrFreq).read w = .ok y) (base : Options) :
    Overlays F (membersWith F o w).toList base { o with isrFreq := y } := by
  intro k
  unfold Takes
  rw [lookup_membersWith]
  by_cases hk : k = .isrFreq
  · subst hk
    exact hy
  · have hget : k.get { o with isrFreq := y } = k.get o := by
      cases k
      case isrFreq => exact absurd rfl hk
      all_goals rfl
    rw [if_neg hk, hget]
    exact hcodec.readsBack k _ (fits_of_ne_isrFreq hc hk)

theorem not_overlays_membersWith {o : Options} {w : Json} {m : String} (hm : (F .isrFreq).read w = .error m)
    (base next : Options) : ¬ Overlays F (membersWith F o w).toList base next := fun h => by
  have hk := h .isrFreq
  simp only [Takes, lookup_membersWith, if_pos, hm] at hk
  cases hk

theorem source_of_not_file (files : Files) {text : String} (h : text.startsWith "file://" = false) :
    source files text = .ok text := by
  unfold source
  rw [h]
  rfl

section Written

variable (hcodec : codec.Lawful F) {parse : String → Except String Json} {o : Options} {w : Json}
  (hread : parse (codec.toText o) = .ok (.obj (membersWith F o w)))
  (hfile : (codec.toText o).startsWith "file://" = false) (files : Files)
include hcodec hread hfile

theorem ofText_of_read_ok (hc : Key.clockResolution.Fits o.clockResolution) {y : Float}
    (hy : (F .isrFreq).read w = .ok y) :
    ofText parse codec files (codec.toText o) =
      (do validate { o with isrFreq := y }; pure { o with isrFreq := y }) := by
  have hfits : ∀ k : Key, k.Fits (k.get {}) := fits_of_validate validate_default ⟨by decide, by decide⟩
  rw [ofText, merge_of_parse (source_of_not_file files hfile) hread]
  exact mergeValue_eq hcodec (sorted_membersWith o w) (readsBackOutside_of_fits hcodec hfits _)
    (known_membersWith o w) (overlays_membersWith hcodec hc hy {})

theorem ofText_of_read_error {m : String} (hm : (F .isrFreq).read w = .error m) :
    ∃ m', ofText parse codec files (codec.toText o) = .error (.json m') := by
  rw [ofText, merge_of_parse (source_of_not_file files hfile) hread]
  exact mergeValue_error hcodec (sorted_membersWith o w) (not_overlays_membersWith hm {})

end Written

-- Options written as text and read back, for a JSON library that reads every member back as it
-- was written but the poll frequency's, which it reads as `w`: they come back validated, with
-- the frequency `w` reads as, or with a JSON error when `w` reads as no double.
theorem ofText_toText_validates (hcodec : codec.Lawful F) {parse : String → Except String Json} {o : Options}
    (hc : Key.clockResolution.Fits o.clockResolution) {w : Json}
    (hread : parse (codec.toText o) = .ok (.obj (membersWith F o w)))
    (hfile : (codec.toText o).startsWith "file://" = false) (files : Files) :
    (∀ y, (F .isrFreq).read w = .ok y →
      ofText parse codec files (codec.toText o) =
        (do validate { o with isrFreq := y }; pure { o with isrFreq := y })) ∧
    (∀ m, (F .isrFreq).read w = .error m →
      ∃ m', ofText parse codec files (codec.toText o) = .error (.json m')) :=
  ⟨fun _ hy => ofText_of_read_ok hcodec hread hfile files hc hy,
    fun _ hm => ofText_of_read_error hcodec hread hfile files hm⟩

theorem jsonCodec_toText_not_file (o : Options) : (jsonCodec.toText o).startsWith "file://" = false := by
  show (Json.compact (.obj _)).startsWith "file://" = false
  rw [Json.compact, String.startsWith_string_eq_false_iff]
  simp

def exactParse (o : Options) (_ : String) : Except String Json :=
  .ok (.obj (membersWith jsonFields o ((jsonFields .isrFreq).write o.isrFreq)))

-- A poll frequency that is not a number is refused by validation, but written, as `null`, and
-- read back it gives a JSON error.
theorem nan_frequency_read_back :
    jsonCodec.Lawful jsonFields ∧ Key.clockResolution.Fits ({ isrFreq := 0.0 / 0.0 } : Options).clockResolution ∧
      exactParse { isrFreq := 0.0 / 0.0 } (jsonCodec.toText { isrFreq := 0.0 / 0.0 }) =
        .ok (.obj (membersWith jsonFields { isrFreq := 0.0 / 0.0 } .null)) ∧
      (jsonCodec.toText { isrFreq := 0.0 / 0.0 }).startsWith "file://" = false ∧
      (jsonFields .isrFreq).read .null = .error "invalid type: null, expected f64" ∧
      ({ isrFreq := 0.0 / 0.0 } : Options).validate = .error (.isrFreq (0.0 / 0.0)) ∧
      ∃ m, ofText (exactParse { isrFreq := 0.0 / 0.0 }) jsonCodec {} (jsonCodec.toText { isrFreq := 0.0 / 0.0 }) =
        .error (.json m) :=
  have hread : exactParse { isrFreq := 0.0 / 0.0 } (jsonCodec.toText { isrFreq := 0.0 / 0.0 }) =
      .ok (.obj (membersWith jsonFields { isrFreq := 0.0 / 0.0 } .null)) := rfl
  ⟨jsonCodec_lawful, ⟨by decide, by decide⟩, hread, jsonCodec_toText_not_file _, rfl, rfl,
    (ofText_toText_validates jsonCodec_lawful ⟨by decide, by decide⟩ hread (jsonCodec_toText_not_file _) {}).2 _ rfl⟩

def roundedFrequency : Float := (Json.floatOfParts true 9761333853495379 (-3)).getD 0

def roundingParse (_ : String) : Except String Json :=
  .ok (.obj (membersWith jsonFields { isrFreq := 9761333853495.379 } (.num (.float roundedFrequency))))

-- Valid options whose poll frequency does not come back from its shortest digits: written and
-- read back, they are other options.
theorem rounded_frequency_read_back :
    ({ isrFreq := 9761333853495.379 } : Options).validate = .ok () ∧
      ofText roundingParse jsonCodec {} (jsonCodec.toText { isrFreq := 9761333853495.379 }) =
        .ok { isrFreq := roundedFrequency } ∧
      roundedFrequency.toBits ≠ (9761333853495.379 : Float).toBits := by
  refine ⟨rfl, ?_, by decide⟩
  rw [ofText_of_read_ok jsonCodec_lawful (rfl : roundingParse _ = _) (jsonCodec_toText_not_file _) {}
    ⟨by decide, by decide⟩ (rfl : (jsonFields .isrFreq).read (.num (.float roundedFrequency)) = .ok roundedFrequency)]
  rfl

end Sim8080.Options
