import Mathlib.Data.List.Basic
import SmartForm.Proofs.Text.Words
import SmartForm.Settings.Problems

/-!
# Settings without problems

What is known of settings in which nothing is wrong. Every source has fields, every field has
a code that is not blank, and no two fields of a source have one code, the case of letters
being ignored (`SmartForm.Settings.pairwise_codes`). So a field is found by its code however
that is spelt (`SmartForm.Settings.fieldByCode?_of_mem`).
-/

namespace SmartForm

namespace Settings

variable {s : Settings}

theorem sourceProblems_eq_nil (hs : s.problems = []) {x : SearchSource} (hx : x ∈ s.sources) :
    ∃ i, sourceProblems (s.sources.map SearchSource.key) x i = [] := by
  have hsources := (List.append_eq_nil_iff.mp (List.append_eq_nil_iff.mp hs).1).2
  obtain ⟨i, hi⟩ := List.mem_iff_getElem?.mp hx
  have hmem : (x, i) ∈ s.sources.zipIdx := List.mem_zipIdx_iff_getElem?.mpr hi
  exact ⟨i, List.flatMap_eq_nil_iff.mp hsources (x, i) hmem⟩

/-- Every source has a field to be searched. -/
theorem fields_ne_nil (hs : s.problems = []) {x : SearchSource} (hx : x ∈ s.sources) :
    x.fields ≠ [] := by
  obtain ⟨i, hnil⟩ := sourceProblems_eq_nil hs hx
  intro hfields
  rw [sourceProblems, hfields] at hnil
  simp at hnil

/-! ### The codes of a source -/

theorem fieldProblems_eq_nil (hs : s.problems = []) {x : SearchSource} (hx : x ∈ s.sources)
    {f : SearchField} {j : Nat} (hf : x.fields[j]? = some f) : ∃ i, fieldProblems i x f j = [] := by
  obtain ⟨i, hnil⟩ := sourceProblems_eq_nil hs hx
  have hfields := (List.append_eq_nil_iff.mp hnil).2
  have hmem : (f, j) ∈ x.fields.zipIdx := List.mem_zipIdx_iff_getElem?.mpr hf
  exact ⟨i, List.flatMap_eq_nil_iff.mp hfields (f, j) hmem⟩

/-- What is known of the code of a field: there is something in it, and no field in front of
this one has the code. -/
theorem code_of_fieldProblems_eq_nil {i j : Nat} {x : SearchSource} {f : SearchField}
    (h : fieldProblems i x f j = []) :
    Text.isAllBlank f.code = false ∧ nearestBefore? (codeKeys x.fields) j (codeKey f) = none := by
  have hcode := (List.append_eq_nil_iff.mp h).1
  cases hblank : Text.isAllBlank f.code with
  | true =>
    rw [if_pos hblank] at hcode
    cases hcode
  | false =>
    rw [if_neg (by rw [hblank]; exact Bool.false_ne_true)] at hcode
    cases hnear : nearestBefore? (codeKeys x.fields) j (codeKey f) with
    | none => exact ⟨rfl, rfl⟩
    | some k =>
      rw [hnear] at hcode
      cases hcode

theorem isAllBlank_code (hs : s.problems = []) {x : SearchSource} (hx : x ∈ s.sources)
    {f : SearchField} (hf : f ∈ x.fields) : Text.isAllBlank f.code = false := by
  obtain ⟨j, hj⟩ := List.mem_iff_getElem?.mp hf
  obtain ⟨i, hnil⟩ := fieldProblems_eq_nil hs hx hj
  exact (code_of_fieldProblems_eq_nil hnil).1

theorem ne_of_nearestBefore?_eq_none {ks : List String} {j k : Nat} {key : String}
    (h : nearestBefore? ks j key = none) (hk : k < j) : ks[k]? ≠ some key := by
  have hall := List.find?_eq_none.mp h k (List.mem_reverse.mpr (List.mem_range.mpr hk))
  simpa using hall

/-- **No two fields of a source have one code**, the case of letters being ignored. -/
theorem pairwise_codes (hs : s.problems = []) {x : SearchSource} (hx : x ∈ s.sources) :
    x.fields.Pairwise fun f g => ¬ Text.equalIgnoringCase f.code g.code := by
  rw [List.pairwise_iff_getElem]
  intro k j hk hj hkj hequal
  obtain ⟨i, hnil⟩ := fieldProblems_eq_nil hs hx (List.getElem?_eq_getElem hj)
  have hnear := (code_of_fieldProblems_eq_nil hnil).2
  refine ne_of_nearestBefore?_eq_none hnear hkj ?_
  have hfront := isAllBlank_code hs hx (List.getElem_mem hk)
  rw [codeKeys, List.getElem?_map, List.getElem?_eq_getElem hk, Option.map_some,
    if_neg (by rw [hfront]; exact Bool.false_ne_true)]
  exact congrArg (fun cs => some (String.ofList cs)) (Text.map_toUpper_of_equalIgnoringCase hequal)

/-- **No field is hidden by another one**: it is found by its code in any case. -/
theorem fieldByCode?_of_mem (hs : s.problems = []) {x : SearchSource} (hx : x ∈ s.sources)
    {f : SearchField} (hf : f ∈ x.fields) {code : String}
    (hcode : Text.equalIgnoringCase f.code code) : x.fieldByCode? code = some f := by
  obtain ⟨before, after, hfields⟩ := List.append_of_mem hf
  have hpair := pairwise_codes hs hx
  rw [hfields] at hpair
  refine List.find?_eq_some_iff_append.mpr ⟨hcode, before, after, hfields, fun g hg => ?_⟩
  have hne := (List.pairwise_append.mp hpair).2.2 g hg f List.mem_cons_self
  rw [Bool.not_eq_true', ← Bool.not_eq_true]
  exact fun hg' => hne (Text.equalIgnoringCase_trans hg' (Text.equalIgnoringCase_symm hcode))

/-! ### Sources by their keys -/

theorem mem_of_source? {key : String} {x : SearchSource} (hx : s.source? key = some x) :
    x ∈ s.sources := List.mem_of_find?_eq_some hx

end Settings

end SmartForm
