import Mathlib.Data.List.Infix
import SmartForm.Catalog.Basic
import SmartForm.Proofs.Text.Lowercase

/-!
# Values that stand in a text as they are

A search compares texts after putting both of them in lower case, each on its own
(`SmartForm.Catalog.fits`). A value that stands in the text letter for letter should be
found, then, in whatever case the letters are.

The one thing to know is that it is found wherever its capital sigmas get the same form
in the text as they get in the value alone (`SmartForm.Catalog.KeepsSigmas`), and that
this is the only obstacle (`SmartForm.Catalog.hits_verbatim`): a comparison with the start
or with the end of the text succeeds in that case only, and a value without a capital
sigma, or one that is the whole text, is always found.

The obstacle is real. At the end of a word a capital sigma becomes the final form of the
letter, and a value that stops within a word of the text ends a word of its own
(`SmartForm.Catalog.contains_misses_verbatim`).
-/

namespace SmartForm

/-- Where a value may stand in a text, as it is, for a comparison to be about it: with
`before` before it and `after` after it. -/
def Wildcard.Admits (before after : List Char) : Wildcard → Prop
  | .startsWith => before = []
  | .endsWith => after = []
  | .exact => before = [] ∧ after = []
  | .contains => True
  | .auto => True

namespace Catalog

/-- **The capital sigmas of a value get the form in a text** that they get in the value
alone, where `before` and `after` are what the text has before and after the value. -/
def KeepsSigmas (before value after : List Char) : Prop :=
  Text.SigmasAgree before.reverse after [] [] value

variable {before value after : List Char}

theorem keepsSigmas_iff :
    KeepsSigmas before value after
      ↔ Text.lowerBetween before.reverse after value = Text.lowerChars value := by
  rw [KeepsSigmas, ← Text.lowerBetween_eq_iff, Text.lowerBetween_nil, Text.lowerChars]

theorem occursIn_iff {part cs : List Char} : occursIn part cs ↔ part <:+: cs := by
  induction cs with
  | nil => rw [occursIn, List.isEmpty_iff, List.infix_nil]
  | cons c cs ih =>
    rw [occursIn, Bool.or_eq_true, List.isPrefixOf_iff_prefix, ih, List.infix_cons_iff]

theorem length_lowerBetween_eq (before after value : List Char) :
    (Text.lowerBetween before after value).length = (Text.lowerChars value).length := by
  rw [Text.length_lowerBetween before after [] [], Text.lowerBetween_nil, Text.lowerChars]

/-! ### One comparison -/

section Comparison

variable {w : Wildcard} {text value : String} {before after : List Char}

theorem fits_of_keepsSigmas (htext : text.toList = before ++ value.toList ++ after)
    (hplace : w.Admits before after) (hkeeps : KeepsSigmas before value.toList after) :
    fits w text value := by
  -- The lower case of the value stands in that of the text, at the same place.
  have hlower := Text.lowerChars_append_append before value.toList after
  rw [keepsSigmas_iff.mp hkeeps, ← htext] at hlower
  cases w with
  | startsWith =>
    obtain rfl : before = [] := hplace
    exact List.isPrefixOf_iff_prefix.mpr ⟨_, hlower.symm⟩
  | endsWith =>
    obtain rfl : after = [] := hplace
    rw [Text.lowerFrom, List.append_nil] at hlower
    exact List.isSuffixOf_iff_suffix.mpr ⟨_, hlower.symm⟩
  | exact =>
    obtain ⟨rfl, rfl⟩ : before = [] ∧ after = [] := hplace
    rw [Text.lowerFrom, List.append_nil] at hlower
    exact beq_iff_eq.mpr hlower
  | contains => exact occursIn_iff.mpr ⟨_, _, hlower.symm⟩
  | auto => exact occursIn_iff.mpr ⟨_, _, hlower.symm⟩

theorem keepsSigmas_of_startsWith (htext : text.toList = value.toList ++ after)
    (hfits : fits .startsWith text value) : KeepsSigmas [] value.toList after := by
  have hlower := Text.lowerChars_append_append [] value.toList after
  rw [List.nil_append, ← htext] at hlower
  -- Two starts of one text that have the same length are the same.
  have hvalue : Text.lowerChars value.toList <+: Text.lowerChars text.toList :=
    List.isPrefixOf_iff_prefix.mp hfits
  have hpart : Text.lowerBetween [] after value.toList <+: Text.lowerChars text.toList :=
    ⟨_, hlower.symm⟩
  have hlength := length_lowerBetween_eq [] after value.toList
  exact keepsSigmas_iff.mpr
    ((List.prefix_of_prefix_length_le hpart hvalue hlength.le).eq_of_length hlength)

theorem keepsSigmas_of_endsWith (htext : text.toList = before ++ value.toList)
    (hfits : fits .endsWith text value) : KeepsSigmas before value.toList [] := by
  have hlower := Text.lowerChars_append_append before value.toList []
  rw [List.append_nil, ← htext, Text.lowerFrom, List.append_nil] at hlower
  have hvalue : Text.lowerChars value.toList <:+ Text.lowerChars text.toList :=
    List.isSuffixOf_iff_suffix.mp hfits
  have hpart : Text.lowerBetween before.reverse [] value.toList <:+ Text.lowerChars text.toList :=
    ⟨_, hlower.symm⟩
  have hlength := length_lowerBetween_eq before.reverse [] value.toList
  exact keepsSigmas_iff.mpr
    ((List.suffix_of_suffix_length_le hpart hvalue hlength.le).eq_of_length hlength)

end Comparison

/-! ### A filter on a record -/

theorem hits_iff_fits {f : Filter} {record : Json} {text : String}
    (htext : (record.member? f.parameter).bind Json.scalarText? = some text) :
    hits f record = fits f.wildcard text f.value := by
  rw [hits, htext]

/-- **A value that stands in the text as it is gets found wherever the text keeps its
sigmas.** For a comparison with the start or with the end of the text, that is needed too. A
value without a capital sigma is found in any case, and so is a value that is the whole
text. -/
theorem hits_verbatim {f : Filter} {record : Json} {text : String} {before after : List Char}
    (htext : (record.member? f.parameter).bind Json.scalarText? = some text)
    (hvalue : text.toList = before ++ f.value.toList ++ after)
    (hplace : f.wildcard.Admits before after) :
    (KeepsSigmas before f.value.toList after → hits f record)
      ∧ (f.wildcard = .startsWith ∨ f.wildcard = .endsWith →
          hits f record → KeepsSigmas before f.value.toList after)
      ∧ (Text.capitalSigma ∉ f.value.toList → hits f record)
      ∧ (before = [] → after = [] → hits f record) := by
  have hfound : KeepsSigmas before f.value.toList after → hits f record := fun hkeeps => by
    rw [hits_iff_fits htext]
    exact fits_of_keepsSigmas hvalue hplace hkeeps
  refine ⟨hfound, ?needed, fun hsigma => hfound (Text.sigmasAgree_of_not_mem hsigma), ?whole⟩
  case needed =>
    rintro (hw | hw) hhits <;> rw [hits_iff_fits htext, hw] at hhits <;> rw [hw] at hplace
    · obtain rfl : before = [] := hplace
      exact keepsSigmas_of_startsWith hvalue hhits
    · obtain rfl : after = [] := hplace
      exact keepsSigmas_of_endsWith (by rwa [List.append_nil] at hvalue) hhits
  case whole =>
    rintro rfl rfl
    exact hfound fun _ _ _ => rfl

theorem hits_verbatim_tyres :
    let f : Filter := ⟨"name", "N", .and, .endsWith, "Tyres"⟩
    let record : Json := .object [("name", .string "Apollo Tyres")]
    (record.member? f.parameter).bind Json.scalarText? = some "Apollo Tyres"
      ∧ "Apollo Tyres".toList = "Apollo ".toList ++ f.value.toList ++ []
      ∧ f.wildcard.Admits "Apollo ".toList [] ∧ hits f record := by
  intro f record
  have htext : (record.member? f.parameter).bind Json.scalarText? = some "Apollo Tyres" := rfl
  have hvalue : "Apollo Tyres".toList = "Apollo ".toList ++ f.value.toList ++ [] := by decide
  have hplace : f.wildcard.Admits "Apollo ".toList [] := rfl
  exact ⟨htext, hvalue, hplace, (hits_verbatim htext hvalue hplace).2.2.1 (by decide)⟩

/-- **A value that the text contains as it is, and that a search misses**: the sigma ends the
value but stands within a word of the text. -/
theorem contains_misses_verbatim :
    let f : Filter := ⟨"name", "N", .and, .contains, "ΑΣ"⟩
    let record : Json := .object [("name", .string "ΑΣΗΜΙ")]
    (record.member? f.parameter).bind Json.scalarText? = some "ΑΣΗΜΙ"
      ∧ f.value.toList <:+: "ΑΣΗΜΙ".toList ∧ f.value ≠ "" ∧ hits f record = false := by
  intro f record
  have hmember : (record.member? f.parameter).bind Json.scalarText? = some "ΑΣΗΜΙ" := rfl
  refine ⟨hmember, ⟨[], ['Η', 'Μ', 'Ι'], by decide⟩, by decide, ?_⟩
  have halpha := Text.facesCased_greek (c := 'Α') (by decide) (by decide) []
  have heta := Text.facesCased_greek (c := 'Η') (by decide) (by decide) ['Μ', 'Ι']
  have hvalue : Text.lowerChars "ΑΣ".toList = ['α', 'ς'] := by
    change Text.lowerFrom [] ['Α', Text.capitalSigma] = _
    rw [Text.lowerFrom_of_ne (by decide), Text.lowerFrom_sigma, Text.sigmaBetween_nil halpha]
    rfl
  have htext : Text.lowerChars "ΑΣΗΜΙ".toList = ['α', 'σ', 'η', 'μ', 'ι'] := by
    change Text.lowerFrom [] ['Α', Text.capitalSigma, 'Η', 'Μ', 'Ι'] = _
    rw [Text.lowerFrom_of_ne (by decide), Text.lowerFrom_sigma,
      Text.sigmaBetween_letters halpha heta]
    rfl
  rw [hits_iff_fits hmember, fits, hvalue, htext]
  rfl

end Catalog

end SmartForm
