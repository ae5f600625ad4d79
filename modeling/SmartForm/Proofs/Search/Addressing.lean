import SmartForm.Proofs.Search.Query
import SmartForm.Proofs.Settings.Problems

/-!
# Fields that a query can address

A word `CODE:value` of a query is meant for the field with that code. In settings without
problems the code of every field is its own, so that no field is hidden by another one. What
the settings are not asked is whether the code can be spelt out in a word: a code with a blank
in it is torn apart, one with a colon ends at the colon, and of one that starts with the mark
of negation the mark is taken off.

So the fields that are addressed by their codes are those whose code is plain
(`SmartForm.Query.addressed_iff`). The one thing to know is that two doors stand open to the
others. A field whose code starts with the mark is addressed by a word that has the mark twice,
which then stands before its value; and the first field is the field of all words without a
code. A field with a blank or a colon in its code that is not the first one is out of
reach.
-/

namespace SmartForm

/-! ### Codes up to case -/

theorem SearchField.HasPlainCode.of_equalIgnoringCase {f g : SearchField} (h : f.HasPlainCode)
    (hcode : Text.equalIgnoringCase f.code g.code) : g.HasPlainCode where
  ne_nil := fun hnil => h.ne_nil ((Text.eq_nil_iff_of_equalIgnoringCase hcode).mpr hnil)
  not_blank := by
    intro d hd
    obtain ⟨c, hc, hcd⟩ := Text.exists_mem_of_equalIgnoringCase hcode hd
    exact Text.isBlank_of_toLower_eq hcd (h.not_blank c hc)
  not_colon := by
    rintro d hd rfl
    obtain ⟨c, hc, hcd⟩ := Text.exists_mem_of_equalIgnoringCase hcode hd
    exact h.not_colon c hc (Text.eq_of_toLower_eq hcd (by decide))
  not_mark := fun hhead => h.not_mark (Text.head?_of_equalIgnoringCase hcode (by decide) hhead)

/-- A code that can be a part of a word: it has neither a blank nor a colon in it. -/
def SearchField.HasOneWordCode (f : SearchField) : Prop :=
  ∀ c ∈ f.code.toList, Text.isBlank c = false ∧ c ≠ ':'

theorem SearchField.hasOneWordCode_iff (f : SearchField) :
    f.code.toList.all (fun c => !Text.isBlank c && c != ':') = true ↔ f.HasOneWordCode := by
  simp only [List.all_eq_true, Bool.and_eq_true, Bool.not_eq_true', bne_iff_ne]
  exact Iff.rfl

instance (f : SearchField) : Decidable f.HasOneWordCode :=
  decidable_of_iff _ f.hasOneWordCode_iff

namespace Query

variable {source : SearchSource} {field : SearchField} {f : Filter}

/-! ### Where a filter comes from -/

/-- **Where a filter of a query comes from**: its field is the first one, or has a code that is
a part of a word, up to case. A word without a code is what the filter is written as, and a mark
of negation at the start of the code stands before the written value as well. -/
theorem exists_field_of_mem_parse {query : String} (h : f ∈ parse query source) :
    ∃ field ∈ source.fields, f.code = field.code ∧
      (source.fields.head? = some field ∧ (Address.ofToken (written f)).code = none ∨
        ∃ code : List Char, Text.equalIgnoringCase (String.ofList code) f.code ∧
          (∀ c ∈ code, Text.isBlank c = false ∧ c ≠ ':') ∧
          (code.head? = some '!' → (written f).head? = some '!')) := by
  rw [parse_eq] at h
  obtain ⟨token, htoken, hparse⟩ := List.mem_filterMap.mp h
  have hword := Text.isWord_of_mem_wordChars htoken
  obtain ⟨field, value, haddresses, hmakes⟩ := (parseToken_iff hword).mp hparse
  have hblank := haddresses.not_blank hword
  obtain ⟨-, hcode, hwritten, -⟩ := filter?_eq_some hblank (filter?_of_makes hblank hmakes)
  refine ⟨field, haddresses.mem_fields, hcode, ?_⟩
  have hequal : ∀ code : List Char, source.fieldByCode? (String.ofList code) = some field →
      Text.equalIgnoringCase (String.ofList code) f.code := fun code hfound => by
    rw [hcode]
    exact Text.equalIgnoringCase_symm (List.find?_eq_some_iff_append.mp hfound).1
  cases haddresses with
  | bare hbare hfirst => exact Or.inl ⟨hfirst, by rw [hwritten, ofToken_bare hbare]⟩
  | @code code _ _ hne hcolon hmark hfound =>
    refine Or.inr ⟨code, hequal code hfound, fun c hc => ⟨hword.not_blank c ?_, hcolon c hc⟩,
      fun hhead => absurd hhead hmark⟩
    exact List.mem_append_left _ hc
  | @mark code _ _ hcolon hfound =>
    refine Or.inr ⟨code, hequal code hfound, fun c hc => ⟨hword.not_blank c ?_, hcolon c hc⟩,
      fun _ => by rw [hwritten, List.head?_cons]⟩
    exact List.mem_append_left _ (List.mem_cons_of_mem _ hc)

theorem hasOneWordCode_of_equalIgnoringCase {code : List Char}
    (h : Text.equalIgnoringCase (String.ofList code) field.code)
    (hcode : ∀ c ∈ code, Text.isBlank c = false ∧ c ≠ ':') : field.HasOneWordCode := by
  intro d hd
  obtain ⟨c, hc, hcd⟩ := Text.exists_mem_of_equalIgnoringCase h hd
  rw [String.toList_ofList] at hc
  obtain ⟨hblank, hcolon⟩ := hcode c hc
  refine ⟨Text.isBlank_of_toLower_eq hcd hblank, ?_⟩
  rintro rfl
  exact hcolon (Text.eq_of_toLower_eq hcd (by decide))

/-! ### What a code and a value give -/

/-- The filter of a field for records that hold the value. -/
def plainFilter (field : SearchField) (value : String) : Filter :=
  ⟨field.parameter, field.code, .and, field.wildcard.getD .contains, value⟩

theorem written_plainFilter (field : SearchField) (value : String) :
    written (plainFilter field value) = value.toList := rfl

/-- A text that can stand behind a code: a word without a mark of negation in front. -/
structure IsPlainValue (value : String) : Prop where
  /-- It is one word. -/
  word : Text.IsWord value.toList
  /-- It starts with no mark of negation. -/
  not_mark : value.toList.head? ≠ some '!'

instance (value : String) : Decidable (IsPlainValue value) :=
  decidable_of_iff (Text.IsWord value.toList ∧ value.toList.head? ≠ some '!')
    ⟨fun h => ⟨h.1, h.2⟩, fun h => ⟨h.word, h.not_mark⟩⟩

/-- **A plain code with a value is one filter.** -/
theorem parse_code {code value : String} (hcode : field.HasPlainCode)
    (hequal : Text.equalIgnoringCase field.code code)
    (hfound : source.fieldByCode? code = some field) (hvalue : IsPlainValue value) :
    parse (code ++ ":" ++ value) source = [plainFilter field value] := by
  obtain ⟨spelt, rfl⟩ : ∃ g : SearchField, g.code = code := ⟨{ field with code }, rfl⟩
  have hspelt : spelt.HasPlainCode := hcode.of_equalIgnoringCase hequal
  have htoken : (spelt.code ++ ":" ++ value).toList =
      spelt.code.toList ++ ':' :: value.toList := by simp
  have hword : Text.IsWord (spelt.code ++ ":" ++ value).toList := by
    rw [htoken]
    exact isWord_code_value hspelt.not_blank hvalue.word.not_blank
  have hfield : field? source ⟨some spelt.code.toList, value.toList⟩ = some field := by
    rw [field?]
    simp only [String.ofList_toList]
    exact hfound
  have hfilter : filter? field value.toList = some (plainFilter field value) := by
    rw [filter?_plain (Or.inr hvalue.not_mark) hvalue.word.not_blank,
      if_neg (by simpa using hvalue.word.ne_nil), String.ofList_toList]
    rfl
  rw [parse_singleton hword, htoken, parseToken, ofToken_code hspelt, hfield, Option.bind_some,
    hfilter, Option.toList_some]

/-- **A plain code is needed**: if what a query says with the code of a field is a filter of
the field, then the code is plain. -/
theorem hasPlainCode_of_parse (hne : field.code.toList ≠ [])
    (h : ∀ value, IsPlainValue value →
      parse (field.code ++ ":" ++ value) source = [plainFilter field value]) :
    field.HasPlainCode := by
  -- A value with a colon in it cannot have come from a word without a code.
  have hvalue : IsPlainValue "x:" := by decide
  have hmem : plainFilter field "x:" ∈ parse (field.code ++ ":" ++ "x:") source := by
    rw [h "x:" hvalue]
    exact List.mem_singleton_self _
  have hwritten : written (plainFilter field "x:") = ['x', ':'] :=
    (written_plainFilter field "x:").trans (by decide)
  obtain ⟨-, -, -, ⟨-, hnone⟩ | ⟨code, hequal, hpart, hmark⟩⟩ := exists_field_of_mem_parse hmem
  · rw [hwritten] at hnone
    cases hnone
  · have hword : field.HasOneWordCode := hasOneWordCode_of_equalIgnoringCase hequal hpart
    refine ⟨hne, fun c hc => (hword c hc).1, fun c hc => (hword c hc).2, fun hhead => ?_⟩
    have hcodeHead := Text.head?_of_equalIgnoringCase hequal (by decide) hhead
    rw [String.toList_ofList] at hcodeHead
    have hvalueHead := hmark hcodeHead
    rw [hwritten, List.head?_cons] at hvalueHead
    cases hvalueHead

/-! ### What can be reached -/

/-- A code that is a part of a word is reached with a mark in front of it, even if there is a
mark in the code. -/
theorem exists_mem_parse_of_code (hcode : field.HasOneWordCode)
    (hfound : source.fieldByCode? field.code = some field) :
    ∃ query, ∃ f ∈ parse query source, f.code = field.code := by
  have htoken : ("!" ++ field.code ++ ":x").toList =
      '!' :: field.code.toList ++ ':' :: ['x'] := by simp
  have hword : Text.IsWord ("!" ++ field.code ++ ":x").toList := by
    rw [htoken]
    refine isWord_code_value (List.forall_mem_cons.mpr ⟨rfl, fun c hc => (hcode c hc).1⟩) ?_
    exact List.forall_mem_singleton.mpr rfl
  have hfield : field? source ⟨some field.code.toList, ['!', 'x']⟩ = some field := by
    rw [field?]
    simp only [String.ofList_toList]
    exact hfound
  have hblank : ∀ c ∈ ['!', 'x'], Text.isBlank c = false :=
    List.forall_mem_cons.mpr ⟨rfl, List.forall_mem_singleton.mpr rfl⟩
  obtain ⟨f, hmakes⟩ : ∃ f, Makes field ['!', 'x'] f :=
    exists_makes (List.cons_ne_nil _ _) fun h => absurd h.2 (by decide)
  have hf : filter? field ['!', 'x'] = some f := filter?_of_makes hblank hmakes
  refine ⟨"!" ++ field.code ++ ":x", f, ?_, (filter?_eq_some hblank hf).2.1⟩
  rw [parse_singleton hword, htoken, parseToken, ofToken_mark fun c hc => (hcode c hc).2, hfield,
    Option.bind_some, hf]
  exact List.mem_singleton_self f

/-- The first field is reached without its code. -/
theorem exists_mem_parse_of_head? (hfirst : source.fields.head? = some field) :
    ∃ query, ∃ f ∈ parse query source, f.code = field.code := by
  have hfilter : filter? field ['x'] = some (plainFilter field "x") :=
    filter?_plain (Or.inr (by decide)) (List.forall_mem_singleton.mpr rfl)
  refine ⟨"x", plainFilter field "x", ?_, rfl⟩
  have hword : Text.IsWord "x".toList := by decide
  rw [parse_singleton hword]
  have htoken : parseToken source ['x'] = some (plainFilter field "x") := by
    rw [parseToken, show Address.ofToken ['x'] = ⟨none, ['x']⟩ from rfl, field?]
    simp only [hfirst, Option.bind_some, hfilter]
  exact htoken ▸ List.mem_singleton_self _

/-- **Which fields a query can address.** In settings without problems a field is found by its
code in any case and hidden by no other field. A query says what it is to say with the code if
and only if the code is plain; and there is a query that reaches the field if and only if the
code can be a part of a word, or the field is the first one. -/
theorem addressed_iff {s : Settings} (hs : s.problems = []) (hsource : source ∈ s.sources)
    (hfield : field ∈ source.fields) :
    (∀ code, Text.equalIgnoringCase field.code code → source.fieldByCode? code = some field) ∧
      ((∀ code value, Text.equalIgnoringCase field.code code → IsPlainValue value →
          parse (code ++ ":" ++ value) source = [plainFilter field value]) ↔
        field.HasPlainCode) ∧
      ((∃ query, ∃ f ∈ parse query source, f.code = field.code) ↔
        field.HasOneWordCode ∨ source.fields.head? = some field) := by
  have hfound : ∀ code, Text.equalIgnoringCase field.code code →
      source.fieldByCode? code = some field := fun code hcode =>
    Settings.fieldByCode?_of_mem hs hsource hfield hcode
  have hown := hfound field.code (Text.equalIgnoringCase_refl _)
  refine ⟨hfound, ⟨fun h => ?_, fun h code value hcode hvalue => ?_⟩, ⟨?_, ?_⟩⟩
  · refine hasPlainCode_of_parse (fun hnil => ?_) fun value =>
      h field.code value (Text.equalIgnoringCase_refl _)
    have hblank := Settings.isAllBlank_code hs hsource hfield
    rw [Text.isAllBlank, hnil] at hblank
    cases hblank
  · exact parse_code h hcode (hfound code hcode) hvalue
  · rintro ⟨query, f, hf, hcode⟩
    obtain ⟨found, hmem, hfoundCode, hreach⟩ := exists_field_of_mem_parse hf
    have hsame : found = field := by
      have hfind := Settings.fieldByCode?_of_mem hs hsource hmem (Text.equalIgnoringCase_refl _)
      rw [← hfoundCode, hcode, hown] at hfind
      exact (Option.some.inj hfind).symm
    rw [hcode, hsame] at hreach
    rcases hreach with ⟨hfirst, -⟩ | ⟨code, hequal, hpart, -⟩
    · exact Or.inr hfirst
    · exact Or.inl (hasOneWordCode_of_equalIgnoringCase hequal hpart)
  · rintro (hword | hfirst)
    · exact exists_mem_parse_of_code hword hown
    · exact exists_mem_parse_of_head? hfirst

/-- A field with a plain code. -/
def nameField : SearchField := { code := "Name", parameter := "name" }

/-- A field with a colon in its code. -/
def colonField : SearchField := { code := "a:b", parameter := "age" }

/-- A source with both. -/
def colonSource : SearchSource where
  key := "people"
  endpoint := "people"
  fields := [nameField, colonField]

/-- Settings with this source. -/
def colonSettings : Settings where
  sources := [colonSource]

/-- Nothing is wrong with the settings. The first field is found by its code in any case, and
the second is out of reach. -/
theorem addressed_iff_colon :
    colonSettings.problems = [] ∧
      parse ("nAME" ++ ":" ++ "Ada") colonSource = [plainFilter nameField "Ada"] ∧
      ¬ ∃ query, ∃ f ∈ parse query colonSource, f.code = "a:b" := by
  have hs : colonSettings.problems = [] := by decide
  have hsource : colonSource ∈ colonSettings.sources := List.mem_singleton_self _
  have hname : nameField ∈ colonSource.fields := List.mem_cons_self
  have hcolon : colonField ∈ colonSource.fields := List.mem_cons_of_mem _ List.mem_cons_self
  have hada : IsPlainValue "Ada" := by decide
  refine ⟨hs, ?_, fun hreach => ?_⟩
  · exact (addressed_iff hs hsource hname).2.1.mpr (by decide) "nAME" "Ada" (by decide) hada
  · have hneither : ¬ (colonField.HasOneWordCode ∨ colonSource.fields.head? = some colonField) :=
      by decide
    exact hneither ((addressed_iff hs hsource hcolon).2.2.mp hreach)

/-- **Settings without problems may have a field that its code does not address.** -/
theorem colon_code_not_addressed :
    colonSettings.problems = [] ∧ colonSource ∈ colonSettings.sources ∧
      colonField ∈ colonSource.fields ∧ IsPlainValue "x" ∧
      parse (colonField.code ++ ":" ++ "x") colonSource ≠ [plainFilter colonField "x"] :=
  ⟨by decide, List.mem_singleton_self _, List.mem_cons_of_mem _ List.mem_cons_self,
    by decide, by decide⟩

end Query

end SmartForm
