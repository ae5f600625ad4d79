import SmartForm.Proofs.Search.Grammar

/-!
# Filters are words again

A query is turned into filters, and a filter is written as a word. Writing the filters of a
query and reading the result as a query gives the same filters
(`SmartForm.Query.parse_tokens`).

The one thing to know is what a written word says about its field. The code in it is that of
the field, whatever the query had in its place, and the first field with this code is the
field itself: a field that a word has found stands in front of all others with an equal code
(`SmartForm.SearchSource.fieldByCode?_code`). The value in it is the value with the mark of
negation that the filter has used up (`SmartForm.Query.filter?_written`), and a plain code
keeps the two apart.
-/

namespace SmartForm

/-- A code that a query can spell out: it is not empty, has neither a blank nor a colon in
it, and does not start with the mark of negation. -/
structure SearchField.HasPlainCode (f : SearchField) : Prop where
  /-- There is a character in it. -/
  ne_nil : f.code.toList ≠ []
  /-- It is one word. -/
  not_blank : ∀ c ∈ f.code.toList, Text.isBlank c = false
  /-- It ends at the first colon. -/
  not_colon : ∀ c ∈ f.code.toList, c ≠ ':'
  /-- It starts with no mark of negation. -/
  not_mark : f.code.toList.head? ≠ some '!'

theorem SearchField.hasPlainCode_iff (f : SearchField) :
    (f.code.toList ≠ [] ∧ f.code.toList.all (fun c => !Text.isBlank c && c != ':') = true ∧
      f.code.toList.head? ≠ some '!') ↔ f.HasPlainCode := by
  simp only [List.all_eq_true, Bool.and_eq_true, Bool.not_eq_true', bne_iff_ne]
  constructor
  · rintro ⟨hne, hall, hmark⟩
    exact ⟨hne, fun c hc => (hall c hc).1, fun c hc => (hall c hc).2, hmark⟩
  · rintro ⟨hne, hblank, hcolon, hmark⟩
    exact ⟨hne, fun c hc => ⟨hblank c hc, hcolon c hc⟩, hmark⟩

instance (f : SearchField) : Decidable f.HasPlainCode := decidable_of_iff _ f.hasPlainCode_iff

namespace Query

variable {source : SearchSource} {field : SearchField} {f : Filter}

/-! ### Values -/

/-- The value of a filter with the mark of negation in front, if it is negated. -/
def written (f : Filter) : List Char :=
  if f.condition.isNegated then '!' :: f.value.toList else f.value.toList

/-- **What a filter keeps of its field and its value**: the name and the code of the field,
and a value that gives the filter again. -/
theorem filter?_eq_some {value : List Char} (hblank : ∀ c ∈ value, Text.isBlank c = false)
    (h : filter? field value = some f) :
    f.parameter = field.parameter ∧ f.code = field.code ∧ written f = value ∧
      f.value.toList ≠ [] := by
  cases (makes_iff hblank).mpr h with
  | negated hnot hne =>
    exact ⟨rfl, rfl, by simp [written, Condition.isNegated], by simpa using hne⟩
  | plain hplain hne =>
    exact ⟨rfl, rfl, by simp [written, Condition.isNegated], by simpa using hne⟩

theorem filter?_written {value : List Char} (hblank : ∀ c ∈ value, Text.isBlank c = false)
    (h : filter? field value = some f) : filter? field (written f) = some f := by
  rw [(filter?_eq_some hblank h).2.2.1, h]

/-! ### Addresses -/

/-- A plain code, a colon and a value address the field with the code. -/
theorem ofToken_code (hcode : field.HasPlainCode) (value : List Char) :
    Address.ofToken (field.code.toList ++ ':' :: value) = ⟨some field.code.toList, value⟩ :=
  ofToken_unmarked hcode.ne_nil hcode.not_colon hcode.not_mark value

theorem toList_token (f : Filter) :
    f.token.toList =
      (if f.condition.isNegated then ['!'] else []) ++ f.code.toList ++ ':' :: f.value.toList := by
  cases h : f.condition.isNegated <;> simp [Filter.token, h]

/-- **A written filter addresses its field**, with the value as it was before the mark of
negation was used up. -/
theorem ofToken_token (hcode : field.HasPlainCode) (hf : f.code = field.code) :
    Address.ofToken f.token.toList = ⟨some field.code.toList, written f⟩ := by
  rw [toList_token, hf, written]
  cases f.condition.isNegated with
  | true => exact ofToken_mark hcode.not_colon _
  | false => exact ofToken_code hcode _

/-! ### Words -/

theorem isWord_token {token : List Char} (hcode : field.HasPlainCode) (hf : f.code = field.code)
    (hwritten : written f = (Address.ofToken token).value) (htoken : Text.IsWord token) :
    Text.IsWord f.token.toList := by
  have hvalue : ∀ c ∈ f.value.toList, Text.isBlank c = false := by
    intro c hc
    have hmem : c ∈ written f := by
      rw [written]
      split
      · exact List.mem_cons_of_mem _ hc
      · exact hc
    exact not_blank_value_ofToken htoken c (hwritten ▸ hmem)
  rw [toList_token, hf]
  refine isWord_code_value (fun c hc => ?_) hvalue
  rcases List.mem_append.mp hc with hc | hc
  · split at hc
    · obtain rfl := List.mem_singleton.mp hc
      rfl
    · cases hc
  · exact hcode.not_blank c hc

/-- **The filter of a word is a word, and its own filter.** -/
theorem parseToken_token (hcodes : ∀ g ∈ source.fields, g.HasPlainCode) {token : List Char}
    (htoken : Text.IsWord token) (h : parseToken source token = some f) :
    Text.IsWord f.token.toList ∧ parseToken source f.token.toList = some f := by
  obtain ⟨field, hfield, hfilter⟩ := Option.bind_eq_some_iff.mp h
  obtain ⟨hmem, hown⟩ := field?_eq_some hfield
  have hblank := not_blank_value_ofToken htoken
  obtain ⟨-, hcode, hwritten, -⟩ := filter?_eq_some hblank hfilter
  have hplain := hcodes field hmem
  refine ⟨isWord_token hplain hcode hwritten htoken, ?_⟩
  have hfield' : field? source ⟨some field.code.toList, written f⟩ = some field := by
    rw [field?]
    simp only [String.ofList_toList, hown]
  rw [parseToken, ofToken_token hplain hcode, hfield', Option.bind_some]
  exact filter?_written hblank hfilter

/-- **Filters that are written as a query are read from it again.** The codes of the source
are plain; two of them may be equal, and the fields need not allow negation. -/
theorem parse_tokens (source : SearchSource) (hcodes : ∀ g ∈ source.fields, g.HasPlainCode)
    (query : String) :
    parse (" ".intercalate ((parse query source).map Filter.token)) source =
      parse query source := by
  have hread : ∀ f ∈ parse query source,
      Text.IsWord f.token.toList ∧ parseToken source f.token.toList = some f := by
    intro f hf
    rw [parse_eq] at hf
    obtain ⟨token, htoken, hparse⟩ := List.mem_filterMap.mp hf
    exact parseToken_token hcodes (Text.isWord_of_mem_wordChars htoken) hparse
  have hwords : Text.wordChars (" ".intercalate ((parse query source).map Filter.token)).toList =
      ((parse query source).map Filter.token).map String.toList := by
    rw [String.toList_intercalate]
    refine Text.wordChars_intercalate fun w hw => ?_
    rw [List.map_map] at hw
    obtain ⟨f, hf, rfl⟩ := List.mem_map.mp hw
    exact (hread f hf).1
  rw [parse_eq, hwords, List.map_map, List.filterMap_map]
  calc (parse query source).filterMap (parseToken source ∘ String.toList ∘ Filter.token)
      = (parse query source).filterMap some :=
        List.filterMap_congr fun f hf => (hread f hf).2
    _ = parse query source := List.filterMap_some

/-- Fields of which two have one code up to case and the first allows negation. -/
def doubledSource : SearchSource where
  key := "people"
  endpoint := "people"
  fields :=
    [{ code := "X", parameter := "name", wildcard := some .startsWith, allowNot := true },
     { code := "x", parameter := "nickname" }, { code := "Y", parameter := "city" }]

/-- Codes in the wrong case, words without a code, values with a mark or a colon in front, and
a mark that the field does not allow. -/
theorem parse_tokens_doubled :
    (parse "x:1 !Y:z :a !b !!c Y:!d q:e" doubledSource).map Filter.token =
        ["X:1", "Y:!z", "X::a", "!X:b", "!X:!c", "Y:!d"] ∧
      parse "X:1 Y:!z X::a !X:b !X:!c Y:!d" doubledSource =
        parse "x:1 !Y:z :a !b !!c Y:!d q:e" doubledSource := by
  have htokens : (parse "x:1 !Y:z :a !b !!c Y:!d q:e" doubledSource).map Filter.token =
      ["X:1", "Y:!z", "X::a", "!X:b", "!X:!c", "Y:!d"] := by decide
  have hread := parse_tokens doubledSource (by decide) "x:1 !Y:z :a !b !!c Y:!d q:e"
  rw [htokens] at hread
  exact ⟨htokens, hread⟩

end Query

end SmartForm
