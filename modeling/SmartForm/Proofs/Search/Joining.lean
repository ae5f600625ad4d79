import Mathlib.Data.List.Basic
import SmartForm.Proofs.Search.Grammar

/-!
# Queries put together

Two queries with blanks between them say what the two of them say, one after the other
(`SmartForm.Query.parse_append_blanks`). So a query can be put together from parts and cut up
again anywhere between its words: no word has a part in what another one says, and it does not
matter how many blanks there are and which ones (`SmartForm.Query.parse_joined`).

The one thing to know is that the words of a text are known before anything is made of them.
Everything that is said here of queries is said of words first
(`SmartForm.Text.wordChars_append_blanks`).
-/

namespace SmartForm

namespace Query

variable {source : SearchSource}

/-! ### Blanks around and between queries -/

/-- **Two queries with blanks between them** are read one after the other. -/
theorem parse_append_blanks {gap : String} (hne : gap ≠ "") (hgap : Text.isAllBlank gap)
    (front back : String) :
    parse (front ++ gap ++ back) source = parse front source ++ parse back source := by
  have hblank : ∀ c ∈ gap.toList, Text.isBlank c := List.all_eq_true.mp hgap
  rw [parse_eq, parse_eq, parse_eq, String.toList_append, String.toList_append,
    Text.wordChars_append_blanks (by simpa using hne) hblank, List.filterMap_append]

theorem parse_between_blanks {front back : String} (hfront : Text.isAllBlank front)
    (hback : Text.isAllBlank back) (query : String) :
    parse (front ++ query ++ back) source = parse query source := by
  rw [parse_eq, parse_eq, String.toList_append, String.toList_append,
    Text.wordChars_append_of_blanks (List.all_eq_true.mp hback),
    Text.wordChars_blanks_append (List.all_eq_true.mp hfront)]

theorem parse_trim (query : String) : parse (Text.trim query) source = parse query source := by
  rw [parse_eq, parse_eq, Text.trim, String.toList_ofList, Text.wordChars_trimChars]

/-! ### Words and parts -/

/-- The words of a query are read one by one. -/
theorem parse_eq_flatMap (query : String) :
    parse query source = (Text.words query).flatMap fun word => parse word source := by
  rw [parse_eq, Text.words, List.flatMap_map, List.filterMap_eq_flatMap_toList]
  refine List.flatMap_congr fun word hword => ?_
  have hisWord : Text.IsWord (String.ofList word).toList := by
    rw [String.toList_ofList]
    exact Text.isWord_of_mem_wordChars hword
  rw [parse_singleton hisWord, String.toList_ofList]

/-- Parts with blanks behind each are read one by one. -/
theorem parse_join {parts : List (String × String)}
    (hgaps : ∀ p ∈ parts, p.2 ≠ "" ∧ Text.isAllBlank p.2) :
    parse (String.join (parts.map fun p => p.1 ++ p.2)) source =
      parts.flatMap fun p => parse p.1 source := by
  induction parts with
  | nil => rfl
  | cons p parts ih =>
    obtain ⟨⟨hne, hblank⟩, hrest⟩ := List.forall_mem_cons.mp hgaps
    rw [List.map_cons, String.join_cons, parse_append_blanks hne hblank, ih hrest,
      List.flatMap_cons]

/-- Parts with a space between them are read one by one. -/
theorem parse_intercalate (parts : List String) :
    parse (" ".intercalate parts) source = parts.flatMap fun part => parse part source := by
  induction parts with
  | nil => rfl
  | cons part parts ih =>
    by_cases hparts : parts = []
    · rw [hparts, String.intercalate_singleton, List.flatMap_cons, List.flatMap_nil,
        List.append_nil]
    · rw [String.intercalate_cons_of_ne_nil hparts, parse_append_blanks (by decide) (by decide),
        ih, List.flatMap_cons]

/-- **What is put together with blanks is read part by part.** Two queries with blanks between
them, of whatever kind and number, have the filters of the one and then those of the other.
Hence a query says what its words say, taken one by one; it makes no difference that the blanks
at its ends are taken off first and that nothing is read if nothing is left; and parts that are
joined with any blanks, or with single spaces, are read one by one. -/
theorem parse_joined (source : SearchSource) :
    (∀ front gap back : String, gap ≠ "" → Text.isAllBlank gap →
        parse (front ++ gap ++ back) source = parse front source ++ parse back source) ∧
      (∀ query, parse query source = (Text.words query).flatMap fun word => parse word source) ∧
      (∀ query, parse query source =
        if Text.trim query = "" then []
        else (Text.words (Text.trim query)).flatMap fun word => parse word source) ∧
      (∀ front query back : String, Text.isAllBlank front → Text.isAllBlank back →
        parse (front ++ query ++ back) source = parse query source) ∧
      (∀ parts : List (String × String), (∀ p ∈ parts, p.2 ≠ "" ∧ Text.isAllBlank p.2) →
        parse (String.join (parts.map fun p => p.1 ++ p.2)) source =
          parts.flatMap fun p => parse p.1 source) ∧
      ∀ parts : List String,
        parse (" ".intercalate parts) source = parts.flatMap fun part => parse part source := by
  refine ⟨fun front gap back hne hgap => parse_append_blanks hne hgap front back,
    parse_eq_flatMap, fun query => ?_,
    fun front query back hfront hback => parse_between_blanks hfront hback query,
    fun parts hgaps => parse_join hgaps, parse_intercalate⟩
  rw [← parse_trim query, ← parse_eq_flatMap]
  split
  · next hempty =>
    rw [hempty]
    rfl
  · rfl

/-- A query of three words with a no-break space, a tab and an ideographic space between them
and around them, cut at the tab. -/
theorem parse_joined_blanks :
    parse "\u00A0!CT:Oslo\u3000a\t ON:!b\u2003" townSource =
        parse "\u00A0!CT:Oslo\u3000a" townSource ++ parse "ON:!b\u2003" townSource ∧
      parse "\u00A0!CT:Oslo\u3000a" townSource =
        parse "!CT:Oslo" townSource ++ parse "a" townSource := by
  obtain ⟨hgap, -, -, hends, -, -⟩ := parse_joined townSource
  have hcut := hgap "\u00A0!CT:Oslo\u3000a" "\t " "ON:!b\u2003" (by decide) (by decide)
  have hstart := hends "\u00A0" "!CT:Oslo\u3000a" "" (by decide) (by decide)
  exact ⟨hcut, hstart.trans (hgap "!CT:Oslo" "\u3000" "a" (by decide) (by decide))⟩

end Query

end SmartForm
