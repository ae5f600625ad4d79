import Mathlib.Data.List.Basic
import SmartForm.Proofs.Text.Words
import SmartForm.Search.Query

/-!
# What a word says

The words of a query have a small grammar. A word **addresses** a field with a value
(`SmartForm.Query.Addresses`), and the field **makes** a filter of the value
(`SmartForm.Query.Makes`). The filter of a word is what these two say, and a word without a
filter addresses no field or leaves no value (`SmartForm.Query.parseToken_iff`).

What is known of the filters of a query is read off the grammar, one rule after the other
(`SmartForm.Query.parse_wellFormed`). The one thing to know is where a mark of negation can
come from: it starts the word or the value behind the first colon, and it moves from the one
place to the other without being lost or doubled. So a value is a part of its word up to that
mark, and it makes no difference on which side of the code the mark is written.

Blanks are taken off the ends of a query and of a value. Neither changes anything: the words of a
query have no blank in them, and so the values that they address have none either
(`SmartForm.Query.parse_eq`, `SmartForm.Query.Addresses.not_blank`).
-/

namespace SmartForm

/-! ### Fields by their codes -/

namespace SearchSource

variable {s : SearchSource} {f : SearchField}

/-- A field that is found by some code is found by its own. -/
theorem fieldByCode?_code {code : String} (h : s.fieldByCode? code = some f) :
    s.fieldByCode? f.code = some f := by
  obtain ⟨hcode, before, after, hfields, hbefore⟩ := List.find?_eq_some_iff_append.mp h
  refine List.find?_eq_some_iff_append.mpr ⟨?_, before, after, hfields, fun g hg => ?_⟩
  · simp [Text.equalIgnoringCase]
  · have hne := hbefore g hg
    simp only [Text.equalIgnoringCase, decide_eq_true_eq, Bool.not_eq_true',
      decide_eq_false_iff_not] at hcode hne ⊢
    rwa [hcode]

/-- The first field is found by its code. -/
theorem fieldByCode?_of_head? (h : s.fields.head? = some f) : s.fieldByCode? f.code = some f := by
  obtain ⟨rest, hfields⟩ := List.head?_eq_some_iff.mp h
  rw [fieldByCode?, hfields]
  exact List.find?_cons_of_pos (by simp [Text.equalIgnoringCase])

theorem mem_of_fieldByCode? {code : String} (h : s.fieldByCode? code = some f) : f ∈ s.fields :=
  List.mem_of_find?_eq_some h

end SearchSource

namespace Query

variable {source : SearchSource} {field : SearchField} {f : Filter}
  {token code value rest : List Char}

theorem field?_eq_some {a : Address} (h : field? source a = some field) :
    field ∈ source.fields ∧ source.fieldByCode? field.code = some field := by
  obtain ⟨code, value⟩ := a
  cases code with
  | none => exact ⟨List.mem_of_head? h, SearchSource.fieldByCode?_of_head? h⟩
  | some code =>
    exact ⟨SearchSource.mem_of_fieldByCode? h, SearchSource.fieldByCode?_code h⟩

/-! ### The grammar of words -/

/-- **The field that a word addresses, and the value for it**, with the mark of negation that
may stand before the value. -/
inductive Addresses (source : SearchSource) : List Char → SearchField → List Char → Prop
  /-- A word without a code, be it that there is no colon in it or nothing before the colon,
  is for the first field as it is. -/
  | bare {token : List Char} {field : SearchField} :
    (∀ c ∈ token, c ≠ ':') ∨ token.head? = some ':' → source.fields.head? = some field →
      Addresses source token field token
  /-- A code and a value. -/
  | code {code value : List Char} {field : SearchField} :
    code ≠ [] → (∀ c ∈ code, c ≠ ':') → code.head? ≠ some '!' →
      source.fieldByCode? (String.ofList code) = some field →
      Addresses source (code ++ ':' :: value) field value
  /-- A mark before the code is a mark before the value. -/
  | mark {code value : List Char} {field : SearchField} :
    (∀ c ∈ code, c ≠ ':') → source.fieldByCode? (String.ofList code) = some field →
      Addresses source ('!' :: code ++ ':' :: value) field ('!' :: value)

/-- **The filter that a field makes of a value.** -/
inductive Makes (field : SearchField) : List Char → Filter → Prop
  /-- The mark is used up where the field allows negation. -/
  | negated {rest : List Char} :
    field.allowNot → rest ≠ [] →
      Makes field ('!' :: rest) ⟨field.parameter, field.code, .not,
        field.wildcard.getD .contains, String.ofList rest⟩
  /-- Any other value stands for itself. -/
  | plain {value : List Char} :
    field.allowNot = false ∨ value.head? ≠ some '!' → value ≠ [] →
      Makes field value ⟨field.parameter, field.code, .and,
        field.wildcard.getD .contains, String.ofList value⟩

/-! ### What a field makes of a value -/

/-- A mark of negation is used up where the field allows it. -/
theorem filter?_mark (hnot : field.allowNot) (hblank : ∀ c ∈ rest, Text.isBlank c = false) :
    filter? field ('!' :: rest) =
      if rest.isEmpty then none
      else some ⟨field.parameter, field.code, .not, field.wildcard.getD .contains,
        String.ofList rest⟩ := by
  have hvalue : ∀ c ∈ '!' :: rest, Text.isBlank c = false :=
    List.forall_mem_cons.mpr ⟨rfl, hblank⟩
  simp [filter?, Text.trimChars_of_not_blank hvalue, Text.trimChars_of_not_blank hblank, hnot]

/-- Any other value stands for itself. -/
theorem filter?_plain (h : field.allowNot = false ∨ value.head? ≠ some '!')
    (hblank : ∀ c ∈ value, Text.isBlank c = false) :
    filter? field value =
      if value.isEmpty then none
      else some ⟨field.parameter, field.code, .and, field.wildcard.getD .contains,
        String.ofList value⟩ := by
  rw [filter?, Text.trimChars_of_not_blank hblank]
  cases value with
  | nil => rfl
  | cons c cs =>
    by_cases hc : c = '!'
    · subst hc
      have hnot : field.allowNot = false := h.resolve_right fun hne => hne rfl
      simp [hnot]
    · simp [hc]

theorem filter?_of_makes (hblank : ∀ c ∈ value, Text.isBlank c = false)
    (h : Makes field value f) : filter? field value = some f := by
  cases h with
  | negated hnot hne =>
    rw [filter?_mark hnot (List.forall_mem_cons.mp hblank).2, if_neg (by simpa using hne)]
  | plain hplain hne => rw [filter?_plain hplain hblank, if_neg (by simpa using hne)]

/-- A field makes a filter of every value that leaves something to look for. -/
theorem exists_makes (hne : value ≠ []) (hmark : ¬ (field.allowNot ∧ value = ['!'])) :
    ∃ f, Makes field value f := by
  by_cases hnegated : field.allowNot ∧ value.head? = some '!'
  · obtain ⟨hnot, hhead⟩ := hnegated
    obtain ⟨rest, rfl⟩ := List.head?_eq_some_iff.mp hhead
    exact ⟨_, .negated hnot fun hrest => hmark ⟨hnot, hrest ▸ rfl⟩⟩
  · refine ⟨_, .plain ?_ hne⟩
    cases hnot : field.allowNot with
    | false => exact Or.inl rfl
    | true => exact Or.inr fun hhead => hnegated ⟨hnot, hhead⟩

/-- **The filter of a value without blanks.** -/
theorem makes_iff (hblank : ∀ c ∈ value, Text.isBlank c = false) :
    Makes field value f ↔ filter? field value = some f := by
  refine ⟨filter?_of_makes hblank, fun h => ?_⟩
  have hne : value ≠ [] := by
    rintro rfl
    cases h
  have hmark : ¬ (field.allowNot ∧ value = ['!']) := by
    rintro ⟨hnot, rfl⟩
    rw [filter?_mark hnot (List.forall_mem_nil _)] at h
    cases h
  obtain ⟨f', hmakes⟩ := exists_makes hne hmark
  rw [filter?_of_makes hblank hmakes] at h
  cases h
  exact hmakes

/-! ### What a word addresses -/

theorem ofToken_bare (h : (∀ c ∈ token, c ≠ ':') ∨ token.head? = some ':') :
    Address.ofToken token = ⟨none, token⟩ := by
  rcases h with hcolon | hhead
  · have hdrop : token.dropWhile (· ≠ ':') = [] :=
      List.dropWhile_eq_nil_iff.mpr fun c hc => by simpa using hcolon c hc
    rw [Address.ofToken, hdrop]
  · obtain ⟨rest, rfl⟩ := List.head?_eq_some_iff.mp hhead
    rfl

/-- A code that starts with no mark, a colon and a value. -/
theorem ofToken_unmarked (hne : code ≠ []) (hcolon : ∀ c ∈ code, c ≠ ':')
    (hmark : code.head? ≠ some '!') (value : List Char) :
    Address.ofToken (code ++ ':' :: value) = ⟨some code, value⟩ := by
  rw [Address.ofToken, Text.dropWhile_ne hcolon, Text.takeWhile_ne hcolon]
  obtain ⟨c, cs, rfl⟩ := List.exists_cons_of_ne_nil hne
  have hc : c ≠ '!' := fun h => hmark (congrArg some h)
  simp [hc]

/-- A mark in front of a code is a mark in front of the value. -/
theorem ofToken_mark (hcode : ∀ c ∈ code, c ≠ ':') (value : List Char) :
    Address.ofToken ('!' :: code ++ ':' :: value) = ⟨some code, '!' :: value⟩ := by
  have hcolon : ∀ c ∈ '!' :: code, c ≠ ':' := by
    intro c hc
    rcases List.mem_cons.mp hc with rfl | hc
    · decide
    · exact hcode c hc
  rw [Address.ofToken, Text.dropWhile_ne hcolon, Text.takeWhile_ne hcolon]
  rfl

/-- **A word is of one of three shapes.** -/
theorem token_shape (token : List Char) :
    ((∀ c ∈ token, c ≠ ':') ∨ token.head? = some ':') ∨
      (∃ code value, code ≠ [] ∧ (∀ c ∈ code, c ≠ ':') ∧ code.head? ≠ some '!' ∧
        token = code ++ ':' :: value) ∨
      ∃ code value, (∀ c ∈ code, c ≠ ':') ∧ token = '!' :: code ++ ':' :: value := by
  by_cases hmem : ':' ∈ token
  · obtain ⟨front, value, rfl, hfront⟩ := List.eq_append_cons_of_mem hmem
    have hcolon : ∀ c ∈ front, c ≠ ':' := fun c hc h => hfront (h ▸ hc)
    cases front with
    | nil => exact Or.inl (Or.inr rfl)
    | cons c code =>
      by_cases hc : c = '!'
      · subst hc
        exact Or.inr (Or.inr ⟨code, value,
          fun d hd => hcolon d (List.mem_cons_of_mem _ hd), rfl⟩)
      · refine Or.inr (Or.inl ⟨c :: code, value, List.cons_ne_nil _ _, hcolon, ?_, rfl⟩)
        exact fun h => hc (Option.some.inj h)
  · exact Or.inl (Or.inl fun c hc h => hmem (h ▸ hc))

theorem addresses_iff :
    Addresses source token field value ↔
      field? source (Address.ofToken token) = some field ∧
        (Address.ofToken token).value = value := by
  constructor
  · intro h
    cases h with
    | bare hbare hfirst => exact ofToken_bare hbare ▸ ⟨hfirst, rfl⟩
    | code hne hcolon hmark hfound => exact ofToken_unmarked hne hcolon hmark _ ▸ ⟨hfound, rfl⟩
    | mark hcolon hfound => exact ofToken_mark hcolon _ ▸ ⟨hfound, rfl⟩
  · rintro ⟨hfield, rfl⟩
    rcases token_shape token with hbare | ⟨code, rest, hne, hcolon, hmark, rfl⟩ |
      ⟨code, rest, hcolon, rfl⟩
    · rw [ofToken_bare hbare] at hfield ⊢
      exact .bare hbare hfield
    · rw [ofToken_unmarked hne hcolon hmark] at hfield ⊢
      exact .code hne hcolon hmark hfield
    · rw [ofToken_mark hcolon] at hfield ⊢
      exact .mark hcolon hfield

/-- The value that a word addresses is a part of the word, up to a mark of negation. -/
theorem mem_of_mem_value_ofToken {c : Char} (hc : c ∈ (Address.ofToken token).value) :
    c ∈ token ∨ c = '!' := by
  rw [Address.ofToken] at hc
  split at hc
  · exact Or.inl hc
  · next hdrop =>
    have hrest : ∀ d ∈ _, d ∈ token := fun d hd =>
      (List.dropWhile_sublist _).subset (hdrop ▸ List.mem_cons_of_mem _ hd)
    split at hc
    · exact Or.inl hc
    · rcases List.mem_cons.mp hc with rfl | hc
      · exact Or.inr rfl
      · exact Or.inl (hrest c hc)
    · exact Or.inl (hrest c hc)

/-- So there is no blank in it that could be taken off. -/
theorem not_blank_value_ofToken (htoken : Text.IsWord token) :
    ∀ c ∈ (Address.ofToken token).value, Text.isBlank c = false := by
  intro c hc
  rcases mem_of_mem_value_ofToken hc with hc | rfl
  · exact htoken.not_blank c hc
  · rfl

theorem Addresses.not_blank (h : Addresses source token field value)
    (htoken : Text.IsWord token) : ∀ c ∈ value, Text.isBlank c = false := by
  obtain ⟨-, rfl⟩ := addresses_iff.mp h
  exact not_blank_value_ofToken htoken

/-- **The filter of a word** is what the field that it addresses makes of its value. -/
theorem parseToken_iff (htoken : Text.IsWord token) :
    parseToken source token = some f ↔
      ∃ field value, Addresses source token field value ∧ Makes field value f := by
  rw [parseToken, Option.bind_eq_some_iff]
  constructor
  · rintro ⟨field, hfield, hfilter⟩
    exact ⟨field, _, addresses_iff.mpr ⟨hfield, rfl⟩,
      (makes_iff (not_blank_value_ofToken htoken)).mpr hfilter⟩
  · rintro ⟨field, value, haddresses, hmakes⟩
    obtain ⟨hfield, rfl⟩ := addresses_iff.mp haddresses
    exact ⟨field, hfield, filter?_of_makes (not_blank_value_ofToken htoken) hmakes⟩

/-! ### What is known of a filter -/

/-- A word has a mark at its start or right behind its first colon. -/
def IsMarked (token : List Char) : Prop :=
  token.head? = some '!' ∨
    ∃ front rest, (∀ c ∈ front, c ≠ ':') ∧ token = front ++ ':' :: '!' :: rest

/-- **A filter of a field that comes from a word.** -/
structure ComesFrom (token : List Char) (field : SearchField) (f : Filter) : Prop where
  /-- The member of a record is that of the field. -/
  parameter : f.parameter = field.parameter
  /-- So is the code. -/
  code : f.code = field.code
  /-- Texts are compared as the field says, or by containment. -/
  wildcard : f.wildcard = field.wildcard.getD .contains
  /-- The value is a word. -/
  value : Text.IsWord f.value.toList
  /-- The value ends the word, but for a mark in front that was moved there. -/
  part : f.value.toList <:+ token ∨ ∃ rest, f.value.toList = '!' :: rest ∧ rest <:+ token
  /-- There are two conditions that a query can ask for. -/
  condition : f.condition = .and ∨ f.condition = .not
  /-- Negation is asked for by a mark, and only where it is allowed. -/
  negated : f.condition = .not → field.allowNot ∧ IsMarked token
  /-- Where it is allowed, a mark asks for it. -/
  unmarked : field.allowNot → f.condition = .and → f.value.toList.head? ≠ some '!'

namespace Addresses

theorem mem_fields (h : Addresses source token field value) : field ∈ source.fields :=
  (field?_eq_some (addresses_iff.mp h).1).1

/-- The value ends the word, but for a mark that was moved. -/
theorem part (h : Addresses source token field value) :
    value <:+ token ∨ ∃ rest, value = '!' :: rest ∧ rest <:+ token ∧ token.head? = some '!' := by
  cases h with
  | bare hbare hfirst => exact Or.inl List.suffix_rfl
  | @code code value _ hne hcolon hmark hfound =>
    exact Or.inl ((List.suffix_cons ':' value).trans (List.suffix_append code _))
  | @mark code value _ hcolon hfound =>
    refine Or.inr ⟨value, rfl, ?_, rfl⟩
    exact (List.suffix_cons ':' value).trans (List.suffix_append ('!' :: code) _)

/-- A value with a mark is that of a word with a mark. -/
theorem isMarked (h : Addresses source token field ('!' :: rest)) : IsMarked token := by
  generalize hvalue : '!' :: rest = value at h
  cases h with
  | bare hbare hfirst =>
    subst hvalue
    exact Or.inl rfl
  | code hne hcolon hmark hfound =>
    subst hvalue
    exact Or.inr ⟨_, rest, hcolon, rfl⟩
  | mark hcolon hfound => exact Or.inl rfl

end Addresses

/-- **The filter of a word comes from it.** -/
theorem comesFrom (htoken : Text.IsWord token) (haddresses : Addresses source token field value)
    (hmakes : Makes field value f) : ComesFrom token field f := by
  have hpart := haddresses.part
  cases hmakes with
  | @negated rest hnot hne =>
    -- The mark is gone, so what is left ends the word in either case.
    have hsuffix : rest <:+ token := by
      rcases hpart with hpart | ⟨rest', hrest, hpart, -⟩
      · exact (List.suffix_cons '!' rest).trans hpart
      · exact (List.cons.inj hrest).2 ▸ hpart
    refine ⟨rfl, rfl, rfl, ⟨by simpa using hne, fun c hc => ?_⟩, Or.inl (by simpa using hsuffix),
      Or.inr rfl, fun _ => ⟨hnot, haddresses.isMarked⟩, nofun⟩
    exact htoken.not_blank c (hsuffix.subset (by simpa using hc))
  | plain hplain hne =>
    refine ⟨rfl, rfl, rfl, ⟨by simpa using hne, fun c hc => ?_⟩, ?_, Or.inl rfl, nofun,
      fun hnot _ => ?_⟩
    · rw [String.toList_ofList] at hc
      exact haddresses.not_blank htoken c hc
    · rw [String.toList_ofList]
      exact hpart.imp_right fun ⟨rest, hvalue, hpart, _⟩ => ⟨rest, hvalue, hpart⟩
    · rw [String.toList_ofList]
      exact hplain.resolve_left (by simp [hnot])

/-! ### The filters of a query -/

theorem isWord_code_value {code value : List Char} (hcode : ∀ c ∈ code, Text.isBlank c = false)
    (hvalue : ∀ c ∈ value, Text.isBlank c = false) : Text.IsWord (code ++ ':' :: value) := by
  refine ⟨by simp, fun c hc => ?_⟩
  rcases List.mem_append.mp hc with hc | hc
  · exact hcode c hc
  · rcases List.mem_cons.mp hc with rfl | hc
    · rfl
    · exact hvalue c hc

/-- **A query is read word by word**: the blanks at its ends are of no word, and a query without
a word has no filter. -/
theorem parse_eq (query : String) :
    parse query source = (Text.wordChars query.toList).filterMap (parseToken source) := by
  have hwords : Text.wordChars (Text.trim query).toList = Text.wordChars query.toList := by
    rw [Text.trim, String.toList_ofList, Text.wordChars_trimChars]
  rw [← hwords, parse]
  split
  · next hempty =>
    rw [String.isEmpty_iff.mp hempty]
    rfl
  · rfl

theorem parse_singleton {query : String} (h : Text.IsWord query.toList) :
    parse query source = (parseToken source query.toList).toList := by
  rw [parse_eq, Text.wordChars_of_isWord h, List.filterMap_cons, List.filterMap_nil]
  cases parseToken source query.toList <;> rfl

/-- Of things that are passed over or give something, those that give something and what they
give stand in the same order. -/
theorem forall₂_filter_filterMap {α β : Type} {R : α → β → Prop} {g : α → Option β} {xs : List α}
    (h : ∀ x ∈ xs, ∀ y, g x = some y → R x y) :
    List.Forall₂ R (xs.filter fun x => (g x).isSome) (xs.filterMap g) := by
  induction xs with
  | nil => exact .nil
  | cons x xs ih =>
    have hrest := ih fun y hy => h y (List.mem_cons_of_mem x hy)
    cases hx : g x with
    | none => rwa [List.filter_cons_of_neg (by simp [hx]), List.filterMap_cons_none hx]
    | some y =>
      rw [List.filter_cons_of_pos (by simp [hx]), List.filterMap_cons_some hx]
      exact .cons (h x List.mem_cons_self y hx) hrest

/-- A word with a mark on one side of its code says what it says with the mark on the other
side. -/
theorem ofToken_mark_comm (hne : code ≠ []) (hcolon : ∀ c ∈ code, c ≠ ':')
    (hmark : code.head? ≠ some '!') (value : List Char) :
    Address.ofToken ('!' :: code ++ ':' :: value) =
      Address.ofToken (code ++ ':' :: '!' :: value) :=
  (ofToken_mark hcolon value).trans (ofToken_unmarked hne hcolon hmark _).symm

/-- **Filters are well formed.** The filters of a query stand for some of its words, one for
each and in the order of the words, and each comes from its word and from one field of the
source. A word is passed over only if it addresses no field, or leaves nothing to look for. And
the mark of negation may stand on either side of a code. -/
theorem parse_wellFormed (source : SearchSource) :
    (∀ query, ∃ kept,
        kept.Sublist (Text.wordChars query.toList) ∧
        List.Forall₂ (fun token f => ∃ field ∈ source.fields, ComesFrom token field f) kept
          (parse query source) ∧
        ∀ token ∈ Text.wordChars query.toList, token ∉ kept → ∀ field value,
          Addresses source token field value → value = [] ∨ field.allowNot ∧ value = ['!']) ∧
      ∀ code value : String, code ≠ "" →
        (∀ c ∈ code.toList, Text.isBlank c = false ∧ c ≠ ':') → code.toList.head? ≠ some '!' →
        (∀ c ∈ value.toList, Text.isBlank c = false) →
        parse ("!" ++ code ++ ":" ++ value) source = parse (code ++ ":!" ++ value) source := by
  -- The words that are kept are those that have a filter.
  refine ⟨fun query => ⟨(Text.wordChars query.toList).filter fun token =>
    (parseToken source token).isSome, List.filter_sublist, ?_, ?_⟩, ?_⟩
  · rw [parse_eq]
    refine forall₂_filter_filterMap fun token htoken f hf => ?_
    have hword := Text.isWord_of_mem_wordChars htoken
    obtain ⟨field, value, haddresses, hmakes⟩ := (parseToken_iff hword).mp hf
    exact ⟨field, haddresses.mem_fields, comesFrom hword haddresses hmakes⟩
  · intro token htoken hkept field value haddresses
    by_contra hleft
    rw [not_or] at hleft
    obtain ⟨f, hmakes⟩ := exists_makes hleft.1 hleft.2
    have hparse : parseToken source token = some f :=
      (parseToken_iff (Text.isWord_of_mem_wordChars htoken)).mpr ⟨field, value, haddresses, hmakes⟩
    exact hkept (List.mem_filter.mpr ⟨htoken, by rw [hparse, Option.isSome_some]⟩)
  · intro code value hne hcode hmark hvalue
    have hleft : ("!" ++ code ++ ":" ++ value).toList =
        '!' :: code.toList ++ ':' :: value.toList := by simp
    have hright : (code ++ ":!" ++ value).toList = code.toList ++ ':' :: '!' :: value.toList := by
      simp
    have hblank : ∀ c ∈ code.toList, Text.isBlank c = false := fun c hc => (hcode c hc).1
    have hwordLeft : Text.IsWord ("!" ++ code ++ ":" ++ value).toList := by
      rw [hleft]
      exact isWord_code_value (List.forall_mem_cons.mpr ⟨rfl, hblank⟩) hvalue
    have hwordRight : Text.IsWord (code ++ ":!" ++ value).toList := by
      rw [hright]
      exact isWord_code_value hblank (List.forall_mem_cons.mpr ⟨rfl, hvalue⟩)
    have hsame := ofToken_mark_comm (by simpa using hne) (fun c hc => (hcode c hc).2) hmark
      value.toList
    rw [parse_singleton hwordLeft, parse_singleton hwordRight, hleft, hright, parseToken,
      parseToken, hsame]

/-- A source with a field that allows negation and one that does not. -/
def townSource : SearchSource where
  key := "towns"
  endpoint := "towns"
  fields :=
    [{ code := "CT", parameter := "city", allowNot := true },
     { code := "ON", parameter := "org_name" }]

/-- Of five words two are passed over, and a mark that is not allowed belongs to the value. -/
theorem parse_wellFormed_marks :
    (∃ kept, kept.Sublist (Text.wordChars "!CT:Oslo ZZ:x ON:!a CT:! :b".toList) ∧
        List.Forall₂ (fun token f => ∃ field ∈ townSource.fields, ComesFrom token field f) kept
          [⟨"city", "CT", .not, .contains, "Oslo"⟩, ⟨"org_name", "ON", .and, .contains, "!a"⟩,
           ⟨"city", "CT", .and, .contains, ":b"⟩]) ∧
      parse "!ct:Oslo" townSource = parse "ct:!Oslo" townSource := by
  have hfilters : parse "!CT:Oslo ZZ:x ON:!a CT:! :b" townSource =
      [⟨"city", "CT", .not, .contains, "Oslo"⟩, ⟨"org_name", "ON", .and, .contains, "!a"⟩,
       ⟨"city", "CT", .and, .contains, ":b"⟩] := by decide
  obtain ⟨kept, hkept, hfrom, -⟩ :=
    (parse_wellFormed townSource).1 "!CT:Oslo ZZ:x ON:!a CT:! :b"
  rw [hfilters] at hfrom
  have hcode : ∀ c ∈ "ct".toList, Text.isBlank c = false ∧ c ≠ ':' := by simp [Text.isBlank]
  have hvalue : ∀ c ∈ "Oslo".toList, Text.isBlank c = false := by simp [Text.isBlank]
  exact ⟨⟨kept, hkept, hfrom⟩,
    (parse_wellFormed townSource).2 "ct" "Oslo" (by decide) hcode (by decide) hvalue⟩

end Query

end SmartForm
