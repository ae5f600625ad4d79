import SmartForm.Proofs.Json.Leaves

/-!
# What is printed is read

A value that is printed with a line for every item and member is read back
(`SmartForm.Json.readDocument_pretty`), whatever it holds, as long as its numbers are integers
that fit into words.

The one thing to know is that two texts stand behind a value in a printed text: a comma, or
a new line and a closing bracket. Neither goes on with a number, and what stands before the
next value is skipped. So it is enough to say what is read of one value with anything
apart from it behind it, and the items of a list follow one after the other.
-/

namespace SmartForm

/-! ### Values in values -/

/-- **What holds of a value as soon as it holds of all values in it** holds of all
values. -/
@[elab_as_elim]
theorem Json.nestedInduction {P : Json → Prop} (null : P .null) (bool : ∀ b, P (.bool b))
    (number : ∀ n, P (.number n)) (string : ∀ s, P (.string s))
    (array : ∀ items, (∀ v ∈ items, P v) → P (.array items))
    (object : ∀ members : List (String × Json), (∀ m ∈ members, P m.2) → P (.object members)) :
    ∀ v, P v
  | .null => null
  | .bool b => bool b
  | .number n => number n
  | .string s => string s
  | .array items => array items fun v _hv =>
      nestedInduction null bool number string array object v
  | .object members => object members fun m _hm =>
      nestedInduction null bool number string array object m.2
termination_by v => sizeOf v
decreasing_by
  · have := List.sizeOf_lt_of_mem _hv
    simp only [Json.array.sizeOf_spec]
    omega
  · have := List.sizeOf_lt_of_mem _hm
    obtain ⟨k, v⟩ := m
    simp only [Json.object.sizeOf_spec, Prod.mk.sizeOf_spec] at this ⊢
    omega

namespace Json

/-! ### Numbers of a value -/

mutual

/-- All numbers in a value. -/
def numbers : Json → List Number
  | .number n => [n]
  | .array items => itemNumbers items
  | .object members => memberNumbers members
  | _ => []

/-- All numbers in some items. -/
def itemNumbers : List Json → List Number
  | [] => []
  | v :: vs => numbers v ++ itemNumbers vs

/-- All numbers in some members. -/
def memberNumbers : List (String × Json) → List Number
  | [] => []
  | (_, v) :: ms => numbers v ++ memberNumbers ms

end

theorem itemNumbers_eq (items : List Json) : itemNumbers items = items.flatMap numbers := by
  induction items with
  | nil => rfl
  | cons v vs ih => rw [itemNumbers, ih, List.flatMap_cons]

theorem memberNumbers_eq (members : List (String × Json)) :
    memberNumbers members = members.flatMap fun m => m.2.numbers := by
  induction members with
  | nil => rfl
  | cons m ms ih => rw [memberNumbers, ih, List.flatMap_cons]

end Json

/-- A number is an integer that fits into a word of either sort. -/
def Number.IsWord (n : Number) : Prop := ∃ i, n = .int i ∧ Word.fitsEither i = true

instance : DecidablePred Number.IsWord
  | .int i => decidable_of_iff (Word.fitsEither i = true) (by simp [Number.IsWord])
  | .float d => isFalse (by simp [Number.IsWord])

namespace Json

/-! ### Blanks -/

theorem skipBlanks_newline (level : Nat) (cs : List Char) :
    skipBlanks (newline level ++ cs) = skipBlanks cs := by
  refine List.dropWhile_append_of_pos fun c hc => ?_
  rcases List.mem_cons.mp hc with rfl | hc
  · rfl
  · rw [List.eq_of_mem_replicate hc]
    rfl

theorem skipBlanks_of_not {c : Char} (hc : isBlank c = false) (cs : List Char) :
    skipBlanks (c :: cs) = c :: cs := by
  rw [skipBlanks, List.dropWhile_cons, if_neg (by simp [hc])]

/-- A value is read from where the blanks in front of it end. -/
theorem readValue_congr {cs cs' : List Char} (h : skipBlanks cs = skipBlanks cs') (fuel : Nat) :
    readValue fuel cs = readValue fuel cs' := by
  cases fuel with
  | zero => rfl
  | succ fuel => unfold readValue; rw [h]

theorem readValue_newline (fuel level : Nat) (cs : List Char) :
    readValue fuel (newline level ++ cs) = readValue fuel cs :=
  readValue_congr (skipBlanks_newline level cs) fuel

theorem readValue_space (fuel : Nat) (cs : List Char) :
    readValue fuel (' ' :: cs) = readValue fuel cs :=
  readValue_congr (show skipBlanks (' ' :: cs) = skipBlanks cs from rfl) fuel

/-! ### Leaves -/

/-- A value is read at the start of a text that is apart from it. -/
def ReadBack (v : Json) : Prop :=
  ∀ level fuel rest, Apart rest → (prettyChars level v).length ≤ fuel →
    readValue fuel (prettyChars level v ++ rest) = (.ofJson v, some rest)

theorem readValue_leaf (fuel : Nat) {c : Char} (cs : List Char) (hblank : isBlank c = false)
    (harray : c ≠ '[') (hobject : c ≠ '\x7b') :
    readValue (fuel + 1) (c :: cs) = leaf (c :: cs) := by
  unfold readValue
  rw [skipBlanks_of_not hblank]
  split
  · next heq => exact absurd (List.cons.inj heq).1 harray
  · next heq => exact absurd (List.cons.inj heq).1 hobject
  · rfl

theorem readBack_of_leaf {v : Json} (c : Char) (cs : List Char)
    (hchars : ∀ level, prettyChars level v = c :: cs) (hblank : isBlank c = false)
    (harray : c ≠ '[') (hobject : c ≠ '\x7b')
    (hleaf : ∀ rest, Apart rest → leaf (c :: (cs ++ rest)) = (.ofJson v, some rest)) :
    ReadBack v := by
  intro level fuel rest hrest hfuel
  rw [hchars] at hfuel ⊢
  obtain ⟨fuel, rfl⟩ : ∃ n, fuel = n + 1 :=
    Nat.exists_eq_succ_of_ne_zero (Nat.ne_zero_of_lt hfuel)
  rw [List.cons_append, readValue_leaf fuel _ hblank harray hobject]
  exact hleaf rest hrest

theorem word_append (w : String) (d : Document) (rest : List Char) :
    word w d (w.toList ++ rest) = (d, some rest) := by
  have hprefix : w.toList.isPrefixOf (w.toList ++ rest) = true :=
    List.isPrefixOf_iff_prefix.mpr (List.prefix_append ..)
  rw [word, if_pos hprefix, ← String.length_toList, List.drop_left]

theorem readBack_null : ReadBack .null :=
  readBack_of_leaf 'n' ['u', 'l', 'l'] (fun level => by rw [prettyChars]; rfl) rfl
    (by decide) (by decide) fun rest _ => word_append "null" .null rest

theorem readBack_bool (b : Bool) : ReadBack (.bool b) := by
  cases b with
  | true =>
    exact readBack_of_leaf 't' ['r', 'u', 'e'] (fun level => by rw [prettyChars]; rfl)
      rfl (by decide) (by decide) fun rest _ => word_append "true" (.bool true) rest
  | false =>
    exact readBack_of_leaf 'f' ['a', 'l', 's', 'e']
      (fun level => by rw [prettyChars]; rfl) rfl (by decide) (by decide)
      fun rest _ => word_append "false" (.bool false) rest

theorem readBack_int {i : Int} (hi : Word.fitsEither i = true) : ReadBack (.number (.int i)) := by
  obtain ⟨c, cs, htext, hc⟩ := toString_eq_cons i
  have hchars : ∀ level, prettyChars level (.number (.int i)) = c :: cs := fun level => by
    rw [prettyChars, Number.text, htext]
  refine readBack_of_leaf c cs hchars (isBlank_of_leading hc) (ne_of_leading hc (by decide) rfl)
    (ne_of_leading hc (by decide) rfl) fun rest hrest => ?_
  have hread := number?_toString hi hrest
  rw [htext, List.cons_append] at hread
  unfold leaf
  split
  · next heq => cases heq
  · next heq => exact absurd (List.cons.inj heq).1 (ne_of_leading hc (by decide) rfl)
  · next heq =>
    cases heq
    simp only [if_neg (ne_of_leading hc (d := 'n') (by decide) rfl),
      if_neg (ne_of_leading hc (d := 't') (by decide) rfl),
      if_neg (ne_of_leading hc (d := 'f') (by decide) rfl), if_pos hc, hread, Document.ofJson]

theorem readBack_string (s : String) : ReadBack (.string s) := by
  refine readBack_of_leaf '"' (s.toList.flatMap quotedChar ++ ['"'])
    (fun level => by rw [prettyChars, quoted]; rfl) rfl (by decide) (by decide) fun rest _ => ?_
  have hread := quotedText?_quoted s rest
  rw [List.append_assoc, List.singleton_append]
  unfold leaf
  simp only [hread, Document.ofJson]

/-! ### Lists and objects -/

/-- What a printed value begins with: no blank, and no bracket. -/
theorem prettyChars_eq_cons {v : Json} (hv : ∀ n ∈ v.numbers, n.IsWord) (level : Nat) :
    ∃ c cs, prettyChars level v = c :: cs ∧ isBlank c = false ∧ c ≠ ']' := by
  cases v with
  | null => exact ⟨'n', ['u', 'l', 'l'], by rw [prettyChars]; rfl, rfl, by decide⟩
  | bool b =>
    cases b with
    | true => exact ⟨'t', ['r', 'u', 'e'], by rw [prettyChars]; rfl, rfl, by decide⟩
    | false => exact ⟨'f', ['a', 'l', 's', 'e'], by rw [prettyChars]; rfl, rfl, by decide⟩
  | number n =>
    obtain ⟨i, rfl, -⟩ := hv n (by simp [numbers])
    obtain ⟨c, cs, htext, hc⟩ := toString_eq_cons i
    exact ⟨c, cs, by rw [prettyChars, Number.text, htext], isBlank_of_leading hc,
      ne_of_leading hc (by decide) rfl⟩
  | string s => exact ⟨'"', _, by rw [prettyChars, quoted]; rfl, rfl, by decide⟩
  | array items =>
    cases items with
    | nil => exact ⟨'[', [']'], by rw [prettyChars], rfl, by decide⟩
    | cons v vs => exact ⟨'[', _, by rw [prettyChars]; rfl, rfl, by decide⟩
  | object members =>
    cases members with
    | nil => exact ⟨'\x7b', ['\x7d'], by rw [prettyChars], rfl, by decide⟩
    | cons m ms => exact ⟨'\x7b', _, by rw [prettyChars]; rfl, rfl, by decide⟩

theorem apart_prettyItems (level : Nat) (vs : List Json) (rest : List Char) :
    Apart (prettyItems level vs ++ rest) := by
  cases vs with
  | nil =>
    rw [prettyItems]
    rintro c ⟨⟩
    exact Or.inr rfl
  | cons v vs =>
    rw [prettyItems]
    rintro c ⟨⟩
    exact Or.inl rfl

theorem apart_prettyMembers (level : Nat) (ms : List (String × Json)) (rest : List Char) :
    Apart (prettyMembers level ms ++ rest) := by
  cases ms with
  | nil =>
    rw [prettyMembers]
    rintro c ⟨⟩
    exact Or.inr rfl
  | cons m ms =>
    rw [prettyMembers]
    rintro c ⟨⟩
    exact Or.inl rfl

/-- An item is read, and what stands behind it is what counts. -/
theorem readItems_step {v : Json} (hv : ReadBack v) (level : Nat) {fuel : Nat} {rest : List Char}
    (hrest : Apart rest) (hfuel : (prettyChars (level + 1) v).length ≤ fuel) :
    readItems (fuel + 1) (newline (level + 1) ++ (prettyChars (level + 1) v ++ rest)) =
      match skipBlanks rest with
      | ']' :: rest => ([Document.ofJson v], some rest)
      | ',' :: rest =>
        let (ds, rest) := readItems fuel rest
        (Document.ofJson v :: ds, rest)
      | _ => ([Document.ofJson v], none) := by
  have hread := (readValue_newline fuel (level + 1) (prettyChars (level + 1) v ++ rest)).trans
    (hv (level + 1) fuel rest hrest hfuel)
  conv_lhs => unfold readItems
  exact hread ▸ rfl

/-- **Items are read one after the other.** -/
theorem readItems_prettyItems {v : Json} {vs : List Json} (hv : ReadBack v)
    (hvs : ∀ w ∈ vs, ReadBack w) (level fuel : Nat) (rest : List Char)
    (hfuel : (prettyChars (level + 1) v).length + (prettyItems level vs).length < fuel) :
    readItems fuel (newline (level + 1) ++ (prettyChars (level + 1) v ++
      (prettyItems level vs ++ rest))) = (Document.ofItems (v :: vs), some rest) := by
  obtain ⟨fuel, rfl⟩ : ∃ n, fuel = n + 1 :=
    Nat.exists_eq_succ_of_ne_zero (Nat.ne_zero_of_lt hfuel)
  rw [readItems_step hv level (apart_prettyItems level vs rest) (by omega)]
  induction vs generalizing v fuel with
  | nil =>
    rw [prettyItems, List.append_assoc, skipBlanks_newline]
    rfl
  | cons w ws ih =>
    have hlength : (prettyItems level (w :: ws)).length =
        1 + (2 * (level + 1) + 1) + (prettyChars (level + 1) w).length
          + (prettyItems level ws).length := by
      simp [prettyItems, newline]
      omega
    obtain ⟨fuel, rfl⟩ : ∃ n, fuel = n + 1 := ⟨fuel - 1, by omega⟩
    have hw := hvs w List.mem_cons_self
    have hrest := ih hw (fun x hx => hvs x (List.mem_cons_of_mem w hx)) fuel (by omega)
    rw [← readItems_step hw level (apart_prettyItems level ws rest) (by omega)] at hrest
    rw [prettyItems]
    simp only [List.cons_append, List.append_assoc, skipBlanks_of_not (c := ',') rfl, hrest]
    rfl

/-- A member is read, and what stands behind it is what counts. -/
theorem readMembers_step (k : String) {v : Json} (hv : ReadBack v) (level : Nat) {fuel : Nat}
    {rest : List Char} (hrest : Apart rest) (hfuel : (prettyChars (level + 1) v).length ≤ fuel) :
    readMembers (fuel + 1) (newline (level + 1) ++ (quoted k ++
        ':' :: ' ' :: (prettyChars (level + 1) v ++ rest))) =
      match skipBlanks rest with
      | '\x7d' :: rest => ([(some k, Document.ofJson v)], some rest)
      | ',' :: rest =>
        let (ms, rest) := readMembers fuel rest
        ((some k, Document.ofJson v) :: ms, rest)
      | _ => ([(some k, Document.ofJson v)], none) := by
  have hname : quoted k ++ ':' :: ' ' :: (prettyChars (level + 1) v ++ rest) =
      '"' :: (k.toList.flatMap quotedChar ++
        '"' :: ':' :: ' ' :: (prettyChars (level + 1) v ++ rest)) := by
    simp [quoted]
  have hread := (readValue_space fuel (prettyChars (level + 1) v ++ rest)).trans
    (hv (level + 1) fuel rest hrest hfuel)
  conv_lhs => unfold readMembers
  rw [skipBlanks_newline, hname, skipBlanks_of_not rfl]
  simp only [quotedText?_quoted, skipBlanks_of_not (c := ':') rfl]
  exact hread ▸ rfl

/-- **Members are read one after the other.** -/
theorem readMembers_prettyMembers (k : String) {v : Json} {ms : List (String × Json)}
    (hv : ReadBack v) (hms : ∀ m ∈ ms, ReadBack m.2) (level fuel : Nat) (rest : List Char)
    (hfuel : (prettyChars (level + 1) v).length + (prettyMembers level ms).length < fuel) :
    readMembers fuel (newline (level + 1) ++ (quoted k ++ ':' :: ' ' ::
      (prettyChars (level + 1) v ++ (prettyMembers level ms ++ rest)))) =
      (Document.ofMembers ((k, v) :: ms), some rest) := by
  obtain ⟨fuel, rfl⟩ : ∃ n, fuel = n + 1 :=
    Nat.exists_eq_succ_of_ne_zero (Nat.ne_zero_of_lt hfuel)
  rw [readMembers_step k hv level (apart_prettyMembers level ms rest) (by omega)]
  induction ms generalizing k v fuel with
  | nil =>
    rw [prettyMembers, List.append_assoc, skipBlanks_newline]
    rfl
  | cons m ms ih =>
    obtain ⟨j, w⟩ := m
    have hlength : (prettyChars (level + 1) w).length + (prettyMembers level ms).length + 2 ≤
        (prettyMembers level ((j, w) :: ms)).length := by
      simp [prettyMembers, newline]
      omega
    obtain ⟨fuel, rfl⟩ : ∃ n, fuel = n + 1 := ⟨fuel - 1, by omega⟩
    have hw : ReadBack w := hms (j, w) List.mem_cons_self
    have hrest := ih j hw (fun x hx => hms x (List.mem_cons_of_mem _ hx)) fuel (by omega)
    rw [← readMembers_step j hw level (apart_prettyMembers level ms rest) (by omega)] at hrest
    rw [prettyMembers]
    simp only [List.cons_append, List.append_assoc, skipBlanks_of_not (c := ',') rfl, hrest]
    rfl

/-- A list is read if its items are, for none of them begins with the bracket that closes
it. -/
theorem readBack_array {items : List Json} (hitems : ∀ v ∈ items, ReadBack v)
    (hwords : ∀ v ∈ items, ∀ n ∈ v.numbers, n.IsWord) : ReadBack (.array items) := by
  intro level fuel rest hrest hfuel
  cases items with
  | nil =>
    rw [prettyChars] at hfuel ⊢
    obtain ⟨fuel, rfl⟩ : ∃ n, fuel = n + 1 :=
      Nat.exists_eq_succ_of_ne_zero (Nat.ne_zero_of_lt hfuel)
    unfold readValue
    rfl
  | cons v vs =>
    obtain ⟨c, cs, hchars, hblank, hbracket⟩ :=
      prettyChars_eq_cons (hwords v List.mem_cons_self) (level + 1)
    have hlength : (prettyChars level (.array (v :: vs))).length =
        1 + (2 * (level + 1) + 1) + (prettyChars (level + 1) v).length
          + (prettyItems level vs).length := by
      simp [prettyChars, newline]
      omega
    obtain ⟨fuel, rfl⟩ : ∃ n, fuel = n + 1 := ⟨fuel - 1, by omega⟩
    have hread := readItems_prettyItems (hitems v List.mem_cons_self)
      (fun w hw => hitems w (List.mem_cons_of_mem v hw)) level fuel rest (by omega)
    have hskip : skipBlanks (newline (level + 1) ++ (prettyChars (level + 1) v ++
        (prettyItems level vs ++ rest))) = c :: (cs ++ (prettyItems level vs ++ rest)) := by
      rw [skipBlanks_newline, hchars, List.cons_append, skipBlanks_of_not hblank]
    rw [prettyChars]
    simp only [List.cons_append, List.append_assoc]
    unfold readValue
    rw [skipBlanks_of_not (c := '[') rfl]
    simp only [hskip]
    split
    · next heq => exact absurd (List.cons.inj heq).1 hbracket
    · rw [hread]
      rfl

/-- An object is read if its members are, for each of them begins with its name. -/
theorem readBack_object {members : List (String × Json)}
    (hmembers : ∀ m ∈ members, ReadBack m.2) : ReadBack (.object members) := by
  intro level fuel rest hrest hfuel
  cases members with
  | nil =>
    rw [prettyChars] at hfuel ⊢
    obtain ⟨fuel, rfl⟩ : ∃ n, fuel = n + 1 :=
      Nat.exists_eq_succ_of_ne_zero (Nat.ne_zero_of_lt hfuel)
    unfold readValue
    rfl
  | cons m ms =>
    obtain ⟨k, v⟩ := m
    have hlength : (prettyChars (level + 1) v).length + (prettyMembers level ms).length + 2 ≤
        (prettyChars level (.object ((k, v) :: ms))).length := by
      simp [prettyChars, newline]
      omega
    obtain ⟨fuel, rfl⟩ : ∃ n, fuel = n + 1 := ⟨fuel - 1, by omega⟩
    have hv : ReadBack v := hmembers (k, v) List.mem_cons_self
    have hread := readMembers_prettyMembers k hv
      (fun x hx => hmembers x (List.mem_cons_of_mem _ hx)) level fuel rest (by omega)
    have hskip : ∀ tail, skipBlanks (newline (level + 1) ++ (quoted k ++ tail)) =
        '"' :: (k.toList.flatMap quotedChar ++ '"' :: tail) := by
      intro tail
      rw [skipBlanks_newline, quoted, List.cons_append, List.cons_append, skipBlanks_of_not rfl,
        List.append_assoc]
      rfl
    rw [prettyChars]
    simp only [List.cons_append, List.append_assoc]
    unfold readValue
    rw [skipBlanks_of_not (c := '\x7b') rfl]
    simp only [hskip, hread]
    rfl

/-! ### Whole texts -/

/-- **Every value is read back** if its numbers are words. -/
theorem readBack {v : Json} (hv : ∀ n ∈ v.numbers, n.IsWord) : ReadBack v := by
  induction v using nestedInduction with
  | null => exact readBack_null
  | bool b => exact readBack_bool b
  | number n =>
    obtain ⟨i, rfl, hi⟩ := hv n (by simp [numbers])
    exact readBack_int hi
  | string s => exact readBack_string s
  | array items ih =>
    rw [numbers, itemNumbers_eq] at hv
    have hitem : ∀ v ∈ items, ∀ n ∈ v.numbers, n.IsWord := fun v hmem n hn =>
      hv n (List.mem_flatMap.mpr ⟨v, hmem, hn⟩)
    exact readBack_array (fun v hmem => ih v hmem (hitem v hmem)) hitem
  | object members ih =>
    rw [numbers, memberNumbers_eq] at hv
    exact readBack_object fun m hmem => ih m hmem fun n hn =>
      hv n (List.mem_flatMap.mpr ⟨m, hmem, hn⟩)

/-- **What is printed is read**, and nothing stands behind it. -/
theorem readDocument_pretty {v : Json} (hv : ∀ n ∈ v.numbers, n.IsWord) :
    readDocument v.pretty = (.ofJson v, true) := by
  have hapart : Apart [] := fun c hc => by cases hc
  have hread := readBack hv 0 (2 * (prettyChars 0 v).length + 2) [] hapart (by omega)
  rw [List.append_nil] at hread
  rw [readDocument, pretty, String.toList_ofList, hread]
  rfl

end Json

end SmartForm
