import Mathlib.Data.List.TakeWhile
import SmartForm.Pattern.Parser

/-!
# Reading with a dollar sign behind

What does a dollar sign behind a pattern change? A reader that has come to the end of its
item before it comes to the end of the pattern reads the same, and leaves the dollar sign
unread (`SmartForm.Regex.Local`). That is so for escapes
(`SmartForm.Regex.local_escape?`) and for bracketed classes
(`SmartForm.Regex.local_bracketed?`).

Two things have to be said about it. A dollar sign is none of the characters that a reader
looks for beyond its item, as a question mark behind a repetition would be
(`SmartForm.Regex.Apart.ne_cons`). And a class may be read with more fuel than before, since
its fuel grows with what is left of the pattern, so that the same induction has to say that
more fuel makes no difference (`SmartForm.Regex.setRest?_append`).
-/

namespace SmartForm

namespace Regex

/-! ### Runs of characters -/

section Runs

variable {α : Type} {p : α → Bool}

/-- A mark that ends a run does so whatever follows. -/
theorem takeWhile_append_of_dropWhile {l rest : List α} {a : α} (h : l.dropWhile p = a :: rest)
    (ts : List α) : (l ++ ts).takeWhile p = l.takeWhile p := by
  induction l with
  | nil => cases h
  | cons b l ih =>
    cases hb : p b with
    | false => simp [hb]
    | true =>
      rw [List.dropWhile_cons_of_pos hb] at h
      simp [hb, ih h]

theorem dropWhile_append_of_dropWhile {l rest : List α} {a : α} (h : l.dropWhile p = a :: rest)
    (ts : List α) : (l ++ ts).dropWhile p = a :: rest ++ ts := by
  induction l with
  | nil => cases h
  | cons b l ih =>
    cases hb : p b with
    | false =>
      rw [List.dropWhile_cons_of_neg (by simp [hb])] at h
      rw [List.cons_append, List.dropWhile_cons_of_neg (by simp [hb]), ← List.cons_append, h]
    | true =>
      rw [List.dropWhile_cons_of_pos hb] at h
      rw [List.cons_append, List.dropWhile_cons_of_pos hb, ih h]

end Runs

/-! ### What stands apart -/

/-- Nothing but dollar signs. -/
def Apart (ts : List Char) : Prop := ∀ c ∈ ts, c = '$'

/-- A reader that reads the same whatever stands apart behind what it is given, and leaves
that unread. -/
def Local {α : Type} (f : List Char → Option (α × List Char)) : Prop :=
  ∀ ts, Apart ts → ∀ cs x rest, f cs = some (x, rest) → f (cs ++ ts) = some (x, rest ++ ts)

section Apart

variable {ts : List Char}

theorem apart_nil : Apart [] := by
  intro c hc
  cases hc

theorem apart_dollar : Apart ['$'] := fun _ hc => List.mem_singleton.mp hc

/-- Any other character belongs to what stands in front. -/
theorem Apart.eq_cons (hts : Apart ts) {cs rest : List Char} {c : Char} (hc : c ≠ '$')
    (h : cs ++ ts = c :: rest) : ∃ front, cs = c :: front ∧ rest = front ++ ts := by
  cases cs with
  | nil =>
    rw [List.nil_append] at h
    subst h
    exact absurd (hts c List.mem_cons_self) hc
  | cons d front =>
    obtain ⟨rfl, hrest⟩ := List.cons.inj h
    exact ⟨front, rfl, hrest.symm⟩

theorem Apart.ne_cons (hts : Apart ts) {cs : List Char} {c : Char} (hc : c ≠ '$')
    (h : ∀ front, cs ≠ c :: front) (rest : List Char) : cs ++ ts ≠ c :: rest := by
  intro heq
  obtain ⟨front, hfront, -⟩ := hts.eq_cons hc heq
  exact h front hfront

theorem Apart.ne_cons_cons (hts : Apart ts) {cs : List Char} {c d : Char} (hc : c ≠ '$')
    (hd : d ≠ '$') (h : ∀ front, cs ≠ c :: d :: front) (rest : List Char) :
    cs ++ ts ≠ c :: d :: rest := by
  intro heq
  obtain ⟨front, rfl, hrest⟩ := hts.eq_cons hc heq
  exact hts.ne_cons hd (fun inner hinner => h inner (by rw [hinner])) rest hrest.symm

theorem optionalMark_append (hts : Apart ts) {mark : Char} (hmark : mark ≠ '$') (cs : List Char) :
    optionalMark mark (cs ++ ts) = ((optionalMark mark cs).1, (optionalMark mark cs).2 ++ ts) := by
  cases cs with
  | nil =>
    cases ts with
    | nil => rfl
    | cons c ts =>
      have hc : c ≠ mark := by
        rw [hts c List.mem_cons_self]
        exact hmark.symm
      simp [optionalMark, hc]
  | cons c cs => by_cases hc : c = mark <;> simp [optionalMark, hc]

end Apart

/-! ### What is skipped -/

theorem skip_false (cs : List Char) : skip false cs = cs := by
  cases cs <;> simp [skip]

theorem skip_append_and (verbose : Bool) (cs ts : List Char) :
    (skip verbose cs ≠ [] → skip verbose (cs ++ ts) = skip verbose cs ++ ts) ∧
      (skip.skipComment verbose cs ≠ [] →
        skip.skipComment verbose (cs ++ ts) = skip.skipComment verbose cs ++ ts) := by
  induction cs with
  | nil => exact ⟨fun h => absurd rfl h, fun h => absurd rfl h⟩
  | cons c cs ih =>
    obtain ⟨hskip, hcomment⟩ := ih
    rw [List.cons_append, skip, skip, skip.skipComment, skip.skipComment]
    constructor
    · intro h
      split_ifs at h ⊢
      · rfl
      · exact hskip h
      · exact hcomment h
      · rfl
    · intro h
      split_ifs at h ⊢
      · exact hskip h
      · exact hcomment h

/-- Where something is left after skipping, whatever stands behind it is left as well. -/
theorem skip_append {verbose : Bool} {cs : List Char} (h : skip verbose cs ≠ [])
    (ts : List Char) : skip verbose (cs ++ ts) = skip verbose cs ++ ts :=
  (skip_append_and verbose cs ts).1 h

/-! ### Readers made of readers -/

section Combine

variable {α β : Type} {f g : List Char → Option (α × List Char)}

theorem local_none : Local fun _ => (none : Option (α × List Char)) := by
  intro ts hts cs x rest h
  cases h

theorem local_some (x : α) : Local fun cs => some (x, cs) := by
  intro ts hts cs y rest h
  cases h
  rfl

theorem Local.ite (p : Prop) [Decidable p] (hf : Local f) (hg : Local g) :
    Local fun cs => if p then f cs else g cs := by
  by_cases h : p
  · simpa only [if_pos h] using hf
  · simpa only [if_neg h] using hg

/-- A result beside what is left of the pattern. -/
theorem map_mk_append {o : Option α} {k : α → β} {x : β} {rest rest' : List Char}
    (h : (o.map fun a => (k a, rest)) = some (x, rest')) (ts : List Char) :
    (o.map fun a => (k a, rest ++ ts)) = some (x, rest' ++ ts) := by
  obtain ⟨a, ha, heq⟩ := Option.map_eq_some_iff.mp h
  cases heq
  rw [ha]
  rfl

/-- A reader whose result is put to use. -/
theorem Local.map (hf : Local f) (k : α → β) :
    Local fun cs => (f cs).map fun (x, rest) => (k x, rest) := by
  intro ts hts cs y rest h
  obtain ⟨⟨x, rest'⟩, hx, heq⟩ := Option.map_eq_some_iff.mp h
  cases heq
  simp only [hf ts hts cs x rest hx]
  rfl

/-- A reader behind something that is skipped. -/
theorem Local.skip (hf : Local f) (hnil : f [] = none) (verbose : Bool) :
    Local fun cs => f (skip verbose cs) := by
  intro ts hts cs x rest h
  have hne : Regex.skip verbose cs ≠ [] := by
    intro hskip
    simp only [hskip, hnil] at h
    cases h
  simp only [skip_append hne]
  exact hf ts hts _ _ _ h

end Combine

/-! ### Escapes -/

theorem escapedCode?_of_ne {d : Char} (hd : d ≠ '\x7b') (width : Nat) (ds : List Char) :
    escapedCode? width (d :: ds) =
      if ((d :: ds).take width).length = width then
        ((Digits.value? 16 ((d :: ds).take width)).bind char?).map fun c =>
          (c, (d :: ds).drop width)
      else none := by
  rw [escapedCode?]
  exact fun ds' heq => hd (List.cons.inj heq).1

theorem escapedCode?_nil {width : Nat} (hwidth : 0 < width) : escapedCode? width [] = none := by
  rw [escapedCode?]
  · exact if_neg (by simpa using Nat.ne_of_lt hwidth)
  · exact fun ds heq => by cases heq

theorem local_escapedCode? {width : Nat} (hwidth : 0 < width) : Local (escapedCode? width) := by
  intro ts hts cs c rest h
  cases cs with
  | nil =>
    rw [escapedCode?_nil hwidth] at h
    cases h
  | cons d ds =>
    by_cases hd : d = '\x7b'
    · subst hd
      rw [escapedCode?] at h
      split at h
      · cases h
      · next e rest' hdrop =>
        rw [List.cons_append, escapedCode?]
        simp only [takeWhile_append_of_dropWhile hdrop, dropWhile_append_of_dropWhile hdrop,
          List.cons_append]
        exact map_mk_append h ts
    · rw [escapedCode?_of_ne hd] at h
      rw [List.cons_append, escapedCode?_of_ne hd, ← List.cons_append]
      split at h
      · next hlength =>
        have hle : width ≤ (d :: ds).length := by
          rw [List.length_take] at hlength
          omega
        rw [List.take_append_of_le_length hle, if_pos hlength,
          List.drop_append_of_le_length hle]
        exact map_mk_append h ts
      · cases h

theorem local_property? (flags : Flags) (negated : Bool) : Local (property? flags negated) := by
  intro ts hts cs s rest h
  rw [property?] at h ⊢
  split at h
  · cases h
  · next hunicode =>
    rw [if_neg hunicode]
    have hne : skip flags.verbose cs ≠ [] := by
      intro hskip
      rw [hskip] at h
      cases h
    rw [skip_append hne]
    split at h
    · cases h
    · next inner hskip =>
      split at h
      · cases h
      · next e rest' hdrop =>
        simp only [hskip, List.cons_append, takeWhile_append_of_dropWhile hdrop,
          dropWhile_append_of_dropWhile hdrop]
        exact map_mk_append h ts
    · next c rest' hc hskip =>
      split at h
      · cases h
      · next hback =>
        rw [hskip, List.cons_append]
        simp only [if_neg hback]
        exact map_mk_append h ts

theorem local_boundary? (flags : Flags) : Local (boundary? flags) := by
  intro ts hts cs l rest h
  unfold boundary? at h
  simp only at h
  split at h
  · next inner =>
    rw [List.cons_append, boundary?]
    cases hskip : skip flags.verbose inner with
    | nil =>
      rw [hskip] at h
      cases h
    | cons c more =>
      have hne : skip flags.verbose inner ≠ [] := by simp [hskip]
      simp only [skip_append hne, hskip] at h ⊢
      simp only [List.cons_append]
      split at h
      · next hname =>
        rw [if_pos hname]
        split at h
        · next rest' hdrop =>
          simp only [← List.cons_append, takeWhile_append_of_dropWhile hdrop,
            dropWhile_append_of_dropWhile hdrop]
          exact map_mk_append h ts
        · cases h
      · next hname =>
        cases h
        rw [if_neg hname, List.cons_append]
  · next hbrace =>
    cases h
    rw [boundary?]
    exact hts.ne_cons (by decide) hbrace

/-- A byte or a character by its code. -/
theorem local_byteEscape (flags : Flags) : Local fun cs =>
    match escapedCode? 2 (skip flags.verbose cs) with
    | some (d, rest) =>
      let fixed := match skip flags.verbose cs with
        | '\x7b' :: _ => false
        | _ => true
      if !flags.unicode && fixed && 128 ≤ d.toNat then some (Atom.byte, rest)
      else some (.char d, rest)
    | none => none := by
  intro ts hts cs a rest h
  simp only at h ⊢
  split at h
  · next d rest' hd =>
    have hne : skip flags.verbose cs ≠ [] := by
      intro hskip
      rw [hskip, escapedCode?_nil Nat.zero_lt_two] at hd
      cases hd
    obtain ⟨e, inner, hskip⟩ := List.exists_cons_of_ne_nil hne
    rw [hskip] at h hd
    have hd' : escapedCode? 2 (e :: (inner ++ ts)) = some (d, rest' ++ ts) :=
      local_escapedCode? Nat.zero_lt_two ts hts (e :: inner) d rest' hd
    rw [skip_append hne, hskip, List.cons_append, hd']
    by_cases he : e = '\x7b'
    · subst he
      simp only [Bool.and_false, Bool.false_and, Bool.false_eq_true, if_false] at h ⊢
      cases h
      rfl
    · have hopen : ∀ more : List Char,
          (match e :: more with | '\x7b' :: _ => false | _ => true) = true := by
        intro more
        split
        · next heq => exact absurd (List.cons.inj heq).1 he
        · rfl
      simp only [hopen] at h ⊢
      split_ifs at h ⊢
      · cases h
        rfl
      · cases h
        rfl
  · cases h

theorem local_escape? (flags : Flags) : Local (escape? flags) := by
  suffices hcons : ∀ c, Local fun cs => escape? flags (c :: cs) by
    intro ts hts cs a rest h
    cases cs with
    | nil => cases h
    | cons c cs => exact hcons c ts hts cs a rest h
  intro c
  simp only [escape?]
  refine .ite _ local_none (.ite _ (local_byteEscape flags) ?_)
  refine .ite _ ?_ (.ite _ ?_ (.ite _ ?_ ?_))
  · exact ((local_escapedCode? (by decide)).skip (escapedCode?_nil (by decide)) _).map _
  · exact ((local_escapedCode? (by decide)).skip (escapedCode?_nil (by decide)) _).map _
  · exact (local_property? flags _).map _
  · cases CharClass.ofLetter? flags.unicode c.toLower with
    | some s => exact .ite _ (local_some _) (.ite _ (local_some _) local_none)
    | none =>
      refine .ite _ (local_some _) (.ite _ (local_some _) (.ite _ (local_some _) ?_))
      refine .ite _ ((local_boundary? flags).map _) ?_
      refine .ite _ (local_some _) (.ite _ (local_some _) (.ite _ (local_some _) ?_))
      cases controlEscape? c with
      | some d => exact local_some _
      | none => exact .ite _ (local_some _) local_none

/-! ### Bracketed classes -/

theorem local_setAtom? (flags : Flags) : Local (setAtom? flags) := by
  intro ts hts cs a rest h
  cases cs with
  | nil => cases h
  | cons c cs =>
    by_cases hc : c = '\\'
    · subst hc
      rw [setAtom?] at h
      rw [List.cons_append, setAtom?]
      exact local_escape? flags ts hts cs a rest h
    · rw [setAtom?] at h
      · cases h
        rw [List.cons_append, setAtom?]
        exact hc
      · exact hc

section Apart

variable {ts : List Char}

theorem bracketName?_of_not {flags : Flags} {cs : List Char} (h : ∀ inner, cs ≠ ':' :: inner) :
    bracketName? flags cs = none := by
  unfold bracketName?
  split
  · next inner => exact absurd rfl (h inner)
  · rfl

/-- The name of a class between brackets and colons is read the same, and is missed the same. -/
theorem bracketName?_append (flags : Flags) (hts : Apart ts) (cs : List Char) :
    bracketName? flags (cs ++ ts) =
      (bracketName? flags cs).map fun (s, rest) => (s, rest ++ ts) := by
  by_cases hcolon : ∃ inner, cs = ':' :: inner
  · obtain ⟨inner, rfl⟩ := hcolon
    rw [List.cons_append, bracketName?, bracketName?]
    simp only [optionalMark_append hts (show '^' ≠ '$' by decide)]
    generalize optionalMark '^' inner = opening
    obtain ⟨negated, name⟩ := opening
    cases hdrop : name.dropWhile (fun c => decide (c ≠ ':')) with
    | nil =>
      have hnil : (name ++ ts).dropWhile (fun c => decide (c ≠ ':')) = [] := by
        rw [List.dropWhile_eq_nil_iff] at hdrop ⊢
        intro c hc
        rcases List.mem_append.mp hc with hc | hc
        · exact hdrop c hc
        · rw [hts c hc]
          decide
      simp only [hnil]
      rfl
    | cons mark rest =>
      simp only [dropWhile_append_of_dropWhile hdrop, takeWhile_append_of_dropWhile hdrop]
      by_cases hclose : ∃ rest', mark :: rest = ':' :: ']' :: rest'
      · obtain ⟨rest', heq⟩ := hclose
        cases heq
        simp only [List.cons_append]
        generalize CharClass.ofBracketName? _ = class?
        cases class? <;> rfl
      · split
        · next rest' heq =>
          exact absurd heq (hts.ne_cons_cons (by decide) (by decide) (not_exists.mp hclose) _)
        · split
          · next rest' heq => exact absurd ⟨rest', heq⟩ hclose
          · rfl
  · rw [bracketName?_of_not (not_exists.mp hcolon), bracketName?_of_not]
    · rfl
    · exact hts.ne_cons (by decide) (not_exists.mp hcolon)

theorem setItem?_append (flags : Flags) (hts : Apart ts) {cs rest : List Char} {s : CodeSet}
    (h : setItem? flags cs = some (s, rest)) (hrest : rest ≠ []) :
    setItem? flags (cs ++ ts) = some (s, rest ++ ts) := by
  unfold setItem? at h ⊢
  split at h
  · cases h
  · next first rest' hfirst =>
    simp only [local_setAtom? flags ts hts cs first rest' hfirst]
    simp only at h
    by_cases hnil : skip flags.verbose rest' = []
    · rw [hnil] at h
      obtain ⟨s', -, heq⟩ := Option.map_eq_some_iff.mp h
      cases heq
      exact absurd rfl hrest
    · rw [skip_append hnil]
      by_cases hdash : ∃ after, skip flags.verbose rest' = '-' :: after
      · obtain ⟨after, hdash⟩ := hdash
        rw [hdash] at h ⊢
        simp only [List.cons_append] at h ⊢
        have hafter : skip flags.verbose after ≠ [] := by
          intro hnil'
          rw [hnil'] at h
          cases h
        rw [skip_append hafter]
        split at h
        · cases h
        · next more hclose =>
          simp only [hclose, List.cons_append]
          exact map_mk_append h ts
        · next more hhyphen =>
          simp only [hhyphen, List.cons_append]
          exact map_mk_append h ts
        · next hne hclose hhyphen =>
          split at h
          · next b rest'' hb =>
            have hb' := local_setAtom? flags ts hts _ _ _ hb
            split
            · next heq => exact absurd (List.append_eq_nil_iff.mp heq).1 hafter
            · next tail heq => exact absurd heq (hts.ne_cons (by decide) hclose _)
            · next tail heq => exact absurd heq (hts.ne_cons (by decide) hhyphen _)
            · simp only [hb']
              exact map_mk_append h ts
          · cases h
      · have halone : (singleItem? flags first).map (fun s => (s, skip flags.verbose rest')) =
            some (s, rest) := by
          split at h
          · next after heq => exact absurd ⟨after, heq⟩ hdash
          · exact h
        split
        · next after heq =>
          exact absurd heq (hts.ne_cons (by decide) (not_exists.mp hdash) _)
        · exact map_mk_append halone ts

theorem hyphens_append_and (verbose : Bool) (n : Nat) (cs ts : List Char) :
    ((hyphens verbose n cs).2 ≠ [] →
      hyphens verbose n (cs ++ ts) = ((hyphens verbose n cs).1, (hyphens verbose n cs).2 ++ ts)) ∧
    ((hyphens.afterComment verbose n cs).2 ≠ [] →
      hyphens.afterComment verbose n (cs ++ ts) =
        ((hyphens.afterComment verbose n cs).1, (hyphens.afterComment verbose n cs).2 ++ ts)) := by
  induction cs generalizing n with
  | nil => exact ⟨fun h => absurd rfl h, fun h => absurd rfl h⟩
  | cons c cs ih =>
    rw [List.cons_append, hyphens, hyphens, hyphens.afterComment, hyphens.afterComment]
    constructor
    · intro h
      split_ifs at h ⊢
      · exact (ih (n + 1)).1 h
      · exact (ih n).1 h
      · exact (ih n).2 h
      · rfl
    · intro h
      split_ifs at h ⊢
      · exact (ih n).1 h
      · exact (ih n).2 h

theorem hyphens_append {verbose : Bool} {n : Nat} {cs : List Char}
    (h : (hyphens verbose n cs).2 ≠ []) (ts : List Char) :
    hyphens verbose n (cs ++ ts) = ((hyphens verbose n cs).1, (hyphens verbose n cs).2 ++ ts) :=
  (hyphens_append_and verbose n cs ts).1 h

theorem setStart_append (flags : Flags) (hts : Apart ts) {cs : List Char}
    (h : (setStart flags cs).2 ≠ []) :
    setStart flags (cs ++ ts) = ((setStart flags cs).1, (setStart flags cs).2 ++ ts) := by
  unfold setStart at h ⊢
  split at h
  · next rest => simp only [List.cons_append, skip_append h]
  · next rest => simp only [List.cons_append, hyphens_append h]
  · next hclose hhyphen =>
    split
    · next rest heq => exact absurd heq (hts.ne_cons (by decide) hclose _)
    · next rest heq => exact absurd heq (hts.ne_cons (by decide) hhyphen _)
    · rfl

theorem setOpening_append (flags : Flags) (hts : Apart ts) {cs : List Char}
    (h : (setOpening flags cs).2.2 ≠ []) :
    setOpening flags (cs ++ ts) =
      ((setOpening flags cs).1, (setOpening flags cs).2.1, (setOpening flags cs).2.2 ++ ts) := by
  have hne : skip flags.verbose cs ≠ [] := by
    intro hnil
    rw [setOpening, hnil] at h
    exact h rfl
  unfold setOpening at h ⊢
  rw [skip_append hne, optionalMark_append hts (show '^' ≠ '$' by decide)]
  generalize optionalMark '^' (skip flags.verbose cs) = opening at h ⊢
  obtain ⟨negated, inner⟩ := opening
  cases negated with
  | false =>
    simp only [Bool.false_eq_true, if_false] at h ⊢
    rw [setStart_append flags hts h]
  | true =>
    have hinner : skip flags.verbose inner ≠ [] := by
      intro hnil
      simp only [if_true, hnil] at h
      exact h rfl
    simp only [if_true] at h ⊢
    rw [skip_append hinner, setStart_append flags hts h]

theorem setRest?_nil (fuel : Nat) (flags : Flags) (negated : Bool)
    (before : Option (Nested CodeSet × SetOp)) (done : List (Nested CodeSet)) :
    setRest? fuel flags negated before done [] = none := by
  cases fuel <;> simp [setRest?, skip]

theorem setRest?_append (flags : Flags) (hts : Apart ts) {n m : Nat} (hle : n ≤ m)
    {negated : Bool} {before : Option (Nested CodeSet × SetOp)} {done : List (Nested CodeSet)}
    {cs rest : List Char} {s : Nested CodeSet}
    (h : setRest? n flags negated before done cs = some (s, rest)) :
    setRest? m flags negated before done (cs ++ ts) = some (s, rest ++ ts) := by
  induction n generalizing m negated before done cs rest s with
  | zero =>
    rw [setRest?] at h
    cases h
  | succ n ih =>
    obtain ⟨m, rfl⟩ := Nat.exists_eq_add_of_lt hle
    have hnm : n ≤ n + m := Nat.le_add_right n m
    have hne : skip flags.verbose cs ≠ [] := by
      intro hnil
      rw [setRest?, hnil] at h
      cases h
    have hnext : ∀ op inner,
        ((applyOp flags before (operand done)).bind fun s =>
          setRest? n flags negated (some (s, op)) [] inner) = some (s, rest) →
        ((applyOp flags before (operand done)).bind fun s =>
          setRest? (n + m) flags negated (some (s, op)) [] (inner ++ ts)) =
            some (s, rest ++ ts) := by
      intro op inner hinner
      obtain ⟨s', hs, hrest⟩ := Option.bind_eq_some_iff.mp hinner
      exact Option.bind_eq_some_iff.mpr ⟨s', hs, ih hnm hrest⟩
    rw [setRest?] at h ⊢
    simp only at h ⊢
    rw [skip_append hne]
    split at h
    · cases h
    · next inner hclose =>
      rw [hclose]
      exact map_mk_append h ts
    · next inner hop =>
      rw [hop]
      exact hnext _ _ h
    · next inner hop =>
      rw [hop]
      exact hnext _ _ h
    · next inner hop =>
      rw [hop]
      exact hnext _ _ h
    · next inner hopen =>
      rw [hopen]
      simp only [List.cons_append, bracketName?_append flags hts]
      split at h
      · cases h
      · next s' rest' hname =>
        simp only [hname, Option.map_some]
        exact ih hnm h
      · next hname =>
        simp only [hname, Option.map_none]
        split at h
        · next s' rest' hinner =>
          have hinside : (setOpening flags inner).2.2 ≠ [] := by
            intro hnil
            rw [hnil, setRest?_nil] at hinner
            cases hinner
          rw [setOpening_append flags hts hinside]
          simp only [ih hnm hinner]
          exact ih hnm h
        · cases h
    · next hclose hinter hdiff hsymm hopen =>
      -- What stands behind is no mark of a class, so an item comes first with it as well.
      split at h
      · next s' rest' hitem =>
        have hrest' : rest' ≠ [] := by
          rintro rfl
          rw [setRest?_nil] at h
          cases h
        have hitem' := setItem?_append flags hts hitem hrest'
        split
        · next heq => exact absurd (List.append_eq_nil_iff.mp heq).1 hne
        · next heq => exact absurd heq (hts.ne_cons (by decide) hclose _)
        · next heq => exact absurd heq (hts.ne_cons_cons (by decide) (by decide) hinter _)
        · next heq => exact absurd heq (hts.ne_cons_cons (by decide) (by decide) hdiff _)
        · next heq => exact absurd heq (hts.ne_cons_cons (by decide) (by decide) hsymm _)
        · next heq => exact absurd heq (hts.ne_cons (by decide) hopen _)
        · rw [hitem']
          exact ih hnm h
      · cases h

theorem local_bracketed? (flags : Flags) : Local (bracketed? flags) := by
  intro ts hts cs s rest h
  unfold bracketed? at h ⊢
  simp only at h ⊢
  have hinside : (setOpening flags cs).2.2 ≠ [] := by
    intro hnil
    rw [hnil, setRest?_nil] at h
    cases h
  rw [setOpening_append flags hts hinside]
  refine setRest?_append flags hts ?_ h
  rw [List.length_append]
  exact Nat.add_le_add_right (Nat.mul_le_mul_left 2 (Nat.le_add_right _ _)) 2

end Apart

end Regex

end SmartForm
