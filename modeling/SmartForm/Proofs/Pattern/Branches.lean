import SmartForm.Proofs.Pattern.Reading

/-!
# Reading one branch between marks

A branch is read item by item, and what has been read lies on a pile on which only a
repetition looks, and only at the item on top. So a branch that can be read by itself is
read the same on top of other items (`SmartForm.Regex.branch?_append_of_item`), and with a
dollar sign behind it (`SmartForm.Regex.branch?_whole`): the dollar sign is one more item,
unless something skips it or makes it the end of a line.

Groups are read by the same functions with less fuel. Each ends at a bracket of its own, so
that the dollar sign behind the pattern never comes into it
(`SmartForm.Regex.branches?_append_and`).
-/

namespace SmartForm

namespace Regex

variable {ts : List Char}

/-! ### Repetitions -/

theorem trimStart_append {cs : List Char} (h : Text.trimStart cs ≠ []) (ts : List Char) :
    Text.trimStart (cs ++ ts) = Text.trimStart cs ++ ts := by
  obtain ⟨c, rest, hc⟩ := List.exists_cons_of_ne_nil h
  unfold Text.trimStart at hc ⊢
  rw [dropWhile_append_of_dropWhile hc, hc]

theorem count?_append {cs rest : List Char} {n : Option Nat} (h : count? cs = some (n, rest))
    (hrest : rest ≠ []) (ts : List Char) : count? (cs ++ ts) = some (n, rest ++ ts) := by
  have hbehind : rest = Text.trimStart ((Text.trimStart cs).dropWhile Char.isDigit) := by
    unfold count? at h
    simp only at h
    split_ifs at h
    · cases h
      rfl
    · cases h
      rfl
  have hdigits : (Text.trimStart cs).dropWhile Char.isDigit ≠ [] := by
    intro hnil
    rw [hnil] at hbehind
    exact hrest hbehind
  have hblanks : Text.trimStart cs ≠ [] := by
    intro hnil
    rw [hnil] at hdigits
    exact hdigits rfl
  unfold count? at h ⊢
  rw [trimStart_append hblanks]
  obtain ⟨c, behind, hc⟩ := List.exists_cons_of_ne_nil hdigits
  simp only [takeWhile_append_of_dropWhile hc, dropWhile_append_of_dropWhile hc, ← hc]
  rw [trimStart_append (hbehind ▸ hrest)]
  simp only at h ⊢
  split_ifs at h ⊢
  · cases h
    rfl
  · cases h
    rfl

theorem counts?_append {verbose : Bool} {cs rest : List Char} {low : Nat} {high : Option Nat}
    (hts : Apart ts) (h : counts? verbose cs = some (low, high, rest)) :
    counts? verbose (cs ++ ts) = some (low, high, rest ++ ts) := by
  unfold counts? at h ⊢
  split at h
  · next n rest' hcount =>
    cases h
    simp only [count?_append hcount (List.cons_ne_nil _ _), List.cons_append]
  · next n rest' hcount =>
    simp only [count?_append hcount (List.cons_ne_nil _ _), List.cons_append]
    split at h
    · next rest'' hskip =>
      cases h
      rw [skip_append (by simp [hskip]), hskip]
      rfl
    · next hclose =>
      split at h
      · next m rest'' hcount' =>
        split_ifs at h with hle
        cases h
        have hne : skip verbose rest' ≠ [] := by
          intro hnil
          rw [hnil] at hcount'
          cases hcount'
        rw [skip_append hne]
        split
        · next heq => exact absurd heq (hts.ne_cons (by decide) hclose _)
        · simp only [count?_append hcount' (List.cons_ne_nil _ _), List.cons_append, if_pos hle]
      · cases h
  · cases h

theorem repetition?_append {verbose : Bool} {cs : List Char}
    {found : Option (Nat × Option Nat × List Char)} (hts : Apart ts)
    (h : repetition? verbose cs = some found) :
    repetition? verbose (cs ++ ts) =
      some (found.map fun (low, high, rest) => (low, high, rest ++ ts)) := by
  have hlazy : ∀ rest, (optionalMark '?' (rest ++ ts)).2 = (optionalMark '?' rest).2 ++ ts := by
    intro rest
    rw [optionalMark_append hts (by decide)]
  unfold repetition? at h ⊢
  simp only at h ⊢
  obtain ⟨f, hf, rfl⟩ := Option.map_eq_some_iff.mp h
  split at hf
  · cases hf
    simp only [List.cons_append, Option.map_some, hlazy]
  · cases hf
    simp only [List.cons_append, Option.map_some, hlazy]
  · cases hf
    simp only [List.cons_append, Option.map_some, hlazy]
  · next rest =>
    obtain ⟨⟨low, high, rest'⟩, hcounts, rfl⟩ := Option.map_eq_some_iff.mp hf
    simp only [List.cons_append, counts?_append hts hcounts, Option.map_some, hlazy]
  · next hstar hplus hmark hbrace =>
    cases hf
    split
    · next heq => exact absurd heq (hts.ne_cons (by decide) hstar _)
    · next heq => exact absurd heq (hts.ne_cons (by decide) hplus _)
    · next heq => exact absurd heq (hts.ne_cons (by decide) hmark _)
    · next heq => exact absurd heq (hts.ne_cons (by decide) hbrace _)
    · rfl

/-! ### Groups -/

theorem readFlags?_append {flags flags' : Flags} {met met' cs rest : List Char}
    {negative dangling : Bool} {e : Char}
    (h : readFlags? flags met negative dangling cs = some (flags', met', e, rest))
    (ts : List Char) :
    readFlags? flags met negative dangling (cs ++ ts) = some (flags', met', e, rest ++ ts) := by
  induction cs generalizing flags met negative dangling with
  | nil => cases h
  | cons c cs ih =>
    rw [readFlags?] at h
    rw [List.cons_append, readFlags?]
    split_ifs at h ⊢
    · cases h
      rfl
    · exact ih h
    · split at h
      · exact ih h
      · cases h

theorem local_groupName? (names : List (List Char)) : Local (groupName? names) := by
  intro ts hts cs name rest h
  unfold groupName? at h ⊢
  simp only at h ⊢
  split at h
  · next e rest' c more hdrop htake =>
    simp only [dropWhile_append_of_dropWhile hdrop, takeWhile_append_of_dropWhile hdrop,
      List.cons_append, htake] at h ⊢
    split_ifs at h ⊢
    cases h
    rfl
  · cases h

/-- How a group opens is read the same. -/
theorem local_opening? (scope : Scope) : Local (opening? scope) := by
  intro ts hts cs o rest h
  unfold opening? at h ⊢
  split at h
  · next rest' => exact (local_groupName? scope.names).map _ ts hts _ _ _ h
  · next rest' => exact (local_groupName? scope.names).map _ ts hts _ _ _ h
  · next rest' hp hangle =>
    rw [List.cons_append]
    split
    · next heq =>
      exact absurd (List.cons.inj heq).2 (hts.ne_cons_cons (by decide) (by decide) hp _)
    · next heq => exact absurd (List.cons.inj heq).2 (hts.ne_cons (by decide) hangle _)
    · next heq =>
      cases heq
      split at h
      · next flags met rest'' hflags =>
        rw [readFlags?_append hflags]
        simp only
        split_ifs at h ⊢
        cases h
        rfl
      · next flags met e rest'' hclose hflags =>
        rw [readFlags?_append hflags]
        cases h
        split
        · next heq =>
          cases heq
          exact absurd rfl hclose
        · next heq =>
          cases heq
          rfl
        · next heq => cases heq
      · cases h
    · next hmark => exact absurd rfl (hmark (rest' ++ ts))
  · next hp hangle hmark =>
    cases h
    split
    · next heq => exact absurd heq (hts.ne_cons (by decide) hmark _)
    · next heq => exact absurd heq (hts.ne_cons (by decide) hmark _)
    · next heq => exact absurd heq (hts.ne_cons (by decide) hmark _)
    · rfl

/-! ### Atoms -/

theorem local_atom? (flags : Flags) : Local (atom? flags) := by
  intro ts hts cs r rest h
  unfold atom? at h
  split at h
  · cases h
  · next rest' =>
    rw [List.cons_append, atom?]
    split at h
    · next a rest'' ha =>
      simp only [local_escape? flags ts hts _ _ _ ha]
      exact map_mk_append h ts
    · cases h
  · next rest' =>
    rw [List.cons_append, atom?]
    exact (local_bracketed? flags).map (fun s => Nested.mk (chars s.val) s.depth) ts hts _ _ _ h
  · next rest' =>
    rw [List.cons_append, atom?]
    exact map_mk_append h ts
  · next rest' =>
    cases h
    rfl
  · next rest' =>
    cases h
    rfl
  · next c rest' hback hbracket hdot hcaret hdollar =>
    cases h
    rw [List.cons_append, atom?] <;> assumption

/-! ### Branches -/

/-- A step within a branch is the same with something apart behind it, and with something in
front that the branch does not look back at. -/
theorem item?_append (hts : Apart ts)
    {group group' : Scope → List Char → Option (List (Nested Regex) × Scope × List Char)}
    (hgroup : ∀ scope cs r inner rest, group scope cs = some (r, inner, ')' :: rest) →
      group' scope (cs ++ ts) = some (r, inner, ')' :: (rest ++ ts)))
    (hnil : ∀ scope r inner rest, group scope [] ≠ some (r, inner, ')' :: rest))
    {scope scope' : Scope} {done done' : List (Nested (Option Regex))} {cs rest : List Char}
    (h : item? group scope done cs = some (scope', done', rest))
    (before : List (Nested (Option Regex))) :
    item? group' scope (done ++ before) (cs ++ ts) =
      some (scope', done' ++ before, rest ++ ts) := by
  unfold item? at h
  split at h
  · next inner =>
    rw [List.cons_append, item?]
    -- A bracket with nothing behind it opens a group that is never closed.
    have hne : skip scope.flags.verbose inner ≠ [] := by
      intro hskip
      rw [hskip] at h
      simp only [opening?, Opening.scope] at h
      split at h
      · next hinside => exact hnil _ _ _ _ hinside
      · cases h
    rw [skip_append hne]
    split at h
    · cases h
    · next flags rest' hopening =>
      cases h
      rw [local_opening? scope ts hts _ _ _ hopening]
      rfl
    · next o rest' hno hopening =>
      rw [local_opening? scope ts hts _ _ _ hopening]
      split at h
      · next r inner' rest'' hinside =>
        cases h
        split
        · next heq => cases heq
        · next heq =>
          cases heq
          exact absurd rfl (hno _)
        · next heq =>
          cases heq
          rw [hgroup _ _ _ _ _ hinside]
          rfl
      · cases h
  · next hopen =>
    have hopen' := hts.ne_cons (by decide) hopen
    rw [item?]
    · split at h
      · cases h
      · next low high rest' hcounts =>
        rw [repetition?_append hts hcounts]
        split at h
        · cases h
          rfl
        · cases h
      · next hcounts =>
        rw [repetition?_append hts hcounts]
        obtain ⟨⟨r, rest'⟩, hatom, heq⟩ := Option.map_eq_some_iff.mp h
        cases heq
        simp only [Option.map_none, local_atom? _ ts hts _ _ _ hatom]
        rfl
    · exact hopen'

theorem branches?_nil_ne (n : Nat) (scope : Scope) (rs : List (Nested Regex)) (inner : Scope)
    (rest : List Char) : branches? n scope [] ≠ some (rs, inner, ')' :: rest) := by
  match n with
  | 0 => exact nofun
  | 1 => exact nofun
  | n + 2 => exact nofun

/-- One step within a branch, whatever stands in front of it and apart behind it, as long as
groups are read the same. -/
theorem branch?_append_of_item (hts : Apart ts) {n m : Nat}
    (hgroup : ∀ scope cs r inner rest, branches? n scope cs = some (r, inner, ')' :: rest) →
      branches? m scope (cs ++ ts) = some (r, inner, ')' :: (rest ++ ts)))
    {scope scope' : Scope} {done done' : List (Nested (Option Regex))} {cs rest : List Char}
    (hne : skip scope.flags.verbose cs ≠ [])
    (hclose : ∀ inner, skip scope.flags.verbose cs ≠ ')' :: inner)
    (hbar : ∀ inner, skip scope.flags.verbose cs ≠ '|' :: inner)
    (h : item? (branches? n) scope done (skip scope.flags.verbose cs) = some (scope', done', rest))
    (before : List (Nested (Option Regex))) :
    branch? (m + 1) scope (done ++ before) (cs ++ ts) =
      branch? m scope' (done' ++ before) (rest ++ ts) := by
  have hitem := item?_append hts hgroup (branches?_nil_ne n) h before
  rw [branch?, skip_append hne]
  split
  · next heq => exact absurd (List.append_eq_nil_iff.mp heq).1 hne
  · next heq => exact absurd heq (hts.ne_cons (by decide) hclose _)
  · next heq => exact absurd heq (hts.ne_cons (by decide) hbar _)
  · rw [hitem]

/-- What is read up to a closing bracket, or up to the next branch, is read the same whatever
stands apart behind it, and with more fuel. -/
theorem branches?_append_and (hts : Apart ts) (n : Nat) :
    (∀ scope cs r scope' rest, branches? n scope cs = some (r, scope', rest) → rest ≠ [] →
      ∀ m, n ≤ m → branches? m scope (cs ++ ts) = some (r, scope', rest ++ ts)) ∧
    ∀ scope done cs r scope' rest, branch? n scope done cs = some (r, scope', rest) → rest ≠ [] →
      ∀ m, n ≤ m → branch? m scope done (cs ++ ts) = some (r, scope', rest ++ ts) := by
  induction n with
  | zero =>
    refine ⟨fun _ _ _ _ _ h => ?_, fun _ _ _ _ _ _ h => ?_⟩
    · rw [branches?] at h
      cases h
    · rw [branch?] at h
      cases h
  | succ n ih =>
    obtain ⟨hbranches, hbranch⟩ := ih
    constructor
    · intro scope cs r scope' rest h hrest m hm
      obtain ⟨m, rfl⟩ := Nat.exists_eq_add_of_lt hm
      have hnm : n ≤ n + m := Nat.le_add_right n m
      rw [branches?] at h ⊢
      split at h
      · cases h
      · next r' inner rest' hfirst =>
        obtain ⟨⟨s, inner', rest''⟩, hs, heq⟩ := Option.map_eq_some_iff.mp h
        cases heq
        rw [hbranch _ _ _ _ _ _ hfirst (List.cons_ne_nil _ _) _ hnm]
        simp only [List.cons_append, hbranches _ _ _ _ _ hs hrest _ hnm]
        rfl
      · next r' inner rest' hbar hfirst =>
        cases h
        rw [hbranch _ _ _ _ _ _ hfirst hrest _ hnm]
        split
        · next heq => cases heq
        · next heq =>
          simp only [Option.some.injEq, Prod.mk.injEq] at heq
          exact absurd heq.2.2 (hts.ne_cons (by decide) hbar _)
        · next heq =>
          cases heq
          rfl
    · intro scope done cs r scope' rest h hrest m hm
      obtain ⟨m, rfl⟩ := Nat.exists_eq_add_of_lt hm
      have hnm : n ≤ n + m := Nat.le_add_right n m
      have hne : skip scope.flags.verbose cs ≠ [] := by
        intro hnil
        rw [branch?, hnil] at h
        cases h
        exact hrest rfl
      rw [branch?] at h
      split at h
      · next hnil => exact absurd hnil hne
      · next rest' hclose =>
        cases h
        rw [branch?, skip_append hne, hclose]
        rfl
      · next rest' hbar =>
        cases h
        rw [branch?, skip_append hne, hbar]
        rfl
      · next hclose hbar =>
        split at h
        · next inner done' rest' hitem =>
          have hstep := branch?_append_of_item hts
            (fun scope cs r inner rest hinside =>
              hbranches scope cs r inner _ hinside (List.cons_ne_nil _ _) (n + m) hnm)
            hne hclose hbar hitem []
          rw [List.append_nil, List.append_nil] at hstep
          rw [hstep]
          exact hbranch _ _ _ _ _ _ h hrest _ hnm
        · cases h

theorem branches?_append_close (hts : Apart ts) {n m : Nat} (hnm : n ≤ m) {scope inner : Scope}
    {cs rest : List Char} {rs : List (Nested Regex)}
    (h : branches? n scope cs = some (rs, inner, ')' :: rest)) :
    branches? m scope (cs ++ ts) = some (rs, inner, ')' :: (rest ++ ts)) :=
  (branches?_append_and hts n).1 scope cs rs inner _ h (List.cons_ne_nil _ _) m hnm

section Marks

variable {group : Scope → List Char → Option (List (Nested Regex) × Scope × List Char)}
  {scope : Scope}

theorem item?_caret (hline : scope.flags.multiLine = false) (done : List (Nested (Option Regex)))
    (cs : List Char) :
    item? group scope done ('^' :: cs) =
      some (scope, ⟨some (.look .textStart), 0⟩ :: done, cs) := by
  simp [item?, repetition?, atom?, hline]

theorem item?_dollar (hline : scope.flags.multiLine = false) (done : List (Nested (Option Regex)))
    (cs : List Char) :
    item? group scope done ('$' :: cs) =
      some (scope, ⟨some (.look .textEnd), 0⟩ :: done, cs) := by
  simp [item?, repetition?, atom?, hline]

end Marks

/-- **A branch that takes up a whole pattern** is read to a list of expressions. With a dollar
sign behind the pattern, the end of the text is one more of them. -/
theorem branch?_whole {n : Nat} {scope scope' : Scope} {done : List (Nested (Option Regex))}
    {cs : List Char} {r : Nested Regex} (h : branch? n scope done cs = some (r, scope', []))
    (hverbose : scope'.flags.verbose = false) (hline : scope'.flags.multiLine = false) :
    ∃ read, r = sequence read ∧ ∀ before m, n ≤ m →
      branch? m scope (done ++ before) cs = some (sequence (read ++ before), scope', []) ∧
      branch? (m + 1) scope (done ++ before) (cs ++ ['$']) =
        some (sequence (⟨some (.look .textEnd), 0⟩ :: (read ++ before)), scope', []) := by
  induction n generalizing scope done cs with
  | zero => cases h
  | succ n ih =>
    rw [branch?] at h
    split at h
    · next hnil =>
      cases h
      refine ⟨done, rfl, fun before m hm => ?_⟩
      obtain ⟨m, rfl⟩ := Nat.exists_eq_add_of_lt hm
      -- Nothing is skipped at the end, so the pattern is read up and the dollar sign is left.
      rw [hverbose, skip_false] at hnil
      subst hnil
      constructor
      · simp [branch?, skip_false, hverbose]
      · simp [branch?, skip_false, hverbose, item?_dollar hline]
    · cases h
    · cases h
    · next hnil hclose hbar =>
      split at h
      · next inner done' rest hitem =>
        obtain ⟨read, hr, hread⟩ := ih h
        refine ⟨read, hr, fun before m hm => ?_⟩
        obtain ⟨m, rfl⟩ := Nat.exists_eq_add_of_lt hm
        have hnm : n ≤ n + m := Nat.le_add_right n m
        constructor
        · have hstep := branch?_append_of_item apart_nil
            (fun _ _ _ _ _ => branches?_append_close apart_nil hnm) hnil hclose hbar hitem before
          rw [List.append_nil, List.append_nil] at hstep
          rw [hstep]
          exact (hread before (n + m) hnm).1
        · rw [branch?_append_of_item apart_dollar
            (fun _ _ _ _ _ => branches?_append_close apart_dollar (Nat.le_succ_of_le hnm)) hnil
            hclose hbar hitem before]
          exact (hread before (n + m) hnm).2
      · cases h

/-! ### Marks at the ends -/

/-- A pattern with a circumflex in front of it or not, and with a dollar sign behind it or
not. -/
def marked (caret dollar : Bool) (cs : List Char) : List Char :=
  (if caret then ['^'] else []) ++ cs ++ (if dollar then ['$'] else [])

theorem branch?_caret (n : Nat) (cs : List Char) :
    branch? (n + 1) {} [] ('^' :: cs) = branch? n {} [⟨some (.look .textStart), 0⟩] cs := by
  simp [branch?, skip, item?_caret]

theorem ofPattern?_of_branch? {cs : List Char} {r : Nested Regex} (scope : Scope)
    (h : branch? (2 * cs.length + 1) {} [] cs = some (r, scope, [])) :
    ofPattern? (String.ofList cs) = some r := by
  rw [ofPattern?, String.toList_ofList, branches?, h]
  rfl

/-- The items of a branch with marks at its ends. What has been read last comes first. -/
def markedItems (caret dollar : Bool) (read : List (Nested (Option Regex))) :
    List (Nested (Option Regex)) :=
  (if dollar then [⟨some (.look .textEnd), 0⟩] else []) ++ read ++
    (if caret then [⟨some (.look .textStart), 0⟩] else [])

/-- **A pattern that is one branch** keeps its items with marks at its ends. -/
theorem ofPattern?_of_branch {cs : List Char} {r : Nested Regex} {scope : Scope}
    (h : branch? (2 * cs.length + 1) {} [] cs = some (r, scope, []))
    (hverbose : scope.flags.verbose = false) (hline : scope.flags.multiLine = false) :
    ∃ read, ∀ caret dollar : Bool,
      ofPattern? (String.ofList (marked caret dollar cs)) =
        some (sequence (markedItems caret dollar read)) := by
  obtain ⟨read, hr, hread⟩ := branch?_whole h hverbose hline
  refine ⟨read, fun caret dollar => ofPattern?_of_branch? scope ?_⟩
  cases caret <;> cases dollar
  · simpa [marked, markedItems] using (hread [] _ (Nat.le_refl _)).1
  · simpa [marked, markedItems, Nat.mul_add] using (hread [] (2 * cs.length + 2) (by omega)).2
  · simpa [marked, markedItems, branch?_caret] using
      (hread [⟨some (.look .textStart), 0⟩] (2 * (cs.length + 1)) (by omega)).1
  · simpa [marked, markedItems, branch?_caret, Nat.mul_add] using
      (hread [⟨some (.look .textStart), 0⟩] (2 * (cs.length + 1) + 1) (by omega)).2

end Regex

end SmartForm
