import Mathlib.Data.List.Induction
import SmartForm.Schema.Form

/-!
# Places in a schema

A field stands at a **place**: the number of its row and of its column in the row, then, if
that is a container, the number of a row in it, and so on. The order of places is the order of
the document: of two fields the one comes first whose numbers are less where they first
differ.

The fields of a schema are those at all places, in the order of the places
(`SmartForm.FieldSpec.lists_leavesOfRows`). The one thing to know is that rows, columns and
containers are all the same here. Each is a list of parts, and the places in the whole are the
places in the parts with the number of the part in front
(`SmartForm.Place.Lists.branch`).
-/

namespace SmartForm

/-! ### Fields in fields -/

/-- A field stands in the rows of another one. -/
def FieldSpec.IsIn (g f : FieldSpec) : Prop :=
  ∃ rows, f.rows = some rows ∧ ∃ r ∈ rows, ∃ c ∈ r.columns, c.field = some g

theorem FieldSpec.sizeOf_lt {f g : FieldSpec} (h : g.IsIn f) : sizeOf g < sizeOf f := by
  obtain ⟨rows, hrows, r, hr, c, hc, hg⟩ := h
  obtain ⟨columns⟩ := r
  obtain ⟨span, field⟩ := c
  obtain rfl : field = some g := hg
  have hr' := List.sizeOf_lt_of_mem hr
  have hc' := List.sizeOf_lt_of_mem hc
  cases f
  obtain rfl : _ = some rows := hrows
  simp only [FieldSpec.mk.sizeOf_spec, Row.mk.sizeOf_spec, Column.mk.sizeOf_spec,
    Option.some.sizeOf_spec] at hr' hc' ⊢
  omega

/-- **What holds of a field as soon as it holds of all fields in it** holds of all fields. -/
theorem FieldSpec.nestedInduction {P : FieldSpec → Prop}
    (h : ∀ f : FieldSpec, (∀ g, g.IsIn f → P g) → P f) (f : FieldSpec) : P f :=
  h f fun g _hg => FieldSpec.nestedInduction h g
termination_by sizeOf f
decreasing_by exact FieldSpec.sizeOf_lt _hg

/-! ### Places -/

/-- A place: the number of a row, the number of a column in it, and so on. -/
abbrev Place := List Nat

namespace Place

/-- What stands in the whole of some parts, given what stands in each of them. -/
def branch {α β : Type} (parts : List α) (inPart : α → Place → Option β) : Place → Option β
  | [] => none
  | n :: p => parts[n]?.bind fun x => inPart x p

/-- **A list is what stands somewhere**, in the order of the places. -/
def Lists {β : Type} (stands : Place → Option β) (xs : List β) : Prop :=
  ∃ ps : List Place, ps.Pairwise (· < ·) ∧ (∀ p, p ∈ ps ↔ (stands p).isSome) ∧
    ps.map stands = xs.map some

variable {α β : Type}

theorem lists_nil {stands : Place → Option β} (h : ∀ p, stands p = none) : Lists stands [] :=
  ⟨[], List.Pairwise.nil, fun p => by simp [h p], rfl⟩

theorem lists_singleton (x : β) : Lists (fun p => if p = [] then some x else none) [x] := by
  refine ⟨[[]], List.pairwise_singleton .., fun p => ?_, rfl⟩
  by_cases hp : p = [] <;> simp [hp]

/-- What stands somewhere stands in one of the parts. -/
theorem exists_of_isSome_branch {parts : List α} {inPart : α → Place → Option β} {p : Place}
    (h : (branch parts inPart p).isSome) : ∃ n q, p = n :: q ∧ n < parts.length := by
  cases p with
  | nil => cases h
  | cons n q =>
    refine ⟨n, q, rfl, ?_⟩
    by_contra hn
    rw [branch, List.getElem?_eq_none (Nat.le_of_not_lt hn)] at h
    cases h

/-- Another part behind the others adds the places in it. -/
theorem branch_append_cons (parts : List α) (inPart : α → Place → Option β) (x : α) (n : Nat)
    (q : Place) :
    branch (parts ++ [x]) inPart (n :: q) =
      if n = parts.length then inPart x q else branch parts inPart (n :: q) := by
  rw [branch, branch, List.getElem?_append]
  by_cases hn : n = parts.length
  · simp [hn]
  · by_cases hlt : n < parts.length
    · simp [hn, hlt]
    · have hgt : n - parts.length ≠ 0 := by omega
      simp [hn, hlt, hgt]

/-- **The whole lists what its parts list**, one part after the other. -/
theorem Lists.branch {parts : List α} {inPart : α → Place → Option β} {items : α → List β}
    (h : ∀ x ∈ parts, Lists (inPart x) (items x)) :
    Lists (branch parts inPart) (parts.flatMap items) := by
  induction parts using List.reverseRecOn with
  | nil => exact lists_nil fun p => by cases p <;> rfl
  | append_singleton parts x ih =>
    obtain ⟨ps, hps, hmem, hmap⟩ := ih fun y hy => h y (List.mem_append_left _ hy)
    obtain ⟨qs, hqs, hmem', hmap'⟩ := h x (List.mem_append_right _ List.mem_cons_self)
    -- The places in the earlier parts stay, and those in the last part come behind them.
    have hearlier : ∀ p ∈ ps, ∃ n q, p = n :: q ∧ n < parts.length := fun p hp =>
      exists_of_isSome_branch ((hmem p).mp hp)
    refine ⟨ps ++ qs.map (parts.length :: ·), ?_, fun p => ?_, ?_⟩
    · refine List.pairwise_append.mpr ⟨hps, ?_, fun p hp q hq => ?_⟩
      · exact List.pairwise_map.mpr (hqs.imp fun hlt => List.Lex.cons hlt)
      · obtain ⟨n, p, rfl, hn⟩ := hearlier p hp
        obtain ⟨q, -, rfl⟩ := List.mem_map.mp hq
        exact List.Lex.rel hn
    · rw [List.mem_append]
      cases p with
      | nil =>
        refine ⟨?_, fun h => by cases h⟩
        rintro (hp | hp)
        · obtain ⟨n, q, hnil, -⟩ := hearlier [] hp
          cases hnil
        · obtain ⟨q, -, hnil⟩ := List.mem_map.mp hp
          cases hnil
      | cons n q =>
        rw [branch_append_cons, hmem]
        by_cases hn : n = parts.length
        · rw [if_pos hn, ← hmem', hn]
          refine ⟨?_, fun hq => Or.inr (List.mem_map_of_mem hq)⟩
          rintro (hp | hq)
          · obtain ⟨n', q', hcons, hlt⟩ := exists_of_isSome_branch hp
            cases hcons
            exact absurd hlt (Nat.lt_irrefl _)
          · obtain ⟨q', hq', hcons⟩ := List.mem_map.mp hq
            cases hcons
            exact hq'
        · rw [if_neg hn, or_iff_left]
          intro hq
          obtain ⟨q', -, hcons⟩ := List.mem_map.mp hq
          cases hcons
          exact hn rfl
    · rw [List.map_append, List.map_map, List.flatMap_append, List.map_append, ← hmap,
        List.flatMap_singleton, ← hmap']
      congr 1
      · refine List.map_congr_left fun p hp => ?_
        obtain ⟨n, q, rfl, hn⟩ := hearlier p hp
        rw [branch_append_cons, if_neg (Nat.ne_of_lt hn)]
      · refine List.map_congr_left fun q _ => ?_
        exact (branch_append_cons ..).trans (if_pos rfl)

end Place

/-! ### Fields at places -/

/-- The field that stands at a place in some rows. What is not a container has no places in
it. -/
def FieldSpec.atPlace? (rows : List (Row FieldSpec)) : Place → Option FieldSpec
  | i :: j :: p =>
    match (rows[i]?.bind fun r => r.columns[j]?).bind Column.field with
    | some f =>
      if f.kind.isContainer then atPlace? (f.rows.getD []) p
      else if p = [] then some f else none
    | none => none
  | _ => none

namespace FieldSpec

/-- The field at a place in a field: the field itself, if it is no container. -/
def inField (f : FieldSpec) (p : Place) : Option FieldSpec :=
  if f.kind.isContainer then atPlace? (f.rows.getD []) p else if p = [] then some f else none

/-- The field at a place in a column. -/
def inColumn (c : Column FieldSpec) (p : Place) : Option FieldSpec :=
  c.field.bind fun f => inField f p

theorem atPlace?_eq_branch (rows : List (Row FieldSpec)) :
    atPlace? rows = Place.branch rows fun r => Place.branch r.columns inColumn := by
  funext p
  match p with
  | [] => rfl
  | [i] => cases h : rows[i]? <;> simp [atPlace?, Place.branch, h]
  | i :: j :: p =>
    rw [atPlace?, Place.branch]
    cases hr : rows[i]? with
    | none => rfl
    | some r =>
      rw [Option.bind_some, Option.bind_some, Place.branch]
      cases hc : r.columns[j]? with
      | none => rfl
      | some c =>
        rw [Option.bind_some, Option.bind_some, inColumn]
        cases c.field <;> rfl

/-! ### The walk -/

theorem leavesOfColumns_eq (columns : List (Column FieldSpec)) :
    leavesOfColumns columns = columns.flatMap fun c => c.field.elim [] leaves := by
  induction columns with
  | nil => rw [leavesOfColumns]; rfl
  | cons c columns ih =>
    obtain ⟨span, field⟩ := c
    cases field <;> simp [leavesOfColumns, ih]

theorem leavesOfRows_eq (rows : List (Row FieldSpec)) :
    leavesOfRows rows = rows.flatMap fun r => leavesOfColumns r.columns := by
  induction rows with
  | nil => rw [leavesOfRows]; rfl
  | cons r rows ih => simp [leavesOfRows, ih]

theorem leaves_eq (f : FieldSpec) :
    f.leaves = if f.kind.isContainer then leavesOfRows (f.rows.getD []) else [f] := by
  obtain ⟨key, kind, label, initial, choices, binding, rules, rows, placeholder, hint,
    disabled⟩ := f
  cases rows <;> simp [leaves, leavesOfRows?, leavesOfRows]

theorem lists_rows {rows : List (Row FieldSpec)}
    (h : ∀ r ∈ rows, ∀ c ∈ r.columns, ∀ f, c.field = some f → Place.Lists (inField f) f.leaves) :
    Place.Lists (atPlace? rows) (leavesOfRows rows) := by
  rw [atPlace?_eq_branch, leavesOfRows_eq]
  refine Place.Lists.branch fun r hr => ?_
  rw [leavesOfColumns_eq]
  refine Place.Lists.branch fun c hc => ?_
  cases hf : c.field with
  | none => exact Place.lists_nil fun p => by rw [inColumn, hf]; rfl
  | some f =>
    have hcolumn : inColumn c = inField f := by
      funext p
      rw [inColumn, hf]
      rfl
    rw [hcolumn]
    exact h r hr c hc f hf

theorem lists_inField (f : FieldSpec) : Place.Lists (inField f) f.leaves := by
  induction f using FieldSpec.nestedInduction with
  | h f ih =>
    rw [leaves_eq]
    by_cases hf : f.kind.isContainer
    · have hin : inField f = atPlace? (f.rows.getD []) := by
        funext p
        rw [inField, if_pos hf]
      rw [hin, if_pos hf]
      refine lists_rows fun r hr c hc g hg => ih g ?_
      cases hrows : f.rows with
      | none =>
        rw [hrows] at hr
        cases hr
      | some rows =>
        rw [hrows] at hr
        exact ⟨rows, hrows, r, hr, c, hc, hg⟩
    · have hin : inField f = fun p => if p = [] then some f else none := by
        funext p
        rw [inField, if_neg hf]
      rw [hin, if_neg hf]
      exact Place.lists_singleton f

/-- **The fields of some rows are those at all places**, in the order of the document. -/
theorem lists_leavesOfRows (rows : List (Row FieldSpec)) :
    Place.Lists (atPlace? rows) (leavesOfRows rows) :=
  lists_rows fun _ _ _ _ f _ => lists_inField f

end FieldSpec

end SmartForm
