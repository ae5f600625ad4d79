import SmartForm.Proofs.Loading.Sound

/-!
# Cells set one after the other

Values that are written together are written one after the other
(`SmartForm.Board.setAll`), and each of them cascades over the children of its cell. So
the order counts, and this module says how.

* For **choices** it does not. A lane without its cell
  (`SmartForm.Lane.withoutCell`) hears of its parent and of nothing else, so only the
  value that the parent is set to matters (`SmartForm.Board.withoutCell_setAll`).
* For **values** it does. What stands in a cell in the end is what was written last,
  be it the value for the cell itself (`SmartForm.Board.value?_setAll_of_set`) or
  nothing, because the parent was set (`SmartForm.Board.value?_setAll_of_parent`).
-/

namespace SmartForm

namespace Lane

/-- A lane but for its cell. -/
def withoutCell (x : Lane) : Lane := { x with cell := none }

theorem withoutCell_cascade (x : Lane) (v : Json) :
    (x.cascade v).withoutCell = x.withoutCell.cascade v := by
  cases h : x.link with
  | none => simp [cascade, withoutCell, h]
  | some l => simp [cascade, withoutCell, renewal, h]

end Lane

namespace Board

/-- The key of the cell that the choices of a cell depend on. -/
def parentOf? (b : Board) (key : String) : Option String := (b.lane key).link.map Link.parent

/-- The value of a cell. -/
def value? (b : Board) (key : String) : Option Json := (b.cell? key).map Cell.value

/-- Sets cells one after the other. -/
def setAll (b : Board) (ws : List (String × Json)) : Board :=
  ws.foldl (fun b w => b.set w.1 w.2) b

variable {b : Board}

/-! ### One cell -/

theorem parentOf?_of_frame {b' : Board} (h : b'.frame = b.frame) (k : String) :
    b'.parentOf? k = b.parentOf? k := by
  have hp := congrArg (Option.map Prod.fst) (map_linkTo?_of_frame h k)
  rwa [Option.map_map, Option.map_map] at hp

theorem isAlive_eq_isSome_value? (b : Board) (k : String) :
    b.isAlive k = (b.value? k).isSome := Option.isSome_map.symm

theorem parentOf?_ne_self (hb : b.Wired) (k : String) : b.parentOf? k ≠ some k := by
  intro h
  obtain ⟨l, hl, hp⟩ := Option.map_eq_some_iff.mp h
  obtain ⟨hmem, hc⟩ := (linkTo?_eq_some hb.children).mp hl
  exact hb.apart l hmem (hp.trans hc.symm)

theorem withoutCell_set (hb : b.Wired) (p : String) (v : Json) (k : String) :
    ((b.set p v).lane k).withoutCell =
      if b.parentOf? k = some p then (b.lane k).withoutCell.cascade v
      else (b.lane k).withoutCell := by
  rw [lane_set hb, ← parentOf?]
  by_cases hk : k = p
  · have hne : b.parentOf? k ≠ some p := fun h => parentOf?_ne_self hb k (h.trans (hk ▸ rfl))
    rw [if_pos hk, if_neg hne]
    rfl
  · rw [if_neg hk]
    split
    · exact Lane.withoutCell_cascade _ v
    · rfl

theorem value?_set (hb : b.Wired) (p : String) (v : Json) (k : String) :
    (b.set p v).value? k =
      if k = p then (b.value? k).map fun _ => v
      else if b.parentOf? k = some p then (b.value? k).map fun _ => .null
      else b.value? k := by
  have hcell : (b.set p v).value? k = ((b.set p v).lane k).cell.map Cell.value := rfl
  have hvalue : b.value? k = (b.lane k).cell.map Cell.value := rfl
  rw [hcell, hvalue, lane_set hb, ← parentOf?]
  split
  · rw [Lane.write]
    cases (b.lane k).cell <;> rfl
  · split
    next hp =>
      obtain ⟨l, hl, -⟩ := Option.map_eq_some_iff.mp hp
      rw [Lane.cascade, hl]
      cases (b.lane k).cell <;> rfl
    · rfl

/-! ### Several cells -/

@[simp] theorem frame_setAll (b : Board) (ws : List (String × Json)) :
    (b.setAll ws).frame = b.frame := by
  induction ws generalizing b with
  | nil => rfl
  | cons w ws ih => exact (ih _).trans (frame_set b w.1 w.2)

theorem Wired.setAll (hb : b.Wired) (ws : List (String × Json)) : (b.setAll ws).Wired :=
  hb.of_frame (frame_setAll b ws)

theorem Sound.setAll (hb : b.Sound) (ws : List (String × Json)) : (b.setAll ws).Sound := by
  induction ws generalizing b with
  | nil => exact hb
  | cons w ws ih => exact ih (hb.set w.1 w.2)

theorem setAll_append (b : Board) (ws ws' : List (String × Json)) :
    b.setAll (ws ++ ws') = (b.setAll ws).setAll ws' := List.foldl_append

/-! ### Values by key

Values that are written together come from a table that has a value for some keys; the
keys say in which order they are written. -/

/-- The keys for which a table has a value, each with its value. -/
def keyed (keys : List String) (table : String → Option Json) : List (String × Json) :=
  keys.filterMap fun k => (table k).map fun v => (k, v)

theorem keyed_cons (k : String) (keys : List String) (table : String → Option Json) :
    keyed (k :: keys) table = ((table k).map fun v => (k, v)).toList ++ keyed keys table := by
  rw [keyed, List.filterMap_cons]
  cases table k <;> rfl

theorem keyed_append (keys keys' : List String) (table : String → Option Json) :
    keyed (keys ++ keys') table = keyed keys table ++ keyed keys' table :=
  List.filterMap_append

theorem map_fst_keyed (keys : List String) (table : String → Option Json) :
    (keyed keys table).map Prod.fst = keys.filter fun k => (table k).isSome := by
  induction keys with
  | nil => rfl
  | cons k keys ih =>
    rw [keyed_cons, List.map_append, ih]
    cases h : table k <;> simp [h]

theorem lookup_keyed (keys : List String) (table : String → Option Json) (k : String) :
    (keyed keys table).lookup k = if k ∈ keys then table k else none := by
  induction keys with
  | nil => rfl
  | cons j keys ih =>
    rw [keyed_cons, List.lookup_append, ih]
    by_cases hk : k = j
    · subst hk
      cases h : table k <;> simp
    · have hb : (k == j) = false := beq_false_of_ne hk
      cases h : table j <;> simp [List.lookup_cons, hb, hk]

/-- A table with one value gives at most that one. -/
theorem keyed_single {keys : List String} (hkeys : keys.Nodup) (key : String) (v : Json) :
    keyed keys (fun k => if k = key then some v else none) =
      if key ∈ keys then [(key, v)] else [] := by
  induction keys with
  | nil => rfl
  | cons k keys ih =>
    obtain ⟨hk, hrest⟩ := List.nodup_cons.mp hkeys
    rw [keyed_cons, ih hrest]
    by_cases h : k = key
    · subst h
      simp [hk]
    · simp [h, Ne.symm h]

theorem setAll_keyed (b : Board) (keys : List String) (table : String → Option Json) :
    b.setAll (keyed keys table) = keys.foldl (fun b k =>
      match table k with
      | some v => b.set k v
      | none => b) b := by
  induction keys generalizing b with
  | nil => rfl
  | cons k keys ih =>
    rw [keyed_cons, setAll_append, ih, List.foldl_cons]
    cases table k <;> rfl

/-! ### What comes of it -/

/-- **Choices hear of the parent alone**: of cells set one after the other, each at most
once, only the parent has an effect on the choices of a cell. -/
theorem withoutCell_setAll (hb : b.Wired) {ws : List (String × Json)}
    (hws : (ws.map Prod.fst).Nodup) (k : String) :
    ((b.setAll ws).lane k).withoutCell =
      match (b.parentOf? k).bind fun p => ws.lookup p with
      | some v => (b.lane k).withoutCell.cascade v
      | none => (b.lane k).withoutCell := by
  induction ws generalizing b with
  | nil => cases b.parentOf? k <;> rfl
  | cons w ws ih =>
    obtain ⟨p, v⟩ := w
    obtain ⟨hp, hrest⟩ := List.nodup_cons.mp hws
    have hstep := ih (hb.set p v) hrest
    rw [withoutCell_set hb, parentOf?_of_frame (frame_set b p v)] at hstep
    refine hstep.trans ?_
    cases hk : b.parentOf? k with
    | none => rfl
    | some q =>
      by_cases hq : q = p
      · -- The parent is the cell that is set first, and it is not set again.
        subst hq
        have hnone : ws.lookup q = none := lookup_eq_none_of_not_mem hp
        simp [hnone]
      · have hne : (q == p) = false := beq_false_of_ne hq
        simp [List.lookup_cons, hne, hq]

/-- Cells set one after the other leave the value of a cell alone that is not among them
and whose parent is not. -/
theorem value?_setAll_of_not_mem (hb : b.Wired) {ws : List (String × Json)} {k : String}
    (hk : k ∉ ws.map Prod.fst) (hp : ∀ p, b.parentOf? k = some p → p ∉ ws.map Prod.fst) :
    (b.setAll ws).value? k = b.value? k := by
  induction ws generalizing b with
  | nil => rfl
  | cons w ws ih =>
    rw [List.map_cons, List.mem_cons, not_or] at hk
    have hparent : b.parentOf? k ≠ some w.1 := fun h => hp _ h List.mem_cons_self
    have hstep := value?_set hb w.1 w.2 k
    rw [if_neg hk.1, if_neg hparent] at hstep
    refine (ih (hb.set w.1 w.2) hk.2 fun p h hmem => ?_).trans hstep
    rw [parentOf?_of_frame (frame_set b w.1 w.2)] at h
    exact hp p h (List.mem_cons_of_mem _ hmem)

/-- **A cell keeps the value that it is set to** if its parent is not set after it. -/
theorem value?_setAll_of_set (hb : b.Wired) {before after : List (String × Json)} {k : String}
    (hk : b.isAlive k = true) (v : Json) (hafter : k ∉ after.map Prod.fst)
    (hp : ∀ p, b.parentOf? k = some p → p ∉ after.map Prod.fst) :
    (b.setAll (before ++ (k, v) :: after)).value? k = some v := by
  have hb' := hb.setAll before
  rw [← isAlive_of_frame (frame_setAll b before), isAlive_eq_isSome_value?] at hk
  obtain ⟨u, hu⟩ := Option.isSome_iff_exists.mp hk
  rw [setAll_append]
  refine (value?_setAll_of_not_mem (hb'.set k v) hafter fun p h => ?_).trans ?_
  · rw [parentOf?_of_frame ((frame_set ..).trans (frame_setAll b before))] at h
    exact hp p h
  · rw [value?_set hb', if_pos rfl, hu, Option.map_some]

/-- **A cell has lost its value** once its parent was set, if it is not set itself after
that. -/
theorem value?_setAll_of_parent (hb : b.Wired) {before after : List (String × Json)}
    {k p : String} (hk : b.isAlive k = true) (hp : b.parentOf? k = some p) (v : Json)
    (hafter : k ∉ after.map Prod.fst) (hpafter : p ∉ after.map Prod.fst) :
    (b.setAll (before ++ (p, v) :: after)).value? k = some .null := by
  have hb' := hb.setAll before
  have hp' : (b.setAll before).parentOf? k = some p :=
    (parentOf?_of_frame (frame_setAll b before) k).trans hp
  have hne : k ≠ p := by
    rintro rfl
    exact parentOf?_ne_self hb k hp
  rw [← isAlive_of_frame (frame_setAll b before), isAlive_eq_isSome_value?] at hk
  obtain ⟨u, hu⟩ := Option.isSome_iff_exists.mp hk
  rw [setAll_append]
  refine (value?_setAll_of_not_mem (hb'.set p v) hafter fun q h => ?_).trans ?_
  · rw [parentOf?_of_frame (frame_set ..), hp', Option.some.injEq] at h
    exact h ▸ hpafter
  · rw [value?_set hb', if_neg hne, if_pos hp', hu, Option.map_some]

end Board

end SmartForm
