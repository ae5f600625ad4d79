import SmartForm.Form.Basic
import SmartForm.Proofs.Loading.Writes

/-!
# What a form begins with

A form is made in three passes over its fields: all cells are added, then loads are
started for the fields that wait for nothing, then links are made for the fields that
wait for another one. Each pass touches no lane but that of the field it is at, so the
lane of a key can be read off from the one field that counts for the key
(`SmartForm.Form.lane_build`).

The one thing to know is that the second and the third pass never meet. A binding that
depends on a field is not loaded at once, and one that is loaded at once depends on
nothing. So a new form is **sound** (`SmartForm.Form.sound_build`): its first loads are
on lanes that no link leads to.
-/

namespace SmartForm

/-! ### The fields that count -/

namespace FieldSpec

/-- The binding of a field that hangs on another field of the form, and the key of that
field. A field that waits for itself or for no field of the form hangs on none. -/
def attachment? (fields : List FieldSpec) (f : FieldSpec) : Option (Binding × String) :=
  f.dependentBinding?.filter fun a => a.2 ≠ f.key && (withKey? fields a.2).isSome

variable {fields : List FieldSpec} {f : FieldSpec} {k : String}

theorem key_of_withKey? (h : withKey? fields k = some f) : f.key = k := by
  simpa using List.find?_some h

theorem mem_of_withKey? (h : withKey? fields k = some f) : f ∈ fields :=
  List.mem_of_find?_eq_some h

theorem withKey?_cons (f : FieldSpec) (fields : List FieldSpec) (k : String) :
    withKey? (f :: fields) k = if f.key = k then some f else withKey? fields k := by
  rw [withKey?, List.find?_cons]
  by_cases h : f.key = k
  · simp [h]
  · simp [h, withKey?]

theorem withKey?_isSome_iff : (withKey? fields k).isSome ↔ k ∈ fields.map FieldSpec.key := by
  simp [withKey?, List.find?_isSome]

theorem withKey?_eq_some_iff (hfields : (fields.map FieldSpec.key).Nodup) :
    withKey? fields k = some f ↔ f ∈ fields ∧ f.key = k := find?_key_eq_some hfields

/-- Of the fields that are kept, the same one counts as of all. -/
@[simp] theorem withKey?_firsts (fields : List FieldSpec) (k : String) :
    withKey? (firsts fields) k = withKey? fields k := by
  induction fields with
  | nil => rfl
  | cons f fields ih =>
    rw [firsts, withKey?_cons, withKey?_cons, ← ih]
    by_cases h : f.key = k
    · rw [if_pos h, if_pos h]
    · -- The fields that are left out have the key of `f`, which is not the one looked for.
      rw [if_neg h, if_neg h, withKey?, withKey?, List.find?_filter]
      refine congrArg (fun p => (firsts fields).find? p) (funext fun g => ?_)
      by_cases hg : g.key = k
      · simp [hg, Ne.symm h]
      · simp [hg]

theorem nodup_keys_firsts (fields : List FieldSpec) :
    ((firsts fields).map FieldSpec.key).Nodup := by
  induction fields with
  | nil => exact List.nodup_nil
  | cons f fields ih =>
    rw [firsts, List.map_cons, List.nodup_cons]
    constructor
    · intro h
      obtain ⟨g, hg, hkey⟩ := List.mem_map.mp h
      have hne := (List.mem_filter.mp hg).2
      simp [hkey] at hne
    · exact ih.sublist (List.filter_sublist.map _)

theorem firsts_eq_self (hfields : (fields.map FieldSpec.key).Nodup) :
    firsts fields = fields := by
  induction fields with
  | nil => rfl
  | cons f fields ih =>
    obtain ⟨hf, hrest⟩ := List.nodup_cons.mp hfields
    rw [firsts, ih hrest, List.filter_eq_self.mpr]
    intro g hg
    have hne : g.key ≠ f.key := fun h => hf (h ▸ List.mem_map_of_mem hg)
    simpa using hne

@[simp] theorem firsts_firsts (fields : List FieldSpec) : firsts (firsts fields) = firsts fields :=
  firsts_eq_self (nodup_keys_firsts fields)

@[simp] theorem attachment?_firsts (fields : List FieldSpec) (f : FieldSpec) :
    attachment? (firsts fields) f = attachment? fields f := by
  rw [attachment?, attachment?]
  simp only [withKey?_firsts]

theorem attachment?_eq_some {a : Binding × String} :
    attachment? fields f = some a ↔
      f.dependentBinding? = some a ∧ a.2 ≠ f.key ∧ (withKey? fields a.2).isSome := by
  rw [attachment?, Option.filter_eq_some_iff]
  simp

/-- A field whose choices are loaded at once hangs on no other field. -/
theorem attachment?_eq_none_of_immediate {b : Binding} (h : f.immediateBinding? = some b) :
    attachment? fields f = none := by
  rw [immediateBinding?, Option.filter_eq_some_iff, Option.isNone_iff_eq_none] at h
  rw [attachment?, dependentBinding?, h.1, Option.bind_some, h.2, Option.map_none,
    Option.filter_none]

theorem lookup_map_key {α : Type} (fields : List FieldSpec) (g : FieldSpec → α) (k : String) :
    (fields.map fun f => (f.key, g f)).lookup k = (withKey? fields k).map g := by
  induction fields with
  | nil => rfl
  | cons f fields ih =>
    rw [List.map_cons, List.lookup_cons, withKey?_cons, ih]
    by_cases h : f.key = k
    · simp [h]
    · have hb : (k == f.key) = false := beq_false_of_ne (Ne.symm h)
      simp [h, hb]

end FieldSpec

namespace Form

open FieldSpec

/-! ### The three passes -/

/-- The cell that a field begins with. -/
def cellOf (f : FieldSpec) : Cell := .start f.initial (Validator.ofField f)

/-- The slot that a field is given. -/
def slotOf (f : FieldSpec) : ChoiceSlot := ⟨⟨.ofChoices f.choices, 0⟩, 0⟩

/-- The link that leads to a field, if there is one. -/
def linkOf? (fields : List FieldSpec) (f : FieldSpec) : Option Link :=
  (attachment? fields f).map fun a => { parent := a.2, child := f.key, binding := a.1 }

/-- The first pass adds a cell and a slot for every field. -/
theorem foldl_addCell {fields : List FieldSpec} {b : Board}
    (hkeys : (b.cells.map Prod.fst ++ fields.map FieldSpec.key).Nodup)
    (hslots : b.store.slots.map Prod.fst = b.cells.map Prod.fst) :
    fields.foldl addCell b =
      { b with
        cells := b.cells ++ fields.map fun f => (f.key, { cell := cellOf f })
        store := ⟨b.store.slots ++ fields.map fun f => (f.key, slotOf f)⟩ } := by
  induction fields generalizing b with
  | nil => simp
  | cons f fields ih =>
    rw [List.map_cons] at hkeys
    have hnew : f.key ∉ b.cells.map Prod.fst := fun h =>
      (List.nodup_append.mp hkeys).2.2 _ h _ List.mem_cons_self rfl
    -- The key is new, so a cell and a slot are added behind those that are there.
    have hadd : addCell b f =
        { b with
          cells := b.cells ++ [(f.key, { cell := cellOf f })]
          store := ⟨b.store.slots ++ [(f.key, slotOf f)]⟩ } := by
      have hslot : b.store.slot? f.key = none := lookup_eq_none_of_not_mem (hslots ▸ hnew)
      rw [addCell, Board.add, lookup_eq_none_of_not_mem hnew, ChoiceStore.seed,
        ChoiceStore.contains, hslot]
      rfl
    rw [List.foldl_cons, hadd, ih]
    · simp
    · simpa using hkeys
    · simp [hslots]

/-- The second pass starts the loads that wait for nothing. -/
theorem lane_foldl_openField {fields : List FieldSpec}
    (hfields : (fields.map FieldSpec.key).Nodup) (x : Board × List (String × Nat)) (k : String) :
    (fields.foldl openField x).1.lane k =
      match (withKey? fields k).bind immediateBinding? with
      | some binding => (x.1.lane k).start k binding none
      | none => x.1.lane k := by
  induction fields generalizing x with
  | nil => rfl
  | cons f fields ih =>
    obtain ⟨hf, hrest⟩ := List.nodup_cons.mp hfields
    have hstep : (openField x f).1.lane k =
        match (if k = f.key then f.immediateBinding? else none) with
        | some binding => (x.1.lane k).start k binding none
        | none => x.1.lane k := by
      rw [openField]
      cases f.immediateBinding? with
      | none => simp
      | some binding =>
        refine (Board.lane_start x.1 f.key binding none k).trans ?_
        by_cases hk : k = f.key <;> simp [hk]
    rw [List.foldl_cons, ih hrest, hstep, withKey?_cons]
    -- No later field has the key of `f`, so its lane is touched now or not at all.
    by_cases hk : k = f.key
    · have hnone : withKey? fields k = none := by
        rw [← Option.not_isSome_iff_eq_none, withKey?_isSome_iff, hk]
        exact hf
      simp [hk.symm, hnone]
    · simp [hk, Ne.symm hk]

theorem frame_openField (x : Board × List (String × Nat)) (f : FieldSpec) :
    (openField x f).1.frame = x.1.frame := by
  rw [openField]
  cases f.immediateBinding? with
  | none => rfl
  | some binding => exact Board.frame_start x.1 f.key binding none

theorem links_openField (x : Board × List (String × Nat)) (f : FieldSpec) :
    (openField x f).1.links = x.1.links := by
  rw [openField]
  cases f.immediateBinding? with
  | none => rfl
  | some binding => exact Board.start_links x.1 f.key binding none

theorem foldl_openField (fields : List FieldSpec) (x : Board × List (String × Nat)) :
    (fields.foldl openField x).1.frame = x.1.frame ∧
      (fields.foldl openField x).1.links = x.1.links := by
  induction fields generalizing x with
  | nil => exact ⟨rfl, rfl⟩
  | cons f fields ih =>
    exact ⟨(ih _).1.trans (frame_openField x f), (ih _).2.trans (links_openField x f)⟩

/-- The third pass links the fields that hang on others. -/
theorem foldl_link (fields gs : List FieldSpec) (b : Board) :
    gs.foldl (link fields) b = { b with links := b.links ++ gs.filterMap (linkOf? fields) } := by
  induction gs generalizing b with
  | nil => simp
  | cons f gs ih =>
    have hstep : link fields b f =
        { b with links := b.links ++ (linkOf? fields f).toList } := by
      rw [link, linkOf?, attachment?]
      cases f.dependentBinding? with
      | none => simp
      | some a =>
        obtain ⟨binding, parent⟩ := a
        by_cases h : (parent ≠ f.key && (withKey? fields parent).isSome) = true
        · simp only [h, if_true, Option.filter_some, Option.map_some]
          rfl
        · simp only [h, Option.filter_some]
          simp
    rw [List.foldl_cons, hstep, ih]
    cases hf : linkOf? fields f <;> simp [hf]

/-! ### All three -/

/-- What a field begins with. -/
def opened (fields : List FieldSpec) (f : FieldSpec) : Lane where
  cell := some (cellOf f)
  slot := some (if f.immediateBinding?.isSome then (slotOf f).renew .underWay else slotOf f)
  link := linkOf? fields f
  loads := (f.immediateBinding?.map fun binding => ⟨f.key, 1, binding, none⟩).toList

section Build

variable (fields : List FieldSpec)

/-- The board after the first pass. -/
def seeded : Board where
  cells := (firsts fields).map fun f => (f.key, { cell := cellOf f })
  store := ⟨(firsts fields).map fun f => (f.key, slotOf f)⟩

theorem foldl_addCell_eq_seeded : (firsts fields).foldl addCell {} = seeded fields :=
  foldl_addCell (by simpa using nodup_keys_firsts fields) rfl

theorem board_build :
    (build fields).board =
      { ((firsts fields).foldl openField (seeded fields, [])).1 with
        links := (firsts fields).filterMap (linkOf? fields) } := by
  have hlink : linkOf? (firsts fields) = linkOf? fields := by
    funext f
    rw [linkOf?, attachment?_firsts, linkOf?]
  have hlinks := (foldl_openField (firsts fields) (seeded fields, [])).2
  rw [build, foldl_addCell_eq_seeded]
  simp only [foldl_link, hlink, hlinks]
  rfl

theorem roster_build :
    (build fields).board.roster =
      (firsts fields).map fun f => (f.key, true, f.initial, Validator.ofField f) := by
  have hframe := (foldl_openField (firsts fields) (seeded fields, [])).1
  rw [board_build]
  refine (Board.roster_of_frame hframe).trans ?_
  rw [Board.roster, seeded, List.map_map]
  rfl

theorem keys_build :
    (build fields).board.store.keys = (firsts fields).map FieldSpec.key := by
  have hframe := (foldl_openField (firsts fields) (seeded fields, [])).1
  rw [board_build]
  refine (Board.keys_of_frame hframe).trans ?_
  rw [seeded, ChoiceStore.keys, List.map_map]
  rfl

/-- Every link of a new form leads to the field that it was made for. -/
theorem mem_links_build {l : Link} :
    l ∈ (build fields).board.links ↔ ∃ f ∈ firsts fields, linkOf? fields f = some l := by
  rw [board_build]
  exact List.mem_filterMap

theorem child_of_linkOf? {fields : List FieldSpec} {f : FieldSpec} {l : Link}
    (h : linkOf? fields f = some l) : l.child = f.key := by
  obtain ⟨a, -, rfl⟩ := Option.map_eq_some_iff.mp h
  rfl

theorem nodup_children_build : ((build fields).board.links.map Link.child).Nodup := by
  -- The children are the keys of the fields that hang on others, in the same order.
  have hsub : ((firsts fields).filterMap (linkOf? fields)).map Link.child =
      ((firsts fields).filter fun f => (linkOf? fields f).isSome).map FieldSpec.key := by
    generalize firsts fields = gs
    induction gs with
    | nil => rfl
    | cons f gs ih =>
      cases h : linkOf? fields f with
      | none => simp [h, ih]
      | some l => simp [h, ih, child_of_linkOf? h]
  rw [board_build]
  refine (congrArg List.Nodup hsub).mpr ?_
  exact (nodup_keys_firsts fields).sublist (List.filter_sublist.map _)

theorem linkTo?_build (k : String) :
    (build fields).board.linkTo? k = (withKey? fields k).bind (linkOf? fields) := by
  refine Option.ext fun l => ?_
  rw [Board.linkTo?_eq_some (nodup_children_build fields), mem_links_build,
    Option.bind_eq_some_iff, ← withKey?_firsts]
  constructor
  · rintro ⟨⟨f, hf, hl⟩, rfl⟩
    refine ⟨f, (withKey?_eq_some_iff (nodup_keys_firsts fields)).mpr ⟨hf, ?_⟩, hl⟩
    exact (child_of_linkOf? hl).symm
  · rintro ⟨f, hf, hl⟩
    exact ⟨⟨f, mem_of_withKey? hf, hl⟩, (child_of_linkOf? hl).trans (key_of_withKey? hf)⟩

theorem lane_seeded (k : String) :
    (seeded fields).lane k =
      ⟨(withKey? fields k).map cellOf, (withKey? fields k).map slotOf, none, []⟩ := by
  have hcell : (seeded fields).cells.lookup k =
      (withKey? fields k).map fun f => ({ cell := cellOf f } : BoardCell) := by
    rw [← withKey?_firsts]
    exact lookup_map_key (firsts fields) (fun f => ({ cell := cellOf f } : BoardCell)) k
  refine Lane.ext ?_ ?_ rfl rfl
  · have hlane : ((seeded fields).lane k).cell = (seeded fields).cell? k := rfl
    rw [hlane, Board.cell?, hcell]
    cases withKey? fields k <;> rfl
  · rw [← withKey?_firsts]
    exact lookup_map_key (firsts fields) slotOf k

/-- **What a form begins with**: for every key the lane that the field with that key
begins with, and for all other keys nothing. -/
theorem lane_build (k : String) :
    (build fields).board.lane k =
      ((withKey? fields k).map (opened fields)).getD ⟨none, none, none, []⟩ := by
  have hopen := lane_foldl_openField (nodup_keys_firsts fields) (seeded fields, []) k
  rw [withKey?_firsts, lane_seeded] at hopen
  have hlink : (build fields).board.lane k =
      { (((firsts fields).foldl openField (seeded fields, [])).1).lane k with
        link := (build fields).board.linkTo? k } := by
    rw [board_build]
    rfl
  rw [hlink, hopen, linkTo?_build]
  cases hf : withKey? fields k with
  | none => rfl
  | some f =>
    cases hb : f.immediateBinding? with
    | none => simp [opened, hb]
    | some binding => simp [opened, hb, Lane.start, slotOf, key_of_withKey? hf]

end Build

/-! ### A new form is sound -/

theorem opened_of_immediate {fields : List FieldSpec} {f : FieldSpec} {binding : Binding}
    (hb : f.immediateBinding? = some binding) :
    opened fields f =
      ⟨some (cellOf f), some ((slotOf f).renew .underWay), none, [⟨f.key, 1, binding, none⟩]⟩ := by
  simp [opened, hb, linkOf?, attachment?_eq_none_of_immediate hb]

theorem opened_of_waiting {fields : List FieldSpec} {f : FieldSpec}
    (hb : f.immediateBinding? = none) :
    opened fields f = ⟨some (cellOf f), some (slotOf f), linkOf? fields f, []⟩ := by
  simp [opened, hb]

theorem sound_opened (fields : List FieldSpec) (f : FieldSpec) : (opened fields f).Sound := by
  cases hb : f.immediateBinding? with
  | some binding =>
    rw [opened_of_immediate hb]
    refine ⟨fun s _ k hk => ?_, Or.inr ⟨_, _, rfl, rfl, rfl, rfl, fun k hk => ?_⟩⟩ <;> cases hk
  | none =>
    rw [opened_of_waiting hb]
    refine ⟨fun s _ k hk t ht => ?_, Or.inl ⟨rfl, fun s hs => ?_⟩⟩
    · obtain ⟨a, -, rfl⟩ := Option.map_eq_some_iff.mp hk
      cases ht
    · cases hs
      exact ⟨rfl, LoadPhase.noConfusion⟩

theorem wired_build (fields : List FieldSpec) : (build fields).board.Wired := by
  refine ⟨nodup_children_build fields, fun l hl => ?_, fun l hl => ?_⟩
  · obtain ⟨f, hf, hlink⟩ := (mem_links_build fields).mp hl
    have hkey : withKey? fields l.child = some f := by
      rw [← withKey?_firsts, withKey?_eq_some_iff (nodup_keys_firsts fields)]
      exact ⟨hf, (child_of_linkOf? hlink).symm⟩
    rw [Board.isAlive_eq_isSome, lane_build, hkey]
    rfl
  · obtain ⟨f, -, hlink⟩ := (mem_links_build fields).mp hl
    obtain ⟨a, ha, rfl⟩ := Option.map_eq_some_iff.mp hlink
    exact (attachment?_eq_some.mp ha).2.1

/-- **A new form is sound.** -/
theorem sound_build (fields : List FieldSpec) : (build fields).board.Sound := by
  refine ⟨wired_build fields, fun k => ?_⟩
  rw [lane_build]
  cases withKey? fields k with
  | some f => exact sound_opened fields f
  | none => exact Lane.sound_empty

end Form

end SmartForm
