import SmartForm.Proofs.Form.Build

/-!
# Forms while they are filled in

Four things happen to a form once it is made (`SmartForm.FormEvent`): a value is set,
values are patched, all values are reset, and a load comes to its end. The ends are as
free as can be: any load may end at any time and with any outcome, and an end that names
no load under way is no harm.

The one thing to know is that the first three are the same thing. Each of them has a
value for some of the fields (`SmartForm.FormEvent.value?`) and sets these fields one
after the other in the order of depth (`SmartForm.Form.board_handle`).

What a form keeps through all of this is put together in `SmartForm.Form.Steady`: its
fields and their order, which cells and links there are, and that it is sound.
-/

namespace SmartForm

namespace FieldSpec

/-- The key of the field that the choices of a field hang on. -/
def hangsOn? (fields : List FieldSpec) (key : String) : Option String :=
  ((withKey? fields key).bind (attachment? fields)).map Prod.snd

theorem known_of_hangsOn? {fields : List FieldSpec} {c p : String}
    (h : hangsOn? fields c = some p) : (withKey? fields p).isSome := by
  obtain ⟨a, ha, rfl⟩ := Option.map_eq_some_iff.mp h
  obtain ⟨f, -, hf⟩ := Option.bind_eq_some_iff.mp ha
  exact (attachment?_eq_some.mp hf).2.2

theorem known_child_of_hangsOn? {fields : List FieldSpec} {c p : String}
    (h : hangsOn? fields c = some p) : (withKey? fields c).isSome := by
  obtain ⟨a, ha, -⟩ := Option.map_eq_some_iff.mp h
  obtain ⟨f, hf, -⟩ := Option.bind_eq_some_iff.mp ha
  exact Option.isSome_iff_exists.mpr ⟨f, hf⟩

theorem applyOrder_perm (fields : List FieldSpec) :
    (applyOrder fields).Perm (fields.map FieldSpec.key) := List.mergeSort_perm ..

theorem mem_applyOrder_firsts {fields : List FieldSpec} {k : String} :
    k ∈ applyOrder (firsts fields) ↔ (withKey? fields k).isSome := by
  rw [(applyOrder_perm _).mem_iff, ← withKey?_isSome_iff, withKey?_firsts]

theorem nodup_applyOrder_firsts (fields : List FieldSpec) : (applyOrder (firsts fields)).Nodup :=
  (applyOrder_perm _).nodup_iff.mpr (nodup_keys_firsts fields)

end FieldSpec

/-- What can happen to a form while it is filled in. -/
inductive FormEvent where
  /-- The value of a field is set. -/
  | set (key : String) (v : Json)
  /-- The values of several fields are set. -/
  | patch (values : List (String × Json))
  /-- All fields are set to what they started with. -/
  | reset
  /-- A load comes to its end, with records or without. -/
  | finish (key : String) (token : Nat) (records : Option (List Json))

namespace FormEvent

/-- The value that a field is set to. -/
def value? (fields : List FieldSpec) : FormEvent → String → Option Json
  | set key v, k => if k = key then some v else none
  | patch values, k => values.lookup k
  | reset, k => (FieldSpec.withKey? fields k).map FieldSpec.initial
  | finish .., _ => none

/-- The values that are set, in the order in which they are. -/
def writes (fields : List FieldSpec) (ev : FormEvent) : List (String × Json) :=
  Board.keyed (FieldSpec.applyOrder (FieldSpec.firsts fields)) (ev.value? fields)

theorem nodup_writes (fields : List FieldSpec) (ev : FormEvent) :
    ((ev.writes fields).map Prod.fst).Nodup := by
  rw [writes, Board.map_fst_keyed]
  exact (FieldSpec.nodup_applyOrder_firsts fields).filter _

theorem lookup_writes {fields : List FieldSpec} {k : String}
    (hk : (FieldSpec.withKey? fields k).isSome) (ev : FormEvent) :
    (ev.writes fields).lookup k = ev.value? fields k := by
  rw [writes, Board.lookup_keyed, if_pos (FieldSpec.mem_applyOrder_firsts.mpr hk)]

end FormEvent

namespace Form

open FieldSpec

/-- What happens to a form. A field that is not there cannot be set. -/
def handle (f : Form) : FormEvent → Form
  | .set key v => (f.set key v).toOption.getD f
  | .patch values => f.patch values
  | .reset => f.reset
  | .finish key token records => f.modify fun b => b.finish key token records

/-- What happens to a form, one thing after the other. -/
def run (f : Form) (es : List FormEvent) : Form := es.foldl handle f

theorem run_append (f : Form) (es es' : List FormEvent) : f.run (es ++ es') = (f.run es).run es' :=
  List.foldl_append

/-- **What a form keeps** while it is filled in. -/
structure Steady (fields : List FieldSpec) (f : Form) : Prop where
  /-- Its fields. -/
  fields_eq : f.fields = firsts fields
  /-- The order in which values are written together. -/
  order_eq : f.applyOrder = FieldSpec.applyOrder (firsts fields)
  /-- Which cells there are, what they start with, and how they are linked. -/
  frame_eq : f.board.frame = (build fields).board.frame
  /-- What is shown and what is under way agree. -/
  sound : f.board.Sound

theorem steady_build (fields : List FieldSpec) : (build fields).Steady fields :=
  ⟨rfl, rfl, rfl, sound_build fields⟩

namespace Steady

variable {fields : List FieldSpec} {f : Form}

/-- Every field has a place for its choices. -/
theorem isSome_slot (hf : f.Steady fields) (k : String) :
    (f.board.lane k).slot.isSome = (withKey? fields k).isSome := by
  rw [Board.isSome_slot_of_frame hf.frame_eq, lane_build]
  cases withKey? fields k <;> rfl

theorem nodup_keys (hf : f.Steady fields) : f.board.store.keys.Nodup := by
  rw [Board.keys_of_frame hf.frame_eq, keys_build]
  exact nodup_keys_firsts fields

/-- The cells of a form are those of its fields. -/
theorem isAlive_eq (hf : f.Steady fields) (k : String) :
    f.board.isAlive k = (withKey? fields k).isSome := by
  rw [Board.isAlive_of_frame hf.frame_eq, Board.isAlive_eq_isSome, lane_build]
  cases withKey? fields k <;> rfl

theorem initial_eq {b : Board} (hb : b.frame = (build fields).board.frame) (k : String) :
    (b.cell? k).map Cell.initial = (withKey? fields k).map FieldSpec.initial := by
  have hcell : (build fields).board.cell? k = ((build fields).board.lane k).cell := rfl
  rw [Board.initial_of_frame hb, hcell, lane_build]
  cases withKey? fields k <;> rfl

/-- The links of a form are those of its fields. -/
theorem parentOf?_eq (hf : f.Steady fields) (k : String) :
    f.board.parentOf? k = hangsOn? fields k := by
  rw [Board.parentOf?_of_frame hf.frame_eq, Board.parentOf?, lane_build, hangsOn?]
  cases withKey? fields k with
  | none => rfl
  | some g =>
    simp only [Option.map_some, Option.getD_some, Option.bind_some, opened, linkOf?]
    rw [Option.map_map]
    rfl

end Steady

/-! ### What an event does to the board -/

/-- Setting fields to what they started with is setting them from a table. -/
theorem foldl_reset_eq_setAll {fields : List FieldSpec} {b : Board}
    (hb : b.frame = (build fields).board.frame) (keys : List String) :
    keys.foldl Board.reset b =
      b.setAll (Board.keyed keys fun k => (withKey? fields k).map FieldSpec.initial) := by
  induction keys generalizing b with
  | nil => rfl
  | cons k keys ih =>
    have hstep : b.reset k =
        b.setAll ((((withKey? fields k).map FieldSpec.initial).map fun v => (k, v)).toList) := by
      rw [← Steady.initial_eq hb, Board.reset]
      cases b.cell? k <;> rfl
    rw [List.foldl_cons, hstep, Board.keyed_cons, Board.setAll_append]
    exact ih ((Board.frame_setAll ..).trans hb)

/-- **Whatever sets fields sets them one after the other in the order of depth.** -/
theorem board_handle {fields : List FieldSpec} {f : Form} (hf : f.Steady fields) (ev : FormEvent) :
    (f.handle ev).board =
      match ev with
      | .finish key token records => f.board.finish key token records
      | ev => f.board.setAll (ev.writes fields) := by
  cases ev with
  | finish key token records => rfl
  | patch values =>
    have hpatch := Board.setAll_keyed f.board f.applyOrder fun k => values.lookup k
    rw [hf.order_eq] at hpatch
    rw [handle, patch, hf.order_eq]
    exact hpatch.symm
  | reset =>
    rw [handle, reset, hf.order_eq]
    exact foldl_reset_eq_setAll hf.frame_eq _
  | set key v =>
    -- A table with one value is written once, or not at all if there is no such field.
    have hwrites : FormEvent.writes fields (.set key v) =
        if (withKey? fields key).isSome then [(key, v)] else [] := by
      rw [FormEvent.writes]
      refine (Board.keyed_single (nodup_applyOrder_firsts fields) key v).trans ?_
      simp only [mem_applyOrder_firsts]
    simp only [hwrites]
    rw [handle, set, hf.isAlive_eq]
    cases (withKey? fields key).isSome <;> rfl

theorem steady_handle {fields : List FieldSpec} {f : Form} (hf : f.Steady fields)
    (ev : FormEvent) : (f.handle ev).Steady fields := by
  have hboard := board_handle hf ev
  -- Only the board is changed.
  have hsame : (f.handle ev).fields = f.fields ∧ (f.handle ev).applyOrder = f.applyOrder := by
    cases ev with
    | set key v =>
      rw [handle, set]
      cases f.board.isAlive key <;> exact ⟨rfl, rfl⟩
    | _ => exact ⟨rfl, rfl⟩
  refine ⟨hsame.1.trans hf.fields_eq, hsame.2.trans hf.order_eq, ?_, ?_⟩
  · rw [hboard]
    cases ev with
    | finish key token records => exact (Board.frame_finish ..).trans hf.frame_eq
    | _ => exact (Board.frame_setAll ..).trans hf.frame_eq
  · rw [hboard]
    cases ev with
    | finish key token records => exact hf.sound.finish key token records
    | _ => exact hf.sound.setAll _

/-- **A form stays steady** whatever happens to it. -/
theorem steady_run {fields : List FieldSpec} {f : Form} (hf : f.Steady fields)
    (es : List FormEvent) : (f.run es).Steady fields := by
  induction es generalizing f with
  | nil => exact hf
  | cons ev es ih => exact ih (steady_handle hf ev)

/-! ### What becomes of choices -/

/-- **Choices hear of the parent alone**, and at most once while fields are set. -/
theorem withoutCell_setAll_writes {fields : List FieldSpec} {f : Form} (hf : f.Steady fields)
    (ev : FormEvent) (k : String) :
    ((f.board.setAll (ev.writes fields)).lane k).withoutCell =
      match (hangsOn? fields k).bind (ev.value? fields) with
      | some v => (f.board.lane k).withoutCell.cascade v
      | none => (f.board.lane k).withoutCell := by
  rw [Board.withoutCell_setAll hf.sound.wired (ev.nodup_writes fields), hf.parentOf?_eq]
  cases hk : hangsOn? fields k with
  | none => rfl
  | some p =>
    have hlookup := FormEvent.lookup_writes (known_of_hangsOn? hk) ev
    cases hv : ev.value? fields p <;> simp [hlookup, hv]

theorem state?_eq_slot (f : Form) (k : String) :
    f.state? k = (f.board.lane k).withoutCell.slot.map fun x => x.current.value := rfl

/-- What is shown once fields have been set: the choices of a field whose parent is among
them are emptied or under way, all others are as before. -/
theorem state?_handle {fields : List FieldSpec} {f : Form} (hf : f.Steady fields)
    {ev : FormEvent} (hev : ∀ key token records, ev ≠ .finish key token records) (k : String) :
    (f.handle ev).state? k =
      match (hangsOn? fields k).bind (ev.value? fields) with
      | some v => (f.state? k).map fun _ => if v.isEmpty then {} else .underWay
      | none => f.state? k := by
  have hboard : (f.handle ev).board = f.board.setAll (ev.writes fields) := by
    rw [board_handle hf]
    cases ev with
    | finish key token records => exact absurd rfl (hev key token records)
    | _ => rfl
  rw [state?_eq_slot, state?_eq_slot, hboard, withoutCell_setAll_writes hf]
  cases hv : (hangsOn? fields k).bind (ev.value? fields) with
  | none => rfl
  | some v =>
    obtain ⟨p, hp, -⟩ := Option.bind_eq_some_iff.mp hv
    rw [← hf.parentOf?_eq] at hp
    obtain ⟨l, hl, -⟩ := Option.map_eq_some_iff.mp hp
    have hlink : (f.board.lane k).withoutCell.link = some l := hl
    simp only [Lane.cascade, hlink]
    rw [Option.map_map, Option.map_map]
    rfl

end Form

end SmartForm
