import SmartForm.Proofs.Form.Engine
import SmartForm.Proofs.Form.Order

/-!
# Values that are patched

What a form holds after several values were set together, key by key. A field that is
among them holds its value, a field whose parent is among them holds nothing unless it is
among them itself, and all others hold what they held before
(`SmartForm.Form.value?_writes`). The order of the fields does not show.

The one thing to know is what this takes. The value of a parent takes that of the child
away, so it must not be set after the child. That is what the order of depth is for, and
it works wherever fields do not hang on each other in a circle.
-/

namespace SmartForm

namespace Form

open FieldSpec

variable {fields : List FieldSpec} {f : Form} {k : String}

/-! ### One key -/

section Writes

/-- The values that are set, split at one of them. -/
theorem writes_eq_of_order {ev : FormEvent} {before after : List String} {v : Json}
    (horder : FieldSpec.applyOrder (firsts fields) = before ++ k :: after)
    (hv : ev.value? fields k = some v) :
    ev.writes fields =
      Board.keyed before (ev.value? fields) ++ (k, v) :: Board.keyed after (ev.value? fields) := by
  rw [FormEvent.writes, horder, Board.keyed_append, Board.keyed_cons, hv]
  rfl

theorem not_mem_keyed_of_not_mem {keys : List String} {table : String → Option Json}
    (hk : k ∉ keys) : k ∉ (Board.keyed keys table).map Prod.fst := by
  rw [Board.map_fst_keyed]
  exact fun h => hk (List.mem_filter.mp h).1

theorem not_mem_keyed_of_eq_none {keys : List String} {table : String → Option Json}
    (hk : table k = none) : k ∉ (Board.keyed keys table).map Prod.fst := by
  rw [Board.map_fst_keyed]
  intro h
  have hsome := (List.mem_filter.mp h).2
  rw [hk] at hsome
  cases hsome

/-- A field holds what it was set to, unless it is overtaken. -/
theorem value?_writes_of_set (hf : f.Steady fields) (hover : ¬ Overtaken fields k)
    {ev : FormEvent} {v : Json} (hk : (withKey? fields k).isSome)
    (hv : ev.value? fields k = some v) :
    (f.board.setAll (ev.writes fields)).value? k = some v := by
  obtain ⟨before, after, horder⟩ := List.append_of_mem (mem_applyOrder_firsts.mpr hk)
  have hnodup := nodup_applyOrder_firsts fields
  rw [horder] at hnodup
  rw [writes_eq_of_order horder hv]
  refine Board.value?_setAll_of_set hf.sound.wired ((hf.isAlive_eq k).trans hk) v ?_ fun p hp => ?_
  · exact not_mem_keyed_of_not_mem (List.nodup_cons.mp (List.nodup_append.mp hnodup).2.1).1
  · rw [hf.parentOf?_eq] at hp
    exact not_mem_keyed_of_not_mem fun hmem => hover ((parent_mem_after_iff hp horder).mp hmem)

/-- A field holds nothing if its parent was set, and it was not or is overtaken. -/
theorem value?_writes_of_parent (hf : f.Steady fields) {ev : FormEvent} {p : String} {v : Json}
    (hk : ev.value? fields k = none ∨ Overtaken fields k) (hp : hangsOn? fields k = some p)
    (hv : ev.value? fields p = some v) :
    (f.board.setAll (ev.writes fields)).value? k = some .null := by
  obtain ⟨before, after, horder⟩ :=
    List.append_of_mem (mem_applyOrder_firsts.mpr (known_of_hangsOn? hp))
  have hnodup := nodup_applyOrder_firsts fields
  have hafter : k ∉ (Board.keyed after (ev.value? fields)).map Prod.fst := by
    rcases hk with hk | hk
    · exact not_mem_keyed_of_eq_none hk
    · exact not_mem_keyed_of_not_mem (not_mem_after_of_overtaken hk hp horder)
  rw [horder] at hnodup
  rw [writes_eq_of_order horder hv]
  refine Board.value?_setAll_of_parent hf.sound.wired
    ((hf.isAlive_eq k).trans (known_child_of_hangsOn? hp)) ((hf.parentOf?_eq k).trans hp) v
    hafter ?_
  exact not_mem_keyed_of_not_mem (List.nodup_cons.mp (List.nodup_append.mp hnodup).2.1).1

/-- A field holds what it held before if neither it nor its parent was set. -/
theorem value?_writes_of_none (hf : f.Steady fields) {ev : FormEvent}
    (hk : ev.value? fields k = none) (hp : (hangsOn? fields k).bind (ev.value? fields) = none) :
    (f.board.setAll (ev.writes fields)).value? k = f.board.value? k := by
  refine Board.value?_setAll_of_not_mem hf.sound.wired (not_mem_keyed_of_eq_none hk) fun p h => ?_
  rw [hf.parentOf?_eq] at h
  rw [h] at hp
  exact not_mem_keyed_of_eq_none hp

theorem Steady.isSome_value? (hf : f.Steady fields) (k : String) :
    (f.board.value? k).isSome = (withKey? fields k).isSome := by
  rw [← Board.isAlive_eq_isSome_value?, hf.isAlive_eq]

/-- Setting fields makes none of them. -/
theorem value?_writes_of_unknown (ev : FormEvent)
    (hk : f.board.value? k = none) :
    (f.board.setAll (ev.writes fields)).value? k = none := by
  rw [← Option.not_isSome_iff_eq_none, ← Board.isAlive_eq_isSome_value?,
    Board.isAlive_of_frame (Board.frame_setAll ..), Board.isAlive_eq_isSome_value?, hk]
  exact Bool.false_ne_true

/-- **What a field holds after fields were set.** -/
theorem value?_writes (hf : f.Steady fields) (hfields : Acyclic fields) (ev : FormEvent)
    (k : String) :
    (f.board.setAll (ev.writes fields)).value? k =
      match ev.value? fields k, (hangsOn? fields k).bind (ev.value? fields) with
      | some v, _ => (f.board.value? k).map fun _ => v
      | none, some _ => (f.board.value? k).map fun _ => .null
      | none, none => f.board.value? k := by
  have hknown := hf.isSome_value? k
  cases hu : f.board.value? k with
  | none =>
    -- There is no such field, so whatever the events say of it is lost.
    rw [value?_writes_of_unknown ev hu]
    cases ev.value? fields k <;> cases (hangsOn? fields k).bind (ev.value? fields) <;> rfl
  | some u =>
    rw [hu] at hknown
    cases hv : ev.value? fields k with
    | some v => exact value?_writes_of_set hf ((acyclic_iff fields).mp hfields k) hknown.symm hv
    | none =>
      cases hp : (hangsOn? fields k).bind (ev.value? fields) with
      | none => exact (value?_writes_of_none hf hv hp).trans hu
      | some v =>
        obtain ⟨p, hhangs, hpv⟩ := Option.bind_eq_some_iff.mp hp
        exact value?_writes_of_parent hf (.inl hv) hhangs hpv

end Writes

/-! ### The values of a form -/

section Values

/-- A field begins with the value that its description gives it. -/
theorem value?_build (fields : List FieldSpec) (k : String) :
    (build fields).board.value? k = (withKey? fields k).map FieldSpec.initial := by
  have hlane : (build fields).board.value? k = ((build fields).board.lane k).cell.map Cell.value :=
    rfl
  rw [hlane, lane_build]
  cases withKey? fields k <;> rfl

theorem Steady.isAlive_of_mem (hf : f.Steady fields) {e : String × BoardCell}
    (he : e ∈ f.board.cells) : e.2.isAlive = true := by
  have hin : (e.1, e.2.isAlive, e.2.cell.initial, e.2.cell.chain) ∈ f.board.roster :=
    List.mem_map_of_mem he
  rw [Board.roster_of_frame hf.frame_eq, roster_build] at hin
  obtain ⟨g, -, hg⟩ := List.mem_map.mp hin
  exact (congrArg (fun x => x.2.1) hg).symm

theorem Steady.alive_eq (hf : f.Steady fields) :
    f.board.alive = f.board.cells.map fun e => (e.1, e.2.cell) := by
  rw [Board.alive, List.filter_eq_self.mpr fun e he => hf.isAlive_of_mem he]

theorem Steady.keys_alive (hf : f.Steady fields) :
    f.board.alive.map Prod.fst = (firsts fields).map FieldSpec.key := by
  have hroster : f.board.alive.map Prod.fst = f.board.roster.map Prod.fst := by
    rw [hf.alive_eq, Board.roster, List.map_map, List.map_map]
    rfl
  rw [hroster, Board.roster_of_frame hf.frame_eq, roster_build, List.map_map]
  exact List.map_congr_left fun g _ => rfl

theorem Steady.lookup_alive (hf : f.Steady fields) (k : String) :
    f.board.alive.lookup k = f.board.cell? k := by
  have hlook := lookup_map_keyed f.board.cells (fun _ x => x.cell) k
  rw [hf.alive_eq, hlook, Board.cell?]
  cases hx : f.board.cells.lookup k with
  | none => rfl
  | some x =>
    obtain ⟨before, after, hcells, -⟩ := List.lookup_eq_some_iff.mp hx
    have halive : x.isAlive = true := hf.isAlive_of_mem (e := (k, x)) (by simp [hcells])
    simp [Option.filter_some, halive]

theorem Steady.keys_value (hf : f.Steady fields) :
    f.value.map Prod.fst = (firsts fields).map FieldSpec.key := by
  rw [← hf.keys_alive, value, List.map_map]
  rfl

theorem Steady.lookup_value (hf : f.Steady fields) (k : String) :
    f.value.lookup k = f.board.value? k := by
  have hlook := lookup_map_keyed f.board.alive (fun _ c => c.value) k
  rw [value, hlook, hf.lookup_alive, Board.value?]

end Values

/-! ### Patching -/

/-- **What patched values make of a form.** -/
structure Patched (values : List (String × Json)) (old new : Form) : Prop where
  /-- A field that is named holds its value. -/
  given : ∀ k v, (old.definition? k).isSome → values.lookup k = some v →
    new.board.value? k = some v
  /-- A field that is not named has lost its value if its parent is named. -/
  lost : ∀ k p v, values.lookup k = none → hangsOn? old.fields k = some p →
    values.lookup p = some v → new.board.value? k = some .null
  /-- A field holds what it held before if neither it nor its parent is named. -/
  kept : ∀ k, values.lookup k = none → (∀ p, hangsOn? old.fields k = some p →
    values.lookup p = none) → new.board.value? k = old.board.value? k
  /-- The choices of a field whose parent is named are loaded anew or emptied. -/
  renewed : ∀ k p v, hangsOn? old.fields k = some p → values.lookup p = some v →
    new.state? k = some (if v.isEmpty then {} else .underWay)
  /-- The choices of all other fields are as before. -/
  unchanged : ∀ k, (∀ p, hangsOn? old.fields k = some p → values.lookup p = none) →
    new.state? k = old.state? k

section Patch

variable (values : List (String × Json))

theorem board_patch (hf : f.Steady fields) :
    (f.patch values).board = f.board.setAll (FormEvent.writes fields (.patch values)) :=
  board_handle hf (.patch values)

theorem value?_patch (hf : f.Steady fields) (hfields : Acyclic fields) (k : String) :
    (f.patch values).board.value? k =
      match values.lookup k, (hangsOn? fields k).bind fun p => values.lookup p with
      | some v, _ => (f.board.value? k).map fun _ => v
      | none, some _ => (f.board.value? k).map fun _ => .null
      | none, none => f.board.value? k := by
  rw [board_patch values hf]
  exact value?_writes hf hfields (.patch values) k

theorem state?_patch (hf : f.Steady fields) (k : String) :
    (f.patch values).state? k =
      match (hangsOn? fields k).bind fun p => values.lookup p with
      | some v => (f.state? k).map fun _ => if v.isEmpty then {} else .underWay
      | none => f.state? k := by
  have hev : ∀ key token records, FormEvent.patch values ≠ .finish key token records := by
    intro key token records h
    cases h
  exact state?_handle hf hev k

theorem bind_lookup_eq_none {values : List (String × Json)} {p? : Option String}
    (h : ∀ p, p? = some p → values.lookup p = none) :
    (p?.bind fun p => values.lookup p) = none :=
  Option.bind_eq_none_iff.mpr h

theorem patched_patch (hf : f.Steady f.fields) (hfields : Acyclic f.fields) :
    Patched values f (f.patch values) := by
  have hvalue := value?_patch values hf hfields
  have hstate := state?_patch values hf
  have hknown : ∀ k, (f.definition? k).isSome → ∃ u, f.board.value? k = some u := fun k hk =>
    Option.isSome_iff_exists.mp ((hf.isSome_value? k).trans hk)
  refine ⟨fun k v hk hv => ?_, fun k p v hk hp hv => ?_, fun k hk hp => ?_,
    fun k p v hp hv => ?_, fun k hp => ?_⟩
  · obtain ⟨u, hu⟩ := hknown k hk
    rw [hvalue, hv, hu]
    rfl
  · obtain ⟨u, hu⟩ := hknown k (known_child_of_hangsOn? hp)
    rw [hvalue, hk, hp, Option.bind_some, hv, hu]
    rfl
  · rw [hvalue, hk, bind_lookup_eq_none hp]
  · have hsome := (hf.isSome_slot k).trans (known_child_of_hangsOn? hp)
    obtain ⟨s, hs⟩ := Option.isSome_iff_exists.mp hsome
    have hold : f.state? k = some s.current.value := congrArg (Option.map _) hs
    rw [hstate, hp, Option.bind_some, hv, hold]
    rfl
  · rw [hstate, bind_lookup_eq_none hp]

/-- Names of no field are as good as left out. -/
theorem patch_congr (hf : f.Steady fields) {values values' : List (String × Json)}
    (h : ∀ k, (withKey? fields k).isSome → values'.lookup k = values.lookup k) :
    f.patch values' = f.patch values := by
  have hwrites : FormEvent.writes fields (.patch values') =
      FormEvent.writes fields (.patch values) := by
    refine List.filterMap_congr fun k hk => ?_
    exact congrArg (Option.map _) (h k (mem_applyOrder_firsts.mp hk))
  have hboard : (f.patch values').board = (f.patch values).board := by
    rw [board_patch values' hf, board_patch values hf, hwrites]
  exact congrArg (fun b => { f with board := b }) hboard

theorem steady_patch (hf : f.Steady fields) : (f.patch values).Steady fields :=
  steady_handle hf (.patch values)

/-- **Patching a form with its own values** changes none of them. -/
theorem value_patch_value (hf : f.Steady fields) (hfields : Acyclic fields) :
    (f.patch f.value).value = f.value := by
  have hf' := steady_patch f.value hf
  refine eq_of_lookup_eq (hf'.keys_value.trans hf.keys_value.symm) ?_ fun k => ?_
  · rw [hf'.keys_value]
    exact nodup_keys_firsts fields
  · rw [hf'.lookup_value, hf.lookup_value, value?_patch f.value hf hfields, hf.lookup_value]
    cases hv : f.board.value? k with
    | some v => rfl
    | none => cases (hangsOn? fields k).bind fun p => f.value.lookup p <;> rfl

end Patch

end Form

namespace FormEngine

open FieldSpec

variable {e : FormEngine}

/-- **What patching values does**, in whatever state the engine is, where fields do not
hang on each other in a circle. The values and the choices of all fields come out as
`SmartForm.Form.Patched` says, so later writes undo nothing of what earlier ones did.
Names of no field have no effect. Nor has the order of the fields: a form whose fields
are the same, in any order, and which holds and shows the same, will do so afterwards.
A form that is patched with its own values keeps them. -/
theorem patch_closed_form (he : e.Reachable) (hfields : Acyclic e.form.fields)
    (values : List (String × Json)) :
    Form.Patched values e.form (e.patch values).form ∧
      (∀ values', (∀ k, (e.form.definition? k).isSome → values'.lookup k = values.lookup k) →
        e.patch values' = e.patch values) ∧
      (∀ e' : FormEngine, e'.Reachable →
        (∀ k, e'.form.definition? k = e.form.definition? k) →
        (∀ k, e'.form.board.value? k = e.form.board.value? k ∧
          e'.form.state? k = e.form.state? k) →
        ∀ k, (e'.patch values).form.board.value? k = (e.patch values).form.board.value? k ∧
          (e'.patch values).form.state? k = (e.patch values).form.state? k) ∧
      (e.patch e.form.value).form.value = e.form.value := by
  have hf := he.steady
  refine ⟨Form.patched_patch values hf hfields, fun values' h => ?_, fun e' he' hsame h k => ?_,
    Form.value_patch_value hf hfields⟩
  · have hform : e.form.patch values' = e.form.patch values := Form.patch_congr hf h
    rw [patch, patch, modify, modify, TimedForm.modify, TimedForm.modify]
    simp only [form] at hform
    rw [hform]
  · -- Both closed forms speak of the fields that count, and these are the same.
    have hf' := he'.steady
    have hhangs : hangsOn? e'.form.fields = hangsOn? e.form.fields := hangsOn?_congr hsame
    have hvalue := Form.value?_patch values hf' (hfields.congr hsame) k
    have hstate := Form.state?_patch values hf' k
    rw [hhangs, (h k).1] at hvalue
    rw [hhangs, (h k).2] at hstate
    exact ⟨hvalue.trans (Form.value?_patch values hf hfields k).symm,
      hstate.trans (Form.state?_patch values hf k).symm⟩

/-- Three fields in a chain, with the parents behind their children. -/
def addressFields : List FieldSpec :=
  [{ key := "street", binding := some { endpoint := "streets", dependency := some "town" } },
   { key := "town", binding := some { endpoint := "towns", dependency := some "country" } },
   { key := "country" }]

theorem acyclic_addressFields : Acyclic addressFields := by
  refine acyclic_of_rank (fun k => if k = "street" then 2 else if k = "town" then 1 else 0) ?_
  intro c p h
  obtain ⟨f, hf, rfl, hp⟩ := exists_mem_of_hangs h
  rcases List.mem_cons.mp hf with rfl | hf
  · obtain rfl : "town" = p := Option.some.inj hp
    decide
  · rcases List.mem_cons.mp hf with rfl | hf
    · obtain rfl : "country" = p := Option.some.inj hp
      decide
    · obtain rfl := List.mem_singleton.mp hf
      cases hp

/-- A town keeps its place although its country is patched with it; the street is lost. -/
theorem patch_closed_form_address :
    ∃ e : FormEngine, e.Reachable ∧ Acyclic e.form.fields ∧
      ∀ new, new = (e.patch [("town", .string "Oslo"), ("country", .string "NO")]).form →
        new.board.value? "town" = some (.string "Oslo") ∧
          new.board.value? "street" = some .null ∧
          new.state? "town" = some .underWay ∧ new.state? "street" = some .underWay := by
  let service : LoadService := { loader := fun _ _ => (0, .ok []) }
  let e : FormEngine := run { service } [.build addressFields]
  have he : e.Reachable := ⟨_, _, rfl⟩
  have hfields : Acyclic e.form.fields := acyclic_addressFields
  refine ⟨e, he, hfields, ?_⟩
  rintro new rfl
  have hnew := (patch_closed_form he hfields
    [("town", .string "Oslo"), ("country", .string "NO")]).1
  exact ⟨hnew.given "town" _ rfl rfl, hnew.lost "street" "town" _ rfl rfl rfl,
    hnew.renewed "town" "country" _ rfl rfl, hnew.renewed "street" "town" _ rfl rfl⟩

end FormEngine

end SmartForm
