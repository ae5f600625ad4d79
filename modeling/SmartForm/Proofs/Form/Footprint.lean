import SmartForm.Proofs.Form.Patching

/-!
# How far a value reaches

When the value of a field is set, the fields that hang on it lose theirs, and their choices
are loaded anew or emptied. Nothing else happens (`SmartForm.Form.Reached`), in whatever state
the form is and however its fields hang on each other
(`SmartForm.FormEngine.set_reaches_children`).

The one thing to know is why this ends where fields hang on each other in a circle. A field
that loses its value is not set: the value is published, and the fields that hang on it do not
learn of it. So a value reaches one level down, along each link once, and what it leaves behind
at a field is the same whichever of the links is followed first
(`SmartForm.Board.lane_set`).
-/

namespace SmartForm

namespace Form

open FieldSpec

variable {fields : List FieldSpec} {f : Form} {k : String}

/-- **What is different** once the value of a field is set, and what is not. -/
structure Reached (k : String) (v : Json) (old new : Form) : Prop where
  /-- The field holds the value. -/
  given : new.board.value? k = some v
  /-- A field that hangs on it has lost its own value. -/
  lost : ∀ c, hangsOn? old.fields c = some k → new.board.value? c = some .null
  /-- The choices of a field that hangs on it are loaded anew or emptied. -/
  renewed : ∀ c, hangsOn? old.fields c = some k →
    new.state? c = some (if v.isEmpty then {} else .underWay)
  /-- Every other field holds what it held before. -/
  kept : ∀ c, c ≠ k → hangsOn? old.fields c ≠ some k →
    new.board.value? c = old.board.value? c
  /-- The choices of every other field, those of the field itself included, are as before, and
  so are the loads that are under way for them. -/
  unchanged : ∀ c, hangsOn? old.fields c ≠ some k →
    new.state? c = old.state? c ∧ new.board.loadsOf c = old.board.loadsOf c

theorem reached_set (hf : f.Steady f.fields) (hk : (f.definition? k).isSome) (v : Json) :
    Reached k v f (f.modify fun b => b.set k v) := by
  have hwired := hf.sound.wired
  have hvalue := Board.value?_set hwired k v
  have hchoices := Board.withoutCell_set hwired k v
  simp only [hf.parentOf?_eq] at hvalue hchoices
  have hheld : ∀ c, (withKey? f.fields c).isSome → ∃ u, f.board.value? c = some u := fun c hc =>
    Option.isSome_iff_exists.mp ((hf.isSome_value? c).trans hc)
  refine ⟨?_, fun c hc => ?_, fun c hc => ?_, fun c hck hc => ?_, fun c hc => ?_⟩
  · obtain ⟨u, hu⟩ := hheld k hk
    exact (hvalue k).trans (by rw [if_pos rfl, hu, Option.map_some])
  · obtain ⟨u, hu⟩ := hheld c (known_child_of_hangsOn? hc)
    have hck : c ≠ k := fun h => (hangs_iff_knownParent?.mp hc).2 h.symm
    exact (hvalue c).trans (by rw [if_neg hck, if_pos hc, hu, Option.map_some])
  · have hslot := (hf.isSome_slot c).trans (known_child_of_hangsOn? hc)
    obtain ⟨s, hs⟩ := Option.isSome_iff_exists.mp hslot
    obtain ⟨l, hl, -⟩ := Option.map_eq_some_iff.mp ((hf.parentOf?_eq c).trans hc)
    have hlink : (f.board.lane c).withoutCell.link = some l := hl
    have hslot' : (f.board.lane c).withoutCell.slot = some s := hs
    have hnew := congrArg Lane.slot ((hchoices c).trans (if_pos hc))
    rw [Lane.slot_cascade hlink, hslot'] at hnew
    exact (congrArg (Option.map fun s => s.current.value) hnew).trans rfl
  · exact (hvalue c).trans (by rw [if_neg hck, if_neg hc])
  · have hsame := (hchoices c).trans (if_neg hc)
    exact ⟨congrArg (fun x => x.slot.map fun s => s.current.value) hsame,
      congrArg Lane.loads hsame⟩

end Form

namespace FormEngine

open FieldSpec

variable {e : FormEngine}

/-- **A value reaches one level down**, whatever state the engine is in and however the fields
hang on each other. The value of a field can always be set; what comes of it is the value
itself, and what becomes of the fields that hang on it (`SmartForm.Form.Reached`). What is no
field cannot be set, and the engine stays as it is. -/
theorem set_reaches_children (he : e.Reachable) (k : String) (v : Json) :
    ((e.form.definition? k).isSome →
        ∃ e', e.set k v = .ok e' ∧ Form.Reached k v e.form e'.form) ∧
      (e.form.definition? k = none →
        e.set k v = .error (.unknownControl k) ∧ e.handle (.fill (.set k v)) = e) := by
  have hf := he.steady
  constructor
  · intro hk
    have halive : e.form.board.isAlive k = true := (hf.isAlive_eq k).trans hk
    have hset : e.form.set k v = .ok (e.form.modify fun b => b.set k v) := by
      rw [Form.set, if_pos halive]
    refine ⟨e.modify fun _ => e.form.modify fun b => b.set k v, ?_, Form.reached_set hf hk v⟩
    rw [set, hset]
    rfl
  · intro hk
    have halive : e.form.board.isAlive k = false := by
      rw [hf.isAlive_eq]
      exact Option.isSome_eq_false_iff.mpr (Option.isNone_iff_eq_none.mpr hk)
    have hset : e.set k v = .error (.unknownControl k) := by
      rw [set, Form.set, halive]
      rfl
    refine ⟨hset, ?_⟩
    rw [handle, fill, hset]
    rfl

/-- On the circle of a country and a language, the language is lost with the country; so is
the town, and the street is kept. -/
theorem set_reaches_children_circle :
    let e := run { service := { loader := fun _ _ => (0, .ok []) } } [.build circleFields]
    (∃ e', e.set "country" (.string "SE") = .ok e' ∧
        e'.form.board.value? "country" = some (.string "SE") ∧
        e'.form.board.value? "language" = some .null ∧
        e'.form.state? "town" = some .underWay ∧
        e'.form.state? "street" = e.form.state? "street") ∧
      e.set "planet" .null = .error (.unknownControl "planet") := by
  intro e
  have he : e.Reachable := ⟨_, _, rfl⟩
  obtain ⟨e', hset, hreached⟩ := (set_reaches_children he "country" (.string "SE")).1 rfl
  exact ⟨⟨e', hset, hreached.given, hreached.lost "language" rfl, hreached.renewed "town" rfl,
    (hreached.unchanged "street" (by decide)).1⟩,
    ((set_reaches_children he "planet" .null).2 rfl).1⟩

end FormEngine

end SmartForm
