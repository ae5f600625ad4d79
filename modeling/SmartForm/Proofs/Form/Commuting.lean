import SmartForm.Proofs.Form.Alike
import SmartForm.Proofs.Form.Rebuild

/-!
# Writes that commute

Two fields of a form can be set in either order, if neither of them hangs on the other, and
nobody will ever tell the difference: the form shows the same then and at all later times,
whatever the engine is asked to do (`SmartForm.FormEngine.set_commutes`).

The loads that the two writes start stand on the board in the order of the writes, so the
two engines are not the same. They are **alike** (`SmartForm.FormEngine.Alike`), and engines
that are alike stay so (`SmartForm.FormEngine.Alike.run`). The one thing to know is that an
engine that has done something since it was made is alike to itself
(`SmartForm.FormEngine.Reachable.alike`), which says that the ends that will come are those
of loads under way, one for each.
-/

namespace SmartForm

namespace FormEngine

/-- **Two engines that are alike** as far as their present forms go. -/
structure Alike (e e' : FormEngine) : Prop where
  /-- They have the same loader. -/
  service_eq : e'.service = e.service
  /-- They have the same time. -/
  now_eq : e'.now = e.now
  /-- They have had the same number of forms. -/
  number_eq : e'.number = e.number
  /-- The same cells are held. -/
  held_eq : e'.held = e.held
  /-- Their forms have the same fields. -/
  fields_eq : e'.form.fields = e.form.fields
  /-- Values are written together in the same order. -/
  order_eq : e'.form.applyOrder = e.form.applyOrder
  /-- Their boards are alike, and the same ends will come. -/
  timed : e.current.timed.Alike e'.current.timed

variable {e e' : FormEngine}

/-- The engine with a cell of its present form set. -/
def write (e : FormEngine) (key : String) (v : Json) : FormEngine :=
  e.modify fun f => f.modify fun b => b.set key v

theorem set_eq (e : FormEngine) (key : String) (v : Json) :
    e.set key v =
      if e.form.board.isAlive key then .ok (e.write key v) else .error (.unknownControl key) := by
  rw [set, Form.set]
  split <;> rfl

theorem fill_set (e : FormEngine) (key : String) (v : Json) :
    e.fill (.set key v) = if e.form.board.isAlive key then e.write key v else e := by
  rw [fill, set_eq]
  split <;> rfl

theorem steady_write {fields : List FieldSpec} (he : e.form.Steady fields) (key : String)
    (v : Json) : (e.write key v).form.Steady fields :=
  steady_modify (g := fun b => b.set key v) he (Board.frame_set ..) (he.sound.set key v)

/-! ### Staying alike -/

namespace Alike

theorem form (h : e.Alike e') : e.form.Alike e'.form := ⟨h.fields_eq, h.order_eq, h.timed.board⟩

theorem modify (h : e.Alike e') {f : Form → Form} (hf : (f e.form).Alike (f e'.form)) :
    (e.modify f).Alike (e'.modify f) :=
  { h with
    fields_eq := hf.fields_eq
    order_eq := hf.order_eq
    timed := h.timed.modify (f := fun _ => (f e.form).board) (g := fun _ => (f e'.form).board)
      hf.board }

theorem write (h : e.Alike e') (hb : e.form.board.Wired) (key : String) (v : Json) :
    (e.write key v).Alike (e'.write key v) :=
  h.modify ⟨h.fields_eq, h.order_eq, h.form.board.set hb key v⟩

theorem fill (h : e.Alike e') (he : e.form.Steady e.form.fields) (ev : FormEvent) :
    (e.fill ev).Alike (e'.fill ev) := by
  cases ev with
  | set key v =>
    rw [fill_set, fill_set, Board.isAlive_of_frame h.form.board.frame_eq]
    split
    · exact h.write he.sound.wired key v
    · exact h
  | patch values => exact h.modify (h.form.handle he (.patch values))
  | reset => exact h.modify (h.form.handle he .reset)
  | finish key token records => exact h.modify (h.form.handle he (.finish key token records))

/-- A former form does not count. -/
theorem modifyForm (h : e.Alike e') (n : Nat) {f : Form → Form}
    (hf : n = e.number → (f e.form).Alike (f e'.form)) :
    (e.modifyForm n f).Alike (e'.modifyForm n f) := by
  by_cases hn : n = e.number
  · rw [FormEngine.modifyForm, if_pos hn, FormEngine.modifyForm, if_pos (hn.trans h.number_eq.symm)]
    exact h.modify (hf hn)
  · have hn' : n ≠ e'.number := fun h' => hn (h'.trans h.number_eq)
    have hnumber : (e'.modifyForm n f).number = (e.modifyForm n f).number := by
      rw [number_modifyForm, number_modifyForm, h.number_eq]
    simp only [FormEngine.modifyForm, if_neg hn, if_neg hn'] at hnumber ⊢
    exact { h with number_eq := hnumber }

theorem unhold (h : e.Alike e') (r : CellRef) : (e.unhold r).Alike (e'.unhold r) :=
  { h with held_eq := congrArg (List.erase · r) h.held_eq }

theorem release (h : e.Alike e') (r : CellRef) : (e.release r).Alike (e'.release r) := by
  rw [release_eq, release_eq, h.number_eq, h.held_eq]
  split
  · exact h.unhold r
  · next hr => exact (h.unhold r).modifyForm _ fun hn => absurd (.inl hn) hr

theorem hold (h : e.Alike e') (key : String) : (e.hold key).Alike (e'.hold key) :=
  { h with held_eq := by rw [FormEngine.hold, FormEngine.hold, h.number_eq, h.held_eq] }

theorem setCell (h : e.Alike e') (hb : e.form.board.Wired) (r : CellRef) (v : Json) :
    (e.setCell r v).Alike (e'.setCell r v) :=
  h.modifyForm r.form fun _ => ⟨h.fields_eq, h.order_eq, h.form.board.set hb r.key v⟩

theorem sleep (h : e.Alike e') (hb : e.form.board.Sound) (ms : Nat) :
    (e.sleep ms).1.Alike (e'.sleep ms).1 where
  service_eq := h.service_eq
  now_eq := congrArg (· + ms) h.now_eq
  number_eq := by rw [number_sleep, number_sleep, h.number_eq]
  held_eq := h.held_eq
  fields_eq := h.fields_eq
  order_eq := h.order_eq
  timed := by
    have hsleep := h.timed.sleep hb e.service e.now ms
    have hcurrent : (e'.sleep ms).1.current.timed =
        (e'.current.timed.sleep e'.service e'.now ms).1 := rfl
    rw [hcurrent, h.service_eq, h.now_eq]
    exact hsleep

theorem settle (h : e.Alike e') (he : e.form.Steady e.form.fields) :
    e.settle.1.Alike e'.settle.1 := by
  have hrest : e'.rest = e.rest := by
    rw [rest, rest, h.service_eq, h.now_eq,
      (h.timed.wake he.sound e.service e.now).lastEnd_eq e.now]
  rw [settle_eq, settle_eq, h.form.isLoading_eq he, hrest]
  split
  · exact h.sleep he.sound e.rest
  · exact h

/-- **Engines stay alike** whatever they are asked to do. -/
theorem handle (h : e.Alike e') (he : e.form.Steady e.form.fields) (ev : EngineEvent) :
    (e.handle ev).Alike (e'.handle ev) := by
  cases ev with
  | build fields =>
    refine { h with number_eq := ?_, fields_eq := rfl, order_eq := rfl, timed := .start _ }
    have hnumber : e'.former.length = e.former.length := h.number_eq
    simp [number, FormEngine.handle, build, hnumber]
  | fill ev => exact h.fill he ev
  | hold key => exact h.hold key
  | release r => exact h.release r
  | setCell r v => exact h.setCell he.sound.wired r v
  | sleep ms => exact h.sleep he.sound ms
  | settle => exact h.settle he

theorem run (h : e.Alike e') (he : e.form.Steady e.form.fields) (es : List EngineEvent) :
    (e.run es).Alike (e'.run es) := by
  induction es generalizing e e' with
  | nil => exact h
  | cons ev es ih => exact ih (h.handle he ev) (steady_handle he ev)

/-- Independent writes lead to engines that are alike. -/
theorem write_comm (h : e.Alike e) (hb : e.form.board.Wired) {p q : String}
    (hpq : e.form.board.Independent p q) (v w : Json) :
    ((e.write p v).write q w).Alike ((e.write q w).write p v) :=
  { h with timed := h.timed.set_comm hb hpq v w }

end Alike

/-- **The ends that will come are in order** on the present form of an engine. -/
theorem Reachable.alike (he : e.Reachable) : e.Alike e := by
  obtain ⟨service, es, rfl⟩ := he
  have hsteady : ({ service } : FormEngine).form.Steady [] := by
    have hempty : Form.build [] = {} := by
      simp [Form.build, FieldSpec.firsts, FieldSpec.applyOrder]
    exact hempty ▸ Form.steady_build []
  exact Alike.run ⟨rfl, rfl, rfl, rfl, rfl, rfl, .start _⟩ hsteady.own es

/-! ### The result -/

open FieldSpec

/-- **Independent writes commute.** Let an engine be in any state, and let neither of two
fields hang on the other, however else the fields hang on each other. Then setting both in
either order is the same for anyone who looks at the form: the values, what they do wrong,
the choices, their tokens and the loads under way are the same (`SmartForm.Form.ShowsSame`),
and they stay the same whatever the engine is asked to do next, be it that values are set,
that loads come to their ends in any order and with any outcome, or that time goes by. -/
theorem set_commutes (he : e.Reachable) {k₁ k₂ : String} (hk₁ : (e.form.definition? k₁).isSome)
    (hk₂ : (e.form.definition? k₂).isSome) (hne : k₁ ≠ k₂)
    (h₁ : hangsOn? e.form.fields k₁ ≠ some k₂) (h₂ : hangsOn? e.form.fields k₂ ≠ some k₁)
    (v₁ v₂ : Json) :
    ∃ e₁ e₁₂ e₂ e₂₁, e.set k₁ v₁ = .ok e₁ ∧ e₁.set k₂ v₂ = .ok e₁₂ ∧
      e.set k₂ v₂ = .ok e₂ ∧ e₂.set k₁ v₁ = .ok e₂₁ ∧
      ∀ es : List EngineEvent, Form.ShowsSame (e₁₂.run es).form (e₂₁.run es).form := by
  have hf := he.steady
  have hindependent : e.form.board.Independent k₁ k₂ :=
    ⟨hne, by rwa [hf.parentOf?_eq], by rwa [hf.parentOf?_eq]⟩
  have halive₁ : e.form.board.isAlive k₁ = true := (hf.isAlive_eq k₁).trans hk₁
  have halive₂ : e.form.board.isAlive k₂ = true := (hf.isAlive_eq k₂).trans hk₂
  -- A write takes no cell away.
  have halive₁₂ : (e.write k₁ v₁).form.board.isAlive k₂ = true :=
    (Board.isAlive_of_frame (Board.frame_set ..) k₂).trans halive₂
  have halive₂₁ : (e.write k₂ v₂).form.board.isAlive k₁ = true :=
    (Board.isAlive_of_frame (Board.frame_set ..) k₁).trans halive₁
  refine ⟨e.write k₁ v₁, (e.write k₁ v₁).write k₂ v₂, e.write k₂ v₂, (e.write k₂ v₂).write k₁ v₁,
    ?_, ?_, ?_, ?_, fun es => ?_⟩
  · rw [set_eq, if_pos halive₁]
  · rw [set_eq, if_pos halive₁₂]
  · rw [set_eq, if_pos halive₂]
  · rw [set_eq, if_pos halive₂₁]
  · have hsteady := (steady_write (steady_write hf k₁ v₁) k₂ v₂).own
    have halike := (he.alike.write_comm hf.sound.wired hindependent v₁ v₂).run hsteady es
    exact halike.form.showsSame (steady_run hsteady es)

/-- On the circle of a country and a language, a town and the language are set. The loads
that this starts stand on the board in the order of the writes, and nothing else tells. -/
theorem set_commutes_circle :
    let e := run { service := { loader := fun _ _ => (20, .ok []) } }
      [.build circleFields, .fill (.set "country" (.string "SE"))]
    ∃ e₁ e₁₂ e₂ e₂₁, e.set "town" (.string "Lund") = .ok e₁ ∧
      e₁.set "language" (.string "sv") = .ok e₁₂ ∧
      e.set "language" (.string "sv") = .ok e₂ ∧ e₂.set "town" (.string "Lund") = .ok e₂₁ ∧
      e₁₂.form.board.loads.map Load.key = ["town", "language", "street", "country"] ∧
      e₂₁.form.board.loads.map Load.key = ["town", "language", "country", "street"] ∧
      Form.ShowsSame (e₁₂.run [.sleep 20]).form (e₂₁.run [.sleep 20]).form := by
  intro e
  have he : e.Reachable := ⟨_, _, rfl⟩
  have htown : hangsOn? e.form.fields "town" ≠ some "language" := by decide
  have hlanguage : hangsOn? e.form.fields "language" ≠ some "town" := by decide
  obtain ⟨e₁, e₁₂, e₂, e₂₁, h₁, h₁₂, h₂, h₂₁, hsame⟩ :=
    set_commutes he rfl rfl (by decide) htown hlanguage (.string "Lund") (.string "sv")
  refine ⟨e₁, e₁₂, e₂, e₂₁, h₁, h₁₂, h₂, h₂₁, ?_, ?_, hsame [.sleep 20]⟩
  · obtain rfl : e.write "town" (.string "Lund") = e₁ := Except.ok.inj h₁
    obtain rfl := Except.ok.inj h₁₂
    rfl
  · obtain rfl : e.write "language" (.string "sv") = e₂ := Except.ok.inj h₂
    obtain rfl := Except.ok.inj h₂₁
    rfl

end FormEngine

end SmartForm
