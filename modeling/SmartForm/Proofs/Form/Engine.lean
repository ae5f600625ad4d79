import SmartForm.Form.Engine
import SmartForm.Proofs.Form.Run

/-!
# Engines at work

Whatever an engine is asked to do (`SmartForm.EngineEvent`), its present form is made
anew, or filled in, or some of its loads come to their ends while time goes by. Held cells
and former forms have no effect on it, but for a held cell of the present form, which is
set like any other.

So the present form of an engine is steady at all times
(`SmartForm.FormEngine.Reachable.steady`), for the fields that it says it has. The one thing to
know is that time does nothing on its own: while it goes by the loader is called for the
loads that rest, and some loads are finished (`SmartForm.FormEngine.form_sleep`).
-/

namespace SmartForm

/-! ### Time on a board -/

namespace Board

theorem Sound.tidy {b : Board} (hb : b.Sound) : b.tidy.Sound :=
  ⟨⟨hb.wired.children, hb.wired.alive, hb.wired.apart⟩, hb.lanes⟩

/-- Lets loads end one after the other. -/
def finishAll (b : Board) (ends : List LoadEnd) : Board :=
  ends.foldl (fun b e => b.finish e.key e.token e.records) b

@[simp] theorem frame_finishAll (b : Board) (ends : List LoadEnd) :
    (b.finishAll ends).frame = b.frame := by
  induction ends generalizing b with
  | nil => rfl
  | cons e ends ih => exact (ih _).trans (frame_finish b e.key e.token e.records)

theorem Sound.finishAll {b : Board} (hb : b.Sound) (ends : List LoadEnd) :
    (b.finishAll ends).Sound := by
  induction ends generalizing b with
  | nil => exact hb
  | cons e ends ih => exact ih (hb.finish e.key e.token e.records)

end Board

namespace TimedBoard

/-- The ends that come within some milliseconds, the loader having been called. -/
def due (t : TimedBoard) (service : LoadService) (now ms : Nat) : List LoadEnd :=
  sortEnds ((t.wake service now).1.ends.filter fun e => e.time ≤ now + ms)

end TimedBoard

namespace Form

theorem Steady.own {fields : List FieldSpec} {f : Form} (hf : f.Steady fields) :
    f.Steady f.fields := by
  have hbuild : build f.fields = build fields := by
    rw [hf.fields_eq, build, build, FieldSpec.firsts_firsts]
  refine ⟨?_, ?_, hbuild ▸ hf.frame_eq, hf.sound⟩
  · rw [hf.fields_eq, FieldSpec.firsts_firsts]
  · rw [hf.fields_eq, FieldSpec.firsts_firsts, hf.order_eq]

end Form

/-! ### Events -/

/-- What an engine can be asked to do. -/
inductive EngineEvent where
  /-- Another form takes the place of the present one. -/
  | build (fields : List FieldSpec)
  /-- The present form is filled in. -/
  | fill (ev : FormEvent)
  /-- A cell of the present form is held. -/
  | hold (key : String)
  /-- A held cell is let go once. -/
  | release (r : CellRef)
  /-- A held cell is set. -/
  | setCell (r : CellRef) (v : Json)
  /-- Time goes by. -/
  | sleep (ms : Nat)
  /-- Time goes by until nothing is being loaded. -/
  | settle

namespace FormEngine

/-- The present form is filled in. A field that is not there cannot be set. -/
def fill (e : FormEngine) : FormEvent → FormEngine
  | .set key v => (e.set key v).toOption.getD e
  | .patch values => e.patch values
  | .reset => e.reset
  | .finish key token records => e.modify fun f => f.modify fun b => b.finish key token records

/-- The engine does what it is asked to. -/
def handle (e : FormEngine) : EngineEvent → FormEngine
  | .build fields => e.build fields
  | .fill ev => e.fill ev
  | .hold key => e.hold key
  | .release r => e.release r
  | .setCell r v => e.setCell r v
  | .sleep ms => (e.sleep ms).1
  | .settle => e.settle.1

/-- The engine does one thing after the other. -/
def run (e : FormEngine) (es : List EngineEvent) : FormEngine := es.foldl handle e

/-- An engine that has done something, be it nothing, since it was made. -/
def Reachable (e : FormEngine) : Prop := ∃ service es, e = run { service } es

variable {e : FormEngine}

/-! #### The present form -/

@[simp] theorem form_fill (e : FormEngine) (ev : FormEvent) :
    (e.fill ev).form = e.form.handle ev := by
  cases ev with
  | set key v =>
    rw [fill, Form.handle, set]
    cases e.form.set key v <;> rfl
  | _ => rfl

theorem current_modifyForm_of_ne {n : Nat} (hn : n ≠ e.number) (f : Form → Form) :
    (e.modifyForm n f).current = e.current := by
  rw [modifyForm, if_neg hn]

theorem form_modifyForm_of_ne {n : Nat} (hn : n ≠ e.number) (f : Form → Form) :
    (e.modifyForm n f).form = e.form :=
  congrArg TimedForm.form (current_modifyForm_of_ne hn f)

@[simp] theorem form_release (e : FormEngine) (r : CellRef) : (e.release r).form = e.form := by
  rw [release]
  split
  · rfl
  · next hr => exact form_modifyForm_of_ne (fun h => hr (.inl h)) _

@[simp] theorem form_hold (e : FormEngine) (key : String) : (e.hold key).form = e.form := rfl

theorem form_setCell (e : FormEngine) (r : CellRef) (v : Json) :
    (e.setCell r v).form =
      if r.form = e.number then e.form.modify fun b => b.set r.key v else e.form := by
  rw [setCell]
  by_cases hr : r.form = e.number
  · rw [if_pos hr, modifyForm, if_pos hr]
    rfl
  · rw [if_neg hr, form_modifyForm_of_ne hr]

/-- **What time does** is to finish some loads. -/
theorem form_sleep (e : FormEngine) (ms : Nat) :
    (e.sleep ms).1.form =
      e.form.modify fun b => b.tidy.finishAll (e.current.timed.due e.service e.now ms) := rfl

/-- How long an engine waits until nothing is being loaded. -/
def rest (e : FormEngine) : Nat := ((e.current.timed.wake e.service e.now).1).lastEnd e.now - e.now

theorem settle_eq (e : FormEngine) :
    e.settle = if e.form.isLoading then e.sleep e.rest else (e, []) := rfl

/-! #### It stays steady -/

theorem steady_modify {fields : List FieldSpec} {f : Form} (hf : f.Steady fields)
    {g : Board → Board} (hframe : (g f.board).frame = f.board.frame)
    (hsound : (g f.board).Sound) : (f.modify g).Steady fields :=
  ⟨hf.fields_eq, hf.order_eq, hframe.trans hf.frame_eq, hsound⟩

theorem steady_sleep {fields : List FieldSpec} (he : e.form.Steady fields) (ms : Nat) :
    (e.sleep ms).1.form.Steady fields := by
  rw [form_sleep]
  exact steady_modify he (Board.frame_finishAll ..) (he.sound.tidy.finishAll _)

/-- **A form stays steady** for its fields, whatever the engine is asked to do, until another
form takes its place. -/
theorem steady_handle_of_ne {fields : List FieldSpec} (he : e.form.Steady fields)
    {ev : EngineEvent} (hev : ∀ fs, ev ≠ .build fs) : (e.handle ev).form.Steady fields := by
  cases ev with
  | build fs => exact absurd rfl (hev fs)
  | fill ev =>
    rw [handle, form_fill]
    exact Form.steady_handle he ev
  | hold key =>
    rw [handle, form_hold]
    exact he
  | release r =>
    rw [handle, form_release]
    exact he
  | setCell r v =>
    rw [handle, form_setCell]
    split
    · exact steady_modify he (Board.frame_set ..) (he.sound.set r.key v)
    · exact he
  | sleep ms => exact steady_sleep he ms
  | settle =>
    rw [handle, settle_eq]
    split
    · exact steady_sleep he e.rest
    · exact he

theorem steady_handle (he : e.form.Steady e.form.fields) (ev : EngineEvent) :
    (e.handle ev).form.Steady (e.handle ev).form.fields := by
  cases ev with
  | build fields => exact (Form.steady_build fields).own
  | _ => exact (steady_handle_of_ne he fun _ => EngineEvent.noConfusion).own

theorem steady_run (he : e.form.Steady e.form.fields) (es : List EngineEvent) :
    (e.run es).form.Steady (e.run es).form.fields := by
  induction es generalizing e with
  | nil => exact he
  | cons ev es ih => exact ih (steady_handle he ev)

/-- **The present form of an engine is steady** whatever the engine has been asked to
do. -/
theorem Reachable.steady (he : e.Reachable) : e.form.Steady e.form.fields := by
  obtain ⟨service, es, rfl⟩ := he
  have hempty : Form.build [] = {} := by
    simp [Form.build, FieldSpec.firsts, FieldSpec.applyOrder]
  have hstart : ({ service } : FormEngine).form.Steady [] := hempty ▸ Form.steady_build []
  exact steady_run hstart.own es

theorem form_run_fill (e : FormEngine) (es : List FormEvent) :
    (e.run (es.map .fill)).form = e.form.run es := by
  induction es generalizing e with
  | nil => rfl
  | cons ev es ih =>
    have hstep := ih (e.fill ev)
    rw [form_fill] at hstep
    exact hstep

end FormEngine

end SmartForm
