import SmartForm.Proofs.Form.Freshness
import SmartForm.Proofs.Form.Patching
import SmartForm.Proofs.Form.Settling

/-!
# What waiting makes of a form

An engine that waits until nothing is being loaded changes nothing but choices: what is
under way ends with what the loader has to say of it, and everything else stays
(`SmartForm.FormEngine.state?_settle`, `SmartForm.FormEngine.value?_settle`).

The one thing to know is that this takes an engine that has forgotten no load and knows of
no end yet. Then the ends that come while it waits are those of the loads under way, each
once. Waiting leaves such an engine behind (`SmartForm.FormEngine.ends_settle`), and so does
patching it, so one wait may follow the other.
-/

namespace SmartForm

namespace Form

open FieldSpec

variable {fields : List FieldSpec} {f : Form} {k : String}

/-- The ends of some loads as things that happen to the form. -/
def endings (ends : List LoadEnd) : List FormEvent :=
  ends.map fun d => .finish d.key d.token d.records

theorem run_endings (f : Form) (ends : List LoadEnd) :
    f.run (endings ends) = f.modify fun b => b.finishAll ends := by
  induction ends generalizing f with
  | nil => rfl
  | cons d ends ih => exact ih _

theorem withoutCell_run_endings (hf : f.Steady fields) (ends : List LoadEnd) (k : String) :
    ((f.run (endings ends)).board.lane k).withoutCell =
      (endings ends).foldl (Lane.hear k) (f.board.lane k).withoutCell := by
  refine withoutCell_run hf fun ev hev => ?_
  obtain ⟨d, -, rfl⟩ := List.mem_map.mp hev
  exact Option.bind_eq_none_iff.mpr fun _ _ => rfl

/-- Where nothing is under way, the ends of loads change nothing. -/
theorem state?_run_endings_of_quiet (hf : f.Steady fields) (hk : (f.board.lane k).loads = [])
    (ends : List LoadEnd) : (f.run (endings ends)).state? k = f.state? k := by
  have hloads : (f.board.lane k).withoutCell.loads = [] := hk
  rw [state?_eq_slot, withoutCell_run_endings hf, Lane.foldl_hear_of_nil hloads, state?_eq_slot]

/-- **A load that ends in one way only** leaves what comes of it, whatever else ends. -/
theorem state?_run_endings_of_load (hf : f.Steady fields) {l : Load}
    (hk : (f.board.lane k).loads = [l]) {ends : List LoadEnd} {records : Option (List Json)}
    (hsome : ∃ d ∈ ends, d.key = k ∧ d.token = l.token)
    (hall : ∀ d ∈ ends, d.key = k → d.token = l.token → d.records = records) :
    (f.run (endings ends)).state? k = some (.ofResult (Board.resultOf l.binding records)) := by
  have hloads : (f.board.lane k).withoutCell.loads = [l] := hk
  have hslot : ∃ s, (f.board.lane k).withoutCell.slot = some s ∧ l.token = s.generation := by
    rcases (hf.sound.lanes k).quiet_or_busy with ⟨hnil, -⟩ | ⟨s, l', hs, hl', htoken, -, -⟩
    · rw [hk] at hnil
      cases hnil
    · obtain rfl : l = l' := List.singleton_inj.mp (hk.symm.trans hl')
      exact ⟨s, hs, htoken⟩
  obtain ⟨s, hs, htoken⟩ := hslot
  -- Some end is an answer to the load, and all answers are the same.
  have hanswer : (endings ends).findSome? (FormEvent.answer? k l.token) = some records := by
    cases hfound : (endings ends).findSome? (FormEvent.answer? k l.token) with
    | none =>
      obtain ⟨d, hd, hkey, htoken⟩ := hsome
      have hnone := List.findSome?_eq_none_iff.mp hfound _ (List.mem_map_of_mem hd)
      simp [FormEvent.answer?, hkey, htoken] at hnone
    | some found =>
      obtain ⟨ev, hev, hanswer⟩ := List.exists_of_findSome?_eq_some hfound
      obtain ⟨d, hd, rfl⟩ := List.mem_map.mp hev
      rw [FormEvent.answer?] at hanswer
      split at hanswer
      · next hkey => rw [← Option.some.inj hanswer, hall d hd hkey.1 hkey.2]
      · cases hanswer
  rw [state?_eq_slot, withoutCell_run_endings hf, Lane.slot_foldl_hear hloads hs htoken, hanswer]

/-- Nothing is under way where nothing is shown to be. -/
theorem Steady.loads_eq_nil (hf : f.Steady fields) (h : f.isLoading = false) (k : String) :
    (f.board.lane k).loads = [] := by
  rcases (hf.sound.lanes k).quiet_or_busy with hq | ⟨s, l, hs, -, -, hvalue, -⟩
  · exact hq.1
  · have hload : f.board.store.anyLoading = true := by
      rw [ChoiceStore.anyLoading, List.any_eq_true]
      exact ⟨_, ChoiceStore.mem_states_of_slot? hs, by rw [hvalue]; rfl⟩
    rw [isLoading, hload] at h
    cases h

end Form

namespace FormEngine

open FieldSpec

variable {e : FormEngine} {fields : List FieldSpec} {k : String}

/-! ### The ends that come -/

theorem cells_finish (b : Board) (key : String) (token : Nat) (records : Option (List Json)) :
    (b.finish key token records).cells = b.cells := by
  rw [Board.finish]
  cases b.load? key token <;> rfl

theorem cells_finishAll (b : Board) (ends : List LoadEnd) :
    (b.finishAll ends).cells = b.cells := by
  induction ends generalizing b with
  | nil => rfl
  | cons d ends ih => exact (ih _).trans (cells_finish ..)

/-- An engine waits for all ends that are known once the loader has been called. -/
theorem time_le_rest {d : LoadEnd} (hd : d ∈ (e.current.timed.wake e.service e.now).1.ends) :
    d.time ≤ e.now + e.rest := by
  obtain ⟨hnow, hlast⟩ := (e.current.timed.wake e.service e.now).1.le_lastEnd e.now
  have htime := hlast d hd
  rw [rest]
  omega

/-- If no end is known yet, the ends that come are those of the loads under way. -/
theorem mem_due_rest (hends : e.current.ends = []) {d : LoadEnd} :
    d ∈ e.current.timed.due e.service e.now e.rest ↔
      ∃ l ∈ e.form.board.loads, TimedBoard.endOf e.service e.now l = d := by
  have hresting : e.current.timed.resting = e.form.board.loads := by
    rw [TimedBoard.resting, TimedForm.timed, hends]
    simp
    rfl
  have hwake : (e.current.timed.wake e.service e.now).1.ends =
      e.form.board.loads.map (TimedBoard.endOf e.service e.now) := by
    rw [TimedBoard.wake, hresting, TimedForm.timed, hends, List.nil_append]
  rw [TimedBoard.due, TimedBoard.mem_sortEnds, List.mem_filter]
  constructor
  · rintro ⟨hd, -⟩
    rw [hwake] at hd
    exact List.mem_map.mp hd
  · intro hd
    have hmem : d ∈ (e.current.timed.wake e.service e.now).1.ends := by
      rw [hwake]
      exact List.mem_map.mpr hd
    exact ⟨hmem, decide_eq_true (time_le_rest hmem)⟩

/-- Waiting leaves no end behind. -/
theorem ends_settle (hends : e.current.ends = []) : e.settle.1.current.ends = [] := by
  rw [settle_eq]
  split
  · have hends' : (e.sleep e.rest).1.current.ends =
        (e.current.timed.wake e.service e.now).1.ends.filter fun d => e.now + e.rest < d.time := rfl
    rw [hends', List.filter_eq_nil_iff]
    intro d hd
    simpa using time_le_rest hd
  · exact hends

theorem ends_patch (hends : e.current.ends = []) (values : List (String × Json)) :
    (e.patch values).current.ends = [] := by
  rw [patch, modify, TimedForm.modify, hends]
  rfl

theorem service_settle (e : FormEngine) : e.settle.1.service = e.service := by
  rw [settle_eq]
  split <;> rfl

theorem steady_settle (he : e.form.Steady fields) : e.settle.1.form.Steady fields := by
  rw [settle_eq]
  split
  · exact steady_sleep he e.rest
  · exact he

/-! ### What is held and shown then -/

/-- Waiting changes no value. -/
theorem value?_settle (e : FormEngine) (k : String) :
    e.settle.1.form.board.value? k = e.form.board.value? k := by
  have hcells : e.settle.1.form.board.cells = e.form.board.cells := by
    rw [settle_eq]
    split
    · rw [form_sleep]
      exact cells_finishAll ..
    · rfl
  rw [Board.value?, Board.cell?, hcells, Board.value?, Board.cell?]

/-- **What is under way ends with what the loader says of it**, and the choices of all other
fields stay. -/
theorem state?_settle (he : e.form.Steady fields) (hends : e.current.ends = []) (k : String) :
    e.settle.1.form.state? k =
      match (e.form.board.lane k).loads with
      | [] => e.form.state? k
      | l :: _ =>
        some (.ofResult (Board.resultOf l.binding
          (e.service.outcome l.binding l.dependency).2)) := by
  rw [settle_eq]
  cases hload : e.form.isLoading with
  | false =>
    rw [he.loads_eq_nil hload]
    rfl
  | true =>
    -- What happens while time goes by is that the loads end.
    have htidy : (e.form.modify Board.tidy).Steady fields :=
      steady_modify he rfl he.sound.tidy
    have hform : (e.sleep e.rest).1.form = (e.form.modify Board.tidy).run
        (Form.endings (e.current.timed.due e.service e.now e.rest)) := by
      rw [Form.run_endings]
      rfl
    have hlane : (e.form.modify Board.tidy).board.lane k = e.form.board.lane k := rfl
    simp only [if_true, hform]
    rcases (he.sound.lanes k).quiet_or_busy with ⟨hnil, -⟩ | ⟨s, l, -, hl, -, -, -⟩
    · rw [Form.state?_run_endings_of_quiet htidy (hlane ▸ hnil), hnil]
      rfl
    · have hmem : ∀ l' : Load, l' ∈ e.form.board.loads ∧ l'.key = k ↔ l' = l := by
        intro l'
        refine Iff.trans ?_ List.mem_singleton
        rw [← hl, Board.lane, Board.loadsOf, List.mem_filter, decide_eq_true_iff]
      rw [hl]
      refine Form.state?_run_endings_of_load htidy (hlane ▸ hl) ?_ ?_
      · obtain ⟨hin, hkey⟩ := (hmem l).mpr rfl
        exact ⟨_, (mem_due_rest hends).mpr ⟨l, hin, rfl⟩, hkey, rfl⟩
      · intro d hd hkey _
        obtain ⟨l', hin, rfl⟩ := (mem_due_rest hends).mp hd
        obtain rfl := (hmem l').mp ⟨hin, hkey⟩
        rfl

/-- Nothing is under way once an engine has waited. -/
theorem loads_settle (he : e.form.Steady fields) (k : String) :
    (e.settle.1.form.board.lane k).loads = [] :=
  (steady_settle he).loads_eq_nil (isLoading_settle he.own) k

/-! ### Patched, then waited for -/

section Patch

variable {values : List (String × Json)} {c : FieldSpec} {binding : Binding} {p : String}

/-- The choices of a field whose parent was patched are those of its value. -/
theorem state?_settle_patch_of_set (he : e.form.Steady fields) (hends : e.current.ends = [])
    (hc : withKey? fields c.key = some c) (hp : attachment? fields c = some (binding, p))
    {v : Json} (hv : values.lookup p = some v) :
    (e.patch values).settle.1.form.state? c.key =
      some (if v.isEmpty then {} else
        .ofResult (Board.resultOf binding (e.service.outcome binding (some v)).2)) := by
  have hn : ∃ n, e.form.generation? c.key = some n := by
    refine Option.isSome_iff_exists.mp (Option.isSome_map.trans ?_)
    rw [he.isSome_slot, hc]
    rfl
  obtain ⟨n, hn⟩ := hn
  have hpatch : FormEvent.value? fields (.patch values) p = some v := hv
  obtain ⟨⟨slot, hslot, -, hvalue⟩, hloads⟩ := Form.lane_handle_of_set he hc hp hn hpatch
  have hform : (e.patch values).form = e.form.handle (.patch values) := rfl
  rw [state?_settle (Form.steady_patch values he) (ends_patch hends values), hform, hloads]
  cases hempty : v.isEmpty with
  | true =>
    -- The choices are emptied, and there is nothing to wait for.
    rw [hempty] at hvalue
    have hshown : (e.form.handle (.patch values)).state? c.key = some slot.current.value :=
      congrArg (Option.map _) hslot
    simp only [if_true] at hvalue ⊢
    rw [hshown, hvalue]
  | false => rfl

/-- The choices of all other fields stay. -/
theorem state?_settle_patch_of_unset (he : e.form.Steady fields) (hends : e.current.ends = [])
    (hk : (e.form.board.lane k).loads = [])
    (hp : ((hangsOn? fields k).bind fun p => values.lookup p) = none) :
    (e.patch values).settle.1.form.state? k = e.form.state? k := by
  have hform : (e.patch values).form = e.form.handle (.patch values) := rfl
  have hlane := Form.withoutCell_handle he (.patch values) k
  have hnone : (hangsOn? fields k).bind (FormEvent.value? fields (.patch values)) = none := hp
  rw [hnone] at hlane
  have hloads : ((e.patch values).form.board.lane k).loads = [] :=
    (congrArg Lane.loads hlane).trans hk
  rw [state?_settle (Form.steady_patch values he) (ends_patch hends values), hloads]
  have hstate := Form.state?_patch values he k
  rw [hp] at hstate
  exact hstate

end Patch

end FormEngine

end SmartForm
