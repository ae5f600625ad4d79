import SmartForm.Proofs.Form.Engine

/-!
# Nothing is stuck

A field is shown to be loading exactly while a load for it is under way
(`SmartForm.FormEngine.loading_iff_under_way`), so once all loads have come to their
ends, in whatever order, nothing is shown to be loading any more. In particular an engine
that waits for its form need not wait in vain.

The one thing to know about waiting is that every load has an end that will come. Either
the loader was called for it before, and the end is known, or it rests, and the loader is
called before the time goes by. No end that is waited for is later than the last.
-/

namespace SmartForm

/-! ### Loads that end -/

namespace Board

theorem loads_finish (b : Board) (key : String) (token : Nat) (records : Option (List Json)) :
    (b.finish key token records).loads = b.loads.filter fun l => !isLoad key token l := by
  rw [finish]
  cases hl : b.load? key token with
  | some l => rfl
  | none =>
    refine (List.filter_eq_self.mpr fun l hmem => ?_).symm
    simpa using List.find?_eq_none.mp hl l hmem

/-- Whether the end of a load is among some ends. -/
def ended (ends : List LoadEnd) (l : Load) : Bool := ends.any fun e => isLoad e.key e.token l

theorem loads_finishAll (b : Board) (ends : List LoadEnd) :
    (b.finishAll ends).loads = b.loads.filter fun l => !ended ends l := by
  induction ends generalizing b with
  | nil => exact (List.filter_eq_self.mpr fun l _ => rfl).symm
  | cons e ends ih =>
    refine (ih _).trans ?_
    rw [loads_finish, List.filter_filter]
    refine List.filter_congr fun l _ => ?_
    rw [ended, ended, List.any_cons, Bool.not_or, Bool.and_comm]

theorem loads_finishAll_eq_nil {b : Board} {ends : List LoadEnd}
    (h : ∀ l ∈ b.loads, ∃ e ∈ ends, e.key = l.key ∧ e.token = l.token) :
    (b.finishAll ends).loads = [] := by
  rw [loads_finishAll, List.filter_eq_nil_iff]
  intro l hl
  obtain ⟨e, he, hkey, htoken⟩ := h l hl
  have hended : ended ends l = true :=
    List.any_eq_true.mpr ⟨e, he, by simp [isLoad, hkey, htoken]⟩
  rw [hended]
  exact Bool.false_ne_true

/-- **Nothing is shown to be loading** when nothing is under way. -/
theorem Sound.anyLoading_eq_false {b : Board} (hb : b.Sound) (hkeys : b.store.keys.Nodup)
    (h : b.loads = []) : b.store.anyLoading = false := by
  refine ChoiceStore.anyLoading_eq_false hkeys fun k x hx => ?_
  cases hload : x.current.value.isLoading with
  | false => rfl
  | true =>
    obtain ⟨l, hl, -⟩ := (hb.lanes k).loads_of_loading hx hload
    have hnil : (b.lane k).loads = [] := by
      rw [lane, loadsOf, h]
      rfl
    rw [hnil] at hl
    cases hl

end Board

/-! ### Ends that come -/

namespace TimedBoard

theorem perm_insertEnd (d : LoadEnd) (es : List LoadEnd) : (insertEnd d es).Perm (d :: es) := by
  induction es with
  | nil => exact .refl _
  | cons x es ih =>
    rw [insertEnd]
    split
    · exact .refl _
    · exact (ih.cons x).trans (.swap d x es)

theorem perm_sortEnds (es : List LoadEnd) : (sortEnds es).Perm es := by
  have hfold : ∀ xs, (es.foldl (fun xs e => insertEnd e xs) xs).Perm (es ++ xs) := by
    induction es with
    | nil => exact fun xs => .refl xs
    | cons e es ih =>
      intro xs
      exact (ih _).trans (((perm_insertEnd e xs).append_left es).trans List.perm_middle)
  simpa [sortEnds] using hfold []

theorem mem_sortEnds {d : LoadEnd} {es : List LoadEnd} : d ∈ sortEnds es ↔ d ∈ es :=
  (perm_sortEnds es).mem_iff

/-- No end that will come is later than the last one. -/
theorem le_lastEnd (t : TimedBoard) (now : Nat) :
    now ≤ t.lastEnd now ∧ ∀ e ∈ t.ends, e.time ≤ t.lastEnd now := by
  rw [lastEnd]
  generalize t.ends = es
  induction es generalizing now with
  | nil => exact ⟨Nat.le_refl _, fun e he => by cases he⟩
  | cons x es ih =>
    obtain ⟨hnow, hes⟩ := ih (max now x.time)
    refine ⟨Nat.le_trans (Nat.le_max_left ..) hnow, fun e he => ?_⟩
    rcases List.mem_cons.mp he with rfl | he
    · exact Nat.le_trans (Nat.le_max_right ..) hnow
    · exact hes e he

/-- **Every load has an end that will come**, once the loader has been called. -/
theorem exists_end_wake (t : TimedBoard) (service : LoadService) (now : Nat) {l : Load}
    (hl : l ∈ t.board.loads) :
    ∃ e ∈ (t.wake service now).1.ends, e.key = l.key ∧ e.token = l.token := by
  -- Either the loader was called before, or it is called now.
  by_cases hrest : (t.ends.any fun e => e.key = l.key && e.token = l.token) = true
  · obtain ⟨e, he, hkey⟩ := List.any_eq_true.mp hrest
    simp only [Bool.and_eq_true, decide_eq_true_eq] at hkey
    exact ⟨e, List.mem_append_left _ he, hkey⟩
  · have hmem : l ∈ t.resting := List.mem_filter.mpr ⟨hl, by simpa using hrest⟩
    exact ⟨endOf service now l, List.mem_append_right _ (List.mem_map_of_mem hmem), rfl, rfl⟩

/-- All loads end until the last end has come. -/
theorem exists_due (t : TimedBoard) (service : LoadService) (now : Nat) {l : Load}
    (hl : l ∈ t.board.loads) :
    ∃ e ∈ t.due service now ((t.wake service now).1.lastEnd now - now),
      e.key = l.key ∧ e.token = l.token := by
  obtain ⟨e, he, hkey⟩ := t.exists_end_wake service now hl
  obtain ⟨hnow, hlast⟩ := (t.wake service now).1.le_lastEnd now
  refine ⟨e, mem_sortEnds.mpr (List.mem_filter.mpr ⟨he, ?_⟩), hkey⟩
  have htime := hlast e he
  simp only [decide_eq_true_eq]
  omega

end TimedBoard

namespace FormEngine

variable {e : FormEngine}

/-- A load comes to its end. -/
def finishing (d : LoadEnd) : EngineEvent := .fill (.finish d.key d.token d.records)

theorem board_run_finishing (e : FormEngine) (ends : List LoadEnd) :
    (e.run (ends.map finishing)).form.board = e.form.board.finishAll ends := by
  induction ends generalizing e with
  | nil => rfl
  | cons d ends ih => exact ih _

theorem isLoading_eq_false (he : e.form.Steady e.form.fields) (h : e.form.board.loads = []) :
    e.form.isLoading = false :=
  he.sound.anyLoading_eq_false he.nodup_keys h

/-- Waiting comes to an end. -/
theorem isLoading_settle (he : e.form.Steady e.form.fields) :
    e.settle.1.form.isLoading = false := by
  have hafter := steady_handle he .settle
  rw [handle, settle_eq] at hafter
  rw [settle_eq]
  cases hload : e.form.isLoading with
  | false => exact hload
  | true =>
    rw [hload] at hafter
    -- When the last end has come, nothing is under way any more.
    refine isLoading_eq_false hafter ?_
    refine Board.loads_finishAll_eq_nil fun l hl => ?_
    exact e.current.timed.exists_due e.service e.now hl

/-- **Nothing is stuck.** Whatever the engine has been asked to do, a field that is shown
to be loading has exactly one load under way, and that has the latest token; a load that
is under way is shown. So when all loads that are under way have come to their ends, in
any order and with any outcome, nothing is loading, and an engine that waits until nothing
is loading will see it. -/
theorem loading_iff_under_way (he : e.Reachable) :
    (∀ key state, e.form.state? key = some state → state.isLoading = true →
      ∃ slot l, e.form.board.store.slot? key = some slot ∧
        (e.form.board.loads.filter fun l => l.key = key) = [l] ∧ l.token = slot.generation) ∧
      (∀ l ∈ e.form.board.loads,
        ∃ state, e.form.state? l.key = some state ∧ state.phase = .loading) ∧
      (∀ ends : List LoadEnd,
        (∀ l ∈ e.form.board.loads, ∃ d ∈ ends, d.key = l.key ∧ d.token = l.token) →
        (e.run (ends.map finishing)).form.isLoading = false) ∧
      e.settle.1.form.isLoading = false := by
  have hf := he.steady
  refine ⟨fun key state hstate hload => ?_, fun l hl => ?_, fun ends hends => ?_,
    isLoading_settle hf⟩
  · obtain ⟨slot, hslot, rfl⟩ := ChoiceStore.get?_eq_some.mp hstate
    obtain ⟨l, hl, htoken⟩ := (hf.sound.lanes key).loads_of_loading hslot hload
    exact ⟨slot, l, hslot, hl, htoken⟩
  · have hmem : l ∈ (e.form.board.lane l.key).loads := List.mem_filter.mpr ⟨hl, by simp⟩
    obtain ⟨slot, hslot, hvalue⟩ := (hf.sound.lanes l.key).value_of_mem_loads hmem
    exact ⟨_, ChoiceStore.get?_eq_some.mpr ⟨slot, hslot, rfl⟩, by rw [hvalue]; rfl⟩
  · refine isLoading_eq_false (steady_run hf _) ?_
    rw [board_run_finishing]
    exact Board.loads_finishAll_eq_nil hends

/-- A town that waits for its country, which is set: one load is under way, and waiting for
it comes to an end. -/
theorem loading_iff_under_way_town :
    ∃ e : FormEngine, e.Reachable ∧ e.form.state? "town" = some .underWay ∧
      (∃ l, (e.form.board.loads.filter fun l => l.key = "town") = [l] ∧ l.token = 1) ∧
      e.settle.1.form.isLoading = false := by
  let e : FormEngine := run { service := { loader := fun _ _ => (20, .ok []) } }
    [.build [{ key := "country" },
      { key := "town", binding := some { endpoint := "towns", dependency := some "country" } }],
     .fill (.set "country" (.string "NO"))]
  have he : e.Reachable := ⟨_, _, rfl⟩
  have hstate : e.form.state? "town" = some .underWay := rfl
  obtain ⟨hloading, -, -, hsettle⟩ := loading_iff_under_way he
  obtain ⟨slot, l, hslot, hl, htoken⟩ := hloading "town" _ hstate rfl
  refine ⟨e, he, hstate, ⟨l, hl, ?_⟩, hsettle⟩
  obtain rfl : slot = ⟨⟨.underWay, 1⟩, 1⟩ := (Option.some.inj hslot).symm
  exact htoken

end FormEngine

end SmartForm
