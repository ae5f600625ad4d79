import SmartForm.Proofs.Search.LatestWins

/-!
# Sessions in time are sessions

A session with a clock does nothing that a session without one could not do: whatever is
typed and however long is waited, its session has gone through a run of events
(`SmartForm.SearchTimeline.follows_uses`), with the outcomes that the one collaborator gives
within the one longest time. So what holds of sessions in whatever order things happen to
them holds of sessions in time.

The one thing to know is that the end that will come is that of the search under way, and
of no other (`SmartForm.SearchTimeline.Timely`): a text that is emitted takes the end of
the earlier search off the clock together with the search.
-/

namespace SmartForm

/-- What can be done with a session in time. -/
inductive TimelineEvent where
  /-- A text is typed. -/
  | update (text : String)
  /-- The clock moves by some milliseconds. -/
  | sleep (ms : Nat)
  /-- The clock moves until a search has come to an end, or up to a limit. -/
  | await (limit : Option Nat)

/-- The text that is typed. -/
def TimelineEvent.typed? : TimelineEvent → Option String
  | update text => some text
  | _ => none

namespace SearchTimeline

open SearchSession

/-- What is done with a session in time. -/
def handle (t : SearchTimeline) : TimelineEvent → SearchTimeline
  | .update text => t.update text
  | .sleep ms => t.sleep ms
  | .await limit => (t.await limit).1

/-- What is done with a session in time, one thing after the other. -/
def uses (t : SearchTimeline) (os : List TimelineEvent) : SearchTimeline := os.foldl handle t

/-- **The end that will come is that of the search under way.** -/
structure Timely (t : SearchTimeline) : Prop where
  /-- An end that will come is the end of the search under way. -/
  coming : ∀ e, t.coming = some e → ∃ text call,
    t.session.task = some ⟨e.request, text, .asking⟩ ∧
      call? t.session.source text = some call ∧
      e.outcome = (t.searcher.outcome t.timeout call).2
  /-- A search under way has an end that will come. -/
  idle : t.coming = none → t.session.task = none

/-- A session in time goes over into another one by a run of events, in which some texts
are typed. -/
structure Follows (texts : List String) (t t' : SearchTimeline) : Prop where
  /-- The collaborator stays. -/
  searcher_eq : t'.searcher = t.searcher
  /-- The longest time stays. -/
  timeout_eq : t'.timeout = t.timeout
  /-- The session has gone through a run. -/
  session_run : ∃ es, es.filterMap SearchEvent.typed? = texts ∧
    t'.session = t.session.run (asking (fun _ => t.searcher) t.timeout) es
  /-- Ends are still those of searches under way. -/
  timely : t'.Timely

variable {t t' t'' : SearchTimeline}

theorem Follows.refl (ht : t.Timely) : Follows [] t t := ⟨rfl, rfl, ⟨[], rfl, rfl⟩, ht⟩

theorem Follows.trans {texts texts' : List String} (h : Follows texts t t')
    (h' : Follows texts' t' t'') : Follows (texts ++ texts') t t'' := by
  obtain ⟨es, htyped, hrun⟩ := h.session_run
  obtain ⟨es', htyped', hrun'⟩ := h'.session_run
  refine ⟨h'.searcher_eq.trans h.searcher_eq, h'.timeout_eq.trans h.timeout_eq,
    ⟨es ++ es', ?_, ?_⟩, h'.timely⟩
  · rw [List.filterMap_append, htyped, htyped']
  · rw [hrun', hrun, h.searcher_eq, h.timeout_eq]
    exact List.foldl_append.symm

/-! ### Single steps -/

theorem follows_update (ht : t.Timely) (text : String) : Follows [text] t (t.update text) :=
  ⟨rfl, rfl, ⟨[.update text], rfl, rfl⟩, ht.coming, ht.idle⟩

theorem session_emit (t : SearchTimeline) (text : String) (time : Nat) :
    (t.emit text time).session = (t.session.emit text).begin.1 := by
  rw [SearchTimeline.emit]
  cases (t.session.emit text).begin with
  | mk session call => cases call <;> rfl

/-- A search that is begun is asked for or over. -/
theorem asking_of_begin {s : SearchSession} {task : SearchTask} (h : s.begin.1.task = some task) :
    task.stage = .asking := by
  rw [begin] at h
  split at h
  · split at h
    · simp only [writeFor, write] at h
      split at h <;> cases h
    · simp only [writeFor, write] at h
      split at h <;> (cases h; rfl)
  · next hqueued =>
    obtain ⟨request, text, stage⟩ := task
    cases stage with
    | queued => exact absurd h (hqueued request text)
    | asking => rfl

theorem Timely.asking (ht : t.Timely) {task : SearchTask} (h : t.session.task = some task) :
    task.stage = .asking := by
  cases hcoming : t.coming with
  | none =>
    rw [ht.idle hcoming] at h
    cases h
  | some e =>
    obtain ⟨text, call, htask, -, -⟩ := ht.coming e hcoming
    rw [htask] at h
    cases h
    rfl

/-- A text that has been emitted before leaves the search under way alone. -/
theorem emit_of_same (hasking : ∀ task, t.session.task = some task → task.stage = .asking)
    {text : String} (h : t.session.emitted = some text) (time : Nat) :
    t.emit text time = { t with now := time, pending := none } := by
  have hemit : t.session.emit text = t.session := if_pos h
  -- The search under way has been begun, so it is not begun again.
  have hbegin : t.session.begin = (t.session, none) := by
    rw [begin]
    split
    · next htask => cases hasking _ htask
    · rfl
  rw [SearchTimeline.emit, hemit, hbegin]
  simp

theorem timely_emit_of_same (ht : t.Timely) {text : String} (h : t.session.emitted = some text)
    (time : Nat) : (t.emit text time).Timely := by
  rw [emit_of_same (fun _ => ht.asking) h]
  exact ⟨ht.coming, ht.idle⟩

/-- Any other text takes the place of the search under way. -/
theorem timely_emit_of_new {text : String} (h : t.session.emitted ≠ some text) (time : Nat) :
    (t.emit text time).Timely := by
  have hemit : t.session.emit text =
      { t.session with
        emitted := some text
        latest := t.session.latest + 1
        task := some ⟨t.session.latest + 1, text, .queued⟩ } := if_neg h
  cases hcall : call? t.session.source text with
  | none =>
    have heq : (t.emit text time).coming = none ∧ (t.emit text time).session.task = none := by
      rw [SearchTimeline.emit, hemit]
      simp [begin, hcall, writeFor, write]
    refine ⟨fun e he => ?_, fun _ => heq.2⟩
    rw [heq.1] at he
    cases he
  | some call =>
    rw [SearchTimeline.emit, hemit]
    simp only [begin, hcall, writeFor, write, if_true]
    refine ⟨fun e he => ?_, fun he => by cases he⟩
    cases he
    exact ⟨text, call, rfl, hcall, rfl⟩

theorem follows_emit (ht : t.Timely) (text : String) (time : Nat) :
    Follows [] t (t.emit text time) := by
  have hsame : (t.emit text time).searcher = t.searcher ∧
      (t.emit text time).timeout = t.timeout := by
    rw [SearchTimeline.emit]
    cases (t.session.emit text).begin with
    | mk session call => cases call <;> exact ⟨rfl, rfl⟩
  refine ⟨hsame.1, hsame.2, ⟨[.emit text, .begin], rfl, session_emit t text time⟩, ?_⟩
  by_cases h : t.session.emitted = some text
  · exact timely_emit_of_same ht h time
  · exact timely_emit_of_new h time

theorem follows_complete (ht : t.Timely) {e : SearchEnd} (he : t.coming = some e) :
    Follows [] t (t.complete e) := by
  obtain ⟨text, call, htask, hcall, houtcome⟩ := ht.coming e he
  refine ⟨rfl, rfl, ⟨[.finish], rfl, ?_⟩, ⟨fun e' he' => (by cases he'), fun _ => ?_⟩⟩
  · have hhandle : t.session.handle (asking (fun _ => t.searcher) t.timeout) .finish =
        t.session.finish e.request e.outcome := by
      rw [SearchSession.handle, htask, houtcome]
      simp only [hcall]
      rfl
    exact hhandle.symm
  · have htask' : (t.complete e).session.task =
        (t.session.finish e.request e.outcome).task := rfl
    rw [htask', SearchSession.finish, htask]
    simp only [if_true, writeFor, write]
    split <;> rfl

/-! ### Time -/

section Run

variable {deadline : Option Nat} {goesOn : SearchState → Bool}

theorem run_of_step? (hgoes : goesOn t.session.state = true) (h : t.step? deadline = some t')
    (fuel : Nat) : run deadline goesOn (fuel + 1) t = run deadline goesOn fuel t' := by
  rw [run, if_pos hgoes, h]

theorem run_of_step?_eq_none (h : t.step? deadline = none) (fuel : Nat) :
    run deadline goesOn fuel t = t := by
  cases fuel with
  | zero => rfl
  | succ fuel => rw [run, h, ite_self]

theorem run_of_not (hgoes : goesOn t.session.state = false) (fuel : Nat) :
    run deadline goesOn fuel t = t := by
  cases fuel with
  | zero => rfl
  | succ fuel => rw [run, hgoes, if_neg Bool.false_ne_true]

end Run

/-- What happens next is the end of the search under way or the emission of the text that
waits. -/
theorem step?_cases {deadline : Option Nat} (h : t.step? deadline = some t') :
    (∃ e, t.coming = some e ∧ t' = t.complete e) ∨
      ∃ text time, t.pending = some (text, time) ∧ isWithin deadline time = true ∧
        t' = t.emit text time := by
  rw [step?] at h
  split at h
  · cases h
  · next text time hpending _ =>
    split at h
    · next hwithin =>
      cases h
      exact Or.inr ⟨text, time, hpending, hwithin, rfl⟩
    · cases h
  · next e _ hcoming =>
    split at h
    · cases h
      exact Or.inl ⟨e, hcoming, rfl⟩
    · cases h
  · next text time e hpending hcoming =>
    split at h
    · split at h
      · next hwithin =>
        cases h
        exact Or.inr ⟨text, time, hpending, hwithin, rfl⟩
      · cases h
    · split at h
      · cases h
        exact Or.inl ⟨e, hcoming, rfl⟩
      · cases h

theorem follows_step? (ht : t.Timely) {deadline : Option Nat} (h : t.step? deadline = some t') :
    Follows [] t t' := by
  rcases step?_cases h with ⟨e, hcoming, rfl⟩ | ⟨text, time, -, -, rfl⟩
  · exact follows_complete ht hcoming
  · exact follows_emit ht text time

theorem follows_run (ht : t.Timely) (deadline : Option Nat) (goesOn : SearchState → Bool)
    (fuel : Nat) : Follows [] t (run deadline goesOn fuel t) := by
  induction fuel generalizing t with
  | zero => exact .refl ht
  | succ fuel ih =>
    rw [SearchTimeline.run]
    split
    · split
      · next t₁ hstep =>
        have hfirst := follows_step? ht hstep
        exact hfirst.trans (ih hfirst.timely)
      · exact .refl ht
    · exact .refl ht

/-- The time that a clock shows is no matter of the session. -/
theorem Follows.withNow {texts : List String} (h : Follows texts t t') (now : Nat) :
    Follows texts t { t' with now } :=
  ⟨h.searcher_eq, h.timeout_eq, h.session_run, h.timely.coming, h.timely.idle⟩

theorem follows_handle (ht : t.Timely) (o : TimelineEvent) :
    Follows o.typed?.toList t (t.handle o) := by
  cases o with
  | update text => exact follows_update ht text
  | sleep ms => exact (follows_run ht ..).withNow _
  | await limit =>
    have hrun := follows_run ht (limit.map (t.now + ·)) (fun s => !s.isAnswered) mostSteps
    rw [handle, SearchTimeline.await]
    split
    · exact hrun
    · exact hrun.withNow _

/-- **A session in time goes through a run of events**, in which the same texts are
typed. -/
theorem follows_uses (ht : t.Timely) (os : List TimelineEvent) :
    Follows (os.filterMap TimelineEvent.typed?) t (t.uses os) := by
  induction os generalizing t with
  | nil => exact .refl ht
  | cons o os ih =>
    have hfirst := follows_handle ht o
    have hall := hfirst.trans (ih hfirst.timely)
    have htyped : (o :: os).filterMap TimelineEvent.typed? =
        o.typed?.toList ++ os.filterMap TimelineEvent.typed? := by
      rw [List.filterMap_cons]
      cases o.typed? <;> rfl
    rw [htyped]
    exact hall

theorem timely_start (source : SearchSource) (searcher : Searcher) (debounce : Nat)
    (timeout : Option Nat) : Timely { session := { source }, searcher, debounce, timeout } :=
  ⟨fun e he => (by cases he), fun _ => rfl⟩

/-- **In a session in time the latest search wins**: the search under way is that of the
latest text, and a search that has come to its end shows its own verdict. -/
theorem coherent_uses (source : SearchSource) (searcher : Searcher) (debounce : Nat)
    (timeout : Option Nat) (os : List TimelineEvent) :
    let start : SearchTimeline := { session := { source }, searcher, debounce, timeout }
    (start.uses os).session.Coherent (asking (fun _ => searcher) timeout) := by
  intro start
  have hfollows := follows_uses (timely_start source searcher debounce timeout) os
  obtain ⟨es, -, hrun⟩ := hfollows.session_run
  rw [hrun]
  exact coherent_run (coherent_start source) es

end SearchTimeline

end SmartForm
