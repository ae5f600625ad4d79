import Mathlib.Data.List.Basic
import SmartForm.Search.Timeline

/-!
# The latest search wins

Whatever happens to a session, and in whatever order, what it shows in the end is what
came of the text that was emitted last (`SmartForm.SearchSession.latest_wins`).

A search that has been superseded is a **stray**. It may go on for a while, and may have
been superseded at any moment: before it was begun, while the collaborator was being
asked, or when the answer was already there. What it does to the session is what the
search under way would do in its place (`SmartForm.SearchSession.goOn`), and the one thing
to know is that this is nothing, because all that a search writes is written on behalf of
its request (`SmartForm.SearchSession.goOn_of_ne`).

The other half is that nothing is inherited. The beginning of a search takes away the
error and the mark of completion that an earlier one has left, and the end of it does not
look at either. That a search which is being asked for shows neither is part of what a
session keeps (`SmartForm.SearchSession.Coherent`).
-/

namespace SmartForm

/-- What is shown of the result of a search: whether it is under way, the records, the
error, and whether it is complete. -/
def SearchState.result (x : SearchState) : Bool × List Json × Option String × Bool :=
  (x.isLoading, x.items, x.error, x.isComplete)

/-- What can happen to a session. -/
inductive SearchEvent where
  /-- A text is typed. -/
  | update (text : String)
  /-- A text has stood still for long enough. -/
  | emit (text : String)
  /-- The search under way is begun. -/
  | begin
  /-- The collaborator has answered the search under way. -/
  | finish
  /-- A search that has been superseded goes on. -/
  | stray (t : SearchTask) (outcome : SearchOutcome)

namespace SearchEvent

/-- The text that is typed. -/
def typed? : SearchEvent → Option String
  | update text => some text
  | _ => none

/-- The texts that get a request, when a text has been emitted before: those that are
emitted and are not equal to the one before. -/
def accepted : Option String → List SearchEvent → List String
  | _, [] => []
  | last, emit text :: es =>
    if last = some text then accepted last es else text :: accepted (some text) es
  | last, _ :: es => accepted last es

end SearchEvent

namespace SearchSession

/-! ### Runs -/

/-- A search goes on as if it were the one under way. -/
def goOn (s : SearchSession) (t : SearchTask) (outcome : SearchOutcome) : SearchSession :=
  let s' : SearchSession := { s with task := some t }
  { (match t.stage with
      | .queued => s'.begin.1
      | .asking => s'.finish t.request outcome) with
    task := s.task }

/-- What happens to a session when every call of a request has its outcome. -/
def handle (ask : Nat → SearchCall → SearchOutcome) (s : SearchSession) :
    SearchEvent → SearchSession
  | .update text => s.update text
  | .emit text => s.emit text
  | .begin => s.begin.1
  | .finish =>
    match s.task with
    | some t =>
      match call? s.source t.text with
      | some call => s.finish t.request (ask t.request call)
      | none => s
    | none => s
  | .stray t outcome => if t.request < s.latest then s.goOn t outcome else s

/-- What happens to a session, one thing after the other. -/
def run (ask : Nat → SearchCall → SearchOutcome) (s : SearchSession) (es : List SearchEvent) :
    SearchSession := es.foldl (handle ask) s

/-- The outcomes of calls when each request meets a collaborator of its own. -/
def asking (searchers : Nat → Searcher) (timeout : Option Nat) (request : Nat)
    (call : SearchCall) : SearchOutcome := ((searchers request).outcome timeout call).2

/-! ### Strays -/

section Stray

variable {s : SearchSession}

/-- **A stray changes nothing.** -/
theorem goOn_of_ne {t : SearchTask} (h : s.latest ≠ t.request) (outcome : SearchOutcome) :
    s.goOn t outcome = s := by
  obtain ⟨request, text, stage⟩ := t
  cases stage with
  | queued =>
    cases hcall : call? s.source text <;> simp [goOn, begin, hcall, writeFor, h]
  | asking => simp [goOn, finish, writeFor, h]

theorem handle_stray (ask : Nat → SearchCall → SearchOutcome) (t : SearchTask)
    (outcome : SearchOutcome) : s.handle ask (.stray t outcome) = s := by
  rw [handle]
  split
  · next h => exact goOn_of_ne (Nat.ne_of_gt h) outcome
  · rfl

end Stray

/-! ### The beginning and the end of a search -/

section Task

variable {s : SearchSession} {request : Nat} {text : String}

/-- A search that has nothing to search for ends at once. -/
theorem begin_of_none (hs : s.task = some ⟨request, text, .queued⟩) (hrequest : request = s.latest)
    (hcall : call? s.source text = none) :
    s.begin.1 =
      { s with
        state :=
          { s.state with isLoading := false, items := [], error := none, isComplete := false }
        writes := s.writes + 1
        task := none } := by
  rw [begin, hs]
  simp [hcall, writeFor, write, hrequest]

theorem begin_of_some (hs : s.task = some ⟨request, text, .queued⟩) (hrequest : request = s.latest)
    {call : SearchCall} (hcall : call? s.source text = some call) :
    s.begin.1 =
      { s with
        state := { s.state with isLoading := true, error := none, isComplete := false }
        writes := s.writes + 1
        task := some ⟨request, text, .asking⟩ } := by
  rw [begin, hs]
  simp [hcall, writeFor, write, hrequest]

theorem begin_of_idle (hs : ∀ request text, s.task ≠ some ⟨request, text, .queued⟩) :
    s.begin.1 = s := by
  rw [begin]
  split
  · next h => exact absurd h (hs _ _)
  · rfl

theorem finish_of_asking (hs : s.task = some ⟨request, text, .asking⟩)
    (hrequest : request = s.latest) (outcome : SearchOutcome) :
    s.finish request outcome =
      { s with state := answered outcome s.state, writes := s.writes + 1, task := none } := by
  rw [finish, hs]
  simp [writeFor, write, hrequest]

theorem finish_of_ne {t : SearchTask} (hs : s.task = some t) (hne : t.request ≠ request)
    (outcome : SearchOutcome) : s.finish request outcome = s := by
  obtain ⟨r, text, stage⟩ := t
  rw [finish, hs]
  cases stage with
  | queued => rfl
  | asking => exact if_neg hne

end Task

/-! ### What a session keeps -/

/-- What is shown of the result of a search for a text, if its call has its outcome. -/
def verdict (source : SearchSource) (ask : SearchCall → SearchOutcome) (text : String) :
    Bool × List Json × Option String × Bool :=
  match call? source text with
  | none => (false, [], none, false)
  | some call =>
    match ask call with
    | .ok items => (false, items, none, true)
    | .error failure => (false, [], some failure.message, false)

/-- **What a session keeps**: the search under way is that of the latest text, a search
that is being asked for shows nothing of earlier ones, and a search that has come to its
end shows its own verdict. -/
structure Coherent (ask : Nat → SearchCall → SearchOutcome) (s : SearchSession) : Prop where
  /-- The search under way has the latest request and the latest text. -/
  numbered : ∀ t, s.task = some t → t.request = s.latest ∧ s.emitted = some t.text
  /-- A search that is being asked for has a call and shows no earlier error or
  completion. -/
  fresh : ∀ t, s.task = some t → t.stage = .asking →
    (call? s.source t.text).isSome ∧ s.state.error = none ∧ s.state.isComplete = false
  /-- A search that has come to its end shows its verdict. -/
  settled : s.task = none → ∀ text, s.emitted = some text →
    s.state.result = verdict s.source (ask s.latest) text

section Coherent

variable {ask : Nat → SearchCall → SearchOutcome} {s : SearchSession}

theorem coherent_start (source : SearchSource) : Coherent ask { source } where
  numbered := fun t ht => by cases ht
  fresh := fun t ht => by cases ht
  settled := fun _ text htext => by cases htext

theorem Coherent.emit (hs : s.Coherent ask) (text : String) : (s.emit text).Coherent ask := by
  rw [SearchSession.emit]
  split
  · exact hs
  · -- The search before is dropped, how far it may have come.
    refine ⟨fun t ht => ?_, fun t ht hstage => ?_, fun ht => by cases ht⟩
    · cases ht
      exact ⟨rfl, rfl⟩
    · cases ht
      cases hstage

theorem Coherent.begin (hs : s.Coherent ask) : s.begin.1.Coherent ask := by
  by_cases hqueued : ∃ request text, s.task = some ⟨request, text, .queued⟩
  · obtain ⟨request, text, htask⟩ := hqueued
    obtain ⟨hrequest, hemitted⟩ := hs.numbered _ htask
    cases hcall : call? s.source text with
    | none =>
      rw [begin_of_none htask hrequest hcall]
      refine ⟨fun t ht => (by cases ht), fun t ht => (by cases ht), fun _ text' htext' => ?_⟩
      obtain rfl : text = text' := Option.some.inj (hemitted.symm.trans htext')
      rw [verdict, hcall]
      rfl
    | some call =>
      rw [begin_of_some htask hrequest hcall]
      refine ⟨fun t ht => ?_, fun t ht _ => ?_, fun ht => by cases ht⟩
      · cases ht
        exact ⟨hrequest, hemitted⟩
      · cases ht
        exact ⟨Option.isSome_iff_exists.mpr ⟨call, hcall⟩, rfl, rfl⟩
  · rw [begin_of_idle fun request text h => hqueued ⟨request, text, h⟩]
    exact hs

/-- The end of the search under way shows the verdict on it: nothing of an earlier search
is left. -/
theorem Coherent.finish (hs : s.Coherent ask) {request : Nat} {text : String}
    (htask : s.task = some ⟨request, text, .asking⟩) {call : SearchCall}
    (hcall : call? s.source text = some call) :
    (s.finish request (ask request call)).Coherent ask := by
  obtain ⟨hrequest, hemitted⟩ := hs.numbered _ htask
  obtain ⟨-, herror, hcomplete⟩ := hs.fresh _ htask rfl
  rw [finish_of_asking htask hrequest]
  refine ⟨fun t ht => (by cases ht), fun t ht => (by cases ht), fun _ text' htext' => ?_⟩
  obtain rfl : text = text' := Option.some.inj (hemitted.symm.trans htext')
  rw [verdict, hcall, SearchState.result]
  subst hrequest
  simp only
  -- Records leave the error as it is, and a failure the mark of completion; both are gone.
  cases ask s.latest call with
  | ok items => simp [answered, herror]
  | error failure => simp [answered, hcomplete]

theorem coherent_handle (hs : s.Coherent ask) (ev : SearchEvent) :
    (s.handle ask ev).Coherent ask := by
  cases ev with
  | update text => exact ⟨hs.numbered, hs.fresh, hs.settled⟩
  | emit text => exact hs.emit text
  | begin => exact hs.begin
  | stray t outcome =>
    rw [handle_stray]
    exact hs
  | finish =>
    rw [handle]
    cases htask : s.task with
    | none => exact hs
    | some t =>
      obtain ⟨request, text, stage⟩ := t
      cases hcall : call? s.source text with
      | none => simpa only [hcall] using hs
      | some call =>
        simp only [hcall]
        cases stage with
        | asking => exact hs.finish htask hcall
        | queued =>
          rw [SearchSession.finish, htask]
          exact hs

theorem coherent_run (hs : s.Coherent ask) (es : List SearchEvent) :
    (s.run ask es).Coherent ask := by
  induction es generalizing s with
  | nil => exact hs
  | cons ev es ih => exact ih (coherent_handle hs ev)

end Coherent

/-! ### Texts and requests -/

/-- What of a session is not changed by its search: the source, the number of the latest
request, the text emitted last and the text typed last. -/
def heading (s : SearchSession) : SearchSource × Nat × Option String × String :=
  (s.source, s.latest, s.emitted, s.state.query)

section Heading

variable {ask : Nat → SearchCall → SearchOutcome} {s : SearchSession}

theorem heading_writeFor (s : SearchSession) (request : Nat) {f : SearchState → SearchState}
    (hf : ∀ x, (f x).query = x.query) : (s.writeFor request f).heading = s.heading := by
  rw [writeFor]
  split
  · simp [heading, write, hf]
  · rfl

theorem heading_begin (s : SearchSession) : s.begin.1.heading = s.heading := by
  rw [begin]
  split
  · split
    · exact heading_writeFor _ _ fun x => rfl
    · exact heading_writeFor _ _ fun x => rfl
  · rfl

theorem heading_finish (s : SearchSession) (request : Nat) (outcome : SearchOutcome) :
    (s.finish request outcome).heading = s.heading := by
  rw [finish]
  split
  · split
    · exact heading_writeFor _ _ fun x => by cases outcome <;> rfl
    · rfl
  · rfl

/-- Only typing and emitting change the heading. -/
theorem heading_handle (s : SearchSession) (ev : SearchEvent) :
    (s.handle ask ev).heading =
      match ev with
      | .update text => (s.source, s.latest, s.emitted, text)
      | .emit text => (s.emit text).heading
      | _ => s.heading := by
  cases ev with
  | begin => exact heading_begin s
  | stray t outcome => rw [handle_stray]
  | finish =>
    rw [handle]
    split
    · split
      · exact heading_finish ..
      · rfl
    · rfl
  | _ => rfl

/-- The heading after some events: texts that are accepted get the next requests, and the
text typed last is shown. -/
def headingAfter (es : List SearchEvent) :
    SearchSource × Nat × Option String × String → SearchSource × Nat × Option String × String
  | (source, latest, emitted, query) =>
    (source, latest + (SearchEvent.accepted emitted es).length,
      (SearchEvent.accepted emitted es).getLast?.or emitted,
      (es.filterMap SearchEvent.typed?).getLast?.getD query)

theorem headingAfter_emit (s : SearchSession) (text : String) (es : List SearchEvent) :
    headingAfter es (s.emit text).heading = headingAfter (.emit text :: es) s.heading := by
  have htyped : (SearchEvent.emit text :: es).filterMap SearchEvent.typed? =
      es.filterMap SearchEvent.typed? := rfl
  by_cases h : s.emitted = some text
  · have hemit : s.emit text = s := if_pos h
    rw [hemit, heading, headingAfter, headingAfter, SearchEvent.accepted, if_pos h, htyped]
  · have hemit : (s.emit text).heading =
        (s.source, s.latest + 1, some text, s.state.query) := by
      rw [emit, if_neg h]
      rfl
    rw [hemit, heading, headingAfter, headingAfter, SearchEvent.accepted, if_neg h, htyped,
      List.length_cons, List.getLast?_cons]
    refine Prod.ext rfl (Prod.ext ?_ (Prod.ext ?_ rfl))
    · exact Nat.add_right_comm ..
    · cases (SearchEvent.accepted (some text) es).getLast? <;> rfl

/-- **Requests are numbered by the texts that are accepted**, and the text typed last is
shown. -/
theorem heading_run (s : SearchSession) (es : List SearchEvent) :
    (s.run ask es).heading = headingAfter es s.heading := by
  induction es generalizing s with
  | nil => rfl
  | cons ev es ih =>
    refine (ih (s.handle ask ev)).trans ?_
    rw [heading_handle]
    cases ev with
    | emit text => exact headingAfter_emit s text es
    | update text =>
      have htyped : (SearchEvent.update text :: es).filterMap SearchEvent.typed? =
          text :: es.filterMap SearchEvent.typed? := rfl
      rw [heading, headingAfter, headingAfter, htyped, List.getLast?_cons]
      rfl
    | _ => rfl

end Heading

/-! ### The latest search -/

theorem call?_eq_none_iff {source : SearchSource} {text : String} :
    call? source text = none ↔
      (Text.trim text).isEmpty ∨ source.endpoint.isEmpty ∨ source.fields.isEmpty := by
  have hguard : call? source text = none ↔
      ((Text.trim text).isEmpty || source.endpoint.isEmpty || source.fields.isEmpty) = true := by
    rw [call?]
    cases (Text.trim text).isEmpty || source.endpoint.isEmpty || source.fields.isEmpty with
    | true => exact ⟨fun _ => rfl, fun _ => rfl⟩
    | false => exact ⟨fun h => (by cases h), fun h => (by cases h)⟩
  rw [hguard, Bool.or_eq_true, Bool.or_eq_true, or_assoc]

section Outcome

variable {searcher : Searcher} {timeout : Option Nat} {call : SearchCall} {delay : Nat}

/-- The records of a call are those of an answer that came in time and says that the search
was carried out. -/
theorem outcome_of_success {a : SearchAnswer} (ha : searcher call = (delay, .ok a))
    (hsuccess : a.isSuccess) (htime : ∀ most ∈ timeout, delay ≤ most) :
    (searcher.outcome timeout call).2 = .ok a.items := by
  have houtcome : a.outcome = .ok a.items := if_pos hsuccess
  rw [Searcher.outcome, ha]
  cases timeout with
  | none => exact houtcome
  | some most =>
    simp only
    rw [if_neg (Nat.not_lt.mpr (htime most rfl))]
    exact houtcome

/-- A call that is late, fails or is refused has no records. -/
theorem outcome_of_failure {answer : Except String SearchAnswer}
    (ha : searcher call = (delay, answer))
    (h : (∃ reason, answer = .error reason) ∨ (∃ a, answer = .ok a ∧ a.isSuccess = false) ∨
      ∃ most ∈ timeout, most < delay) :
    ∃ failure, (searcher.outcome timeout call).2 = .error failure := by
  rw [Searcher.outcome, ha]
  cases timeout with
  | none =>
    rcases h with ⟨reason, rfl⟩ | ⟨a, rfl, hrefused⟩ | ⟨most, hmost, -⟩
    · exact ⟨_, rfl⟩
    · exact ⟨_, if_neg (by simp [hrefused])⟩
    · cases hmost
  | some most =>
    simp only
    split
    · exact ⟨_, rfl⟩
    · next htime =>
      rcases h with ⟨reason, rfl⟩ | ⟨a, rfl, hrefused⟩ | ⟨most', hmost, hlate⟩
      · exact ⟨_, rfl⟩
      · exact ⟨_, if_neg (by simp [hrefused])⟩
      · cases hmost
        exact absurd hlate htime

end Outcome

/-- **The latest search wins.** Let a session be used in any way, with a collaborator that
may answer every request as it likes and after any time. Every text that is emitted and is
not equal to the one before has a request of its own, and the text typed last is shown. Once
the search for the latest text has come to its end, what is shown is what came of its own
call: nothing if there was nothing to search for, the records if the collaborator carried
the search out in time, and an error without records if it did not. What an earlier search
does changes nothing, and neither does an answer to it. -/
theorem latest_wins (source : SearchSource) (searchers : Nat → Searcher)
    (timeout : Option Nat) (es : List SearchEvent) :
    let s := run (asking searchers timeout) { source } es
    (s.latest = (SearchEvent.accepted none es).length ∧
        s.emitted = (SearchEvent.accepted none es).getLast?) ∧
      s.state.query = (es.filterMap SearchEvent.typed?).getLast?.getD "" ∧
      (∀ text, s.emitted = some text → s.task = none →
        ((Text.trim text).isEmpty ∨ source.endpoint.isEmpty ∨ source.fields.isEmpty →
            s.state.result = (false, [], none, false)) ∧
          ∀ call delay answer, call? source text = some call →
            searchers s.latest call = (delay, answer) →
            (∀ a, answer = .ok a → a.isSuccess → (∀ most ∈ timeout, delay ≤ most) →
                s.state.result = (false, a.items, none, true)) ∧
              ((∃ reason, answer = .error reason) ∨ (∃ a, answer = .ok a ∧ a.isSuccess = false) ∨
                  (∃ most ∈ timeout, most < delay) →
                ∃ message, s.state.result = (false, [], some message, false))) ∧
      (∀ t outcome, t.request < s.latest → s.goOn t outcome = s) ∧
      ∀ request outcome, request < s.latest → s.finish request outcome = s := by
  intro s
  have hcoherent : s.Coherent (asking searchers timeout) := coherent_run (coherent_start source) es
  have hheading : s.heading = headingAfter es (heading { source }) := heading_run { source } es
  simp only [heading, headingAfter, Prod.mk.injEq, Nat.zero_add, Option.or_none] at hheading
  obtain ⟨hsource, hlatest, hemitted, hquery⟩ := hheading
  refine ⟨⟨hlatest, hemitted⟩, hquery, fun text htext htask => ?_,
    fun t outcome h => goOn_of_ne (Nat.ne_of_gt h) outcome, fun request outcome h => ?_⟩
  · have hresult := hcoherent.settled htask text htext
    rw [verdict, hsource] at hresult
    refine ⟨fun h => ?_, fun call delay answer hcall hanswer => ⟨fun a ha hsuccess htime => ?_,
      fun h => ?_⟩⟩
    · rwa [call?_eq_none_iff.mpr h] at hresult
    · subst ha
      have houtcome : asking searchers timeout s.latest call = .ok a.items :=
        outcome_of_success hanswer hsuccess htime
      rw [hcall] at hresult
      simp only [houtcome] at hresult
      exact hresult
    · obtain ⟨failure, houtcome⟩ :
          ∃ failure, asking searchers timeout s.latest call = .error failure :=
        outcome_of_failure hanswer h
      rw [hcall] at hresult
      simp only [houtcome] at hresult
      exact ⟨failure.message, hresult⟩
  · cases htask : s.task with
    | none => rw [finish, htask]
    | some t =>
      have hrequest := (hcoherent.numbered t htask).1
      exact finish_of_ne htask (by omega) outcome

/-- The first search is overtaken by the second, and its answer comes too late. -/
theorem latest_wins_overtaken :
    (run (asking (fun n _ => (n, .ok (.success [.nat n]))) none)
      { source := { key := "k", endpoint := "x", fields := [{ code := "c", parameter := "c" }] } }
      [.update "a", .emit "a", .begin, .update "b", .emit "b",
        .stray ⟨1, "a", .asking⟩ (.ok [.nat 1]), .begin, .finish]).state.result =
      (false, [.nat 2], none, true) := by
  obtain ⟨call, hcall⟩ : ∃ call, call?
      { key := "k", endpoint := "x", fields := [{ code := "c", parameter := "c" }] } "b" =
        some call := ⟨_, rfl⟩
  obtain ⟨-, -, hsettled, -⟩ := latest_wins
    { key := "k", endpoint := "x", fields := [{ code := "c", parameter := "c" }] }
    (fun n _ => (n, .ok (.success [.nat n]))) none
    [.update "a", .emit "a", .begin, .update "b", .emit "b",
      .stray ⟨1, "a", .asking⟩ (.ok [.nat 1]), .begin, .finish]
  exact ((hsettled "b" rfl rfl).2 call 2 _ hcall rfl).1 _ rfl rfl fun _ h => by cases h

end SearchSession

end SmartForm
