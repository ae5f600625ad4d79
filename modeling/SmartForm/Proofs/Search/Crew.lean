import Mathlib.Data.List.Nodup
import SmartForm.Proofs.Search.Timed

/-!
# One search at work

A session knows of one search, the one under way. What is really at work is a **crew**
(`SmartForm.SearchCrew`): every text that is emitted gets a job of its own, jobs go on in any
order, and a job that has been overtaken may go on for a while after it was aborted. All they
have in common is the state that is seen.

The one thing to know is what the guard does. The session holds the guard of the job that
was started last, and whenever another job is started, its guard takes the place of the one
before, whose job is thereby aborted. So of all jobs ever started at most one is neither
finished nor aborted (`SmartForm.SearchCrew.Manned`), and that is the search the session
knows of. Seen through it a crew is a session, and every session is seen through some crew
(`SmartForm.SearchCrew.session_run`, `SmartForm.SearchCrew.exists_run`), be it one in time
(`SmartForm.SearchTimeline.exists_crew`).

What is seen is always one thing: nothing at all, a search under way, the records of a
search, or an error. And if it is a search under way, there is a job that will end it
(`SmartForm.SearchCrew.one_search_at_work`).
-/

namespace SmartForm

/-! ### What is seen is one thing -/

namespace SearchState

/-- Which of the three are seen: a search under way, an error, a search that is
complete. -/
def marks (x : SearchState) : List Bool := [x.isLoading, x.error.isSome, x.isComplete]

/-- **What is seen is one thing.** -/
structure IsClear (x : SearchState) : Prop where
  /-- At most one of the three is seen. -/
  alone : x.marks.count true ≤ 1
  /-- An error is seen without records, and so is nothing at all. -/
  bare : x.error.isSome = true ∨ x.marks.count true = 0 → x.items = []

/-- The four things that can be seen. -/
inductive Shows (x : SearchState) : Prop where
  /-- Nothing at all. -/
  | nothing (h : x.result = (false, [], none, false))
  /-- A search under way, with the records of an earlier one. -/
  | loading (items : List Json) (h : x.result = (true, items, none, false))
  /-- The records of a search. -/
  | records (items : List Json) (h : x.result = (false, items, none, true))
  /-- An error. -/
  | failure (message : String) (h : x.result = (false, [], some message, false))

theorem Shows.isClear {x : SearchState} (hx : x.Shows) : x.IsClear := by
  obtain ⟨query, isLoading, items, error, isComplete⟩ := x
  rcases hx with h | ⟨_, h⟩ | ⟨_, h⟩ | ⟨_, h⟩ <;> cases h
  · exact ⟨by simp [marks], fun _ => rfl⟩
  · exact ⟨by simp [marks], fun h => by simp [marks] at h⟩
  · exact ⟨by simp [marks], fun h => by simp [marks] at h⟩
  · exact ⟨by simp [marks], fun _ => rfl⟩

theorem Shows.congr {x y : SearchState} (hx : x.Shows) (h : y.result = x.result) : y.Shows := by
  rcases hx with hx | ⟨items, hx⟩ | ⟨items, hx⟩ | ⟨message, hx⟩
  · exact .nothing (h.trans hx)
  · exact .loading items (h.trans hx)
  · exact .records items (h.trans hx)
  · exact .failure message (h.trans hx)

end SearchState

/-! ### Sessions -/

namespace SearchSession

/-- **What is seen of a session** is one thing, and there is a search behind it when it is
seen to be under way. -/
structure Clear (ask : Nat → SearchCall → SearchOutcome) (s : SearchSession) : Prop where
  /-- The latest search wins. -/
  coherent : s.Coherent ask
  /-- One thing is seen. -/
  shows : s.state.Shows
  /-- A search that is seen to be under way is under way. -/
  loading : s.state.isLoading = true → s.task.isSome

variable {ask : Nat → SearchCall → SearchOutcome} {s : SearchSession}

theorem clear_start (source : SearchSource) : Clear ask { source } :=
  ⟨coherent_start source, .nothing rfl, fun h => by cases h⟩

theorem Clear.emit (hs : s.Clear ask) (text : String) : (s.emit text).Clear ask := by
  refine ⟨hs.coherent.emit text, ?_, ?_⟩ <;> rw [SearchSession.emit] <;> split
  · exact hs.shows
  · exact hs.shows
  · exact hs.loading
  · exact fun _ => rfl

theorem Clear.begin (hs : s.Clear ask) : s.begin.1.Clear ask := by
  have hcoherent := hs.coherent.begin
  by_cases hqueued : ∃ request text, s.task = some ⟨request, text, .queued⟩
  · obtain ⟨request, text, htask⟩ := hqueued
    have hrequest := (hs.coherent.numbered _ htask).1
    cases hcall : call? s.source text with
    | none =>
      rw [begin_of_none htask hrequest hcall] at hcoherent ⊢
      exact ⟨hcoherent, .nothing rfl, fun h => by cases h⟩
    | some call =>
      rw [begin_of_some htask hrequest hcall] at hcoherent ⊢
      exact ⟨hcoherent, .loading _ rfl, fun _ => rfl⟩
  · rw [begin_of_idle fun request text h => hqueued ⟨request, text, h⟩]
    exact hs

theorem shows_answered {x : SearchState} (herror : x.error = none)
    (hcomplete : x.isComplete = false) (outcome : SearchOutcome) :
    (answered outcome x).Shows := by
  cases outcome with
  | ok items => exact .records items (by rw [answered, SearchState.result, herror])
  | error failure =>
    exact .failure failure.message (by rw [answered, SearchState.result, hcomplete])

theorem Clear.finish (hs : s.Clear ask) {request : Nat} {text : String}
    (htask : s.task = some ⟨request, text, .asking⟩) {call : SearchCall}
    (hcall : call? s.source text = some call) :
    (s.finish request (ask request call)).Clear ask := by
  have hcoherent := hs.coherent.finish htask hcall
  have hrequest := (hs.coherent.numbered _ htask).1
  obtain ⟨-, herror, hcomplete⟩ := hs.coherent.fresh _ htask rfl
  rw [finish_of_asking htask hrequest] at hcoherent ⊢
  refine ⟨hcoherent, shows_answered herror hcomplete _, fun h => ?_⟩
  -- The answer, whatever it is, ends the search that is seen.
  cases houtcome : ask request call <;> rw [houtcome] at h <;> cases h

theorem clear_handle (hs : s.Clear ask) (ev : SearchEvent) : (s.handle ask ev).Clear ask := by
  cases ev with
  | update text =>
    exact ⟨coherent_handle hs.coherent (.update text), hs.shows.congr rfl, hs.loading⟩
  | emit text => exact hs.emit text
  | begin => exact hs.begin
  | stray t outcome =>
    rw [handle_stray]
    exact hs
  | finish =>
    rw [handle]
    cases htask : s.task with
    | none => exact hs
    | some t =>
      obtain ⟨request, text, stage⟩ := t
      cases hcall : call? s.source text with
      | none => simpa only [hcall] using hs
      | some call =>
        simp only [hcall]
        cases stage with
        | asking => exact hs.finish htask hcall
        | queued =>
          rw [SearchSession.finish, htask]
          exact hs

/-- **What is seen of a session is one thing**, whatever happens to it. -/
theorem clear_run (hs : s.Clear ask) (es : List SearchEvent) : (s.run ask es).Clear ask := by
  induction es generalizing s with
  | nil => exact hs
  | cons ev es ih => exact ih (clear_handle hs ev)

end SearchSession

/-- The session with another search under way. -/
def SearchSession.withTask (s : SearchSession) (task : Option SearchTask) : SearchSession :=
  { s with task }

/-! ### Crews -/

/-- A search as a job of its own. -/
structure SearchJob where
  /-- The search. -/
  task : SearchTask
  /-- Whether it has come to its end. -/
  isFinished : Bool := false
  /-- Whether it was aborted. -/
  isAborted : Bool := false

/-- Whether a job is neither finished nor aborted. -/
def SearchJob.isAtWork (j : SearchJob) : Bool := !j.isFinished && !j.isAborted

/-- A job that was aborted comes to its end. -/
def SearchJob.clear (j : SearchJob) : SearchJob :=
  if j.isAborted then { j with isFinished := true } else j

/-- What can happen to a crew. -/
inductive CrewEvent where
  /-- A text is typed. -/
  | update (text : String)
  /-- A text has stood still for long enough. -/
  | emit (text : String)
  /-- The job of a request begins its search. -/
  | begin (request : Nat)
  /-- The collaborator has answered the job of a request. -/
  | finish (request : Nat)
  /-- A job that was aborted comes to its end before its search does. -/
  | clear (request : Nat)

/-- A session with all jobs that it has ever started. -/
structure SearchCrew where
  /-- What the jobs have in common: a session without a search of its own. -/
  desk : SearchSession
  /-- The jobs, the latest first. -/
  jobs : List SearchJob := []
  /-- The request whose job is aborted when the next one is started. -/
  guarded : Option Nat := none

namespace SearchCrew

variable (ask : Nat → SearchCall → SearchOutcome)

/-- Changes the jobs of a request. -/
def modifyJobs (c : SearchCrew) (request : Nat) (f : SearchJob → SearchJob) : SearchCrew :=
  { c with jobs := c.jobs.map fun j => if j.task.request = request then f j else j }

/-- A job is aborted. One that has come to its end cannot be aborted any more. -/
def abort (guarded : Option Nat) (j : SearchJob) : SearchJob :=
  if guarded = some j.task.request && !j.isFinished then { j with isAborted := true } else j

/-- A text has stood still for long enough. One that is not equal to the one before gets a job
of its own, and the job that was guarded is aborted. -/
def emit (c : SearchCrew) (text : String) : SearchCrew :=
  match (c.desk.emit text).task with
  | none => c
  | some t =>
    { desk := (c.desk.emit text).withTask none
      jobs := { task := t } :: c.jobs.map (abort c.guarded)
      guarded := some t.request }

/-- The session as a job sees it, with its own search as the one under way. -/
def seenBy (c : SearchCrew) (j : SearchJob) : SearchSession := c.desk.withTask (some j.task)

/-- What a job is after the session has gone over into another one: its search is what it was
made, and it has come to its end with the search. -/
def follow (s : SearchSession) (j : SearchJob) : SearchJob :=
  match s.task with
  | some t => { j with task := t }
  | none => { j with isFinished := true }

/-- The job of a request goes on, unless it has come to its end. -/
def goOn (c : SearchCrew) (request : Nat) (ev : SearchEvent) : SearchCrew :=
  match c.jobs.find? fun j => j.task.request = request && !j.isFinished with
  | none => c
  | some j =>
    let s := (c.seenBy j).handle ask ev
    { c.modifyJobs request (follow s) with desk := s.withTask none }

/-- What happens to a crew when every call of a request has its outcome. -/
def handle (c : SearchCrew) : CrewEvent → SearchCrew
  | .update text => { c with desk := c.desk.update text }
  | .emit text => c.emit text
  | .begin request => c.goOn ask request .begin
  | .finish request => c.goOn ask request .finish
  | .clear request => c.modifyJobs request SearchJob.clear

/-- What happens to a crew, one thing after the other. -/
def run (c : SearchCrew) (es : List CrewEvent) : SearchCrew := es.foldl (handle ask) c

/-- The jobs that are neither finished nor aborted. -/
def atWork (c : SearchCrew) : List SearchJob := c.jobs.filter SearchJob.isAtWork

/-- **The session that is seen of a crew**: its search is that of the job at work. -/
def session (c : SearchCrew) : SearchSession :=
  c.desk.withTask (c.atWork.head?.map SearchJob.task)

/-! ### Single jobs -/

section Job

open SearchSession

variable {ask} {s : SearchSession} {t : SearchTask}

theorem task_writeFor (s : SearchSession) (request : Nat) (f : SearchState → SearchState) :
    (s.writeFor request f).task = s.task := by
  rw [writeFor]
  split <;> rfl

/-- A search that is begun stays the search of its request, or is over. -/
theorem request_of_begin (ht : s.task = some t) {t' : SearchTask}
    (h : s.begin.1.task = some t') : t'.request = t.request := by
  obtain ⟨request, text, stage⟩ := t
  rw [SearchSession.begin, ht] at h
  cases stage with
  | asking => exact congrArg SearchTask.request (Option.some.inj (h.symm.trans ht))
  | queued =>
    cases hcall : call? s.source text with
    | none =>
      simp only [hcall, task_writeFor] at h
      cases h
    | some call =>
      simp only [hcall, task_writeFor] at h
      cases h
      rfl

/-- A search that is answered is over, and any other stays as it is. -/
theorem request_of_finish (ht : s.task = some t) {request : Nat} {outcome : SearchOutcome}
    {t' : SearchTask} (h : (s.finish request outcome).task = some t') :
    t'.request = t.request := by
  have hsame : ∀ {t'}, s.task = some t' → t'.request = t.request := fun h =>
    congrArg SearchTask.request (Option.some.inj (h.symm.trans ht))
  rw [SearchSession.finish] at h
  split at h
  · split at h
    · rw [task_writeFor] at h
      cases h
    · exact hsame h
  · exact hsame h

/-- What can happen to a single job. -/
def IsStep (ev : SearchEvent) : Prop := ev = .begin ∨ ev = .finish

theorem handle_finish (ht : s.task = some t) :
    s.handle ask .finish =
      match call? s.source t.text with
      | some call => s.finish t.request (ask t.request call)
      | none => s := by
  cases s
  cases ht
  rfl

theorem request_of_handle (ht : s.task = some t) {ev : SearchEvent} (hev : IsStep ev)
    {t' : SearchTask} (h : (s.handle ask ev).task = some t') : t'.request = t.request := by
  rcases hev with rfl | rfl
  · exact request_of_begin ht h
  · rw [handle_finish ht] at h
    cases hcall : call? s.source t.text with
    | some call =>
      simp only [hcall] at h
      exact request_of_finish ht h
    | none =>
      simp only [hcall, ht, Option.some.injEq] at h
      rw [h]

/-- **A job that has been overtaken changes nothing** of what the jobs have in common. -/
theorem handle_of_overtaken (hs : s.task = none) (ht : s.latest ≠ t.request) {ev : SearchEvent}
    (hev : IsStep ev) :
    ((s.withTask (some t)).handle ask ev).withTask none = s := by
  obtain ⟨request, text, stage⟩ := t
  obtain ⟨source, state, writes, emitted, latest, task⟩ := s
  obtain rfl : task = none := hs
  have hne : latest ≠ request := ht
  rcases hev with rfl | rfl
  · cases stage with
    | asking => rfl
    | queued =>
      cases hcall : call? source text <;>
        simp [withTask, SearchSession.handle, SearchSession.begin, hcall, writeFor, hne]
  · cases hcall : call? source text with
    | none => simp [withTask, SearchSession.handle, hcall]
    | some call =>
      cases stage <;>
        simp [withTask, SearchSession.handle, SearchSession.finish, hcall, writeFor, hne]

end Job

/-! ### What a crew keeps -/

/-- **What a crew keeps.** The jobs have different requests, and the job at work is the one
that is guarded, which is that of the latest request. -/
structure Manned (c : SearchCrew) : Prop where
  /-- The jobs have all searches. -/
  desk_task : c.desk.task = none
  /-- The jobs have different requests. -/
  nodup : (c.jobs.map fun j => j.task.request).Nodup
  /-- No request has a greater number than the latest. -/
  le_latest : ∀ j ∈ c.jobs, j.task.request ≤ c.desk.latest
  /-- The job that is guarded is that of the latest request. -/
  guarded : ∀ request, c.guarded = some request → request = c.desk.latest
  /-- A job at work is guarded. -/
  atWork : ∀ j ∈ c.jobs, j.isAtWork = true → c.guarded = some j.task.request
  /-- A job that was aborted has been overtaken. -/
  aborted : ∀ j ∈ c.jobs, j.isAborted = true → j.task.request < c.desk.latest

namespace Manned

variable {c : SearchCrew} {ask}

theorem start (source : SearchSource) : Manned { desk := { source } } where
  desk_task := rfl
  nodup := List.nodup_nil
  le_latest := fun j hj => by cases hj
  guarded := fun request h => by cases h
  atWork := fun j hj => by cases hj
  aborted := fun j hj => by cases hj

theorem eq_of_request (hc : c.Manned) {i j : SearchJob} (hi : i ∈ c.jobs) (hj : j ∈ c.jobs)
    (h : i.task.request = j.task.request) : i = j :=
  List.inj_on_of_nodup_map hc.nodup hi hj h

theorem latest_of_mem_atWork (hc : c.Manned) {j : SearchJob} (hj : j ∈ c.atWork) :
    j.task.request = c.desk.latest := by
  obtain ⟨hmem, hwork⟩ := List.mem_filter.mp hj
  exact hc.guarded _ (hc.atWork j hmem hwork)

/-- **Of all jobs at most one is at work.** -/
theorem atWork_eq (hc : c.Manned) {j : SearchJob} (hj : j ∈ c.atWork) : c.atWork = [j] := by
  have hsame : ∀ i ∈ c.atWork, i = j := fun i hi =>
    hc.eq_of_request (List.mem_of_mem_filter hi) (List.mem_of_mem_filter hj)
      ((hc.latest_of_mem_atWork hi).trans (hc.latest_of_mem_atWork hj).symm)
  have hrep : c.atWork = List.replicate c.atWork.length j := List.eq_replicate_of_mem hsame
  have hnodup : c.atWork.Nodup := (List.Nodup.of_map _ hc.nodup).filter _
  rw [hrep, List.nodup_replicate] at hnodup
  have hpos : 0 < c.atWork.length := List.length_pos_of_mem hj
  have hone : c.atWork.length = 1 := by omega
  rw [hrep, hone]
  rfl

theorem session_withDesk (c : SearchCrew) (s : SearchSession) :
    ({ c with desk := s } : SearchCrew).session = s.withTask (c.atWork.head?.map SearchJob.task) :=
  rfl

theorem session_eq (hc : c.Manned) {j : SearchJob} (hj : j ∈ c.atWork) :
    c.session = c.seenBy j := by
  rw [session, hc.atWork_eq hj]
  rfl

theorem session_of_idle (hc : c.Manned) (hidle : c.atWork = []) : c.session = c.desk := by
  have htask : c.atWork.head?.map SearchJob.task = c.desk.task := by
    rw [hc.desk_task, hidle]
    rfl
  rw [session, htask]
  rfl

/-! #### Starting a job -/

theorem abort_flags (guarded : Option Nat) (j : SearchJob) :
    (abort guarded j).task = j.task ∧ (abort guarded j).isFinished = j.isFinished := by
  rw [abort]
  split <;> exact ⟨rfl, rfl⟩

theorem emit_of_same {text : String} (hc : c.Manned) (h : c.desk.emitted = some text) :
    c.emit text = c := by
  have hemit : c.desk.emit text = c.desk := if_pos h
  rw [emit, hemit, hc.desk_task]

theorem emit_of_new {text : String} (h : c.desk.emitted ≠ some text) :
    c.emit text =
      { desk :=
          { c.desk with emitted := some text, latest := c.desk.latest + 1, task := none }
        jobs := { task := ⟨c.desk.latest + 1, text, .queued⟩ } :: c.jobs.map (abort c.guarded)
        guarded := some (c.desk.latest + 1) } := by
  rw [emit, SearchSession.emit, if_neg h]
  rfl

/-- The job that was at work is aborted. -/
theorem not_atWork_abort (hc : c.Manned) {j : SearchJob} (hj : j ∈ c.jobs) :
    (abort c.guarded j).isAtWork = false := by
  cases hwork : j.isAtWork with
  | false =>
    rw [abort]
    split
    · simp [SearchJob.isAtWork]
    · exact hwork
  | true =>
    have hguarded := hc.atWork j hj hwork
    have hfinished : j.isFinished = false := by
      rw [SearchJob.isAtWork, Bool.and_eq_true, Bool.not_eq_true'] at hwork
      exact hwork.1
    simp [abort, hguarded, hfinished, SearchJob.isAtWork]

theorem emit (hc : c.Manned) (text : String) : (c.emit text).Manned := by
  by_cases h : c.desk.emitted = some text
  · rw [emit_of_same hc h]
    exact hc
  · rw [emit_of_new h]
    have hrequests : (c.jobs.map (abort c.guarded)).map (fun j => j.task.request) =
        c.jobs.map fun j => j.task.request := by
      rw [List.map_map]
      exact List.map_congr_left fun j _ => congrArg SearchTask.request (abort_flags _ j).1
    have hold : ∀ j ∈ c.jobs.map (abort c.guarded),
        j.task.request ≤ c.desk.latest ∧ j.isAtWork = false := by
      intro j hj
      obtain ⟨i, hi, rfl⟩ := List.mem_map.mp hj
      rw [(abort_flags _ i).1]
      exact ⟨hc.le_latest i hi, hc.not_atWork_abort hi⟩
    refine ⟨rfl, ?_, ?_, ?_, ?_, ?_⟩
    · rw [List.map_cons, hrequests, List.nodup_cons]
      refine ⟨fun hmem => ?_, hc.nodup⟩
      obtain ⟨i, hi, hrequest⟩ := List.mem_map.mp hmem
      have := hc.le_latest i hi
      simp only at hrequest
      omega
    · intro j hj
      rcases List.mem_cons.mp hj with rfl | hj
      · exact Nat.le_refl _
      · exact Nat.le_succ_of_le (hold j hj).1
    · intro request hrequest
      exact (Option.some.inj hrequest).symm
    · intro j hj hwork
      rcases List.mem_cons.mp hj with rfl | hj
      · rfl
      · rw [(hold j hj).2] at hwork
        cases hwork
    · intro j hj haborted
      rcases List.mem_cons.mp hj with rfl | hj
      · cases haborted
      · exact Nat.lt_succ_of_le (hold j hj).1

/-- **The job of a new text is the one at work**, as the session has it. -/
theorem session_emit (hc : c.Manned) (text : String) :
    (c.emit text).session = c.session.emit text := by
  by_cases h : c.desk.emitted = some text
  · rw [emit_of_same hc h, SearchSession.emit]
    exact (if_pos h).symm
  · have hsession : c.session.emit text =
        { c.desk with
          emitted := some text
          latest := c.desk.latest + 1
          task := some ⟨c.desk.latest + 1, text, .queued⟩ } := if_neg h
    rw [hsession, emit_of_new h]
    rfl

/-! #### Going on with a job -/

theorem follow_flags (s : SearchSession) (j : SearchJob) :
    (follow s j).isAborted = j.isAborted ∧ ((follow s j).isAtWork = true → j.isAtWork = true) := by
  rw [follow]
  cases s.task with
  | none => exact ⟨rfl, fun h => by simp [SearchJob.isAtWork] at h⟩
  | some t => exact ⟨rfl, id⟩

/-- A crew stays manned when some jobs are changed that keep their requests and are not put
to work. -/
theorem modifyJobs (hc : c.Manned) {request : Nat} {f : SearchJob → SearchJob}
    (hrequest : ∀ j ∈ c.jobs, j.task.request = request → (f j).task.request = request)
    (haborted : ∀ j, (f j).isAborted = j.isAborted)
    (hwork : ∀ j, (f j).isAtWork = true → j.isAtWork = true) : (c.modifyJobs request f).Manned := by
  have hsame : ∀ j ∈ c.jobs,
      (if j.task.request = request then f j else j).task.request = j.task.request := by
    intro j hj
    split
    · next h => exact (hrequest j hj h).trans h.symm
    · rfl
  have hflags : ∀ j : SearchJob,
      (if j.task.request = request then f j else j).isAborted = j.isAborted ∧
        ((if j.task.request = request then f j else j).isAtWork = true → j.isAtWork = true) := by
    intro j
    split
    · exact ⟨haborted j, hwork j⟩
    · exact ⟨rfl, id⟩
  refine ⟨hc.desk_task, ?_, ?_, hc.guarded, ?_, ?_⟩
  · rw [SearchCrew.modifyJobs, List.map_map]
    refine (congrArg List.Nodup (List.map_congr_left fun j hj => ?_)).mpr hc.nodup
    exact hsame j hj
  · intro j hj
    obtain ⟨i, hi, rfl⟩ := List.mem_map.mp hj
    rw [hsame i hi]
    exact hc.le_latest i hi
  · intro j hj hwork
    obtain ⟨i, hi, rfl⟩ := List.mem_map.mp hj
    rw [hsame i hi]
    exact hc.atWork i hi ((hflags i).2 hwork)
  · intro j hj haborted
    obtain ⟨i, hi, rfl⟩ := List.mem_map.mp hj
    rw [hsame i hi]
    exact hc.aborted i hi ((hflags i).1 ▸ haborted)

/-- What happens to a single job leaves the number of the latest request alone. -/
theorem latest_handle (s : SearchSession) {ev : SearchEvent} (hev : IsStep ev) :
    (s.handle ask ev).latest = s.latest := by
  have hheading : (s.handle ask ev).heading = _ := SearchSession.heading_handle s ev
  rcases hev with rfl | rfl <;> exact congrArg (fun h => h.2.1) hheading

section GoOn

variable {request : Nat} {ev : SearchEvent}

/-- The job that goes on is there, and has not come to its end. -/
theorem goOn_eq (hc : c.Manned) {j : SearchJob} (hj : j ∈ c.jobs) (hfinished : j.isFinished = false)
    (ask : Nat → SearchCall → SearchOutcome) (ev : SearchEvent) :
    c.goOn ask j.task.request ev =
      { c.modifyJobs j.task.request (follow ((c.seenBy j).handle ask ev)) with
        desk := ((c.seenBy j).handle ask ev).withTask none } := by
  have hfind : (c.jobs.find? fun i => i.task.request = j.task.request && !i.isFinished) =
      some j := by
    cases hfind : c.jobs.find? fun i => i.task.request = j.task.request && !i.isFinished with
    | none =>
      have hnot := List.find?_eq_none.mp hfind j hj
      simp [hfinished] at hnot
    | some i =>
      have hi := List.find?_some hfind
      simp only [Bool.and_eq_true, decide_eq_true_eq] at hi
      rw [hc.eq_of_request (List.mem_of_find?_eq_some hfind) hj hi.1]
  rw [SearchCrew.goOn, hfind]

/-- A request that has no job to go on has no effect. -/
theorem goOn_of_not (h : ∀ j ∈ c.jobs, j.task.request = request → j.isFinished = true)
    (ask : Nat → SearchCall → SearchOutcome) (ev : SearchEvent) :
    c.goOn ask request ev = c := by
  have hfind : (c.jobs.find? fun i => i.task.request = request && !i.isFinished) = none := by
    refine List.find?_eq_none.mpr fun j hj hfound => ?_
    simp only [Bool.and_eq_true, decide_eq_true_eq, Bool.not_eq_true'] at hfound
    rw [h j hj hfound.1] at hfound
    cases hfound.2
  rw [SearchCrew.goOn, hfind]

theorem goOn (hc : c.Manned) (hev : IsStep ev) : (c.goOn ask request ev).Manned := by
  by_cases hjob : ∃ j ∈ c.jobs, j.task.request = request ∧ j.isFinished = false
  · obtain ⟨j, hj, rfl, hfinished⟩ := hjob
    rw [hc.goOn_eq hj hfinished]
    have hlatest : ((c.seenBy j).handle ask ev).latest = c.desk.latest := latest_handle _ hev
    have hjobs : (c.modifyJobs j.task.request (follow ((c.seenBy j).handle ask ev))).Manned := by
      refine hc.modifyJobs (fun i hi hi' => ?_) (fun i => (follow_flags _ i).1)
        fun i => (follow_flags _ i).2
      rw [follow]
      cases htask : ((c.seenBy j).handle ask ev).task with
      | none => exact hi'
      | some t => exact request_of_handle rfl hev htask
    exact ⟨rfl, hjobs.nodup, hlatest ▸ hjobs.le_latest, hlatest ▸ hjobs.guarded, hjobs.atWork,
      hlatest ▸ hjobs.aborted⟩
  · rw [goOn_of_not (fun j hj h => by simpa using fun hf => hjob ⟨j, hj, h, hf⟩)]
    exact hc

/-- Changing jobs that are not at work, and are not put to work, is not seen. -/
theorem atWork_modifyJobs {f : SearchJob → SearchJob}
    (hf : ∀ i ∈ c.jobs, i.task.request = request →
      (f i).isAtWork = i.isAtWork ∧ (i.isAtWork = true → f i = i)) :
    (c.modifyJobs request f).atWork = c.atWork := by
  have hsame : ∀ i ∈ c.jobs,
      (if i.task.request = request then f i else i).isAtWork = i.isAtWork := by
    intro i hi
    split
    · next h => exact (hf i hi h).1
    · rfl
  rw [SearchCrew.atWork, SearchCrew.modifyJobs, List.filter_map, SearchCrew.atWork]
  refine (congrArg _ (List.filter_congr hsame)).trans ?_
  refine (List.map_congr_left fun i hi => ?_).trans (List.map_id _)
  obtain ⟨hmem, hwork⟩ := List.mem_filter.mp hi
  split
  · next h => exact (hf i hmem h).2 hwork
  · rfl

/-- The job at work is the only one that is seen to change. -/
theorem head?_atWork_follow (hc : c.Manned) {j : SearchJob} (hj : j ∈ c.atWork)
    (s : SearchSession) :
    (c.modifyJobs j.task.request (follow s)).atWork.head?.map SearchJob.task = s.task := by
  obtain ⟨hmem, hwork⟩ := List.mem_filter.mp hj
  rw [SearchCrew.atWork, SearchCrew.modifyJobs, List.filter_map]
  cases htask : s.task with
  | some t =>
    -- The job has its search on, and so it is still the one at work.
    have hsame : ∀ i ∈ c.jobs,
        (if i.task.request = j.task.request then follow s i else i).isAtWork = i.isAtWork := by
      intro i _
      split
      · rw [follow, htask]
        rfl
      · rfl
    have hfilter : c.jobs.filter (SearchJob.isAtWork ∘ fun i =>
        if i.task.request = j.task.request then follow s i else i) = [j] :=
      (List.filter_congr hsame).trans (hc.atWork_eq hj)
    rw [hfilter]
    simp [follow, htask]
  | none =>
    have hnone : ∀ i ∈ c.jobs,
        ¬(if i.task.request = j.task.request then follow s i else i).isAtWork = true := by
      intro i hi hwork'
      split at hwork'
      · rw [follow, htask] at hwork'
        simp [SearchJob.isAtWork] at hwork'
      · next hne =>
        have hi' : i ∈ c.atWork := List.mem_filter.mpr ⟨hi, hwork'⟩
        exact hne ((hc.latest_of_mem_atWork hi').trans (hc.latest_of_mem_atWork hj).symm)
    have hfilter : c.jobs.filter (SearchJob.isAtWork ∘ fun i =>
        if i.task.request = j.task.request then follow s i else i) = [] :=
      List.filter_eq_nil_iff.mpr hnone
    rw [hfilter]
    rfl

/-- **The job at work goes on as the search of the session does.** -/
theorem session_goOn_of_atWork (hc : c.Manned) {j : SearchJob} (hj : j ∈ c.atWork)
    (ask : Nat → SearchCall → SearchOutcome) (ev : SearchEvent) :
    (c.goOn ask j.task.request ev).session = c.session.handle ask ev := by
  obtain ⟨hmem, hwork⟩ := List.mem_filter.mp hj
  rw [SearchJob.isAtWork, Bool.and_eq_true, Bool.not_eq_true'] at hwork
  have hhead := hc.head?_atWork_follow hj ((c.seenBy j).handle ask ev)
  rw [hc.goOn_eq hmem hwork.1, hc.session_eq hj, session_withDesk]
  exact congrArg ((c.seenBy j).handle ask ev).withTask hhead

/-- What a job does that was aborted is not seen. -/
theorem session_goOn_of_aborted (hc : c.Manned) {j : SearchJob} (hj : j ∈ c.jobs)
    (hfinished : j.isFinished = false) (haborted : j.isAborted = true) (hev : IsStep ev) :
    (c.goOn ask j.task.request ev).session = c.session := by
  have hnot : j.isAtWork = false := by simp [SearchJob.isAtWork, haborted]
  have hne : c.desk.latest ≠ j.task.request := Nat.ne_of_gt (hc.aborted j hj haborted)
  have hatWork : (c.modifyJobs j.task.request
      (follow ((c.seenBy j).handle ask ev))).atWork = c.atWork := by
    refine atWork_modifyJobs fun i hi h => ?_
    obtain rfl := hc.eq_of_request hi hj h
    refine ⟨?_, fun hwork => by simp [hnot] at hwork⟩
    rw [SearchJob.isAtWork, (follow_flags _ i).1, haborted, hnot, Bool.not_true, Bool.and_false]
  rw [hc.goOn_eq hj hfinished, session_withDesk, hatWork]
  exact congrArg (fun s : SearchSession => s.withTask (c.atWork.head?.map SearchJob.task))
    (handle_of_overtaken hc.desk_task hne hev)

theorem session_goOn (hc : c.Manned) (hev : IsStep ev) :
    (c.goOn ask request ev).session = c.session ∨
      (c.goOn ask request ev).session = c.session.handle ask ev := by
  by_cases hjob : ∃ j ∈ c.jobs, j.task.request = request ∧ j.isFinished = false
  · obtain ⟨j, hj, rfl, hfinished⟩ := hjob
    cases haborted : j.isAborted with
    | true => exact Or.inl (hc.session_goOn_of_aborted hj hfinished haborted hev)
    | false =>
      have hwork : j ∈ c.atWork :=
        List.mem_filter.mpr ⟨hj, by simp [SearchJob.isAtWork, hfinished, haborted]⟩
      exact Or.inr (hc.session_goOn_of_atWork hwork ask ev)
  · rw [goOn_of_not (fun j hj h => by simpa using fun hf => hjob ⟨j, hj, h, hf⟩)]
    exact Or.inl rfl

end GoOn

/-! #### All that can happen -/

/-- A job that was aborted is not at work, and neither is it afterwards. -/
theorem clear_flags (j : SearchJob) :
    j.clear.task = j.task ∧ j.clear.isAborted = j.isAborted ∧ j.clear.isAtWork = j.isAtWork ∧
      (j.isAtWork = true → j.clear = j) := by
  rw [SearchJob.clear]
  cases haborted : j.isAborted with
  | true => simp [SearchJob.isAtWork, haborted]
  | false => exact ⟨rfl, haborted, rfl, fun _ => rfl⟩

theorem handle (hc : c.Manned) (ev : CrewEvent) : (c.handle ask ev).Manned := by
  cases ev with
  | update text =>
    exact ⟨hc.desk_task, hc.nodup, hc.le_latest, hc.guarded, hc.atWork, hc.aborted⟩
  | emit text => exact hc.emit text
  | begin request => exact hc.goOn (Or.inl rfl)
  | finish request => exact hc.goOn (Or.inr rfl)
  | clear request =>
    refine hc.modifyJobs (fun j _ h => ?_) (fun j => (clear_flags j).2.1) fun j h => ?_
    · rw [(clear_flags j).1]
      exact h
    · rwa [(clear_flags j).2.2.1] at h

theorem run (hc : c.Manned) (es : List CrewEvent) : (c.run ask es).Manned := by
  induction es generalizing c with
  | nil => exact hc
  | cons ev es ih => exact ih (hc.handle ev)

end Manned

/-! ### Crews and sessions -/

section Session

variable {ask} {c : SearchCrew}

/-- Whatever happens to a crew, its session stays as it is or something happens to it. -/
theorem session_handle (hc : c.Manned) (ev : CrewEvent) :
    (c.handle ask ev).session = c.session ∨
      ∃ ev', (c.handle ask ev).session = c.session.handle ask ev' := by
  cases ev with
  | update text => exact Or.inr ⟨.update text, rfl⟩
  | emit text => exact Or.inr ⟨.emit text, hc.session_emit text⟩
  | begin request => exact (hc.session_goOn (Or.inl rfl)).imp_right fun h => ⟨.begin, h⟩
  | finish request => exact (hc.session_goOn (Or.inr rfl)).imp_right fun h => ⟨.finish, h⟩
  | clear request =>
    have hatWork : (c.modifyJobs request SearchJob.clear).atWork = c.atWork :=
      Manned.atWork_modifyJobs fun j _ _ => (Manned.clear_flags j).2.2
    exact Or.inl (congrArg (fun l : List SearchJob => c.desk.withTask (l.head?.map _)) hatWork)

theorem session_run (hc : c.Manned) (es : List CrewEvent) :
    ∃ es', (c.run ask es).session = c.session.run ask es' := by
  induction es generalizing c with
  | nil => exact ⟨[], rfl⟩
  | cons ev es ih =>
    obtain ⟨es', hes'⟩ := ih (hc.handle ev)
    rcases session_handle hc ev with h | ⟨ev', h⟩
    · exact ⟨es', hes'.trans (by rw [h])⟩
    · exact ⟨ev' :: es', hes'.trans (by rw [h]; rfl)⟩

/-- A session that has no search under way does not hear of one. -/
theorem handle_of_idle {s : SearchSession} (hs : s.task = none) {ev : SearchEvent}
    (hev : IsStep ev) : s.handle ask ev = s := by
  rcases hev with rfl | rfl
  · exact SearchSession.begin_of_idle fun request text h => by rw [hs] at h; cases h
  · rw [SearchSession.handle, hs]

/-- The search of a session is begun or answered by the job at work. -/
theorem exists_goOn (hc : c.Manned) {ev : SearchEvent} (hev : IsStep ev) (ev' : Nat → CrewEvent)
    (hev' : ∀ request, c.handle ask (ev' request) = c.goOn ask request ev) :
    ∃ es, (c.run ask es).session = c.session.handle ask ev := by
  cases hwork : c.atWork with
  | nil =>
    have htask : c.session.task = none := by rw [hc.session_of_idle hwork, hc.desk_task]
    exact ⟨[], (handle_of_idle htask hev).symm⟩
  | cons j rest =>
    have hj : j ∈ c.atWork := hwork ▸ List.mem_cons_self
    refine ⟨[ev' j.task.request], ?_⟩
    rw [run, List.foldl_cons, List.foldl_nil, hev']
    exact hc.session_goOn_of_atWork hj ask ev

/-- Whatever happens to a session can happen to its crew. -/
theorem exists_handle (hc : c.Manned) (ev : SearchEvent) :
    ∃ es, (c.run ask es).session = c.session.handle ask ev := by
  cases ev with
  | update text => exact ⟨[.update text], rfl⟩
  | emit text => exact ⟨[.emit text], hc.session_emit text⟩
  | begin => exact exists_goOn hc (Or.inl rfl) .begin fun _ => rfl
  | finish => exact exists_goOn hc (Or.inr rfl) .finish fun _ => rfl
  | stray t outcome => exact ⟨[], (SearchSession.handle_stray ask t outcome).symm⟩

theorem exists_run (hc : c.Manned) (es : List SearchEvent) :
    ∃ es', (c.run ask es').session = c.session.run ask es := by
  induction es generalizing c with
  | nil => exact ⟨[], rfl⟩
  | cons ev es ih =>
    obtain ⟨es₁, h₁⟩ : ∃ es, (c.run ask es).session = c.session.handle ask ev :=
      exists_handle hc ev
    obtain ⟨es₂, h₂⟩ := ih (hc.run es₁)
    refine ⟨es₁ ++ es₂, ?_⟩
    rw [run, List.foldl_append]
    exact h₂.trans (by rw [h₁]; rfl)

end Session

/-- **One search at work.** Let texts be typed and emitted in any way, and let the jobs that
they start be begun, answered and aborted in any order, with a collaborator that may answer
every request as it likes. What is seen is one thing, and without records if it is an error or
nothing at all. When a search is seen to be under way, exactly one of all jobs ever started is
neither finished nor aborted, and its request is the latest one. What is seen of such a crew is
what a session goes through, and a session goes through nothing else. -/
theorem one_search_at_work (source : SearchSource) (ask : Nat → SearchCall → SearchOutcome) :
    (∀ es, let c := run ask { desk := { source } } es
      c.desk.state.IsClear ∧
        (c.desk.state.isLoading = true →
          ∃ j, c.atWork = [j] ∧ j.task.request = c.desk.latest)) ∧
      (∀ es, ∃ es', (run ask { desk := { source } } es).session =
        SearchSession.run ask { source } es') ∧
      ∀ es', ∃ es, (run ask { desk := { source } } es).session =
        SearchSession.run ask { source } es' := by
  have hstart : Manned { desk := { source } } := .start source
  refine ⟨fun es => ?_, session_run hstart, exists_run hstart⟩
  intro c
  have hc : c.Manned := hstart.run es
  obtain ⟨es', hes'⟩ : ∃ es', c.session = SearchSession.run ask { source } es' :=
    session_run hstart es
  have hclear : c.session.Clear ask :=
    hes' ▸ SearchSession.clear_run (SearchSession.clear_start source) es'
  refine ⟨hclear.shows.isClear, fun hloading => ?_⟩
  -- The search that the session has under way is that of a job at work.
  obtain ⟨t, ht⟩ := Option.isSome_iff_exists.mp (hclear.loading hloading)
  obtain ⟨j, hj, -⟩ := Option.map_eq_some_iff.mp ht
  have hmem : j ∈ c.atWork := List.mem_of_head? hj
  exact ⟨j, hc.atWork_eq hmem, hc.latest_of_mem_atWork hmem⟩

/-- The first search is overtaken while it is under way, and its job has not come to its end.
The second is under way, and its job alone is at work. -/
theorem one_search_at_work_overtaken :
    let c := run (fun n _ => .ok [.nat n])
      { desk := { source := ⟨"k", "x", [{ code := "c", parameter := "c" }], [], [], []⟩ } }
      [.update "a", .emit "a", .begin 1, .update "b", .emit "b", .begin 2]
    c.jobs.map SearchJob.isFinished = [false, false] ∧ c.desk.state.isLoading = true ∧
      ∃ j, c.atWork = [j] ∧ j.task.request = 2 := by
  intro c
  have hloading : c.desk.state.isLoading = true := rfl
  obtain ⟨j, hwork, hrequest⟩ := ((one_search_at_work
    ⟨"k", "x", [{ code := "c", parameter := "c" }], [], [], []⟩ (fun n _ => .ok [.nat n])).1
    [.update "a", .emit "a", .begin 1, .update "b", .emit "b", .begin 2]).2 hloading
  exact ⟨rfl, hloading, j, hwork, hrequest⟩

end SearchCrew

/-- **A session in time is that of a crew**, whose jobs are begun when their texts are emitted
and answered when the collaborator answers. -/
theorem SearchTimeline.exists_crew (source : SearchSource) (searcher : Searcher) (debounce : Nat)
    (timeout : Option Nat) (os : List TimelineEvent) :
    let start : SearchTimeline := { session := { source }, searcher, debounce, timeout }
    ∃ es, (SearchCrew.run (SearchSession.asking (fun _ => searcher) timeout)
      { desk := { source } } es).session = (start.uses os).session := by
  intro start
  obtain ⟨es', -, hes'⟩ :=
    (follows_uses (timely_start source searcher debounce timeout) os).session_run
  obtain ⟨es, hes⟩ := SearchCrew.exists_run (.start source) es'
  exact ⟨es, hes.trans hes'.symm⟩

end SmartForm
