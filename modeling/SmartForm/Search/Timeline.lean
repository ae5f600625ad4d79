import SmartForm.Search.Session

/-!
# Search sessions in time

A `SmartForm.SearchTimeline` is a session with a clock. A typed text is emitted
when nothing else is typed for the quiet time, a search begins at the moment in
which its text is emitted, and it ends when the collaborator answers or, if that
takes longer than is allowed, when the time is up.

Nothing happens until the clock moves. `SmartForm.SearchTimeline.sleep` moves it by
some milliseconds and lets everything happen that falls into them, and
`SmartForm.SearchTimeline.await` moves it until the search has come to an end, for as
long as it takes or up to a limit.
-/

namespace SmartForm

/-- A collaborator: how long it takes to answer a call, and what it answers. -/
abbrev Searcher := SearchCall → Nat × Except String SearchAnswer

/-- After how many milliseconds a call ends, and how, when the collaborator has no
more than `limit` milliseconds. -/
def Searcher.outcome (searcher : Searcher) (limit : Option Nat) (call : SearchCall) :
    Nat × SearchOutcome :=
  let (delay, answer) := searcher call
  let outcome : SearchOutcome := match answer with
    | .ok a => a.outcome
    | .error reason => .error (.unavailable reason)
  match limit with
  | some most => if most < delay then (most, .error (.timedOut most)) else (delay, outcome)
  | none => (delay, outcome)

/-- The end of a search that will come. -/
structure SearchEnd where
  /-- When it comes. -/
  time : Nat
  /-- The number of the request. -/
  request : Nat
  /-- How it ends. -/
  outcome : SearchOutcome

/-- A session with a clock. -/
structure SearchTimeline where
  /-- The session. -/
  session : SearchSession
  /-- The collaborator. -/
  searcher : Searcher
  /-- The quiet time. -/
  debounce : Nat
  /-- The longest time of a search. -/
  timeout : Option Nat := none
  /-- The time. -/
  now : Nat := 0
  /-- The typed text that waits, and the time when it is emitted. -/
  pending : Option (String × Nat) := none
  /-- The end of the search under way. -/
  coming : Option SearchEnd := none
  /-- The calls, the latest first. -/
  calls : List SearchCall := []

namespace SearchTimeline

/-- A text is typed, which starts the quiet time anew. -/
def update (t : SearchTimeline) (text : String) : SearchTimeline :=
  { t with session := t.session.update text, pending := some (text, t.now + t.debounce) }

/-- The waiting text is emitted and its search is begun. -/
def emit (t : SearchTimeline) (text : String) (time : Nat) : SearchTimeline :=
  let emitted := t.session.emit text
  let (session, call) := emitted.begin
  let coming := if emitted.latest = t.session.latest then t.coming else none
  let t := { t with session, coming, now := time, pending := none }
  match call with
  | none => t
  | some call =>
    let (delay, outcome) := t.searcher.outcome t.timeout call
    { t with
      coming := some ⟨time + delay, session.latest, outcome⟩
      calls := call :: t.calls }

/-- The search under way comes to its end. -/
def complete (t : SearchTimeline) (e : SearchEnd) : SearchTimeline :=
  { t with session := t.session.finish e.request e.outcome, now := e.time, coming := none }

/-- Whether a time lies within a deadline, if there is one. -/
def isWithin (deadline : Option Nat) (time : Nat) : Bool := deadline.all fun d => time ≤ d

/-- The next thing that happens, if it happens within the deadline. -/
def step? (t : SearchTimeline) (deadline : Option Nat) : Option SearchTimeline :=
  match t.pending, t.coming with
  | none, none => none
  | some (text, time), none =>
    if isWithin deadline time then some (t.emit text time) else none
  | none, some e => if isWithin deadline e.time then some (t.complete e) else none
  | some (text, time), some e =>
    if time < e.time then if isWithin deadline time then some (t.emit text time) else none
    else if isWithin deadline e.time then some (t.complete e) else none

/-- Lets things happen within the deadline, at most `fuel` of them and only as long as
`goesOn` holds. -/
def run (deadline : Option Nat) (goesOn : SearchState → Bool) :
    Nat → SearchTimeline → SearchTimeline
  | 0, t => t
  | fuel + 1, t =>
    if goesOn t.session.state then
      match t.step? deadline with
      | some t => run deadline goesOn fuel t
      | none => t
    else t

/-- How many things can happen before another text is typed: the search under way
ends, the waiting text is emitted, and its search ends. -/
def mostSteps : Nat := 3

/-- The clock moves by some milliseconds. -/
def sleep (t : SearchTimeline) (ms : Nat) : SearchTimeline :=
  { run (some (t.now + ms)) (fun _ => true) mostSteps t with now := t.now + ms }

/-- The clock moves until a search has come to an end that is shown, or by at most
`limit` milliseconds; tells whether there was such an end. Without a limit the clock
stops when nothing more can happen. -/
def await (t : SearchTimeline) (limit : Option Nat) : SearchTimeline × Bool :=
  let deadline := limit.map (t.now + ·)
  let t' := run deadline (fun s => !s.isAnswered) mostSteps t
  if t'.session.state.isAnswered then (t', true)
  else ({ t' with now := deadline.getD t'.now }, false)

end SearchTimeline

end SmartForm
