import SmartForm.Loading.Board

/-!
# Loads in time

A `SmartForm.Loader` says how long a load takes and what comes of it. A
`SmartForm.TimedBoard` is a board on which the loads take that long.

A load that has been started rests until the clock is about to move
(`SmartForm.TimedBoard.wake`). Then the loader is called, and the load ends when
the loader answers or, if that takes longer than is allowed, when the time is up.
-/

namespace SmartForm

/-- Loads the records of a binding, which may depend on a value: how many
milliseconds that takes, and the records or the reason why there are none. -/
abbrev Loader := Binding → Option Json → Nat × Except String (List Json)

/-- A call of a loader. -/
structure LoadCall where
  /-- The name of the records. -/
  endpoint : String
  /-- The value that they depend on. -/
  dependency : Option Json
deriving Repr, Inhabited

namespace LoadCall

/-- The call as a value: the endpoint, then what the records depend on. -/
def toJson (c : LoadCall) : Json := .array (.string c.endpoint :: c.dependency.toList)

end LoadCall

/-- A loader and how long it may take. -/
structure LoadService where
  /-- The loader. -/
  loader : Loader
  /-- The longest time of a load. -/
  timeout : Option Nat := none

/-- After how many milliseconds a load ends, and with which records. -/
def LoadService.outcome (s : LoadService) (b : Binding) (dependency : Option Json) :
    Nat × Option (List Json) :=
  let (delay, answer) := s.loader b dependency
  match s.timeout with
  | some most => if most < delay then (most, none) else (delay, answer.toOption)
  | none => (delay, answer.toOption)

/-- The end of a load that will come. -/
structure LoadEnd where
  /-- When it comes. -/
  time : Nat
  /-- The key of the load. -/
  key : String
  /-- The token of the load. -/
  token : Nat
  /-- The records, if there are any. -/
  records : Option (List Json)

/-- A board on which loads take time. -/
structure TimedBoard where
  /-- The board. -/
  board : Board := {}
  /-- The ends that will come. -/
  ends : List LoadEnd := []

namespace TimedBoard

/-- Changes the board. Ends of loads that are no longer under way are forgotten. -/
def modify (t : TimedBoard) (f : Board → Board) : TimedBoard :=
  let board := f t.board
  ⟨board, t.ends.filter fun e => (board.load? e.key e.token).isSome⟩

/-- The loads for which the loader has not been called. -/
def resting (t : TimedBoard) : List Load :=
  t.board.loads.filter fun l => !t.ends.any fun e => e.key = l.key && e.token = l.token

/-- The end of a load for which the loader is called at the given time. -/
def endOf (service : LoadService) (now : Nat) (l : Load) : LoadEnd :=
  let (delay, records) := service.outcome l.binding l.dependency
  ⟨now + delay, l.key, l.token, records⟩

/-- Calls the loader for the loads that rest; gives the calls. Aborted loads are
cleared away. -/
def wake (t : TimedBoard) (service : LoadService) (now : Nat) : TimedBoard × List LoadCall :=
  (⟨t.board.tidy, t.ends ++ t.resting.map (endOf service now)⟩,
   t.resting.map fun l => ⟨l.binding.endpoint, l.dependency⟩)

/-- Puts an end among ends in the order of time, behind those of the same time. -/
def insertEnd (e : LoadEnd) : List LoadEnd → List LoadEnd
  | [] => [e]
  | x :: xs => if e.time < x.time then e :: x :: xs else x :: insertEnd e xs

/-- Ends in the order of time. -/
def sortEnds (es : List LoadEnd) : List LoadEnd := es.foldl (fun xs e => insertEnd e xs) []

/-- Lets the loads end that end by the given time. -/
def endBy (t : TimedBoard) (time : Nat) : TimedBoard :=
  let due := sortEnds (t.ends.filter fun e => e.time ≤ time)
  ⟨due.foldl (fun b e => b.finish e.key e.token e.records) t.board,
   t.ends.filter fun e => time < e.time⟩

/-- When the last of the loads ends for which the loader has been called. -/
def lastEnd (t : TimedBoard) (now : Nat) : Nat := t.ends.foldl (fun m e => max m e.time) now

/-- The clock moves from `now` by some milliseconds; gives the calls. -/
def sleep (t : TimedBoard) (service : LoadService) (now ms : Nat) : TimedBoard × List LoadCall :=
  let (t, calls) := t.wake service now
  (t.endBy (now + ms), calls)

/-- The result of a load is taken if the load still counts. -/
def take (t : TimedBoard) (key : String) (token : Nat) (result : Option (List Choice)) :
    TimedBoard :=
  t.modify fun b => { b with store := (b.store.finishLoad key token result).1 }

/-- Calls the loader and waits for it, on behalf of a token that was given before.
The clock moves only if the loader takes its time. Gives the time and the calls. -/
def fetch (t : TimedBoard) (service : LoadService) (now : Nat) (key : String) (token : Nat)
    (binding : Binding) (dependency : Option Json) : TimedBoard × Nat × List LoadCall :=
  let (delay, records) := service.outcome binding dependency
  let (t, calls) := if delay = 0 then (t, []) else t.sleep service now delay
  (t.take key token (Board.resultOf binding records), now + delay,
    ⟨binding.endpoint, dependency⟩ :: calls)

end TimedBoard

end SmartForm
