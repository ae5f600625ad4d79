import SmartForm.Number.Word

/-!
# Failed searches

Why a search has no result, and how that is told.
-/

namespace SmartForm

/-- Why a search has no result. -/
inductive SearchFailure where
  /-- The collaborator could not be asked. -/
  | unavailable (reason : String)
  /-- The collaborator refused the search, with or without a reason. -/
  | rejected (reason : Option String)
  /-- There was no answer within the given number of milliseconds. -/
  | timedOut (limit : Nat)
deriving DecidableEq, Repr

namespace SearchFailure

/-- The largest number of milliseconds that is told. -/
def longestLimit : Nat := Word.greatest

/-- The failure to answer within some seconds and nanoseconds. Parts of a
millisecond are not told, and neither is what exceeds the longest limit. -/
def timedOutAfter (seconds nanoseconds : Nat) : SearchFailure :=
  .timedOut (min (1000 * seconds + nanoseconds / 1000000) longestLimit)

/-- The wording of a failure. -/
def message : SearchFailure → String
  | unavailable reason => "Search request failed: " ++ reason
  | rejected reason => "Search was rejected: " ++ reason.getD "unknown error"
  | timedOut limit => "Search timed out after " ++ toString limit ++ "ms"

end SearchFailure

end SmartForm
