import SmartForm.Settings.Basic

/-!
# What can be wrong with settings

`SmartForm.Settings.problems` lists everything that is wrong: first the times,
then the sources one after the other, then the catalogs. Every entry that repeats
an earlier one is a problem of its own and names the nearest entry before it.
-/

namespace SmartForm

/-- Something wrong with settings. -/
inductive SettingsProblem where
  /-- A value that has to be there is missing at the given place. -/
  | missing (place : String)
  /-- The value at the given place cannot be used. -/
  | invalid (place reason : String)
  /-- Two entries are the same. -/
  | duplicate (what : String)
deriving DecidableEq, Repr

namespace SettingsProblem

/-- The name of the sort of problem. -/
def kind : SettingsProblem → String
  | missing _ => "MissingField"
  | invalid _ _ => "InvalidValue"
  | duplicate _ => "Duplicate"

/-- The wording of a problem. -/
def message : SettingsProblem → String
  | missing place => "Missing required field: " ++ place
  | invalid place reason => "Invalid value for " ++ place ++ ": " ++ reason
  | duplicate what => "Duplicate entry: " ++ what

end SettingsProblem

namespace Settings

/-- The index of an item as it stands in a place. -/
def indexed (list : String) (i : Nat) : String := list ++ "[" ++ toString i ++ "]"

/-- The greatest index below `i` at which `ks` holds `k`, a key that the entry at
`i` has as well. -/
def nearestBefore? (ks : List String) (i : Nat) (k : String) : Option Nat :=
  (List.range i).reverse.find? fun j => ks[j]? = some k

/-- The tail of a message about two entries. -/
def atIndices (i j : Nat) : String :=
  "appears at indices " ++ toString i ++ " and " ++ toString j

/-! ### Times -/

/-- A longest time of zero is a problem. -/
def timeoutProblems (place : String) (timeout : Option Nat) : List SettingsProblem :=
  if timeout = some 0 then [.invalid place "Timeout must be greater than 0 when set"] else []

/-- The problems of the times. -/
def timeProblems (s : Settings) : List SettingsProblem :=
  (if s.debounce = 0 then
      [.invalid "search.debounce_ms" "Debounce must be greater than 0"]
    else [])
    ++ timeoutProblems "search.timeout_ms" s.searchTimeout
    ++ timeoutProblems "options.timeout_ms" s.loadTimeout

/-! ### Sources -/

/-- The code of a field in the case in which codes are compared. -/
def codeKey (f : SearchField) : String := String.ofList (f.code.toList.map Char.toUpper)

/-- The codes that take part in the comparison: a code of blanks has no key. -/
def codeKeys (fields : List SearchField) : List String :=
  fields.map fun f => if Text.isAllBlank f.code then "" else codeKey f

/-- The problems of the field at index `j` of the source at index `i`. -/
def fieldProblems (i : Nat) (s : SearchSource) (f : SearchField) (j : Nat) :
    List SettingsProblem :=
  let place := indexed (indexed "sources" i ++ ".fields") j
  let code :=
    if Text.isAllBlank f.code then [.missing (place ++ ".code")]
    else match nearestBefore? (codeKeys s.fields) j (codeKey f) with
      | some k =>
        [.duplicate ("Field code '" ++ f.code ++ "' in source '" ++ s.key ++ "' "
          ++ atIndices k j)]
      | none => []
  code ++ (if Text.isAllBlank f.parameter then [.missing (place ++ ".parameterName")] else [])

/-- The problems of the source at index `i`, among sources with the given keys. -/
def sourceProblems (keys : List String) (s : SearchSource) (i : Nat) : List SettingsProblem :=
  let place := indexed "sources" i
  let repeated := match nearestBefore? keys i s.key with
    | some k => [.duplicate ("Source key '" ++ s.key ++ "' " ++ atIndices k i)]
    | none => []
  repeated
    ++ (if s.key.isEmpty then [.missing (place ++ ".key")] else [])
    ++ (if s.fields.isEmpty then
        [.invalid (place ++ ".fields") ("Source '" ++ s.key ++ "' declares no search fields")]
      else [])
    ++ s.fields.zipIdx.flatMap fun (f, j) => fieldProblems i s f j

/-! ### Catalogs -/

/-- The problems of the catalog at index `i`. -/
def catalogProblems (e : CatalogEntry) (i : Nat) : List SettingsProblem :=
  if e.endpoint.isEmpty then [.missing (indexed "catalogs" i ++ ".endpoint")] else []

/-- Everything that is wrong. -/
def problems (s : Settings) : List SettingsProblem :=
  s.timeProblems
    ++ (s.sources.zipIdx.flatMap fun (x, i) =>
      sourceProblems (s.sources.map SearchSource.key) x i)
    ++ s.catalogs.zipIdx.flatMap fun (e, i) => catalogProblems e i

/-- The wording for settings with problems, one line for each. -/
def rejection (problems : List SettingsProblem) : String :=
  "\n".intercalate ("Configuration validation failed:" :: problems.map SettingsProblem.message)

end Settings

end SmartForm
