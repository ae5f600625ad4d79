import SmartForm.Files.Pattern
import SmartForm.Json.Reader
import SmartForm.Settings.Layers
import SmartForm.Settings.Problems
import SmartForm.Settings.Records
import SmartForm.Toml.Reader
import SmartForm.Yaml.Reader

/-!
# Settings from files

Settings are gathered from three places: the **main file**, the files of sources and
the files of catalogs, which lie in `config/sources` and `config/catalogs` under the
root. The main file need not be there. Its name may be given without its ending.

What is found is put together in this order: the main file, then the times that are
given from elsewhere (`SmartForm.Settings.override`), then sources and catalogs in
the order of the names of their files. Settings with problems are refused as a
whole.
-/

namespace SmartForm

/-- The formats of files. -/
inductive FileFormat where
  /-- JSON. -/
  | json
  /-- TOML. -/
  | toml
  /-- YAML. -/
  | yaml
  /-- A format that is known by its ending but not read. -/
  | unread
deriving DecidableEq, Repr

/-- Endings of names and what they say about the format. -/
def FileFormat.endings : List (String × FileFormat) :=
  [("json", json), ("toml", toml), ("yaml", yaml), ("yml", yaml), ("json5", json),
    ("ini", unread), ("ron", unread)]

/-- Why there are no settings. -/
inductive SettingsFlaw where
  /-- The main file cannot be understood. -/
  | main
  /-- A YAML file cannot be understood. -/
  | yaml
  /-- A TOML file cannot be understood. -/
  | toml
  /-- A JSON file cannot be understood. -/
  | json (flaw : Flaw)
  /-- A file cannot be read. -/
  | file (flaw : FileFlaw)
  /-- The root makes no pattern of paths. -/
  | pattern
  /-- The settings are wrong. -/
  | rejected (problems : List SettingsProblem)
deriving DecidableEq, Repr

/-- The wording of a flaw. -/
def SettingsFlaw.message : SettingsFlaw → String
  | main => "the main file of the settings cannot be understood"
  | yaml => "a YAML file cannot be understood"
  | toml => "a TOML file cannot be understood"
  | json flaw => flaw.message
  | file flaw => flaw.message
  | pattern => "the root of the settings makes no pattern of paths"
  | rejected problems => Settings.rejection problems

/-- Times given from elsewhere than the main file. -/
structure TimeOverrides where
  /-- The quiet time before a search is carried out. -/
  debounce : Option Nat := none
  /-- The longest time of searches and of loads. -/
  timeout : Option Nat := none
deriving DecidableEq, Repr, Inhabited

namespace Settings

/-- Settings in which the given times hold. -/
def override (s : Settings) (o : TimeOverrides) : Settings :=
  { s with
    debounce := o.debounce.getD s.debounce
    searchTimeout := o.timeout.or s.searchTimeout
    loadTimeout := o.timeout.or s.loadTimeout }

/-! ### The texts of files -/

/-- Any value from a text of some format. -/
def layerOf? (format : FileFormat) (text : String) : Option Json :=
  match format with
  | .json =>
    let (d, atEnd) := Json.readDocument text
    (Reader.json.text d atEnd).toOption
  | .toml => Toml.read? text
  | .yaml =>
    let d := Yaml.readDocument text
    (Reader.freeValue d.depth d).toOption
  | .unread => none

/-- Reads what a reader wants from a value that a dialect wrote. -/
def readValue {α : Type} (r : Reader α) (dialect : Dialect) (v : Json) : Except Flaw α :=
  let d := Document.ofJson v
  r dialect d.depth d

/-- The settings that the text of the main file writes. -/
def ofText (format : FileFormat) (text : String) : Except SettingsFlaw Settings :=
  match layerOf? format text with
  | none => .error .main
  | some layer =>
    (readValue record.read .settings (lowestLayer.overlay layer.inLayer)).mapError fun _ => .main

/-- The value of a record in a text of some format. -/
def recordOf {α : Type} (r : Record α) (format : FileFormat) (text : String) :
    Except SettingsFlaw α :=
  match format with
  | .toml =>
    match Toml.read? text with
    | none => .error .toml
    | some v => (readValue r.read .toml v).mapError fun _ => .toml
  | .yaml =>
    let d := Yaml.readDocument text
    (r.read .yaml d.depth d).mapError fun _ => .yaml
  | _ =>
    let (d, atEnd) := Json.readDocument text
    (r.read.text d atEnd).mapError .json

/-! ### Files -/

section Load

variable {m : Type → Type} [Monad m]

/-- The main file that a path means: the file at the path, or one whose name goes on
with a known ending. A file whose format nobody knows is as good as none. -/
def mainFile? (files : FileAccess m) (path : String) : m (Option (String × FileFormat)) := do
  if (← files.kind? path) == some .file then
    return (Path.extension? path).bind fun e =>
      (FileFormat.endings.lookup e).map fun format => (path, format)
  else
    FileFormat.endings.findSomeM? fun (ending, format) => do
      match Path.withEnding? path ending with
      | none => return none
      | some full =>
        return if (← files.kind? full) == some .file then some (full, format) else none

/-- The settings of the main file. A file that is no text is as good as none. -/
def ofMain (files : FileAccess m) (path : String) : m (Except SettingsFlaw Settings) := do
  match ← mainFile? files path with
  | none => return .ok {}
  | some (full, format) =>
    match ← files.read full with
    | .error _ => return .ok {}
    | .ok text => return ofText format text

/-- Reads a record from every file that a pattern describes, as long as a format is
known to be one of records. -/
def records {α : Type} (files : FileAccess m) (r : Record α)
    (formatOf : String → Option FileFormat) (pattern : String) :
    ExceptT SettingsFlaw m (List α) := do
  match ← (PathPattern.expand files pattern : m (Option (List String))) with
  | none => throw .pattern
  | some paths =>
    let found ← paths.mapM fun path => do
      match formatOf path with
      | none => return none
      | some format =>
        match ← files.read path with
        | .error flaw => throw (.file flaw)
        | .ok text => return some (← ExceptT.mk (pure (recordOf r format text)))
    return found.filterMap id

/-- The endings of files of sources. -/
def sourceEndings : List String := ["json", "yaml", "yml", "toml"]

/-- The format of a file of a source. -/
def sourceFormat? (path : String) : Option FileFormat :=
  (Path.extension? path).bind fun e =>
    if sourceEndings.contains e then FileFormat.endings.lookup e else none

/-- Gathers settings: from the main file at a path, from elsewhere, and from the
files under a root. -/
def gather (files : FileAccess m) (path root : String) (given : TimeOverrides) :
    ExceptT SettingsFlaw m Settings := do
  let base ← ExceptT.mk (ofMain files path)
  let s := base.override given
  let sources ← records files SearchSource.record sourceFormat? (root ++ "/config/sources/*")
  let catalogs ←
    records files CatalogEntry.record (fun _ => some .json) (root ++ "/config/catalogs/*.json")
  let s := { s with sources := s.sources ++ sources, catalogs := s.catalogs ++ catalogs }
  match s.problems with
  | [] => return s
  | problems => throw (.rejected problems)

/-- The name of the main file. -/
def mainName : String := "formwright"

/-- The settings under a root. -/
def underRoot (files : FileAccess m) (root : String) : m (Except SettingsFlaw Settings) :=
  (gather files (Path.append root mainName) root {}).run

/-- The settings with the main file at a path; the root is its directory. -/
def withMain (files : FileAccess m) (path : String) (given : TimeOverrides) :
    m (Except SettingsFlaw Settings) :=
  let directory := Path.parent path
  (gather files path (if directory.isEmpty then "." else directory) given).run

end Load

end Settings

end SmartForm
