import SmartForm.Files.Access
import SmartForm.Files.Path
import SmartForm.Schema.Records
import SmartForm.Yaml.Reader

/-!
# Schemas from files

A file whose name ends in `.yaml` or `.yml` holds a schema as YAML, every other file
as JSON.
-/

namespace SmartForm

/-- Why there is no schema. -/
inductive SchemaFlaw where
  /-- The file cannot be read. -/
  | file (path : String) (flaw : FileFlaw)
  /-- The JSON text is no schema. -/
  | json (flaw : Flaw)
  /-- The YAML text of a file is no schema. -/
  | yaml (path : String)
deriving DecidableEq, Repr

/-- The wording of a flaw. -/
def SchemaFlaw.message : SchemaFlaw → String
  | file path flaw => "Failed to read " ++ path ++ ": " ++ flaw.message
  | json flaw => "Schema parse error: " ++ flaw.message
  | yaml path => "Schema parse error: " ++ path

namespace Schema

/-- Whether a path says that its file is YAML. -/
def isYaml (path : String) : Bool :=
  let ending := Path.extension? path
  ending = some "yaml" || ending = some "yml"

/-- The schema that the text of the file at a path writes. -/
def ofFileText (path text : String) : Except SchemaFlaw Schema :=
  if isYaml path then
    let d := Yaml.readDocument text
    (Schema.record.read .yaml d.depth d).mapError fun _ => .yaml path
  else (ofText text).mapError .json

/-- The schema in the file at a path. -/
def ofFile {m : Type → Type} [Monad m] (files : FileAccess m) (path : String) :
    m (Except SchemaFlaw Schema) := do
  match ← files.read path with
  | .error flaw => return .error (.file path flaw)
  | .ok text => return ofFileText path text

end Schema

end SmartForm
