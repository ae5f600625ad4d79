import SmartForm.Catalog.Basic
import SmartForm.Search.Source

/-!
# Settings

What can be set from the outside: how long a search waits for further input, how
long a load and a search may take, what can be searched, and the records of the
catalog. Times are in milliseconds.
-/

namespace SmartForm

/-- The quiet time before a search is carried out, if nothing else is set. -/
def defaultDebounce : Nat := 400

/-- Records for a catalog. -/
structure CatalogEntry where
  /-- The name of the records. -/
  endpoint : String
  /-- The records. -/
  records : List Json := []
deriving Repr, Inhabited

/-- The settings. -/
structure Settings where
  /-- The quiet time before a search is carried out. -/
  debounce : Nat := defaultDebounce
  /-- The longest time of a search. -/
  searchTimeout : Option Nat := none
  /-- The longest time of a load. -/
  loadTimeout : Option Nat := none
  /-- What can be searched. -/
  sources : List SearchSource := []
  /-- The records of the catalog. -/
  catalogs : List CatalogEntry := []
deriving Repr, Inhabited

namespace Settings

/-- The first source with the given key. -/
def source? (s : Settings) (key : String) : Option SearchSource :=
  s.sources.find? fun x => x.key = key

/-- The catalog of all records. Records with one endpoint stand one after the
other. -/
def catalog (s : Settings) : Catalog :=
  Catalog.ofList (s.catalogs.map fun e => (e.endpoint, e.records))

end Settings

end SmartForm
