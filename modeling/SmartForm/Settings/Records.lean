import SmartForm.Search.Records
import SmartForm.Settings.Basic

/-!
# Settings in documents

How settings stand in documents, one `SmartForm.Record` for each group of them.
A document groups the times of searches and those of loads under a name each.
-/

namespace SmartForm

/-- Records for a catalog in documents. -/
def CatalogEntry.record : Record CatalogEntry where
  name := "CatalogConfig"
  blank := { endpoint := "" }
  fields :=
    [.need "endpoint" Reader.string (fun v e => { e with endpoint := v })
       fun e => .string e.endpoint,
     .give "records" (Reader.list Reader.json) (fun v e => { e with records := v })
       fun e => .array e.records]

/-- Records for a catalog as a value. -/
def CatalogEntry.toJson (e : CatalogEntry) : Json := CatalogEntry.record.write e

namespace Settings

/-- The times of a group: the quiet time and the longest time. -/
abbrev Times := Nat × Option Nat

/-- The times of searches in documents. -/
def searchRecord : Record Times where
  name := "SearchSettings"
  blank := (defaultDebounce, none)
  fields :=
    [.give "debounce_ms" (Reader.word "u64") (fun v t => (v, t.2)) fun t => .nat t.1,
     .give "timeout_ms" (Reader.option (Reader.word "u64")) (fun v t => (t.1, v))
       fun t => .ofOption (t.2.map Json.nat)]

/-- The times of loads in documents. -/
def loadRecord : Record (Option Nat) where
  name := "OptionSettings"
  blank := none
  fields :=
    [.give "timeout_ms" (Reader.option (Reader.word "u64")) (fun v _ => v)
       fun t => .ofOption (t.map Json.nat)]

/-- Settings in documents. -/
def record : Record Settings where
  name := "Settings"
  blank := {}
  fields :=
    [.give "search" searchRecord.read
       (fun v s => { s with debounce := v.1, searchTimeout := v.2 })
       fun s => searchRecord.write (s.debounce, s.searchTimeout),
     .give "options" loadRecord.read (fun v s => { s with loadTimeout := v })
       fun s => loadRecord.write s.loadTimeout,
     .give "sources" (Reader.list SearchSource.record.read) (fun v s => { s with sources := v })
       fun s => .array (s.sources.map SearchSource.toJson),
     .give "catalogs" (Reader.list CatalogEntry.record.read)
       (fun v s => { s with catalogs := v })
       fun s => .array (s.catalogs.map CatalogEntry.toJson)]

/-- Settings as a value. -/
def toJson (s : Settings) : Json := record.write s

end Settings

end SmartForm
