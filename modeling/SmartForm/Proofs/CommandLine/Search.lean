import SmartForm.CommandLine.Report
import SmartForm.Proofs.Catalog.Merging
import SmartForm.Proofs.Search.Joining
import SmartForm.Proofs.Search.Timed
import SmartForm.Proofs.Settings.Problems

/-!
# A search from the command line

A search from the command line is one text in a search box of its own
(`SmartForm.Report.box`), with a catalog that answers at once. Two things happen to it: the
text is emitted when the quiet time is over, and if that is a call, the answer to it comes
at the same moment. Then nothing is pending any more.

What is waited for is a result or an error. Both come of a call only, so the wait comes to
an end exactly if there is a call to be made (`SmartForm.Report.await_box`). Settings without
problems have sources with fields, but they may have a source without an endpoint, and a
search of that one is waited for without end (`SmartForm.Report.search_ends_iff`).

What is reported in the end is a function of the query, the source and the records of its
endpoint (`SmartForm.Report.Found`). Neither the quiet time nor the longest time of a search
is part of it (`SmartForm.Report.search_closed_form`).
-/

namespace SmartForm

namespace Report

open SearchSession

/-- The search box of a source, with the times and the catalog of the settings. -/
def box (s : Settings) (x : SearchSource) : SearchTimeline where
  session := { source := x }
  searcher := fun call => (0, .ok (s.catalog.search x.endpoint call.filters))
  debounce := s.debounce
  timeout := s.searchTimeout

variable {s : Settings} {x : SearchSource} {query : String}

/-- A query that is not blank is put into the box and waited for. -/
theorem search_eq (hquery : Text.isAllBlank query = false) (patience : Option Nat) :
    search s patience x query =
      if (((box s x).update query).await patience).2 then
        .ok (((box s x).update query).await patience).1.session.state
      else .error .endless := by
  rw [search, hquery]
  rfl

/-- The catalog answers before any time is up. -/
theorem outcome_box (s : Settings) (x : SearchSource) (call : SearchCall) :
    (box s x).searcher.outcome (box s x).timeout call =
      (0, (s.catalog.search x.endpoint call.filters).outcome) := by
  rw [Searcher.outcome]
  cases htimeout : (box s x).timeout <;> simp [box]

/-! ### The two things that happen -/

/-- The box when the quiet time is over and there was no call to be made. -/
def unsearched (s : Settings) (x : SearchSource) (query : String) : SearchTimeline :=
  { box s x with
    session := { source := x, state := { query }, writes := 2, emitted := query, latest := 1 }
    now := s.debounce }

/-- The box when the quiet time is over and a call has been made. -/
def asked (s : Settings) (x : SearchSource) (query : String) (call : SearchCall) :
    SearchTimeline :=
  { box s x with
    session :=
      { source := x
        state := { query, isLoading := true }
        writes := 2
        emitted := query
        latest := 1
        task := some ⟨1, query, .asking⟩ }
    now := s.debounce
    coming := some ⟨s.debounce, 1, (s.catalog.search x.endpoint call.filters).outcome⟩
    calls := [call] }

/-- The box when the answer to a call has come. -/
def searched (s : Settings) (x : SearchSource) (query : String) (call : SearchCall) :
    SearchTimeline :=
  { box s x with
    session :=
      { source := x
        state :=
          answered (s.catalog.search x.endpoint call.filters).outcome { query, isLoading := true }
        writes := 3
        emitted := query
        latest := 1 }
    now := s.debounce
    calls := [call] }

theorem step?_update (s : Settings) (x : SearchSource) (query : String) :
    ((box s x).update query).step? none =
      some (((box s x).update query).emit query s.debounce) := by
  simp [SearchTimeline.step?, SearchTimeline.update, SearchTimeline.isWithin, box]

theorem emit_of_none (hcall : call? x query = none) :
    ((box s x).update query).emit query s.debounce = unsearched s x query := by
  simp [SearchTimeline.emit, SearchTimeline.update, SearchSession.emit, SearchSession.update,
    begin, hcall, writeFor, write, box, unsearched]

theorem emit_of_some {call : SearchCall} (hcall : call? x query = some call) :
    ((box s x).update query).emit query s.debounce = asked s x query call := by
  have houtcome := outcome_box s x call
  simp [SearchTimeline.emit, SearchTimeline.update, SearchSession.emit, SearchSession.update,
    begin, hcall, writeFor, write, box, asked] at houtcome ⊢
  simp [houtcome]

theorem step?_asked (s : Settings) (x : SearchSource) (query : String) (call : SearchCall) :
    (asked s x query call).step? none = some (searched s x query call) := by
  simp [SearchTimeline.step?, SearchTimeline.complete, SearchTimeline.isWithin, finish, writeFor,
    write, box, asked, searched]

/-- The answer to a call is always shown. -/
theorem isAnswered_answered (outcome : SearchOutcome) (state : SearchState) :
    (answered outcome state).isAnswered = true := by
  cases outcome <;> simp [answered, SearchState.isAnswered]

/-! ### The end of the wait -/

theorem await_of_none (hcall : call? x query = none) :
    ((box s x).update query).await none = (unsearched s x query, false) := by
  have hrun : SearchTimeline.run none (fun state => !state.isAnswered) SearchTimeline.mostSteps
      ((box s x).update query) = unsearched s x query := by
    rw [SearchTimeline.mostSteps, SearchTimeline.run_of_step? rfl (step?_update s x query),
      emit_of_none hcall]
    exact SearchTimeline.run_of_step?_eq_none rfl 2
  rw [SearchTimeline.await]
  simp only [Option.map_none, hrun]
  rfl

theorem await_of_some {call : SearchCall} (hcall : call? x query = some call) :
    ((box s x).update query).await none = (searched s x query call, true) := by
  have hanswered : (searched s x query call).session.state.isAnswered = true :=
    isAnswered_answered _ _
  have hrun : SearchTimeline.run none (fun state => !state.isAnswered) SearchTimeline.mostSteps
      ((box s x).update query) = searched s x query call := by
    rw [SearchTimeline.mostSteps, SearchTimeline.run_of_step? rfl (step?_update s x query),
      emit_of_some hcall, SearchTimeline.run_of_step? rfl (step?_asked s x query call)]
    exact SearchTimeline.run_of_not (by simp [hanswered]) 1
  rw [SearchTimeline.await]
  simp only [Option.map_none, hrun, hanswered, if_true]

/-- **The wait comes to an end exactly if there is a call to be made.** In either case nothing
is pending any more. -/
theorem await_box (s : Settings) (x : SearchSource) (query : String) :
    ∃ t reached, ((box s x).update query).await none = (t, reached) ∧
      (t.pending = none ∧ t.coming = none ∧ t.session.task = none ∧ t.session.latest = 1) ∧
      t.session.state.isAnswered = reached ∧ (reached = true ↔ call? x query ≠ none) := by
  cases hcall : call? x query with
  | none => exact ⟨_, _, await_of_none hcall, ⟨rfl, rfl, rfl, rfl⟩, rfl, by simp⟩
  | some call =>
    exact ⟨_, _, await_of_some hcall, ⟨rfl, rfl, rfl, rfl⟩, isAnswered_answered _ _, by simp⟩

/-- With settings in which nothing is wrong, a text that is not blank is a call exactly if the
source has an endpoint. -/
theorem call?_ne_none_iff (hs : s.problems = []) {key : String} (hx : s.source? key = some x)
    (hquery : Text.trim query ≠ "") : call? x query ≠ none ↔ x.endpoint ≠ "" := by
  have hfields : x.fields ≠ [] := Settings.fields_ne_nil hs (Settings.mem_of_source? hx)
  simp [call?_eq_none_iff, hquery, hfields]

/-- **When a search from the command line ends.** Let there be nothing wrong with the settings,
a source with the given key, and a query that is not blank. The one search that is begun comes
to its end, and nothing is pending any more. A result or an error is then shown, and reported,
if and only if the source has an endpoint. Without an endpoint neither is shown, and the
search is waited for without end. -/
theorem search_ends_iff (hs : s.problems = []) {key : String} (hx : s.source? key = some x)
    (hquery : Text.trim query ≠ "") :
    let t := (((box s x).update query).await none).1
    (t.pending = none ∧ t.coming = none ∧ t.session.task = none ∧ t.session.latest = 1) ∧
      (t.session.state.isAnswered = true ↔ x.endpoint ≠ "") ∧
      search s none x query =
        if x.endpoint = "" then .error .endless else .ok t.session.state := by
  intro t
  have hblank : Text.isAllBlank query = false := by
    simpa using mt Text.trim_eq_empty_iff.mpr hquery
  obtain ⟨t', reached, hawait, hidle, hshown, hreached⟩ := await_box s x query
  obtain rfl : t = t' := congrArg Prod.fst hawait
  rw [call?_ne_none_iff hs hx hquery] at hreached
  refine ⟨hidle, hshown ▸ hreached, ?_⟩
  rw [search_eq hblank, hawait]
  by_cases hendpoint : x.endpoint = ""
  · rw [if_pos hendpoint, if_neg fun h => hreached.mp h hendpoint]
  · rw [if_neg hendpoint, if_pos (hreached.mpr hendpoint)]

/-- A source of towns. -/
def towns : SearchSource where
  key := "towns"
  endpoint := "towns"
  fields := [{ code := "T", parameter := "name" }]

/-- A source that names no endpoint. -/
def nowhere : SearchSource where
  key := "nowhere"
  endpoint := ""
  fields := [{ code := "T", parameter := "name" }]

/-- Settings with both sources and two towns. -/
def townSettings : Settings where
  sources := [towns, nowhere]
  catalogs := [⟨"towns", [.object [("name", .string "Delhi")], .object [("name", .string "Pune")]]⟩]

/-- A search for a town is reported. -/
theorem search_ends_iff_towns :
    townSettings.problems = [] ∧ townSettings.source? "towns" = some towns ∧
      Text.trim " delhi" ≠ "" ∧
      ∃ state, search townSettings none towns " delhi" = .ok state ∧ state.isAnswered = true := by
  have hs : townSettings.problems = [] := by decide
  have hx : townSettings.source? "towns" = some towns := rfl
  have hquery : Text.trim " delhi" ≠ "" := by decide
  obtain ⟨-, hshown, hreport⟩ := search_ends_iff hs hx hquery
  exact ⟨hs, hx, hquery, _, hreport, hshown.mpr (by decide)⟩

/-- The settings are accepted and the source is found, but nothing that is waited for can ever
be shown: the search is over, nothing is pending, and there is neither a result nor an
error. -/
theorem search_without_end :
    townSettings.problems = [] ∧ townSettings.source? "nowhere" = some nowhere ∧
      Text.trim "delhi" ≠ "" ∧
      (let t := (((box townSettings nowhere).update "delhi").await none).1
       t.pending.isNone ∧ t.coming.isNone ∧ t.session.task.isNone ∧ t.session.latest = 1 ∧
        t.session.state.isComplete = false ∧ t.session.state.error = none) ∧
      search townSettings none nowhere "delhi" = .error .endless :=
  ⟨by decide, rfl, by decide, by decide, rfl⟩

/-! ### What is reported -/

/-- The filters of a search: blanks around the query make no difference to them. -/
theorem filters_trim (x : SearchSource) (query : String) :
    x.filters (Text.trim query) = x.baseFilters ++ Query.parse query x := by
  rw [SearchSource.filters, Query.parse_trim]

/-- **What a search from the command line finds.** -/
structure Found (s : Settings) (x : SearchSource) (query : String) (state : SearchState) :
    Prop where
  /-- The query is shown as it was given. -/
  query_eq : state.query = query
  /-- The search is over. -/
  not_loading : state.isLoading = false
  /-- For a blank query there is no search, so nothing but the query is shown. -/
  blank : Text.trim query = "" → state = { query }
  /-- A search at an endpoint without an entry is refused. -/
  refused : Text.trim query ≠ "" → (∀ e ∈ s.catalogs, e.endpoint ≠ x.endpoint) →
    state.items = [] ∧ state.isComplete = false ∧
      state.error =
        some ("Search was rejected: Unknown catalog endpoint '" ++ x.endpoint ++ "'")
  /-- Any other search has the records of all entries for the endpoint, in their order, that
  pass the filters of the source and those of the query. -/
  carried : Text.trim query ≠ "" → (∃ e ∈ s.catalogs, e.endpoint = x.endpoint) →
    state.isComplete = true ∧ state.error = none ∧
      state.items =
        ((s.catalogs.filter fun e => e.endpoint = x.endpoint).flatMap CatalogEntry.records).filter
          fun r => (x.baseFilters ++ Query.parse query x).all fun f => Catalog.passes f r

/-- What is shown of a search that is carried out or refused. -/
def shown (s : Settings) (x : SearchSource) (query : String) : SearchState :=
  answered (s.catalog.search x.endpoint (x.baseFilters ++ Query.parse query x)).outcome
    { query, isLoading := true }

theorem found_blank (s : Settings) (x : SearchSource) (hquery : Text.trim query = "") :
    Found s x query { query } :=
  ⟨rfl, rfl, fun _ => rfl, fun h => absurd hquery h, fun h => absurd hquery h⟩

theorem found_shown (s : Settings) (x : SearchSource) (hquery : Text.trim query ≠ "") :
    Found s x query (shown s x query) := by
  have hrecords := Settings.records?_catalog s x.endpoint
  by_cases hentry : ∃ e ∈ s.catalogs, e.endpoint = x.endpoint
  · rw [if_pos hentry] at hrecords
    rw [shown, Catalog.search, hrecords]
    refine ⟨rfl, rfl, fun h => absurd h hquery, fun _ h => ?_, fun _ _ => ⟨rfl, rfl, rfl⟩⟩
    obtain ⟨e, he, hendpoint⟩ := hentry
    exact absurd hendpoint (h e he)
  · rw [if_neg hentry] at hrecords
    rw [shown, Catalog.search, hrecords]
    exact ⟨rfl, rfl, fun h => absurd h hquery, fun _ _ => ⟨rfl, rfl, rfl⟩,
      fun _ h => absurd h hentry⟩

theorem search_of_blank (s : Settings) (patience : Option Nat) (x : SearchSource)
    (hquery : Text.trim query = "") : search s patience x query = .ok { query } := by
  rw [search, Text.trim_eq_empty_iff.mp hquery]
  rfl

/-- A search with something to search for and somewhere to search ends with what the catalog
says. -/
theorem search_of_call (s : Settings) (hendpoint : x.endpoint ≠ "") (hfields : x.fields ≠ [])
    (hquery : Text.trim query ≠ "") : search s none x query = .ok (shown s x query) := by
  have hblank : Text.isAllBlank query = false := by
    simpa using mt Text.trim_eq_empty_iff.mpr hquery
  have hcall : call? x query = some ⟨Text.trim query, x.filters (Text.trim query)⟩ := by
    simp [call?, hquery, hendpoint, hfields]
  rw [search_eq hblank, await_of_some hcall, shown, ← filters_trim]
  rfl

/-- **What a search from the command line reports**, for a source with an endpoint and a field:
a state as `SmartForm.Report.Found` says. The quiet time and the longest time of a search have
no part in it. -/
theorem search_closed_form (s : Settings) {key : String} (hx : s.source? key = some x)
    (hendpoint : x.endpoint ≠ "") (hfields : x.fields ≠ []) (query : String) :
    ∃ state, Found s x query state ∧ search s none x query = .ok state ∧
      ∀ (debounce : Nat) (searchTimeout : Option Nat) {m : Type → Type} [Monad m]
        (files : FileAccess m),
        (Command.search key query).report files { s with debounce, searchTimeout } none =
          pure (.ok state.toJson) := by
  have hsource : ∀ debounce searchTimeout,
      source { s with debounce, searchTimeout } key = .ok x := by
    intro debounce searchTimeout
    have hx' : ({ s with debounce, searchTimeout } : Settings).source? key = some x := hx
    rw [source, hx']
  by_cases hquery : Text.trim query = ""
  · refine ⟨_, found_blank s x hquery, search_of_blank s none x hquery, ?_⟩
    intro debounce searchTimeout m _ files
    rw [Command.report, hsource, Except.bind, search_of_blank _ none x hquery]
    rfl
  · refine ⟨_, found_shown s x hquery, search_of_call s hendpoint hfields hquery, ?_⟩
    intro debounce searchTimeout m _ files
    rw [Command.report, hsource, Except.bind, search_of_call _ hendpoint hfields hquery]
    rfl

/-- Settings in which the towns stand in two entries. -/
def scatteredTowns : Settings where
  sources := [towns]
  catalogs :=
    [⟨"towns", [.object [("name", .string "Pune")], .object [("name", .string "Delhi")]]⟩,
     ⟨"rivers", [.object [("name", .string "Indus")]]⟩,
     ⟨"towns", [.object [("name", .string "New Delhi")]]⟩]

/-- Two towns are found, each in an entry of its own. -/
theorem search_closed_form_scattered :
    scatteredTowns.source? "towns" = some towns ∧ towns.endpoint ≠ "" ∧ towns.fields ≠ [] ∧
      ∃ state, search scatteredTowns none towns " delhi" = .ok state ∧ state.isComplete = true ∧
        state.items =
          [.object [("name", .string "Delhi")], .object [("name", .string "New Delhi")]] := by
  have hx : scatteredTowns.source? "towns" = some towns := rfl
  have hendpoint : towns.endpoint ≠ "" := by decide
  have hfields : towns.fields ≠ [] := by decide
  obtain ⟨state, hfound, hsearch, -⟩ :=
    search_closed_form scatteredTowns hx hendpoint hfields " delhi"
  obtain ⟨hcomplete, -, hitems⟩ :=
    hfound.carried (by decide) ⟨_, List.mem_cons_self, rfl⟩
  exact ⟨hx, hendpoint, hfields, state, hsearch, hcomplete, hitems.trans rfl⟩

end Report

end SmartForm
