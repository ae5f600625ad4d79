import SmartForm.CommandLine.Report
import SmartForm.Proofs.Form.Waiting

/-!
# The report on a form

The report on a form is made in a few rounds: the form of the schema is built and its first
loads are waited for, the assigned values are patched in, the loads that they have started
are waited for, and what the form then holds and shows is put together. The one thing to know
is that nothing of this shows. The report is a function of the schema, the settings and the
assignments that can be written down field by field (`SmartForm.Report.foretold`,
`SmartForm.Report.inspect_closed_form`).

Two things make that so. A report is a matter of the values and the choices of the form
(`SmartForm.Report.ofForm_eq`), and these come out of each round as a function of what went
in. The catalog answers at once, so no load is ever too late
(`SmartForm.Report.ofResult_outcome`).
-/

namespace SmartForm

namespace Report

open FieldSpec

/-! ### Foretold -/

/-- The value that is assigned to a key; of several the last. -/
def assigned? (assignments : List Assignment) (key : String) : Option Json :=
  (assignments.reverse.find? fun a => a.key = key).map Assignment.value

/-- **The value of a field**: the one that is assigned to it; without one nothing, if a value
is assigned to the field that it hangs on; and otherwise what it starts with. -/
def valueOf (fields : List FieldSpec) (assignments : List Assignment) (f : FieldSpec) : Json :=
  match assigned? assignments f.key, (hangsOn? fields f.key).bind (assigned? assignments) with
  | some v, _ => v
  | none, some _ => .null
  | none, none => f.initial

/-- What a catalog has for a binding: the choices that the wanted records make, or a failure
if it does not know the endpoint. -/
def loaded (c : Catalog) (b : Binding) (dependency : Option Json) : LoadState :=
  match c.records? b.endpoint with
  | some records => ⟨false, b.choices (records.filter (Catalog.isWanted b dependency)), .loaded⟩
  | none => ⟨false, [], .failed⟩

/-- **The choices of a field**: those that the catalog has for it if they wait for no other
field; those that it has for the value that is assigned to the parent, or none if that is
empty; and otherwise those that need not be loaded. -/
def choicesOf (c : Catalog) (fields : List FieldSpec) (assignments : List Assignment)
    (f : FieldSpec) : LoadState :=
  match f.immediateBinding?, attachment? fields f with
  | some b, _ => loaded c b none
  | none, none => .ofChoices f.choices
  | none, some (b, parent) =>
    match assigned? assignments parent with
    | some v => if v.isEmpty then {} else loaded c b (some v)
    | none => .ofChoices f.choices

/-- What the value of a field does wrong. -/
def violationsOf (value : FieldSpec → Json) (f : FieldSpec) : List Violation :=
  Validator.violations (Validator.ofField f) (value f)

/-- The report on fields with some values and choices. -/
def reportOf (title : String) (fields : List FieldSpec) (value : FieldSpec → Json)
    (choices : FieldSpec → LoadState) : FormReport where
  title := title
  value := (firsts fields).map fun f => (f.key, value f)
  isValid := (firsts fields).all fun f => (violationsOf value f).isEmpty
  errors := ((firsts fields).map fun f => (f.key, violationsOf value f)).filter
    fun e => !e.2.isEmpty
  fields := ((firsts fields).map fun f => (f.key, choices f)).filter fun e => isShown e.2

/-- The report on the form of a schema with assigned values in it. -/
def foretold (s : Settings) (schema : Schema) (assignments : List Assignment) : FormReport :=
  reportOf schema.title schema.fields (valueOf schema.fields assignments)
    (choicesOf s.catalog schema.fields assignments)

/-! ### Assigned values -/

theorem lookup_insertMember (name : String) (v : Json) (members : List (String × Json))
    (key : String) :
    (Json.insertMember name v members).lookup key =
      if key = name then some v else members.lookup key := by
  induction members with
  | nil => exact lookup_cons_pair ..
  | cons m members ih =>
    obtain ⟨n, w⟩ := m
    rw [Json.insertMember]
    by_cases hn : name = n
    · -- The member of the name is replaced.
      subst hn
      simp only [if_true, lookup_cons_pair]
      by_cases hk : key = name <;> simp [hk]
    · by_cases hlt : name < n
      · simp only [if_neg hn, if_pos hlt, lookup_cons_pair]
      · simp only [if_neg hn, if_neg hlt, lookup_cons_pair, ih]
        by_cases hk : key = name
        · simp [hk, hn]
        · simp [hk]

theorem assigned?_append_singleton (assignments : List Assignment) (a : Assignment)
    (key : String) :
    assigned? (assignments ++ [a]) key =
      if key = a.key then some a.value else assigned? assignments key := by
  rw [assigned?, List.reverse_append, List.reverse_singleton, List.singleton_append,
    List.find?_cons]
  by_cases hk : key = a.key
  · simp [hk]
  · simp [hk, Ne.symm hk, assigned?]

/-- The values that are patched in are the assigned ones. -/
theorem lookup_sortMembers (assignments : List Assignment) (key : String) :
    (Json.sortMembers (assignments.map fun a => (a.key, a.value))).lookup key =
      assigned? assignments key := by
  induction assignments using List.reverseRecOn with
  | nil => rfl
  | append_singleton assignments a ih =>
    rw [Json.sortMembers] at ih
    rw [Json.sortMembers, List.map_append, List.foldl_append, assigned?_append_singleton, ← ih]
    exact lookup_insertMember ..

/-- The order of assignments to different keys does not matter. -/
theorem assigned?_of_perm {assignments assignments' : List Assignment}
    (hperm : assignments'.Perm assignments) (hkeys : (assignments.map Assignment.key).Nodup) :
    assigned? assignments' = assigned? assignments := by
  have hreverse : (assignments.reverse.map Assignment.key).Nodup := by
    rw [List.map_reverse]
    exact List.nodup_reverse.mpr hkeys
  have hreverse' : (assignments'.reverse.map Assignment.key).Nodup := by
    rw [List.map_reverse]
    exact List.nodup_reverse.mpr ((hperm.map _).nodup_iff.mpr hkeys)
  funext key
  refine congrArg (Option.map _) (Option.ext fun a => ?_)
  rw [find?_key_eq_some hreverse', find?_key_eq_some hreverse, List.mem_reverse,
    List.mem_reverse, hperm.mem_iff]

/-! ### The report on a form -/

section OfForm

variable {fields : List FieldSpec} {f : Form}

/-- A cell checks what its field asks for. -/
theorem chain_eq (hf : f.Steady fields) (k : String) :
    (f.board.cell? k).map Cell.chain = (withKey? fields k).map Validator.ofField := by
  have hcell := congrArg (Option.map Prod.snd) (Board.map_cell?_of_frame hf.frame_eq k)
  rw [Option.map_map, Option.map_map] at hcell
  have hbuild : (Form.build fields).board.cell? k = ((Form.build fields).board.lane k).cell := rfl
  refine hcell.trans ?_
  rw [hbuild, Form.lane_build]
  cases withKey? fields k <;> rfl

/-- The cells of a form, with what they check and what they hold. -/
theorem map_alive_eq (hf : f.Steady fields) {value : FieldSpec → Json}
    (hvalue : ∀ k, f.board.value? k = (withKey? fields k).map value) :
    (f.board.alive.map fun e => (e.1, e.2.chain, e.2.value)) =
      (firsts fields).map fun g => (g.key, Validator.ofField g, value g) := by
  have hkeys : (f.board.alive.map fun e => (e.1, e.2.chain, e.2.value)).map Prod.fst =
      (firsts fields).map FieldSpec.key := by
    rw [← hf.keys_alive, List.map_map]
    rfl
  refine eq_of_lookup_eq (hkeys.trans ?_) (hkeys ▸ nodup_keys_firsts fields) fun k => ?_
  · rw [List.map_map]
    rfl
  · have hchain := chain_eq hf k
    have hheld := hvalue k
    rw [lookup_map_keyed f.board.alive (fun _ c => (c.chain, c.value)), hf.lookup_alive,
      lookup_map_key, withKey?_firsts]
    rw [Board.value?] at hheld
    cases hc : f.board.cell? k with
    | none =>
      rw [hc] at hchain
      cases hg : withKey? fields k with
      | none => rfl
      | some g => rw [hg] at hchain; cases hchain
    | some c =>
      rw [hc] at hchain hheld
      cases hg : withKey? fields k with
      | none => rw [hg] at hchain; cases hchain
      | some g =>
        rw [hg] at hchain hheld
        exact congrArg some (Prod.ext (Option.some.inj hchain) (Option.some.inj hheld))

/-- **A report is a matter of values and choices**, those of the fields that count. -/
theorem ofForm_eq (hf : f.Steady fields) {value : FieldSpec → Json}
    {choices : FieldSpec → LoadState}
    (hvalue : ∀ k, f.board.value? k = (withKey? fields k).map value)
    (hstate : ∀ g, withKey? fields g.key = some g → f.state? g.key = some (choices g))
    (title : String) : ofForm title f = reportOf title fields value choices := by
  have hcells := map_alive_eq hf hvalue
  have hheld : f.value = (firsts fields).map fun g => (g.key, value g) := by
    have h := congrArg (List.map fun x => (x.1, x.2.2)) hcells
    rwa [List.map_map, List.map_map] at h
  have hwrong : (f.board.alive.map fun e => (e.1, e.2.violations)) =
      (firsts fields).map fun g => (g.key, violationsOf value g) := by
    have h := congrArg (List.map fun x => (x.1, Validator.violations x.2.1 x.2.2)) hcells
    rwa [List.map_map, List.map_map] at h
  have hvalid : f.isValid = (firsts fields).all fun g => (violationsOf value g).isEmpty := by
    have h := congrArg (fun xs => xs.all fun x => x.2.isEmpty) hwrong
    simp only [List.all_map] at h
    exact h
  have hshown : (f.keys.filterMap fun key => ((f.state? key).filter isShown).map fun x => (key, x))
      = ((firsts fields).map fun g => (g.key, choices g)).filter fun e => isShown e.2 := by
    rw [Form.keys, hf.fields_eq, List.filterMap_map, List.filter_map, ← List.filterMap_eq_map,
      ← List.filterMap_eq_filter, List.filterMap_filterMap]
    refine List.filterMap_congr fun g hg => ?_
    have hkey : withKey? fields g.key = some g := by
      rw [← withKey?_firsts, withKey?_eq_some_iff (nodup_keys_firsts fields)]
      exact ⟨hg, rfl⟩
    simp only [Function.comp, hstate g hkey, Option.filter_some, Option.guard]
    split <;> rfl
  rw [ofForm, reportOf, hheld, hvalid, Form.errors, hwrong, hshown]

end OfForm

/-! ### The rounds -/

section Rounds

variable {s : Settings} {schema : Schema} {assignments : List Assignment}

/-- The engine that has made the form of a schema, and has waited. -/
def opened (s : Settings) (schema : Schema) : FormEngine :=
  (FormEngine.load { service := ⟨loader s, s.loadTimeout⟩ } schema).settle.1

/-- That engine when the assigned values were patched in, and it has waited again. -/
def filled (s : Settings) (schema : Schema) (assignments : List Assignment) : FormEngine :=
  ((opened s schema).patch
    (Json.sortMembers (assignments.map fun a => (a.key, a.value)))).settle.1

theorem inspect_eq (s : Settings) (schema : Schema) (assignments : List Assignment) :
    inspect s schema assignments =
      match unknownKey? (opened s schema).form assignments with
      | some key => .error (.form (.unknownControl key))
      | none => .ok (ofForm schema.title (filled s schema assignments).form) := rfl

/-- The catalog answers at once, so its answer is what comes of a load. -/
theorem ofResult_outcome (s : Settings) (b : Binding) (dependency : Option Json) :
    LoadState.ofResult (Board.resultOf b
      (LoadService.outcome ⟨loader s, s.loadTimeout⟩ b dependency).2) =
        loaded s.catalog b dependency := by
  have houtcome : (LoadService.outcome ⟨loader s, s.loadTimeout⟩ b dependency).2 =
      (s.catalog.load b dependency).toOption := by
    rw [LoadService.outcome]
    cases s.loadTimeout with
    | none => rfl
    | some most => simp [loader]
  rw [houtcome, loaded, Catalog.load]
  cases s.catalog.records? b.endpoint <;> rfl

/-! #### The form is opened -/

theorem steady_load (s : Settings) (schema : Schema) :
    (FormEngine.load { service := ⟨loader s, s.loadTimeout⟩ } schema).form.Steady
      schema.fields := Form.steady_build schema.fields

theorem steady_opened (s : Settings) (schema : Schema) :
    (opened s schema).form.Steady schema.fields :=
  FormEngine.steady_settle (steady_load s schema)

theorem ends_opened (s : Settings) (schema : Schema) : (opened s schema).current.ends = [] :=
  FormEngine.ends_settle rfl

theorem service_opened (s : Settings) (schema : Schema) :
    (opened s schema).service = ⟨loader s, s.loadTimeout⟩ := FormEngine.service_settle _

theorem value?_opened (s : Settings) (schema : Schema) (k : String) :
    (opened s schema).form.board.value? k = (withKey? schema.fields k).map initial :=
  (FormEngine.value?_settle _ k).trans (Form.value?_build schema.fields k)

theorem state?_opened {f : FieldSpec} (hf : withKey? schema.fields f.key = some f) :
    (opened s schema).form.state? f.key =
      some (match f.immediateBinding? with
        | some b => loaded s.catalog b none
        | none => .ofChoices f.choices) := by
  have hlane : (FormEngine.load { service := ⟨loader s, s.loadTimeout⟩ } schema).form.board.lane
      f.key = Form.opened schema.fields f := by
    refine (Form.lane_build schema.fields f.key).trans ?_
    rw [hf]
    rfl
  rw [opened, FormEngine.state?_settle (steady_load s schema) rfl, hlane]
  cases hb : f.immediateBinding? with
  | some b =>
    rw [Form.opened_of_immediate hb]
    exact congrArg some (ofResult_outcome s b none)
  | none =>
    have hloads : (Form.opened schema.fields f).loads = [] := by rw [Form.opened_of_waiting hb]
    rw [hloads]
    simp only
    rw [Form.state?_eq_slot, hlane, Form.opened_of_waiting hb]
    rfl

/-! #### Values are put in -/

theorem steady_filled (s : Settings) (schema : Schema) (assignments : List Assignment) :
    (filled s schema assignments).form.Steady schema.fields :=
  FormEngine.steady_settle (Form.steady_patch _ (steady_opened s schema))

theorem value?_filled (hfields : Acyclic schema.fields) (k : String) :
    (filled s schema assignments).form.board.value? k =
      (withKey? schema.fields k).map (valueOf schema.fields assignments) := by
  let values := Json.sortMembers (assignments.map fun a => (a.key, a.value))
  have hpatch := Form.value?_patch values (steady_opened s schema) hfields k
  simp only [values, lookup_sortMembers, value?_opened] at hpatch
  refine (FormEngine.value?_settle _ k).trans (hpatch.trans ?_)
  cases hf : withKey? schema.fields k with
  | none =>
    cases assigned? assignments k <;>
      cases (hangsOn? schema.fields k).bind (assigned? assignments) <;> rfl
  | some f =>
    simp only [Option.map_some, valueOf, key_of_withKey? hf]
    cases assigned? assignments k <;>
      cases (hangsOn? schema.fields k).bind (assigned? assignments) <;> rfl

theorem state?_filled {f : FieldSpec} (hf : withKey? schema.fields f.key = some f) :
    (filled s schema assignments).form.state? f.key =
      some (choicesOf s.catalog schema.fields assignments f) := by
  have hopened := state?_opened (s := s) hf
  have hquiet : ((opened s schema).form.board.lane f.key).loads = [] :=
    FormEngine.loads_settle (steady_load s schema) f.key
  -- If no value is assigned to the parent, the choices are those of the opened form.
  have hstay : (hangsOn? schema.fields f.key).bind (assigned? assignments) = none →
      (filled s schema assignments).form.state? f.key = (opened s schema).form.state? f.key := by
    intro hnone
    refine FormEngine.state?_settle_patch_of_unset (steady_opened s schema) (ends_opened s schema)
      hquiet ?_
    simp only [lookup_sortMembers]
    exact hnone
  have hhangs : hangsOn? schema.fields f.key = (attachment? schema.fields f).map Prod.snd := by
    rw [hangsOn?, hf, Option.bind_some]
  rw [choicesOf]
  cases hb : f.immediateBinding? with
  | some b =>
    rw [attachment?_eq_none_of_immediate hb] at hhangs
    rw [hb] at hopened
    rw [hstay (by rw [hhangs]; rfl), hopened]
  | none =>
    rw [hb] at hopened
    cases hp : attachment? schema.fields f with
    | none =>
      rw [hp] at hhangs
      rw [hstay (by rw [hhangs]; rfl), hopened]
    | some a =>
      obtain ⟨b, parent⟩ := a
      rw [hp] at hhangs
      simp only
      cases hv : assigned? assignments parent with
      | none => rw [hstay (by rw [hhangs]; exact hv), hopened]
      | some v =>
        have hset := FormEngine.state?_settle_patch_of_set (steady_opened s schema)
          (ends_opened s schema) hf hp ((lookup_sortMembers assignments parent).trans hv)
        rw [service_opened, ofResult_outcome] at hset
        exact hset

end Rounds

/-! ### The report -/

section Inspect

variable {s : Settings} {schema : Schema} {assignments : List Assignment}

theorem control?_opened_isNone (s : Settings) (schema : Schema) (k : String) :
    ((opened s schema).form.control? k).isNone = (withKey? schema.fields k).isNone := by
  have halive : ((opened s schema).form.control? k).isSome = (withKey? schema.fields k).isSome :=
    (steady_opened s schema).isAlive_eq k
  rw [← Option.not_isSome, halive, Option.not_isSome]

theorem unknownKey?_eq (s : Settings) (schema : Schema) (assignments : List Assignment) :
    unknownKey? (opened s schema).form assignments =
      (assignments.find? fun a => (withKey? schema.fields a.key).isNone).map Assignment.key := by
  rw [unknownKey?]
  simp only [control?_opened_isNone]

theorem inspect_of_known (hfields : Acyclic schema.fields)
    (hknown : ∀ a ∈ assignments, (withKey? schema.fields a.key).isSome) :
    inspect s schema assignments = .ok (foretold s schema assignments) := by
  have hnone : (assignments.find? fun a => (withKey? schema.fields a.key).isNone) = none :=
    List.find?_eq_none.mpr fun a ha => by simpa using Option.isSome_iff_ne_none.mp (hknown a ha)
  rw [inspect_eq, unknownKey?_eq, hnone]
  exact congrArg Except.ok (ofForm_eq (steady_filled s schema assignments)
    (value?_filled hfields) (fun g hg => state?_filled hg) schema.title)

/-- There is a report only if all values are assigned to fields. -/
theorem known_of_inspect {r : FormReport} (h : inspect s schema assignments = .ok r) :
    ∀ a ∈ assignments, (withKey? schema.fields a.key).isSome := by
  intro a ha
  rw [inspect_eq, unknownKey?_eq] at h
  cases hfind : assignments.find? fun a => (withKey? schema.fields a.key).isNone with
  | some b => rw [hfind] at h; cases h
  | none =>
    have hsome := List.find?_eq_none.mp hfind a ha
    simpa [Option.isSome_iff_ne_none] using hsome

/-- Nothing that is foretold is being loaded. -/
theorem not_loading_choicesOf (c : Catalog) (fields : List FieldSpec)
    (assignments : List Assignment) (f : FieldSpec) :
    (choicesOf c fields assignments f).isLoading = false ∧
      (choicesOf c fields assignments f).phase ≠ .loading := by
  have hloaded : ∀ b dependency, (loaded c b dependency).isLoading = false ∧
      (loaded c b dependency).phase ≠ .loading := by
    intro b dependency
    rw [loaded]
    cases c.records? b.endpoint <;> exact ⟨rfl, LoadPhase.noConfusion⟩
  have hidle : ∀ choices, (LoadState.ofChoices choices).isLoading = false ∧
      (LoadState.ofChoices choices).phase ≠ .loading := fun _ => ⟨rfl, LoadPhase.noConfusion⟩
  rw [choicesOf]
  split
  · exact hloaded ..
  · exact hidle _
  · split
    · split
      · exact hidle []
      · exact hloaded ..
    · exact hidle _

theorem foretold_of_perm (s : Settings) (schema : Schema)
    {assignments assignments' : List Assignment} (hperm : assignments'.Perm assignments)
    (hkeys : (assignments.map Assignment.key).Nodup) :
    foretold s schema assignments' = foretold s schema assignments := by
  have hassigned := assigned?_of_perm hperm hkeys
  have hvalue : valueOf schema.fields assignments' = valueOf schema.fields assignments := by
    funext f
    rw [valueOf, valueOf, hassigned]
  have hchoices : choicesOf s.catalog schema.fields assignments' =
      choicesOf s.catalog schema.fields assignments := by
    funext f
    rw [choicesOf, choicesOf, hassigned]
  rw [foretold, hvalue, hchoices, foretold]

/-- **The report on a form is a function of its inputs**, where fields do not hang on each
other in a circle. If all values are assigned to fields of the form, there is a report, and
it is the one that is foretold field by field; if some are not, the first of these is what is
complained about instead. No field is reported to be loading. Assignments to different keys
make the same report in any order. -/
theorem inspect_closed_form (s : Settings) {schema : Schema} (hfields : Acyclic schema.fields)
    (assignments : List Assignment) :
    ((∀ a ∈ assignments, (withKey? schema.fields a.key).isSome) →
        inspect s schema assignments = .ok (foretold s schema assignments)) ∧
      (∀ before a after, assignments = before ++ a :: after →
        (∀ a' ∈ before, (withKey? schema.fields a'.key).isSome) →
        withKey? schema.fields a.key = none →
        inspect s schema assignments = .error (.form (.unknownControl a.key))) ∧
      (∀ r, inspect s schema assignments = .ok r →
        ∀ e ∈ r.fields, e.2.isLoading = false ∧ e.2.phase ≠ .loading) ∧
      (∀ r assignments', inspect s schema assignments = .ok r →
        (assignments.map Assignment.key).Nodup → assignments'.Perm assignments →
        inspect s schema assignments' = .ok r) := by
  refine ⟨inspect_of_known hfields, ?unknown, ?loading, ?order⟩
  case unknown =>
    rintro before a after rfl hbefore ha
    have hfind : (before ++ a :: after).find? (fun a => (withKey? schema.fields a.key).isNone) =
        some a := by
      rw [List.find?_append, List.find?_eq_none.mpr, Option.none_or, List.find?_cons, ha]
      · rfl
      · intro a' ha'
        simpa using Option.isSome_iff_ne_none.mp (hbefore a' ha')
    rw [inspect_eq, unknownKey?_eq, hfind]
    rfl
  case loading =>
    intro r hr e he
    rw [inspect_of_known hfields (known_of_inspect hr)] at hr
    obtain rfl := Except.ok.inj hr
    obtain ⟨f, -, rfl⟩ := List.mem_map.mp (List.mem_filter.mp he).1
    exact not_loading_choicesOf ..
  case order =>
    intro r assignments' hr hkeys hperm
    have hknown := known_of_inspect hr
    rw [inspect_of_known hfields hknown] at hr
    rw [inspect_of_known hfields fun a ha => hknown a (hperm.mem_iff.mp ha),
      foretold_of_perm s schema hperm hkeys]
    exact hr

/-- A town is assigned together with its country. It keeps its value and has the towns of
the country for choices; the street has lost its value, and there are no streets to load. -/
theorem inspect_closed_form_address :
    let town (label value parent : String) : Json := .object
      [("label", .string label), ("value", .string value), ("parent", .string parent)]
    let s : Settings :=
      { catalogs := [⟨"towns", [town "Oslo" "osl" "NO", town "Rome" "rom" "IT"]⟩] }
    let schema : Schema :=
      { title := "Address", rows := [⟨FormEngine.addressFields.map fun f => ⟨none, some f⟩⟩] }
    Acyclic schema.fields ∧
      inspect s schema [⟨"town", .string "osl"⟩, ⟨"country", .string "NO"⟩] = .ok
        { title := "Address"
          value := [("street", .null), ("town", .string "osl"), ("country", .string "NO")]
          isValid := true
          errors := []
          fields := [("street", ⟨false, [], .failed⟩),
            ("town", ⟨false, [{ label := "Oslo", value := .text "osl" }], .loaded⟩)] } := by
  intro town s schema
  have hfields : Acyclic schema.fields := FormEngine.acyclic_addressFields
  have hknown : ∀ a ∈ ([⟨"town", .string "osl"⟩, ⟨"country", .string "NO"⟩] : List Assignment),
      (withKey? schema.fields a.key).isSome := by
    intro a ha
    rcases List.mem_cons.mp ha with rfl | ha
    · rfl
    · rw [List.mem_singleton.mp ha]
      rfl
  exact ⟨hfields, ((inspect_closed_form s hfields _).1 hknown).trans rfl⟩

end Inspect

end Report

end SmartForm
