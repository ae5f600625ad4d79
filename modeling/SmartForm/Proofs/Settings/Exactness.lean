import SmartForm.Proofs.Settings.Faults

/-!
# Everything that is wrong, and nothing else

The problems of settings are exactly their faults. Every fault that is there is reported, no
other is, none is reported twice, and the reports come in the order of the places of the faults
(`SmartForm.Settings.problems_exact`). So settings have no problems if and only if they are as
they have to be (`SmartForm.Settings.WellFormed`).

The one thing to know about the order is that it can be told from the places alone: what is
found at one entry has the index of the entry in its place, behind what all entries of the list
have there (`SmartForm.Settings.pairwise_flatMap_zipIdx`). Faults of different places are
different, so a walk in order reports none of them twice.
-/

namespace SmartForm

namespace Settings

variable {i k : Nat}

/-! ### Each fault is found -/

section Found

variable {s : Settings} {a : Fault} {x : SearchSource} {j : Nat} {f : SearchField}

theorem mem_flatMap_zipIdx {α : Type} {xs : List α} {g : α × Nat → List Fault} :
    a ∈ xs.zipIdx.flatMap g ↔ ∃ i x, xs[i]? = some x ∧ a ∈ g (x, i) := by
  rw [List.mem_flatMap]
  constructor
  · rintro ⟨⟨x, i⟩, hx, ha⟩
    exact ⟨i, x, List.mem_zipIdx_iff_getElem?.mp hx, ha⟩
  · rintro ⟨i, x, hx, ha⟩
    exact ⟨(x, i), List.mem_zipIdx_iff_getElem?.mpr hx, ha⟩

theorem mem_timeFaults :
    a ∈ s.timeFaults ↔
      a = .debounce ∧ s.debounce = 0 ∨ a = .searchTimeout ∧ s.searchTimeout = some 0 ∨
        a = .loadTimeout ∧ s.loadTimeout = some 0 := by
  rw [timeFaults, List.mem_append, List.mem_append, or_assoc]
  refine or_congr ?_ (or_congr ?_ ?_) <;> split <;> simp [*]

theorem mem_fieldFaults {seen : Option Nat} :
    a ∈ fieldFaults i j f seen ↔
      a = .blankCode i j ∧ Text.isAllBlank f.code ∨
        (∃ k, a = .repeatedCode i k j ∧ Text.isAllBlank f.code = false ∧ seen = some k) ∨
        a = .blankParameter i j ∧ Text.isAllBlank f.parameter := by
  rw [fieldFaults, List.mem_append]
  cases Text.isAllBlank f.code <;> cases Text.isAllBlank f.parameter <;> cases seen <;> simp

theorem mem_ownFaults {seen : Option Nat} :
    a ∈ ownFaults i x seen ↔
      (∃ k, a = .repeatedKey k i ∧ seen = some k) ∨ a = .emptyKey i ∧ x.key = "" ∨
        a = .noFields i ∧ x.fields = [] := by
  rw [ownFaults, List.mem_append, List.mem_append, or_assoc]
  refine or_congr ?_ (or_congr ?_ ?_)
  · cases seen <;> simp
  · by_cases hkey : x.key = "" <;> simp [hkey]
  · by_cases hfields : x.fields = [] <;> simp [hfields]

theorem mem_sourceFaults {seen : Option Nat} :
    a ∈ sourceFaults i x seen ↔
      a ∈ ownFaults i x seen ∨ ∃ j f, x.fields[j]? = some f ∧
        a ∈ fieldFaults i j f (nearestBefore? (codeKeys x.fields) j (codeKey f)) := by
  rw [sourceFaults, walkFields_nothing, List.mem_append, mem_flatMap_zipIdx]

theorem mem_catalogFaults {e : CatalogEntry} :
    a ∈ catalogFaults i e ↔ a = .emptyEndpoint i ∧ e.endpoint = "" := by
  rw [catalogFaults]
  by_cases hendpoint : e.endpoint = "" <;> simp [hendpoint]

theorem mem_walk :
    a ∈ s.walk ↔
      a ∈ s.timeFaults ∨
        (∃ i x, s.sources[i]? = some x ∧ a ∈ sourceFaults i x
          (nearestBefore? (s.sources.map SearchSource.key) i x.key)) ∨
        ∃ i e, s.catalogs[i]? = some e ∧ a ∈ catalogFaults i e := by
  rw [walk, walkSources_nothing, List.mem_append, List.mem_append, or_assoc, mem_flatMap_zipIdx,
    mem_flatMap_zipIdx]

/-- A key that was looked for and found is that of a source. -/
theorem nearestBefore?_keys {key : String} :
    nearestBefore? (s.sources.map SearchSource.key) i key = some k ↔
      IsNearestBefore (fun m => ∃ y, s.sources[m]? = some y ∧ y.key = key) i k := by
  rw [nearestBefore?_eq_some_iff]
  simp only [List.getElem?_map, Option.map_eq_some_iff]

/-- A code that was looked for and found is that of a field, up to case. -/
theorem nearestBefore?_codeKeys (hf : Text.isAllBlank f.code = false) :
    nearestBefore? (codeKeys x.fields) j (codeKey f) = some k ↔
      IsNearestBefore
        (fun m => ∃ g, x.fields[m]? = some g ∧ Text.equalIgnoringCase g.code f.code) j k := by
  have hequal : ∀ g : SearchField,
      (if Text.isAllBlank g.code then "" else codeKey g) = codeKey f ↔
        Text.equalIgnoringCase g.code f.code := by
    intro g
    rw [← Text.map_toUpper_eq_iff]
    cases hg : Text.isAllBlank g.code with
    | true =>
      -- A blank code has no key, and is equal to blank codes only.
      refine iff_of_false (fun h => codeKey_ne_empty hf h.symm) fun h => ?_
      have hblank := Text.isAllBlank_of_equalIgnoringCase (Text.map_toUpper_eq_iff.mp h) hg
      rw [hf] at hblank
      cases hblank
    | false => rw [if_neg Bool.false_ne_true, codeKey, codeKey, String.ofList_inj]
  rw [nearestBefore?_eq_some_iff]
  simp only [codeKeys, List.getElem?_map, Option.map_eq_some_iff, hequal]

theorem has_repeatedCode_iff (hx : s.sources[i]? = some x) :
    s.Has (.repeatedCode i k j) ↔
      ∃ f, x.fields[j]? = some f ∧ Text.isAllBlank f.code = false ∧
        nearestBefore? (codeKeys x.fields) j (codeKey f) = some k := by
  simp only [Has, fieldAt?_eq hx]
  refine exists_congr fun f => and_congr_right fun _ => and_congr_right fun hf => ?_
  exact (nearestBefore?_codeKeys hf).symm

/-- **The walk finds the faults that are there.** -/
theorem mem_walk_iff : a ∈ s.walk ↔ s.Has a := by
  rw [mem_walk]
  simp only [mem_timeFaults, mem_sourceFaults, mem_ownFaults, mem_fieldFaults, mem_catalogFaults]
  cases a with
  | repeatedKey k i => simp [Has, nearestBefore?_keys]
  | repeatedCode i k j =>
    cases hx : s.sources[i]? with
    | none => simp [Has, fieldAt?, hx]
    | some x => rw [has_repeatedCode_iff hx]; simp [hx]
  | blankCode i j => cases hx : s.sources[i]? <;> simp [Has, fieldAt?, hx]
  | blankParameter i j => cases hx : s.sources[i]? <;> simp [Has, fieldAt?, hx]
  | _ => simp [Has]

end Found

/-! ### In the order of their places -/

section Ordered

variable {s : Settings} {a : Fault} {x : SearchSource} {j : Nat} {f : SearchField}

/-- One fault comes before another one. -/
def Fault.Before (a b : Fault) : Prop := a.place < b.place

/-- **Faults of one entry after the other** are in order if those of each entry are, and have
the index of the entry in their places. -/
theorem pairwise_flatMap_zipIdx {α : Type} {xs : List α} {g : α × Nat → List Fault}
    (front : List Nat) (hown : ∀ e, (g e).Pairwise Fault.Before)
    (hplace : ∀ e, ∀ a ∈ g e, ∃ rest, a.place = front ++ e.2 :: rest) :
    (xs.zipIdx.flatMap g).Pairwise Fault.Before := by
  have hindices : xs.zipIdx.Pairwise fun e e' => e.2 < e'.2 := by
    rw [← List.pairwise_map, List.zipIdx_map_snd]
    exact List.pairwise_lt_range' 1
  refine List.pairwise_flatMap.mpr ⟨fun e _ => hown e, hindices.imp fun hlt a ha b hb => ?_⟩
  obtain ⟨rest, ha⟩ := hplace _ a ha
  obtain ⟨rest', hb⟩ := hplace _ b hb
  rw [Fault.Before, ha, hb]
  exact List.append_left_lt (List.cons_lt_cons_iff.mpr (Or.inl hlt))

theorem place_of_mem_timeFaults (ha : a ∈ s.timeFaults) : ∃ rest, a.place = 0 :: rest := by
  rcases mem_timeFaults.mp ha with ⟨rfl, -⟩ | ⟨rfl, -⟩ | ⟨rfl, -⟩ <;> exact ⟨_, rfl⟩

theorem place_of_mem_fieldFaults {seen : Option Nat} (ha : a ∈ fieldFaults i j f seen) :
    ∃ rest, a.place = [1, i, 3] ++ j :: rest := by
  rcases mem_fieldFaults.mp ha with ⟨rfl, -⟩ | ⟨k, rfl, -⟩ | ⟨rfl, -⟩ <;> exact ⟨_, rfl⟩

theorem place_of_mem_ownFaults {seen : Option Nat} (ha : a ∈ ownFaults i x seen) :
    ∃ n < 3, a.place = [1, i, n] := by
  rcases mem_ownFaults.mp ha with ⟨k, rfl, -⟩ | ⟨rfl, -⟩ | ⟨rfl, -⟩ <;>
    exact ⟨_, by decide, rfl⟩

theorem place_of_mem_sourceFaults {seen : Option Nat} (ha : a ∈ sourceFaults i x seen) :
    ∃ rest, a.place = [1] ++ i :: rest := by
  rcases mem_sourceFaults.mp ha with ha | ⟨j, f, -, ha⟩
  · obtain ⟨n, -, hn⟩ := place_of_mem_ownFaults ha
    exact ⟨[n], hn⟩
  · obtain ⟨rest, hrest⟩ := place_of_mem_fieldFaults ha
    exact ⟨3 :: j :: rest, hrest⟩

theorem place_of_mem_catalogFaults {e : CatalogEntry} (ha : a ∈ catalogFaults i e) :
    ∃ rest, a.place = [2] ++ i :: rest :=
  ⟨[], (mem_catalogFaults.mp ha).1 ▸ rfl⟩

theorem pairwise_timeFaults (s : Settings) : s.timeFaults.Pairwise Fault.Before := by
  rw [timeFaults]
  split <;> split <;> split <;> simp [Fault.Before, Fault.place, List.cons_lt_cons_iff]

theorem pairwise_fieldFaults (i j : Nat) (f : SearchField) (seen : Option Nat) :
    (fieldFaults i j f seen).Pairwise Fault.Before := by
  rw [fieldFaults]
  split <;> split <;> cases seen <;> simp [Fault.Before, Fault.place, List.cons_lt_cons_iff]

theorem pairwise_ownFaults (i : Nat) (x : SearchSource) (seen : Option Nat) :
    (ownFaults i x seen).Pairwise Fault.Before := by
  rw [ownFaults]
  split <;> split <;> cases seen <;> simp [Fault.Before, Fault.place, List.cons_lt_cons_iff]

theorem pairwise_catalogFaults (i : Nat) (e : CatalogEntry) :
    (catalogFaults i e).Pairwise Fault.Before := by
  rw [catalogFaults]
  split <;> simp

/-- What is wrong with a source itself comes before what is wrong with its fields. -/
theorem pairwise_sourceFaults (i : Nat) (x : SearchSource) (seen : Option Nat) :
    (sourceFaults i x seen).Pairwise Fault.Before := by
  rw [sourceFaults, walkFields_nothing]
  refine List.pairwise_append.mpr ⟨pairwise_ownFaults i x seen, ?_, fun a ha b hb => ?_⟩
  · exact pairwise_flatMap_zipIdx [1, i, 3] (fun _ => pairwise_fieldFaults ..)
      fun _ _ ha => place_of_mem_fieldFaults ha
  · obtain ⟨n, hn, hplace⟩ := place_of_mem_ownFaults ha
    obtain ⟨j, f, -, hb⟩ := mem_flatMap_zipIdx.mp hb
    obtain ⟨rest, hrest⟩ := place_of_mem_fieldFaults hb
    rw [Fault.Before, hplace, hrest]
    simp [List.cons_lt_cons_iff, hn]

theorem Fault.before_of_lt {a b : Fault} {m n : Nat} {rest rest' : List Nat}
    (ha : a.place = m :: rest) (hb : b.place = n :: rest') (h : m < n) : a.Before b := by
  rw [Before, ha, hb]
  exact List.cons_lt_cons_iff.mpr (Or.inl h)

/-- **The walk finds faults in the order of their places.** -/
theorem pairwise_walk (s : Settings) : s.walk.Pairwise Fault.Before := by
  rw [walk, walkSources_nothing]
  refine List.pairwise_append.mpr ⟨List.pairwise_append.mpr ⟨pairwise_timeFaults s, ?_, ?_⟩, ?_, ?_⟩
  · exact pairwise_flatMap_zipIdx [1] (fun _ => pairwise_sourceFaults ..)
      fun _ _ ha => place_of_mem_sourceFaults ha
  · intro a ha b hb
    obtain ⟨i, x, -, hb⟩ := mem_flatMap_zipIdx.mp hb
    obtain ⟨rest, hrest⟩ := place_of_mem_timeFaults ha
    obtain ⟨rest', hrest'⟩ := place_of_mem_sourceFaults hb
    exact Fault.before_of_lt hrest hrest' (by decide)
  · exact pairwise_flatMap_zipIdx [2] (fun _ => pairwise_catalogFaults ..)
      fun _ _ ha => place_of_mem_catalogFaults ha
  · intro a ha b hb
    obtain ⟨i, e, -, hb⟩ := mem_flatMap_zipIdx.mp hb
    obtain ⟨rest', hrest'⟩ := place_of_mem_catalogFaults hb
    rcases List.mem_append.mp ha with ha | ha
    · obtain ⟨rest, hrest⟩ := place_of_mem_timeFaults ha
      exact Fault.before_of_lt hrest hrest' (by decide)
    · obtain ⟨i, x, -, ha⟩ := mem_flatMap_zipIdx.mp ha
      obtain ⟨rest, hrest⟩ := place_of_mem_sourceFaults ha
      exact Fault.before_of_lt hrest hrest' (by decide)

end Ordered

/-! ### Settings as they have to be -/

/-- **Settings as they have to be.** -/
structure WellFormed (s : Settings) : Prop where
  /-- A search waits for further input. -/
  debounce : s.debounce ≠ 0
  /-- A search may take some time. -/
  searchTimeout : s.searchTimeout ≠ some 0
  /-- A load may take some time. -/
  loadTimeout : s.loadTimeout ≠ some 0
  /-- Every source has a key. -/
  key : ∀ x ∈ s.sources, x.key ≠ ""
  /-- No two sources have one key. -/
  keys : s.sources.Pairwise fun x y => x.key ≠ y.key
  /-- Every source has a field to be searched. -/
  fields : ∀ x ∈ s.sources, x.fields ≠ []
  /-- Every field has a code. -/
  code : ∀ x ∈ s.sources, ∀ f ∈ x.fields, Text.isAllBlank f.code = false
  /-- No two fields of a source have one code, the case of letters being ignored. -/
  codes : ∀ x ∈ s.sources, x.fields.Pairwise fun f g => ¬ Text.equalIgnoringCase f.code g.code
  /-- Every field names a member of the records. -/
  parameter : ∀ x ∈ s.sources, ∀ f ∈ x.fields, Text.isAllBlank f.parameter = false
  /-- Every catalog has an endpoint. -/
  endpoint : ∀ e ∈ s.catalogs, e.endpoint ≠ ""

theorem rel_of_pairwise {α : Type} {R : α → α → Prop} {xs : List α} (h : xs.Pairwise R)
    (hki : k < i) {x y : α} (hy : xs[k]? = some y) (hx : xs[i]? = some x) : R y x := by
  obtain ⟨hk, rfl⟩ := List.getElem?_eq_some_iff.mp hy
  obtain ⟨hi, rfl⟩ := List.getElem?_eq_some_iff.mp hx
  exact List.pairwise_iff_getElem.mp h k i hk hi hki

theorem fieldAt?_eq_some {s : Settings} {j : Nat} {f : SearchField} :
    s.fieldAt? i j = some f ↔ ∃ x, s.sources[i]? = some x ∧ x.fields[j]? = some f :=
  Option.bind_eq_some_iff

theorem WellFormed.not_has {s : Settings} (h : s.WellFormed) (a : Fault) : ¬ s.Has a := by
  intro ha
  cases a with
  | debounce => exact h.debounce ha
  | searchTimeout => exact h.searchTimeout ha
  | loadTimeout => exact h.loadTimeout ha
  | repeatedKey k i =>
    obtain ⟨x, hx, hk⟩ := ha
    obtain ⟨y, hy, hkey⟩ := hk.holds
    exact rel_of_pairwise h.keys hk.lt hy hx hkey
  | emptyKey i =>
    obtain ⟨x, hx, hkey⟩ := ha
    exact h.key x (List.mem_of_getElem? hx) hkey
  | noFields i =>
    obtain ⟨x, hx, hfields⟩ := ha
    exact h.fields x (List.mem_of_getElem? hx) hfields
  | blankCode i j =>
    obtain ⟨f, hf, hblank⟩ := ha
    obtain ⟨x, hx, hf⟩ := fieldAt?_eq_some.mp hf
    rw [h.code x (List.mem_of_getElem? hx) f (List.mem_of_getElem? hf)] at hblank
    cases hblank
  | repeatedCode i k j =>
    obtain ⟨f, hf, -, hk⟩ := ha
    obtain ⟨x, hx, hf⟩ := fieldAt?_eq_some.mp hf
    obtain ⟨g, hg, hequal⟩ := hk.holds
    rw [fieldAt?_eq hx] at hg
    exact rel_of_pairwise (h.codes x (List.mem_of_getElem? hx)) hk.lt hg hf hequal
  | blankParameter i j =>
    obtain ⟨f, hf, hblank⟩ := ha
    obtain ⟨x, hx, hf⟩ := fieldAt?_eq_some.mp hf
    rw [h.parameter x (List.mem_of_getElem? hx) f (List.mem_of_getElem? hf)] at hblank
    cases hblank
  | emptyEndpoint i =>
    obtain ⟨e, he, hendpoint⟩ := ha
    exact h.endpoint e (List.mem_of_getElem? he) hendpoint

theorem wellFormed_of_not_has {s : Settings} (h : ∀ a, ¬ s.Has a) : s.WellFormed := by
  have hat : ∀ x ∈ s.sources, ∃ i, s.sources[i]? = some x := fun x => List.mem_iff_getElem?.mp
  have hfield : ∀ x ∈ s.sources, ∀ f ∈ x.fields, ∃ i j, s.fieldAt? i j = some f := by
    intro x hx f hf
    obtain ⟨i, hi⟩ := hat x hx
    obtain ⟨j, hj⟩ := List.mem_iff_getElem?.mp hf
    exact ⟨i, j, fieldAt?_eq_some.mpr ⟨x, hi, hj⟩⟩
  have hcode : ∀ x ∈ s.sources, ∀ f ∈ x.fields, Text.isAllBlank f.code = false := by
    intro x hx f hf
    obtain ⟨i, j, hij⟩ := hfield x hx f hf
    exact Bool.not_eq_true _ ▸ fun hblank => h (.blankCode i j) ⟨f, hij, hblank⟩
  refine ⟨h .debounce, h .searchTimeout, h .loadTimeout, fun x hx hkey => ?_, ?_,
    fun x hx hfields => ?_, hcode, fun x hx => ?_, fun x hx f hf => ?_, fun e he hendpoint => ?_⟩
  · obtain ⟨i, hi⟩ := hat x hx
    exact h (.emptyKey i) ⟨x, hi, hkey⟩
  · rw [List.pairwise_iff_getElem]
    intro m i hm hi hlt hkey
    -- A source that repeats any other one repeats a nearest one.
    obtain ⟨k, hk⟩ := exists_isNearestBefore (i := i)
      (P := fun m => ∃ y, s.sources[m]? = some y ∧ y.key = s.sources[i].key) hlt
      ⟨_, List.getElem?_eq_getElem hm, hkey⟩
    exact h (.repeatedKey k i) ⟨_, List.getElem?_eq_getElem hi, hk⟩
  · obtain ⟨i, hi⟩ := hat x hx
    exact h (.noFields i) ⟨x, hi, hfields⟩
  · obtain ⟨i, hi⟩ := hat x hx
    rw [List.pairwise_iff_getElem]
    intro m j hm hj hlt hequal
    have hf : s.fieldAt? i j = some x.fields[j] :=
      fieldAt?_eq_some.mpr ⟨x, hi, List.getElem?_eq_getElem hj⟩
    obtain ⟨k, hk⟩ := exists_isNearestBefore (i := j)
      (P := fun m => ∃ g, s.fieldAt? i m = some g ∧
        Text.equalIgnoringCase g.code x.fields[j].code) hlt
      ⟨_, fieldAt?_eq_some.mpr ⟨x, hi, List.getElem?_eq_getElem hm⟩, hequal⟩
    exact h (.repeatedCode i k j) ⟨_, hf, hcode x hx _ (List.getElem_mem hj), hk⟩
  · obtain ⟨i, j, hij⟩ := hfield x hx f hf
    exact Bool.not_eq_true _ ▸ fun hblank => h (.blankParameter i j) ⟨f, hij, hblank⟩
  · obtain ⟨i, hi⟩ := List.mem_iff_getElem?.mp he
    exact h (.emptyEndpoint i) ⟨e, hi, hendpoint⟩

/-- **The problems of settings are their faults.** Settings have no problems if and only if they
are as they have to be. Otherwise each fault that is there is reported once and no other is, in
the order of the places of the faults. In particular a source whose key occurred before is
reported once, against the nearest such source before it, and so is a field whose code is not
blank and occurred before. -/
theorem problems_exact (s : Settings) :
    (s.problems = [] ↔ s.WellFormed) ∧
      (s.problems = s.walk.map (Fault.problem s) ∧ s.walk.Pairwise Fault.Before ∧
        ∀ a, a ∈ s.walk ↔ s.Has a) ∧
      (∀ i x, s.sources[i]? = some x → (∃ m < i, ∃ y, s.sources[m]? = some y ∧ y.key = x.key) →
        ∃! k, .repeatedKey k i ∈ s.walk) ∧
      ∀ i j f, s.fieldAt? i j = some f → Text.isAllBlank f.code = false →
        (∃ m < j, ∃ g, s.fieldAt? i m = some g ∧ Text.equalIgnoringCase g.code f.code) →
        ∃! k, .repeatedCode i k j ∈ s.walk := by
  have hfaults : s.problems = [] ↔ ∀ a, ¬ s.Has a := by
    rw [problems_eq_map_walk, List.map_eq_nil_iff, List.eq_nil_iff_forall_not_mem]
    exact forall_congr' fun a => not_congr mem_walk_iff
  refine ⟨hfaults.trans ⟨wellFormed_of_not_has, WellFormed.not_has⟩,
    ⟨problems_eq_map_walk s, pairwise_walk s, fun _ => mem_walk_iff⟩, ?keys, ?codes⟩ <;>
    simp only [mem_walk_iff]
  case keys =>
    rintro i x hx ⟨m, hm, hy⟩
    obtain ⟨k, hk⟩ := exists_isNearestBefore
      (P := fun m => ∃ y, s.sources[m]? = some y ∧ y.key = x.key) hm hy
    refine ⟨k, ⟨x, hx, hk⟩, fun k' hk' => ?_⟩
    obtain ⟨x', hx', hk'⟩ := hk'
    obtain rfl : x = x' := Option.some.inj (hx.symm.trans hx')
    exact hk'.unique hk
  case codes =>
    rintro i j f hf hblank ⟨m, hm, hg⟩
    obtain ⟨k, hk⟩ := exists_isNearestBefore
      (P := fun m => ∃ g, s.fieldAt? i m = some g ∧ Text.equalIgnoringCase g.code f.code) hm hg
    refine ⟨k, ⟨f, hf, hblank, hk⟩, fun k' hk' => ?_⟩
    obtain ⟨f', hf', -, hk'⟩ := hk'
    obtain rfl : f = f' := Option.some.inj (hf.symm.trans hf')
    exact hk'.unique hk

/-- A source whose fields have one code three times, in two cases, and a blank one. -/
def thriceSource : SearchSource where
  key := "towns"
  endpoint := "towns"
  fields :=
    [{ code := "On", parameter := "name" }, { code := " ", parameter := "" },
     { code := "oN", parameter := "mayor" }, { code := "ON", parameter := "zip" }]

/-- Settings with three sources of one key. -/
def thriceSettings : Settings where
  debounce := 0
  sources := [thriceSource, { thriceSource with fields := [] }, { thriceSource with fields := [] }]

/-- Each repetition is reported against the one before it, not against the first. -/
theorem problems_exact_thrice :
    thriceSettings.walk =
        [.debounce, .blankCode 0 1, .blankParameter 0 1, .repeatedCode 0 0 2, .repeatedCode 0 2 3,
         .repeatedKey 0 1, .noFields 1, .repeatedKey 1 2, .noFields 2] ∧
      thriceSettings.problems = thriceSettings.walk.map (Fault.problem thriceSettings) ∧
      (∃! k, .repeatedKey k 2 ∈ thriceSettings.walk) ∧
      ∃! k, .repeatedCode 0 k 3 ∈ thriceSettings.walk := by
  have hexact := problems_exact thriceSettings
  refine ⟨by decide, hexact.2.1.1, hexact.2.2.1 2 _ rfl ⟨0, by decide, _, rfl, rfl⟩, ?_⟩
  exact hexact.2.2.2 0 3 _ rfl (by decide) ⟨0, by decide, _, rfl, by decide⟩

end Settings

end SmartForm
