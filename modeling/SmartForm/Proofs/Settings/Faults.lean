import Mathlib.Data.List.Basic
import SmartForm.Proofs.Text.Words
import SmartForm.Settings.Problems

/-!
# Faults of settings

A **fault** (`SmartForm.Settings.Fault`) is a rule that settings break at one place. What it
takes for a fault to be there is said rule by rule (`SmartForm.Settings.Has`), and so is the
wording of the problem that reports it (`SmartForm.Settings.Fault.problem`).

The faults are found on one walk (`SmartForm.Settings.walk`) with two tables, one of the keys of
the sources and one of the codes of a source. A table has the index at which an entry was seen
*last*: an entry that comes again takes the place of the one before. The one thing to know is
that the table is at all times what looking back would find
(`SmartForm.Settings.nearestBefore?_succ`), so an entry is reported against the nearest one
before it, however often it comes. The problems of settings are what the walk finds
(`SmartForm.Settings.problems_eq_map_walk`).
-/

namespace SmartForm

namespace Settings

/-! ### Looking back -/

/-- The greatest index below `i` with a property. -/
structure IsNearestBefore (P : Nat → Prop) (i k : Nat) : Prop where
  /-- It comes before. -/
  lt : k < i
  /-- It has the property. -/
  holds : P k
  /-- None in between has it. -/
  last : ∀ m, k < m → m < i → ¬ P m

theorem IsNearestBefore.unique {P : Nat → Prop} {i k k' : Nat} (h : IsNearestBefore P i k)
    (h' : IsNearestBefore P i k') : k = k' := by
  rcases Nat.lt_trichotomy k k' with hlt | heq | hgt
  · exact absurd h'.holds (h.last k' hlt h'.lt)
  · exact heq
  · exact absurd h.holds (h'.last k hgt h.lt)

theorem not_isNearestBefore_zero {P : Nat → Prop} {k : Nat} : ¬ IsNearestBefore P 0 k :=
  fun h => Nat.not_lt_zero k h.lt

/-- From one index further on, the nearest one is the index itself or the one before. -/
theorem isNearestBefore_succ {P : Nat → Prop} {i k : Nat} :
    IsNearestBefore P (i + 1) k ↔ P i ∧ i = k ∨ ¬ P i ∧ IsNearestBefore P i k := by
  constructor
  · intro h
    rcases Nat.lt_succ_iff_lt_or_eq.mp h.lt with hlt | rfl
    · exact Or.inr ⟨h.last i hlt (Nat.lt_succ_self i), hlt, h.holds,
        fun m hkm hm => h.last m hkm (Nat.lt_succ_of_lt hm)⟩
    · exact Or.inl ⟨h.holds, rfl⟩
  · rintro (⟨hi, rfl⟩ | ⟨hi, h⟩)
    · exact ⟨Nat.lt_succ_self i, hi, fun m hlt hle => by omega⟩
    · refine ⟨Nat.lt_succ_of_lt h.lt, h.holds, fun m hkm hm => ?_⟩
      rcases Nat.lt_succ_iff_lt_or_eq.mp hm with hm | rfl
      · exact h.last m hkm hm
      · exact hi

/-- If there is one before, then there is a nearest one. -/
theorem exists_isNearestBefore {P : Nat → Prop} {i m : Nat} (hm : m < i) (hP : P m) :
    ∃ k, IsNearestBefore P i k := by
  induction i with
  | zero => exact absurd hm (Nat.not_lt_zero m)
  | succ i ih =>
    by_cases hi : P i
    · exact ⟨i, isNearestBefore_succ.mpr (Or.inl ⟨hi, rfl⟩)⟩
    · rcases Nat.lt_succ_iff_lt_or_eq.mp hm with hm | rfl
      · obtain ⟨k, hk⟩ := ih hm
        exact ⟨k, isNearestBefore_succ.mpr (Or.inr ⟨hi, hk⟩)⟩
      · exact absurd hP hi

variable {ks : List String} {i k : Nat} {key : String}

/-- **Looking back from one index further on**: the entry at the index takes the place of what
was found before, if it is the one that is looked for. -/
theorem nearestBefore?_succ (ks : List String) (i : Nat) (key : String) :
    nearestBefore? ks (i + 1) key =
      if ks[i]? = some key then some i else nearestBefore? ks i key := by
  rw [nearestBefore?, List.range_succ, List.reverse_append, List.reverse_singleton,
    List.singleton_append, List.find?_cons]
  by_cases h : ks[i]? = some key
  · simp [h]
  · simp [h, nearestBefore?]

theorem nearestBefore?_eq_some_iff :
    nearestBefore? ks i key = some k ↔ IsNearestBefore (fun m => ks[m]? = some key) i k := by
  induction i with
  | zero => exact iff_of_false (fun h => by cases h) not_isNearestBefore_zero
  | succ i ih =>
    rw [nearestBefore?_succ, isNearestBefore_succ, ← ih]
    by_cases hi : ks[i]? = some key <;> simp [hi]

/-! ### Faults -/

/-- A rule that settings break. Sources, fields and catalogs are known by their indices. -/
inductive Fault where
  /-- The quiet time is zero. -/
  | debounce
  /-- The longest time of a search is zero. -/
  | searchTimeout
  /-- The longest time of a load is zero. -/
  | loadTimeout
  /-- The source at `i` has the key of the one at `k`. -/
  | repeatedKey (k i : Nat)
  /-- The source at `i` has no key. -/
  | emptyKey (i : Nat)
  /-- The source at `i` has no fields. -/
  | noFields (i : Nat)
  /-- The field at `j` of the source at `i` has no code. -/
  | blankCode (i j : Nat)
  /-- The field at `j` of the source at `i` has the code of the one at `k`. -/
  | repeatedCode (i k j : Nat)
  /-- The field at `j` of the source at `i` names no member of a record. -/
  | blankParameter (i j : Nat)
  /-- The catalog at `i` has no endpoint. -/
  | emptyEndpoint (i : Nat)
deriving DecidableEq, Repr

/-- Where a fault is: among the times, the sources or the catalogs, then at which index, then
at which of the things that are looked at there. Places are compared from the front. -/
def Fault.place : Fault → List Nat
  | debounce => [0, 0]
  | searchTimeout => [0, 1]
  | loadTimeout => [0, 2]
  | repeatedKey _ i => [1, i, 0]
  | emptyKey i => [1, i, 1]
  | noFields i => [1, i, 2]
  | blankCode i j => [1, i, 3, j, 0]
  | repeatedCode i _ j => [1, i, 3, j, 0]
  | blankParameter i j => [1, i, 3, j, 1]
  | emptyEndpoint i => [2, i]

/-- The field at `j` of the source at `i`. -/
def fieldAt? (s : Settings) (i j : Nat) : Option SearchField :=
  s.sources[i]?.bind fun x => x.fields[j]?

/-- **What it takes for a fault to be there.** An entry that repeats others is at fault once,
against the nearest one before it. Codes are compared with the case of letters ignored, and a
code of blanks is at fault for being blank only. -/
def Has (s : Settings) : Fault → Prop
  | .debounce => s.debounce = 0
  | .searchTimeout => s.searchTimeout = some 0
  | .loadTimeout => s.loadTimeout = some 0
  | .repeatedKey k i => ∃ x, s.sources[i]? = some x ∧
      IsNearestBefore (fun m => ∃ y, s.sources[m]? = some y ∧ y.key = x.key) i k
  | .emptyKey i => ∃ x, s.sources[i]? = some x ∧ x.key = ""
  | .noFields i => ∃ x, s.sources[i]? = some x ∧ x.fields = []
  | .blankCode i j => ∃ f, s.fieldAt? i j = some f ∧ Text.isAllBlank f.code
  | .repeatedCode i k j => ∃ f, s.fieldAt? i j = some f ∧ Text.isAllBlank f.code = false ∧
      IsNearestBefore
        (fun m => ∃ g, s.fieldAt? i m = some g ∧ Text.equalIgnoringCase g.code f.code) j k
  | .blankParameter i j => ∃ f, s.fieldAt? i j = some f ∧ Text.isAllBlank f.parameter
  | .emptyEndpoint i => ∃ e, s.catalogs[i]? = some e ∧ e.endpoint = ""

/-- The key of the source at an index. -/
def keyAt (s : Settings) (i : Nat) : String := (s.sources[i]?.map SearchSource.key).getD ""

/-- The code of a field of a source. -/
def codeAt (s : Settings) (i j : Nat) : String := ((s.fieldAt? i j).map SearchField.code).getD ""

/-- **The problem that reports a fault.** -/
def Fault.problem (s : Settings) : Fault → SettingsProblem
  | debounce => .invalid "search.debounce_ms" "Debounce must be greater than 0"
  | searchTimeout => .invalid "search.timeout_ms" "Timeout must be greater than 0 when set"
  | loadTimeout => .invalid "options.timeout_ms" "Timeout must be greater than 0 when set"
  | repeatedKey k i => .duplicate ("Source key '" ++ s.keyAt i ++ "' " ++ atIndices k i)
  | emptyKey i => .missing (indexed "sources" i ++ ".key")
  | noFields i =>
    .invalid (indexed "sources" i ++ ".fields")
      ("Source '" ++ s.keyAt i ++ "' declares no search fields")
  | blankCode i j => .missing (indexed (indexed "sources" i ++ ".fields") j ++ ".code")
  | repeatedCode i k j =>
    .duplicate ("Field code '" ++ s.codeAt i j ++ "' in source '" ++ s.keyAt i ++ "' "
      ++ atIndices k j)
  | blankParameter i j =>
    .missing (indexed (indexed "sources" i ++ ".fields") j ++ ".parameterName")
  | emptyEndpoint i => .missing (indexed "catalogs" i ++ ".endpoint")

/-! ### One walk -/

/-- The index at which each key was seen last. -/
abbrev LastSeen := String → Option Nat

/-- Nothing has been seen. -/
def LastSeen.nothing : LastSeen := fun _ => none

/-- A key is seen again, or for the first time. -/
def LastSeen.enter (seen : LastSeen) (key : String) (i : Nat) : LastSeen :=
  fun k => if k = key then some i else seen k

/-- The faults of the times. -/
def timeFaults (s : Settings) : List Fault :=
  (if s.debounce = 0 then [.debounce] else [])
    ++ (if s.searchTimeout = some 0 then [.searchTimeout] else [])
    ++ if s.loadTimeout = some 0 then [.loadTimeout] else []

/-- The faults of a field whose code was seen last at the given index. -/
def fieldFaults (i j : Nat) (f : SearchField) (seen : Option Nat) : List Fault :=
  (if Text.isAllBlank f.code then [.blankCode i j]
    else (seen.map fun k => .repeatedCode i k j).toList)
    ++ if Text.isAllBlank f.parameter then [.blankParameter i j] else []

/-- The faults of the fields from index `j` on. A code of blanks is not entered. -/
def walkFields (i : Nat) : LastSeen → Nat → List SearchField → List Fault
  | _, _, [] => []
  | seen, j, f :: fs =>
    fieldFaults i j f (seen (codeKey f)) ++
      walkFields i (if Text.isAllBlank f.code then seen else seen.enter (codeKey f) j) (j + 1) fs

/-- The faults of a source itself, whose key was seen last at the given index. -/
def ownFaults (i : Nat) (x : SearchSource) (seen : Option Nat) : List Fault :=
  (seen.map fun k => .repeatedKey k i).toList
    ++ (if x.key.isEmpty then [.emptyKey i] else [])
    ++ if x.fields.isEmpty then [.noFields i] else []

/-- The faults of a source and those of its fields. -/
def sourceFaults (i : Nat) (x : SearchSource) (seen : Option Nat) : List Fault :=
  ownFaults i x seen ++ walkFields i .nothing 0 x.fields

/-- The faults of the sources from index `i` on. -/
def walkSources : LastSeen → Nat → List SearchSource → List Fault
  | _, _, [] => []
  | seen, i, x :: xs =>
    sourceFaults i x (seen x.key) ++ walkSources (seen.enter x.key i) (i + 1) xs

/-- The faults of a catalog. -/
def catalogFaults (i : Nat) (e : CatalogEntry) : List Fault :=
  if e.endpoint.isEmpty then [.emptyEndpoint i] else []

/-- **The faults of settings**, found on one walk. -/
def walk (s : Settings) : List Fault :=
  s.timeFaults ++ walkSources .nothing 0 s.sources
    ++ s.catalogs.zipIdx.flatMap fun (e, i) => catalogFaults i e

/-! #### What the tables are worth -/

theorem enter_eq_nearestBefore? {seen : LastSeen} (hseen : seen key = nearestBefore? ks i key)
    {k : String} (hi : ks[i]? = some k) :
    seen.enter k i key = nearestBefore? ks (i + 1) key := by
  rw [LastSeen.enter, nearestBefore?_succ, hi, hseen]
  simp only [Option.some.injEq, eq_comm (a := key)]

theorem codeKey_ne_empty {f : SearchField} (h : Text.isAllBlank f.code = false) :
    codeKey f ≠ "" := by
  intro hkey
  rw [codeKey, String.ofList_eq_empty_iff, List.map_eq_nil_iff] at hkey
  rw [Text.isAllBlank, hkey] at h
  cases h

/-- **Fields are looked at against the nearest one before them.** -/
theorem walkFields_eq (i : Nat) {fields : List SearchField} {j : Nat} {seen : LastSeen}
    (hks : ks.drop j = codeKeys fields)
    (hseen : ∀ key, key ≠ "" → seen key = nearestBefore? ks j key) :
    walkFields i seen j fields = (fields.zipIdx j).flatMap fun (f, j) =>
      fieldFaults i j f (nearestBefore? ks j (codeKey f)) := by
  induction fields generalizing j seen with
  | nil => rfl
  | cons f fields ih =>
    have hrest : ks.drop (j + 1) = codeKeys fields := by
      rw [← List.drop_drop, hks]
      rfl
    have hentry : ks[j]? = some (if Text.isAllBlank f.code then "" else codeKey f) := by
      rw [← List.head?_drop, hks]
      rfl
    rw [walkFields, List.zipIdx_cons, List.flatMap_cons]
    congr 1
    · -- The table does not matter where the code is blank.
      cases hblank : Text.isAllBlank f.code with
      | true => simp [fieldFaults, hblank]
      | false => rw [hseen _ (codeKey_ne_empty hblank)]
    · refine ih hrest fun key hkey => ?_
      cases hblank : Text.isAllBlank f.code with
      | true =>
        rw [hblank, if_pos rfl] at hentry
        rw [if_pos rfl, hseen key hkey, nearestBefore?_succ, hentry,
          if_neg fun h => hkey (Option.some.inj h).symm]
      | false =>
        rw [hblank, if_neg Bool.false_ne_true] at hentry
        rw [if_neg Bool.false_ne_true]
        exact enter_eq_nearestBefore? (hseen key hkey) hentry

/-- **Sources are looked at against the nearest one before them.** -/
theorem walkSources_eq {sources : List SearchSource} {i : Nat} {seen : LastSeen}
    (hks : ks.drop i = sources.map SearchSource.key)
    (hseen : ∀ key, seen key = nearestBefore? ks i key) :
    walkSources seen i sources = (sources.zipIdx i).flatMap fun (x, i) =>
      sourceFaults i x (nearestBefore? ks i x.key) := by
  induction sources generalizing i seen with
  | nil => rfl
  | cons x sources ih =>
    have hrest : ks.drop (i + 1) = sources.map SearchSource.key := by
      rw [← List.drop_drop, hks]
      rfl
    have hentry : ks[i]? = some x.key := by
      rw [← List.head?_drop, hks]
      rfl
    rw [walkSources, List.zipIdx_cons, List.flatMap_cons, hseen]
    congr 1
    exact ih hrest fun key => enter_eq_nearestBefore? (hseen key) hentry

theorem walkFields_nothing (i : Nat) (x : SearchSource) :
    walkFields i .nothing 0 x.fields = x.fields.zipIdx.flatMap fun (f, j) =>
      fieldFaults i j f (nearestBefore? (codeKeys x.fields) j (codeKey f)) :=
  walkFields_eq i rfl fun _ _ => rfl

theorem walkSources_nothing (s : Settings) :
    walkSources .nothing 0 s.sources = s.sources.zipIdx.flatMap fun (x, i) =>
      sourceFaults i x (nearestBefore? (s.sources.map SearchSource.key) i x.key) :=
  walkSources_eq rfl fun _ => rfl

/-! ### Each fault is reported -/

section Reported

variable {s : Settings} {x : SearchSource} {j : Nat} {f : SearchField}

theorem keyAt_eq (hx : s.sources[i]? = some x) : s.keyAt i = x.key := by
  rw [keyAt, hx]
  rfl

theorem fieldAt?_eq (hx : s.sources[i]? = some x) (j : Nat) : s.fieldAt? i j = x.fields[j]? := by
  rw [fieldAt?, hx, Option.bind_some]

theorem codeAt_eq (hf : s.fieldAt? i j = some f) : s.codeAt i j = f.code := by
  rw [codeAt, hf]
  rfl

theorem map_timeFaults (s : Settings) : s.timeFaults.map (Fault.problem s) = s.timeProblems := by
  rw [timeFaults, timeProblems, timeoutProblems, timeoutProblems, List.map_append,
    List.map_append]
  congr 1
  · congr 1
    · split <;> rfl
    · split <;> rfl
  · split <;> rfl

theorem map_fieldFaults (hx : s.sources[i]? = some x) (hf : x.fields[j]? = some f) :
    (fieldFaults i j f (nearestBefore? (codeKeys x.fields) j (codeKey f))).map (Fault.problem s) =
      fieldProblems i x f j := by
  have hcode : s.codeAt i j = f.code := codeAt_eq ((fieldAt?_eq hx j).trans hf)
  rw [fieldFaults, fieldProblems, List.map_append]
  congr 1
  · cases Text.isAllBlank f.code with
    | true => rfl
    | false =>
      cases nearestBefore? (codeKeys x.fields) j (codeKey f) with
      | none => rfl
      | some k => simp [Fault.problem, hcode, keyAt_eq hx]
  · cases Text.isAllBlank f.parameter <;> rfl

theorem map_sourceFaults (hx : s.sources[i]? = some x) (keys : List String) :
    (sourceFaults i x (nearestBefore? keys i x.key)).map (Fault.problem s) =
      sourceProblems keys x i := by
  rw [sourceFaults, ownFaults, sourceProblems, walkFields_nothing, List.map_append,
    List.map_append, List.map_append, List.map_flatMap]
  congr 1
  · congr 1
    · congr 1
      · cases nearestBefore? keys i x.key with
        | none => rfl
        | some k => simp [Fault.problem, keyAt_eq hx]
      · cases x.key.isEmpty <;> rfl
    · cases x.fields.isEmpty with
      | true => simp [Fault.problem, keyAt_eq hx]
      | false => rfl
  · exact List.flatMap_congr fun e he => map_fieldFaults hx (List.mem_zipIdx_iff_getElem?.mp he)

/-- **The problems of settings are what the walk finds.** -/
theorem problems_eq_map_walk (s : Settings) : s.problems = s.walk.map (Fault.problem s) := by
  rw [problems, walk, walkSources_nothing, List.map_append, List.map_append, map_timeFaults,
    List.map_flatMap, List.map_flatMap]
  congr 1
  · congr 1
    exact (List.flatMap_congr fun e he =>
      map_sourceFaults (List.mem_zipIdx_iff_getElem?.mp he) _).symm
  · refine List.flatMap_congr fun e _ => ?_
    simp only [catalogProblems, catalogFaults]
    cases e.1.endpoint.isEmpty <;> rfl

end Reported

end Settings

end SmartForm
