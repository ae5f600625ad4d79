import Mathlib.Data.List.Induction
import Mathlib.Data.String.Basic
import SmartForm.Proofs.Loading.Store
import SmartForm.Settings.Basic

/-!
# Catalogs made of entries

A catalog is made by adding the records of one entry after the other. An endpoint that is
named by several entries has their records one after the other, and an endpoint that is
named by none is not in the catalog (`SmartForm.Catalog.records?_ofList`).

The one thing to know is that the endpoints stay in order. An endpoint is looked for only
up to the first one that is greater, so records that are there already would be missed in
a list that is not sorted (`SmartForm.Catalog.lookup_insertEntry`).
-/

namespace SmartForm

namespace Catalog

/-- Entries whose endpoints are sorted and different. -/
def InOrder (entries : List (String × List Json)) : Prop :=
  entries.Pairwise fun a b => a.1 < b.1

variable {join : List Json → List Json} {endpoint : String}
  {entries : List (String × List Json)}

/-- Nothing is added but the endpoint that is named. -/
theorem fst_mem_insertEntry {e : String × List Json}
    (he : e ∈ insertEntry join endpoint entries) :
    e.1 = endpoint ∨ ∃ x ∈ entries, e.1 = x.1 := by
  induction entries with
  | nil =>
    obtain rfl := List.mem_singleton.mp he
    exact Or.inl rfl
  | cons x entries ih =>
    obtain ⟨n, records⟩ := x
    rw [insertEntry] at he
    split at he
    · rcases List.mem_cons.mp he with rfl | he
      · exact Or.inr ⟨_, List.mem_cons_self, rfl⟩
      · exact Or.inr ⟨e, List.mem_cons_of_mem _ he, rfl⟩
    · split at he
      · rcases List.mem_cons.mp he with rfl | he
        · exact Or.inl rfl
        · exact Or.inr ⟨e, he, rfl⟩
      · rcases List.mem_cons.mp he with rfl | he
        · exact Or.inr ⟨_, List.mem_cons_self, rfl⟩
        · rcases ih he with h | ⟨x, hx, h⟩
          · exact Or.inl h
          · exact Or.inr ⟨x, List.mem_cons_of_mem _ hx, h⟩

theorem InOrder.insertEntry (h : InOrder entries) (join : List Json → List Json)
    (endpoint : String) : InOrder (insertEntry join endpoint entries) := by
  induction entries with
  | nil => exact List.pairwise_singleton ..
  | cons x entries ih =>
    obtain ⟨n, records⟩ := x
    obtain ⟨hx, hrest⟩ := List.pairwise_cons.mp h
    rw [Catalog.insertEntry]
    split
    · exact List.pairwise_cons.mpr ⟨hx, hrest⟩
    · next hne =>
      split
      · next hlt =>
        refine List.pairwise_cons.mpr ⟨fun e he => ?_, h⟩
        rcases List.mem_cons.mp he with rfl | he
        · exact hlt
        · exact hlt.trans (hx e he)
      · next hnot =>
        -- The endpoint goes further down, behind `n`.
        have hlt : n < endpoint := lt_of_le_of_ne (not_lt.mp hnot) (Ne.symm hne)
        refine List.pairwise_cons.mpr ⟨fun e he => ?_, ih hrest⟩
        rcases fst_mem_insertEntry he with h | ⟨x, hx', h⟩
        · exact hlt.trans_eq h.symm
        · exact (hx x hx').trans_eq h.symm

/-- Adding to an endpoint joins the new records to those that are there, and leaves all
other endpoints alone. -/
theorem lookup_insertEntry (h : InOrder entries) (join : List Json → List Json)
    (endpoint e : String) :
    (insertEntry join endpoint entries).lookup e =
      if e = endpoint then some (join ((entries.lookup e).getD [])) else entries.lookup e := by
  induction entries with
  | nil => rw [insertEntry, lookup_cons_pair]; rfl
  | cons x entries ih =>
    obtain ⟨n, records⟩ := x
    obtain ⟨hx, hrest⟩ := List.pairwise_cons.mp h
    rw [insertEntry]
    by_cases hn : endpoint = n
    · subst hn
      rw [if_pos rfl, lookup_cons_pair, lookup_cons_pair]
      by_cases he : e = endpoint <;> simp [he]
    · rw [if_neg hn]
      by_cases hlt : endpoint < n
      · -- All endpoints from here on are greater, so the one that is named is new.
        have hnew : ((n, records) :: entries).lookup endpoint = none := by
          refine lookup_eq_none_of_not_mem fun hmem => ?_
          obtain ⟨y, hy, rfl⟩ := List.mem_map.mp hmem
          rcases List.mem_cons.mp hy with rfl | hy
          · exact hn rfl
          · exact lt_asymm hlt (hx y hy)
        rw [if_pos hlt, lookup_cons_pair]
        by_cases he : e = endpoint
        · rw [he, hnew]
          rfl
        · simp [he]
      · rw [if_neg hlt, lookup_cons_pair, ih hrest, lookup_cons_pair]
        by_cases he : e = endpoint
        · simp [he, hn]
        · simp [he]

/-! ### Many entries -/

/-- The records of an endpoint in some entries, one entry after the other. -/
def recordsOf (entries : List (String × List Json)) (endpoint : String) : List Json :=
  (entries.filter fun e => e.1 = endpoint).flatMap Prod.snd

theorem inOrder_foldl_append (entries : List (String × List Json)) {c : Catalog}
    (hc : InOrder c.entries) :
    InOrder (entries.foldl (fun c e => c.append e.1 e.2) c).entries := by
  induction entries generalizing c with
  | nil => exact hc
  | cons e entries ih => exact ih (hc.insertEntry _ _)

/-- **The records of an endpoint** in a catalog that is made of entries. -/
theorem records?_ofList (entries : List (String × List Json)) (endpoint : String) :
    (ofList entries).records? endpoint =
      if endpoint ∈ entries.map Prod.fst then some (recordsOf entries endpoint) else none := by
  -- From the end: the last entry adds its records behind those of all others.
  induction entries using List.reverseRecOn with
  | nil => rfl
  | append_singleton entries e ih =>
    have horder : InOrder (ofList entries).entries :=
      inOrder_foldl_append entries List.Pairwise.nil
    have hlast : (ofList (entries ++ [e])).records? endpoint =
        (insertEntry (· ++ e.2) e.1 (ofList entries).entries).lookup endpoint := by
      rw [ofList, List.foldl_append]
      rfl
    rw [records?] at ih
    rw [hlast, lookup_insertEntry horder, ih, recordsOf, recordsOf, List.filter_append,
      List.flatMap_append, List.map_append]
    by_cases he : endpoint = e.1
    · subst he
      by_cases hmem : e.1 ∈ entries.map Prod.fst
      · simp [hmem]
      · -- There were no records before this entry.
        have hnone : entries.filter (fun x => x.1 = e.1) = [] := by
          refine List.filter_eq_nil_iff.mpr fun x hx h => hmem ?_
          exact List.mem_map.mpr ⟨x, hx, by simpa using h⟩
        simp [hmem, hnone]
    · have hmem : endpoint ∈ entries.map Prod.fst ++ [e].map Prod.fst ↔
          endpoint ∈ entries.map Prod.fst := by simp [he]
      have hnone : [e].filter (fun x => x.1 = endpoint) = [] := by simp [Ne.symm he]
      rw [if_neg he, hnone, List.flatMap_nil, List.append_nil]
      simp only [hmem]

end Catalog

namespace Settings

/-- The records of an endpoint in the settings, one entry after the other. -/
def recordsAt (s : Settings) (endpoint : String) : List Json :=
  (s.catalogs.filter fun e => e.endpoint = endpoint).flatMap CatalogEntry.records

/-- **The catalog of the settings** has the records of all entries for an endpoint, and
knows an endpoint only if there is an entry for it. -/
theorem records?_catalog (s : Settings) (endpoint : String) :
    s.catalog.records? endpoint =
      if ∃ e ∈ s.catalogs, e.endpoint = endpoint then some (s.recordsAt endpoint) else none := by
  have hmem : endpoint ∈ (s.catalogs.map fun e => (e.endpoint, e.records)).map Prod.fst ↔
      ∃ e ∈ s.catalogs, e.endpoint = endpoint := by
    simp [List.mem_map]
  have hrecords : Catalog.recordsOf (s.catalogs.map fun e => (e.endpoint, e.records)) endpoint =
      s.recordsAt endpoint := by
    rw [Catalog.recordsOf, recordsAt, List.filter_map, List.flatMap_map]
    rfl
  rw [catalog, Catalog.records?_ofList, hrecords]
  simp only [hmem]

end Settings

end SmartForm
