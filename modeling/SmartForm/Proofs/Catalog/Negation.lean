import Mathlib.Data.List.Sort
import Mathlib.Logic.Basic
import SmartForm.Catalog.Basic

/-!
# A filter and its negation

A filter and the same filter with the condition turned round part the records between
them (`SmartForm.Catalog.search_negated`). A record may be in the catalog more than once,
so this is said of the records with their places (`SmartForm.Catalog.found`), of which a
search answers the records alone (`SmartForm.Catalog.search_eq_found`).

The one thing to know is that a search asks each record on its own, and asks every filter
for a yes or a no (`SmartForm.Catalog.passes_eq_not`). There is no third answer: a record
without a text to compare misses the filter, and so it is on the negated side
(`SmartForm.Catalog.passes_of_lacksText`).
-/

namespace SmartForm

/-- Whether a record has nothing to compare under a name: no member, or one that is
`null`, a list or an object. -/
def Json.LacksText (record : Json) (name : String) : Prop :=
  match record.member? name with
  | none | some .null | some (.array _) | some (.object _) => True
  | some (.string _) | some (.number _) | some (.bool _) => False

theorem Json.LacksText.scalarText?_eq_none {record : Json} {name : String}
    (h : record.LacksText name) : (record.member? name).bind Json.scalarText? = none := by
  unfold Json.LacksText at h
  split at h
  case h_1 hmember => rw [hmember]; rfl
  case h_2 hmember => rw [hmember]; rfl
  case h_3 hmember => rw [hmember]; rfl
  case h_4 hmember => rw [hmember]; rfl
  all_goals exact h.elim

namespace Catalog

/-! ### Records with their places -/

/-- Records with the places they have in a list, in the order of the list. -/
abbrev Placed := List (Json × ℕ)

/-- The records that all filters let through, each with its place among all records. -/
def found (records : List Json) (filters : List Filter) : Placed :=
  records.zipIdx.filter fun r => filters.all fun f => passes f r.1

/-- Two lists of records in one, the record with the smaller place first. -/
def mergeByPlace (left right : Placed) : Placed :=
  left.merge right fun a b => a.2 ≤ b.2

/-- **Two lists part a third one** between them. -/
structure Parts (whole left right : Placed) : Prop where
  /-- Each record is in exactly one of the two. -/
  exactlyOne : ∀ r ∈ whole, Xor (r ∈ left) (r ∈ right)
  /-- The one has its records in the order of the whole. -/
  left_sublist : left.Sublist whole
  /-- So has the other. -/
  right_sublist : right.Sublist whole
  /-- Merged by their places, they are the whole. -/
  merge : mergeByPlace left right = whole

section Found

variable {records : List Json} {fs gs : List Filter} {f : Filter}

/-- The places go up along the records that are found. -/
theorem pairwise_found : (found records fs).Pairwise fun a b => a.2 < b.2 := by
  have hall : records.zipIdx.Pairwise fun a b => a.2 < b.2 := by
    rw [← List.pairwise_map, List.zipIdx_map_snd]
    exact List.pairwise_lt_range'
  exact hall.filter _

/-- A search answers the records that are found, without their places. -/
theorem search_eq_found {c : Catalog} {endpoint : String}
    (hrecords : c.records? endpoint = some records) (fs : List Filter) :
    c.search endpoint fs = .success ((found records fs).map Prod.fst) := by
  have hplaces : (found records fs).map Prod.fst =
      (records.zipIdx.map Prod.fst).filter fun r => fs.all fun f => passes f r := by
    rw [List.filter_map]
    rfl
  rw [hplaces, List.zipIdx_map_fst, search, hrecords]

/-- Which filters there are is all that counts, not their order nor how often each is
there. -/
theorem found_congr (h : ∀ f, f ∈ gs ↔ f ∈ fs) : found records gs = found records fs := by
  refine List.filter_congr fun r _ => Bool.eq_iff_iff.mpr ?_
  simp only [List.all_eq_true, h]

/-- One more filter asks once more, of the records that were found. -/
theorem found_append_singleton :
    found records (fs ++ [f]) = (found records fs).filter fun r => passes f r.1 := by
  rw [found, found, List.filter_filter]
  refine List.filter_congr fun r _ => ?_
  rw [List.all_append, List.all_cons, List.all_nil, Bool.and_true, Bool.and_comm]

end Found

/-! ### A question with a yes or a no -/

/-- Merged by their places, the records that are asked for and the rest are the whole
again. -/
theorem mergeByPlace_filter {l : Placed} (hl : l.Pairwise fun a b => a.2 < b.2)
    (p : Json × ℕ → Bool) : mergeByPlace (l.filter p) (l.filter fun r => !p r) = l := by
  have hle : l.Pairwise fun a b => decide (a.2 ≤ b.2) = true :=
    hl.imp fun h => decide_eq_true h.le
  have hmerge : (mergeByPlace (l.filter p) (l.filter fun r => !p r)).Pairwise
      fun a b => decide (a.2 ≤ b.2) = true := by
    refine List.pairwise_merge (fun a b c hab hbc => ?_) (fun a b => ?_) _ _
      (hle.filter _) (hle.filter _)
    · exact decide_eq_true ((of_decide_eq_true hab).trans (of_decide_eq_true hbc))
    · simpa using Nat.le_total a.2 b.2
  have hperm : (mergeByPlace (l.filter p) (l.filter fun r => !p r)).Perm l :=
    (List.merge_perm_append _).trans (List.filter_append_perm p l)
  -- A place is taken once, so the order by place leaves no choice.
  refine hperm.eq_of_pairwise (fun a b ha hb hab hba => ?_) hmerge hle
  have hplace : a.2 = b.2 := le_antisymm (of_decide_eq_true hab) (of_decide_eq_true hba)
  have hdistinct : (l.map Prod.snd).Nodup := List.pairwise_map.mpr (hl.imp Nat.ne_of_lt)
  exact List.inj_on_of_nodup_map hdistinct (hperm.mem_iff.mp ha) hb hplace

/-- The records that are asked for and the rest part the whole. -/
theorem parts_filter {l : Placed} (hl : l.Pairwise fun a b => a.2 < b.2)
    {p q : Json × ℕ → Bool} (hpq : ∀ r, q r = !p r) : Parts l (l.filter p) (l.filter q) := by
  obtain rfl : q = fun r => !p r := funext hpq
  refine ⟨fun r hr => ?_, List.filter_sublist, List.filter_sublist, mergeByPlace_filter hl p⟩
  cases hp : p r with
  | true => exact Or.inl ⟨List.mem_filter.mpr ⟨hr, hp⟩, by simp [List.mem_filter, hp]⟩
  | false =>
    exact Or.inr ⟨List.mem_filter.mpr ⟨hr, by rw [hp]; rfl⟩, by simp [List.mem_filter, hp]⟩

/-! ### The two sides of a filter -/

section Negated

variable {f : Filter} {condition : Condition}

theorem isNegated_eq_not (hturned : f.condition = .and ↔ condition ≠ .and) :
    condition.isNegated = !f.condition.isNegated := by
  cases hf : f.condition <;> cases condition <;> simp_all [Condition.isNegated]

/-- A filter with the condition turned round lets through what the filter does not. -/
theorem passes_eq_not (hturned : f.condition = .and ↔ condition ≠ .and) (record : Json) :
    passes { f with condition } record = !passes f record := by
  have hhits : hits { f with condition } record = hits f record := rfl
  simp only [passes, hhits, isNegated_eq_not hturned]
  cases f.condition.isNegated <;> simp

/-- A record without a text is let through by the negated filters only. -/
theorem passes_of_lacksText {record : Json} (h : record.LacksText f.parameter) :
    passes f record = f.condition.isNegated := by
  have hmiss : hits f record = false := by rw [hits, h.scalarText?_eq_none]
  rw [passes, hmiss]
  cases f.condition.isNegated <;> rfl

/-- **Negation parts the records.** Let a filter be added to the filters of a search, and
let it be added with its condition turned round instead. Each record that was found, in
its place, is found by exactly one of the two, both keep the order of the catalog, and
merged by their places they are what was found before. A record without a text to compare
is on the negated side. The order of the filters makes no difference, nor does a filter
that is repeated, and one more filter only takes records away. -/
theorem search_negated {c : Catalog} {endpoint : String} {records : List Json}
    (hrecords : c.records? endpoint = some records) (fs : List Filter) (f : Filter)
    (condition : Condition) (hturned : f.condition = .and ↔ condition ≠ .and) :
    (∀ gs, c.search endpoint gs = .success ((found records gs).map Prod.fst))
      ∧ Parts (found records fs) (found records (fs ++ [f]))
          (found records (fs ++ [{ f with condition }]))
      ∧ (∀ r ∈ found records fs, r.1.LacksText f.parameter →
          ∀ g ∈ [f, { f with condition }],
            (r ∈ found records (fs ++ [g]) ↔ g.condition.isNegated))
      ∧ (∀ gs, (∀ g, g ∈ gs ↔ g ∈ fs) → c.search endpoint gs = c.search endpoint fs)
      ∧ (∀ g, (c.search endpoint (fs ++ [g])).items.Sublist (c.search endpoint fs).items) := by
  refine ⟨search_eq_found hrecords, ?_, fun r hr hlacks g hg => ?_, fun gs hgs => ?_,
    fun g => ?_⟩
  · rw [found_append_singleton, found_append_singleton]
    exact parts_filter pairwise_found fun r => passes_eq_not hturned r.1
  · -- Both filters compare the same member.
    have hmember : g.parameter = f.parameter := by
      rcases List.mem_pair.mp hg with rfl | rfl <;> rfl
    rw [found_append_singleton, List.mem_filter, passes_of_lacksText (hmember ▸ hlacks)]
    exact and_iff_right hr
  · rw [search_eq_found hrecords, search_eq_found hrecords, found_congr hgs]
  · rw [search_eq_found hrecords, search_eq_found hrecords, found_append_singleton]
    exact List.filter_sublist.map _

end Negated

/-- Four places to stay, the first of them twice; for two of them there is nothing to
compare under `zone`. -/
def stays : List Json :=
  [.object [("label", .string "Kerala"), ("zone", .string "South")],
   .object [("label", .string "Goa"), ("zone", .null)],
   .object [("label", .string "Texas")],
   .object [("label", .string "Kerala"), ("zone", .string "South")]]

/-- The southern zone, and all the rest. -/
theorem search_negated_stays :
    (ofList [("stays", stays)]).records? "stays" = some stays
      ∧ found stays [⟨"zone", "Z", .and, .contains, "SOU"⟩] =
          [(.object [("label", .string "Kerala"), ("zone", .string "South")], 0),
           (.object [("label", .string "Kerala"), ("zone", .string "South")], 3)]
      ∧ found stays [⟨"zone", "Z", .andNot, .contains, "SOU"⟩] =
          [(.object [("label", .string "Goa"), ("zone", .null)], 1),
           (.object [("label", .string "Texas")], 2)]
      ∧ mergeByPlace (found stays [⟨"zone", "Z", .and, .contains, "SOU"⟩])
          (found stays [⟨"zone", "Z", .andNot, .contains, "SOU"⟩]) = found stays []
      ∧ (found stays []).map Prod.fst = stays :=
  have hrecords : (ofList [("stays", stays)]).records? "stays" = some stays := by
    simp [ofList, append, records?, insertEntry]
  have hturned : Condition.and = .and ↔ Condition.andNot ≠ .and := by decide
  have h := search_negated hrecords [] ⟨"zone", "Z", .and, .contains, "SOU"⟩ .andNot hturned
  ⟨hrecords, rfl, rfl, h.2.1.merge, rfl⟩

end Catalog

end SmartForm
