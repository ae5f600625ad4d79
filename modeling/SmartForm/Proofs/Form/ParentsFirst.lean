import SmartForm.Proofs.Form.Order

/-!
# What is written first

The fields of every form are written in an order of which this much is certain
(`SmartForm.FieldSpec.ParentsFirst`): each field is written once, a field on no circle is
written behind its parent, and the fields of one depth stay in the order of the form.

The one thing to know is that nothing is asked of the form. Fields may hang on each other in
circles, or wait for themselves, or for a field that is not there. The walk from a field
upwards ends all the same: it starts with the field itself met, and each of its steps is to a
field that it has not met, so it makes fewer steps than there are keys.
-/

namespace SmartForm

namespace FieldSpec

variable {fields : List FieldSpec} {c p : String}

/-! ### The length of the walk -/

/-- The fields above are other fields of the form. -/
theorem depth_lt (hc : c ∈ fields.map FieldSpec.key) :
    depth fields c < (fields.map FieldSpec.key).toFinset.card := by
  rw [depth_eq_card]
  calc ((ancestors fields c).erase c).card
      ≤ ((fields.map FieldSpec.key).toFinset.erase c).card :=
        Finset.card_le_card (Finset.erase_subset_erase c (ancestors_subset fields c))
    _ < (fields.map FieldSpec.key).toFinset.card :=
        Finset.card_erase_lt_of_mem (List.mem_toFinset.mpr hc)

/-- The walk makes no step if and only if there is no parent but the field itself. -/
theorem depth_eq_zero_iff :
    depth fields c = 0 ↔ ∀ p, knownParent? fields c = some p → p = c := by
  constructor
  · intro hzero p hparent
    cases hzero ▸ climbs_depth fields c with
    | top hend => exact List.mem_singleton.mp (hend p hparent)
  · intro h
    have htop : Climbs fields [c] c 0 :=
      .top fun p hparent => List.mem_singleton.mpr (h p hparent)
    exact (climbs_depth fields c).unique htop

/-- Only the fields that count are above a field. -/
theorem depth_firsts (fields : List FieldSpec) : depth (firsts fields) = depth fields := by
  funext key
  have hsame : ancestors (firsts fields) key = ancestors fields key := by
    ext a
    rw [mem_ancestors, mem_ancestors, hangs_firsts]
  rw [depth_eq_card, depth_eq_card, hsame]

/-! ### Before and behind -/

/-- What is deeper is written behind. -/
theorem pair_sublist_of_depth_lt (hp : p ∈ applyOrder fields) (hc : c ∈ applyOrder fields)
    (hlt : depth fields p < depth fields c) : [p, c].Sublist (applyOrder fields) := by
  have hne : c ≠ p := fun h => (h ▸ hlt).false
  refine (pair_sublist_or hp hc hne).resolve_right fun hback => ?_
  have hle := List.pairwise_pair.mp ((pairwise_applyOrder fields).sublist hback)
  omega

/-- The fields of one depth stay in the order of the form, all of them together. -/
theorem filter_applyOrder (fields : List FieldSpec) (d : Nat) :
    (applyOrder fields).filter (fun k => depth fields k = d) =
      (fields.map FieldSpec.key).filter (fun k => depth fields k = d) := by
  have hsorted : ((fields.map FieldSpec.key).filter fun k => depth fields k = d).Pairwise
      fun a b => decide (depth fields a ≤ depth fields b) = true := by
    refine List.pairwise_of_forall_mem_list fun a ha b hb => ?_
    have ha := (List.mem_filter.mp ha).2
    have hb := (List.mem_filter.mp hb).2
    simp only [decide_eq_true_eq] at ha hb ⊢
    omega
  have hsub := List.sublist_mergeSort (depth_le_trans fields) (depth_le_total fields) hsorted
    List.filter_sublist
  have hfilter := hsub.filter fun k => depth fields k = d
  simp only [List.filter_filter, Bool.and_self] at hfilter
  exact (hfilter.eq_of_length ((applyOrder_perm fields).filter _).length_eq.symm).symm

/-- **What is certain of the order of writing**, whatever hangs on what. -/
structure ParentsFirst (fields : List FieldSpec) (f : Form) : Prop where
  /-- The walk upwards from a field ends, and depth is the number of its steps. -/
  ends : ∀ key n, Climbs fields [key] key n ↔ n = depth fields key
  /-- It makes fewer steps than there are different keys, -/
  short : ∀ key ∈ fields.map FieldSpec.key,
    depth fields key < (fields.map FieldSpec.key).toFinset.card
  /-- and none if and only if there is no known parent but the field itself. -/
  none : ∀ key, depth fields key = 0 ↔ ∀ p, knownParent? fields key = some p → p = key
  /-- The fields that are written are those of the form, -/
  perm : f.applyOrder.Perm f.keys
  /-- each of them once. -/
  nodup : f.applyOrder.Nodup
  /-- A field on no circle is written behind its parent, be that on a circle or not. -/
  behind : ∀ c p, knownParent? fields c = some p → p ≠ c → ¬ OnCircle fields c →
    [p, c].Sublist f.applyOrder
  /-- The fields of one depth are written in the order of the form. -/
  stable : ∀ d, f.applyOrder.filter (fun k => depth fields k = d) =
    f.keys.filter (fun k => depth fields k = d)

/-- **Parents come first** in every form, as far as there are no circles. -/
theorem build_parentsFirst (fields : List FieldSpec) : ParentsFirst fields (Form.build fields) where
  ends := fun key n =>
    ⟨fun h => h.unique (climbs_depth fields key), fun h => h ▸ climbs_depth fields key⟩
  short := fun _ hkey => depth_lt hkey
  none := fun _ => depth_eq_zero_iff
  perm := applyOrder_perm (firsts fields)
  nodup := nodup_applyOrder_firsts fields
  behind := fun c p hparent hne hc => by
    have hhangs : Hangs fields c p := hangs_iff_knownParent?.mpr ⟨hparent, hne⟩
    have hdepth := depth_of_not_onCircle hc hhangs
    have hp := mem_applyOrder_firsts.mpr (known_of_hangsOn? hhangs)
    have hchild := mem_applyOrder_firsts.mpr (known_child_of_hangsOn? hhangs)
    exact pair_sublist_of_depth_lt hp hchild (by rw [depth_firsts]; omega)
  stable := fun d => by
    have hstable := filter_applyOrder (firsts fields) d
    rwa [depth_firsts] at hstable

/-- The town is on no circle, so its country is written first although that is on one. -/
theorem build_parentsFirst_town :
    knownParent? circleFields "town" = some "country" ∧ ¬ OnCircle circleFields "town" ∧
      OnCircle circleFields "country" ∧
      ["country", "town"].Sublist (Form.build circleFields).applyOrder :=
  ⟨rfl, not_onCircle_town, overtaken_country.1,
    (build_parentsFirst circleFields).behind "town" "country" rfl (by decide) not_onCircle_town⟩

end FieldSpec

end SmartForm
