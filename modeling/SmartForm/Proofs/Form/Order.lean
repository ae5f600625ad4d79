import Mathlib.Data.Finset.Card
import Mathlib.Logic.Relation
import SmartForm.Proofs.Form.Run

/-!
# Parents come before their children

Values that are written together are written in the order of depth, and depth is found by
a walk from a field upwards that is guarded twice: it keeps the keys that it has met, and
it has fuel. The keys that are kept make the walk end where fields hang on each other in a
circle, which nothing keeps them from, and so the fuel is no part of it: the walk ends without
(`SmartForm.FieldSpec.Climbs`), after as many steps (`SmartForm.FieldSpec.climbs_depth`). So
depth is the number of other fields that a field hangs on, be it by way of others
(`SmartForm.FieldSpec.depth_eq_card`).

The one thing to know is what this makes of the order of writing. A field on no circle is one
deeper than its parent, whether or not the parent is on one
(`SmartForm.FieldSpec.depth_of_not_onCircle`), and so is written behind it. The fields of a
circle all have one depth (`SmartForm.FieldSpec.depth_of_onCircle`), and stay in the order of
the form. So a field is written before its parent only if it is **overtaken**
(`SmartForm.FieldSpec.Overtaken`). In a form without circles no field is; of every circle at
least the first field is (`SmartForm.FieldSpec.acyclic_iff`).
-/

namespace SmartForm

namespace FieldSpec

/-- A field hangs on another one. -/
def Hangs (fields : List FieldSpec) (c p : String) : Prop := hangsOn? fields c = some p

/-- A field hangs on itself by way of others. -/
def OnCircle (fields : List FieldSpec) (k : String) : Prop :=
  Relation.TransGen (Hangs fields) k k

/-- No field hangs on itself by way of others. -/
def Acyclic (fields : List FieldSpec) : Prop := ∀ k, ¬ Relation.TransGen (Hangs fields) k k

variable {fields : List FieldSpec} {c p : String}

/-- A field hangs on its parent if that is a field of the form and another one. -/
theorem hangsOn?_eq_filter (fields : List FieldSpec) (key : String) :
    hangsOn? fields key = (knownParent? fields key).filter fun p => p ≠ key := by
  rw [hangsOn?, knownParent?]
  cases h : withKey? fields key with
  | none => rfl
  | some f =>
    rw [Option.bind_some, Option.bind_some, attachment?, parent?, key_of_withKey? h]
    cases f.dependentBinding? with
    | none => rfl
    | some a =>
      simp only [Option.map_some, Option.filter_some]
      by_cases hp : a.2 = key <;> cases hk : (withKey? fields a.2).isSome <;>
        simp [Option.filter_some, hp]

theorem hangs_iff_knownParent? :
    Hangs fields c p ↔ knownParent? fields c = some p ∧ p ≠ c := by
  rw [Hangs, hangsOn?_eq_filter, Option.filter_eq_some_iff, decide_eq_true_eq]

/-- A field that hangs on another one is there, and its choices wait for the other one. -/
theorem exists_mem_of_hangs (h : Hangs fields c p) :
    ∃ f ∈ fields, f.key = c ∧ f.parent? = some p := by
  obtain ⟨hbind, -⟩ := Option.filter_eq_some_iff.mp (hangs_iff_knownParent?.mp h).1
  obtain ⟨f, hf, hp⟩ := Option.bind_eq_some_iff.mp hbind
  exact ⟨f, mem_of_withKey? hf, key_of_withKey? hf, hp⟩

/-- What hangs on what is a matter of the fields that count. -/
theorem hangsOn?_congr {gs : List FieldSpec} (h : ∀ k, withKey? gs k = withKey? fields k) :
    hangsOn? gs = hangsOn? fields := by
  funext key
  have hattach : attachment? gs = attachment? fields := by
    funext f
    rw [attachment?, attachment?]
    simp only [h]
  rw [hangsOn?, hangsOn?, h, hattach]

@[simp] theorem hangsOn?_firsts (fields : List FieldSpec) :
    hangsOn? (firsts fields) = hangsOn? fields := hangsOn?_congr (withKey?_firsts fields)

@[simp] theorem hangs_firsts (fields : List FieldSpec) : Hangs (firsts fields) = Hangs fields := by
  funext c p
  rw [Hangs, hangsOn?_firsts, Hangs]

theorem Acyclic.congr (hfields : Acyclic fields) {gs : List FieldSpec}
    (h : ∀ k, withKey? gs k = withKey? fields k) : Acyclic gs := by
  have hsame : Hangs gs = Hangs fields := by
    funext c p
    rw [Hangs, hangsOn?_congr h, Hangs]
  rw [Acyclic, hsame]
  exact hfields

/-- Fields that all hang on fields of a lower rank do not hang on each other in a
circle. -/
theorem acyclic_of_rank (rank : String → Nat)
    (hrank : ∀ c p, Hangs fields c p → rank p < rank c) : Acyclic fields := by
  have hdown : ∀ {a b}, Relation.TransGen (Hangs fields) a b → rank b < rank a := by
    intro a b h
    induction h with
    | single h => exact hrank _ _ h
    | tail _ h ih => exact (hrank _ _ h).trans ih
  exact fun k h => (hdown h).false

/-! ### Up the chain -/

theorem hangs_unique {q : String} (h : Hangs fields c p) (h' : Hangs fields c q) : p = q :=
  Option.some.inj (h.symm.trans h')

/-- Above a field there are its parent and what is above that. -/
theorem transGen_iff_of_hangs (h : Hangs fields c p) {a : String} :
    Relation.TransGen (Hangs fields) c a ↔ a = p ∨ Relation.TransGen (Hangs fields) p a := by
  rw [Relation.TransGen.head'_iff, ← Relation.reflTransGen_iff_eq_or_transGen]
  constructor
  · rintro ⟨q, hq, hrest⟩
    rwa [hangs_unique h hq]
  · exact fun hrest => ⟨p, h, hrest⟩

theorem known_of_transGen {a : String} (h : Relation.TransGen (Hangs fields) c a) :
    (withKey? fields a).isSome := by
  obtain ⟨b, -, hb⟩ := Relation.TransGen.tail'_iff.mp h
  exact known_of_hangsOn? hb

/-- The parent of a field on a circle is on the same circle. -/
theorem OnCircle.parent (hc : OnCircle fields c) (h : Hangs fields c p) :
    Relation.TransGen (Hangs fields) p c ∧ OnCircle fields p := by
  have hpc : Relation.TransGen (Hangs fields) p c := by
    rcases (transGen_iff_of_hangs h).mp hc with rfl | hpc
    · exact hc
    · exact hpc
  exact ⟨hpc, hpc.tail h⟩

theorem OnCircle.of_transGen {k : String} (hk : OnCircle fields k)
    (h : Relation.TransGen (Hangs fields) k c) : OnCircle fields c := by
  induction h with
  | single h => exact (hk.parent h).2
  | tail _ h ih => exact (ih.parent h).2

/-! ### The walk upwards -/

/-- **The walk upwards**: from a field, the keys in `seen` having been met, there are `n` steps
and no further one. -/
inductive Climbs (fields : List FieldSpec) : List String → String → Nat → Prop
  /-- It ends where there is no known parent, or one that it has met. -/
  | top {seen : List String} {key : String} :
    (∀ p, knownParent? fields key = some p → p ∈ seen) → Climbs fields seen key 0
  /-- It goes on to a parent that it has not met. -/
  | up {seen : List String} {key p : String} {n : Nat} :
    knownParent? fields key = some p → p ∉ seen → Climbs fields (p :: seen) p n →
      Climbs fields seen key (n + 1)

/-- Nothing is left to choose on the way. -/
theorem Climbs.unique {seen : List String} {m n : Nat} (hm : Climbs fields seen c m)
    (hn : Climbs fields seen c n) : m = n := by
  induction hm generalizing n with
  | top hend =>
    cases hn with
    | top _ => rfl
    | up hp hnew _ => exact absurd (hend _ hp) hnew
  | up hp hnew _ ih =>
    cases hn with
    | top hend => exact absurd (hend _ hp) hnew
    | up hp' _ hrest =>
      obtain rfl := Option.some.inj (hp.symm.trans hp')
      rw [ih hrest]

/-! ### Depth counts the fields above -/

section Depth

open Classical

/-- The fields that a field hangs on, be it by way of others. -/
noncomputable def ancestors (fields : List FieldSpec) (key : String) : Finset String :=
  (fields.map FieldSpec.key).toFinset.filter fun a => Relation.TransGen (Hangs fields) key a

theorem mem_ancestors {key a : String} :
    a ∈ ancestors fields key ↔ Relation.TransGen (Hangs fields) key a := by
  rw [ancestors, Finset.mem_filter, List.mem_toFinset, ← withKey?_isSome_iff]
  exact ⟨And.right, fun h => ⟨known_of_transGen h, h⟩⟩

theorem ancestors_subset (fields : List FieldSpec) (key : String) :
    ancestors fields key ⊆ (fields.map FieldSpec.key).toFinset := Finset.filter_subset ..

theorem ancestors_of_hangs (h : Hangs fields c p) :
    ancestors fields c = insert p (ancestors fields p) := by
  ext a
  rw [mem_ancestors, Finset.mem_insert, mem_ancestors, transGen_iff_of_hangs h]

/-- A parent that has not been met is one more of the fields above. -/
theorem card_ancestors_of_hangs (h : Hangs fields c p) {seen : List String} (hp : p ∉ seen) :
    (ancestors fields c \ seen.toFinset).card =
      (ancestors fields p \ (p :: seen).toFinset).card + 1 := by
  rw [ancestors_of_hangs h, Finset.insert_sdiff_of_notMem _ (by simpa using hp),
    List.toFinset_cons, Finset.sdiff_insert, ← Finset.erase_insert_eq_erase,
    Finset.card_erase_add_one (Finset.mem_insert_self ..)]

/-- A walk that has met the keys in `seen` has come up to `key`. -/
structure CameBy (fields : List FieldSpec) (seen : List String) (key : String) : Prop where
  /-- It has met the key that it is at. -/
  mem : key ∈ seen
  /-- It has gone on from all others that it has met. -/
  closed : ∀ a ∈ seen, a ≠ key → ∀ p, Hangs fields a p → p ∈ seen

theorem cameBy_start (fields : List FieldSpec) (key : String) : CameBy fields [key] key :=
  ⟨List.mem_cons_self, fun _ ha hak => absurd (List.mem_singleton.mp ha) hak⟩

theorem CameBy.up {seen : List String} (hseen : CameBy fields seen c) (h : Hangs fields c p) :
    CameBy fields (p :: seen) p := by
  refine ⟨List.mem_cons_self, fun a ha hap q hq => ?_⟩
  have ha := (List.mem_cons.mp ha).resolve_left hap
  by_cases hac : a = c
  · subst hac
    exact hangs_unique h hq ▸ List.mem_cons_self
  · exact List.mem_cons_of_mem p (hseen.closed a ha hac q hq)

/-- A known parent that the walk has not met is another field. -/
theorem CameBy.hangs {seen : List String} (hseen : CameBy fields seen c)
    (hparent : knownParent? fields c = some p) (hp : p ∉ seen) : Hangs fields c p :=
  hangs_iff_knownParent?.mpr ⟨hparent, fun h => hp (h ▸ hseen.mem)⟩

/-- Where the walk goes no further, it has met all that is above. -/
theorem CameBy.card_eq_zero {seen : List String} (hseen : CameBy fields seen c)
    (hend : ∀ p, knownParent? fields c = some p → p ∈ seen) :
    (ancestors fields c \ seen.toFinset).card = 0 := by
  have hclosed : ∀ a ∈ seen, ∀ p, Hangs fields a p → p ∈ seen := by
    intro a ha p hp
    by_cases hac : a = c
    · exact hend p (hangs_iff_knownParent?.mp (hac ▸ hp)).1
    · exact hseen.closed a ha hac p hp
  refine Finset.card_eq_zero.mpr (Finset.sdiff_eq_empty_iff_subset.mpr fun a ha => ?_)
  have habove := mem_ancestors.mp ha
  rw [List.mem_toFinset]
  induction habove with
  | single h => exact hclosed _ hseen.mem _ h
  | tail hb h ih => exact hclosed _ (ih (mem_ancestors.mpr hb)) _ h

/-- **The walk meets all the fields above** that it has not met before, each in one step. -/
theorem Climbs.eq_card {seen : List String} {n : Nat} (h : Climbs fields seen c n)
    (hseen : CameBy fields seen c) : n = (ancestors fields c \ seen.toFinset).card := by
  induction h with
  | top hend => exact (hseen.card_eq_zero hend).symm
  | up hparent hp _ ih =>
    have hhangs := hseen.hangs hparent hp
    rw [card_ancestors_of_hangs hhangs hp, ih (hseen.up hhangs)]

/-- The walk ends if there is fuel for the fields above that it has not met. -/
theorem climbs_depthFrom {fuel : Nat} {seen : List String} (hseen : CameBy fields seen c)
    (hfuel : (ancestors fields c \ seen.toFinset).card ≤ fuel) :
    Climbs fields seen c (depthFrom fields fuel seen c) := by
  induction fuel generalizing seen c with
  | zero =>
    -- Another step would be to a field above, and all of these have been met.
    refine .top fun p hparent => ?_
    by_contra hp
    have hcard := card_ancestors_of_hangs (hseen.hangs hparent hp) hp
    omega
  | succ fuel ih =>
    rw [depthFrom]
    cases hparent : knownParent? fields c with
    | none => exact .top (by simp [hparent])
    | some p =>
      by_cases hp : p ∈ seen
      · simpa [hp] using Climbs.top (by simp [hparent, hp])
      · have hhangs := hseen.hangs hparent hp
        have hcard := card_ancestors_of_hangs hhangs hp
        have hrest := ih (hseen.up hhangs) (by omega)
        simpa [hp] using Climbs.up hparent hp hrest

/-- **The walk from a field ends**, and depth is the number of its steps. -/
theorem climbs_depth (fields : List FieldSpec) (key : String) :
    Climbs fields [key] key (depth fields key) := by
  refine climbs_depthFrom (cameBy_start fields key) ?_
  calc (ancestors fields key \ ([key] : List String).toFinset).card
      ≤ (fields.map FieldSpec.key).toFinset.card :=
        Finset.card_le_card (Finset.sdiff_subset.trans (ancestors_subset fields key))
    _ ≤ fields.length := (List.toFinset_card_le _).trans (List.length_map _).le

/-- **Depth is the number of other fields that a field hangs on**, be it by way of others. -/
theorem depth_eq_card (fields : List FieldSpec) (key : String) :
    depth fields key = ((ancestors fields key).erase key).card := by
  have hsingle : ([key] : List String).toFinset = {key} := rfl
  rw [← Finset.sdiff_singleton_eq_erase, ← hsingle]
  exact (climbs_depth fields key).eq_card (cameBy_start fields key)

/-- **A field on no circle is one deeper than its parent**, be that on a circle or not. -/
theorem depth_of_not_onCircle (hc : ¬ OnCircle fields c) (h : Hangs fields c p) :
    depth fields c = depth fields p + 1 := by
  have hself : c ∉ ancestors fields c := fun hmem => hc (mem_ancestors.mp hmem)
  rw [depth_eq_card, depth_eq_card, Finset.erase_eq_of_notMem hself, ancestors_of_hangs h,
    ← Finset.card_erase_add_one (Finset.mem_insert_self p _), Finset.erase_insert_eq_erase]

/-- **The fields of a circle have one depth.** -/
theorem depth_of_onCircle (hc : OnCircle fields c) (h : Hangs fields c p) :
    depth fields c = depth fields p := by
  obtain ⟨hpc, hp⟩ := hc.parent h
  have hsame : ancestors fields c = ancestors fields p := by
    rw [ancestors_of_hangs h, Finset.insert_eq_of_mem (mem_ancestors.mpr hp)]
  rw [depth_eq_card, depth_eq_card, hsame, Finset.card_erase_of_mem (mem_ancestors.mpr hpc),
    Finset.card_erase_of_mem (mem_ancestors.mpr hp)]

end Depth

/-! ### The order of writing -/

section Sorting

variable (fields : List FieldSpec)

theorem depth_le_trans (a b c : String) (hab : decide (depth fields a ≤ depth fields b) = true)
    (hbc : decide (depth fields b ≤ depth fields c) = true) :
    decide (depth fields a ≤ depth fields c) = true := by
  simp only [decide_eq_true_eq] at hab hbc ⊢
  omega

theorem depth_le_total (a b : String) :
    (decide (depth fields a ≤ depth fields b) || decide (depth fields b ≤ depth fields a)) =
      true := by
  simp only [Bool.or_eq_true, decide_eq_true_eq]
  omega

theorem pairwise_applyOrder :
    (applyOrder fields).Pairwise fun a b => depth fields a ≤ depth fields b :=
  (List.pairwise_mergeSort (depth_le_trans fields) (depth_le_total fields) _).imp fun h => by
    simpa using h

/-- Fields of one depth stay in the order of the form. -/
theorem pair_sublist_applyOrder {a b : String} (hdepth : depth fields a ≤ depth fields b)
    (h : [a, b].Sublist (fields.map FieldSpec.key)) : [a, b].Sublist (applyOrder fields) :=
  List.pair_sublist_mergeSort (depth_le_trans fields) (depth_le_total fields)
    (decide_eq_true hdepth) h

end Sorting

section Pairs

variable {l front back : List String} {a b : String}

theorem pair_sublist_of_mem (h : b ∈ back) : [a, b].Sublist (front ++ a :: back) :=
  .trans (.cons_cons a (List.singleton_sublist.mpr h)) (List.sublist_append_right ..)

theorem pair_sublist_or (ha : a ∈ l) (hb : b ∈ l) (hne : b ≠ a) :
    [a, b].Sublist l ∨ [b, a].Sublist l := by
  obtain ⟨front, back, rfl⟩ := List.append_of_mem ha
  rcases List.mem_append.mp hb with hb | hb
  · obtain ⟨before, after, rfl⟩ := List.append_of_mem hb
    rw [List.append_assoc]
    exact .inr (pair_sublist_of_mem (List.mem_append_right after List.mem_cons_self))
  · exact .inl (pair_sublist_of_mem ((List.mem_cons.mp hb).resolve_left hne))

theorem mem_of_pair_sublist (hnodup : (front ++ a :: back).Nodup)
    (h : [a, b].Sublist (front ++ a :: back)) : b ∈ back := by
  induction front with
  | nil =>
    cases h with
    | cons _ h => exact absurd (h.subset List.mem_cons_self) (List.nodup_cons.mp hnodup).1
    | cons_cons _ h => exact List.singleton_sublist.mp h
  | cons x front ih =>
    obtain ⟨hx, hrest⟩ := List.nodup_cons.mp hnodup
    cases h with
    | cons _ h => exact ih hrest h
    | cons_cons _ h => exact absurd (List.mem_append_right front List.mem_cons_self) hx

end Pairs

/-- A field on a circle whose parent stands behind it in the form. -/
def Overtaken (fields : List FieldSpec) (c : String) : Prop :=
  OnCircle fields c ∧ ∃ p, Hangs fields c p ∧ [c, p].Sublist ((firsts fields).map FieldSpec.key)

/-- **The parents that are written after their children** are those of the fields that are
overtaken. -/
theorem parent_mem_after_iff (h : Hangs fields c p) {before after : List String}
    (horder : applyOrder (firsts fields) = before ++ c :: after) :
    p ∈ after ↔ Overtaken fields c := by
  have hnodup := nodup_applyOrder_firsts fields
  have hpairs := pairwise_applyOrder (firsts fields)
  have h' : Hangs (firsts fields) c p := by rwa [hangs_firsts]
  have hcircle : OnCircle (firsts fields) c ↔ OnCircle fields c := by
    rw [OnCircle, hangs_firsts, OnCircle]
  have hne : p ≠ c := (hangs_iff_knownParent?.mp h).2
  rw [horder] at hnodup hpairs
  constructor
  · intro hp
    have hle : depth (firsts fields) c ≤ depth (firsts fields) p :=
      (List.pairwise_cons.mp (List.pairwise_append.mp hpairs).2.1).1 p hp
    have hc : OnCircle (firsts fields) c := by
      by_contra hc
      have hdepth := depth_of_not_onCircle hc h'
      omega
    refine ⟨hcircle.mp hc, p, h, ?_⟩
    -- Were the parent in front of the child in the form, it would be in the order of writing.
    refine (pair_sublist_or ?_ ?_ hne).resolve_right fun hback => ?_
    · exact withKey?_isSome_iff.mp (known_child_of_hangsOn? h')
    · exact withKey?_isSome_iff.mp (known_of_hangsOn? h')
    · have hpair := pair_sublist_applyOrder _ (depth_of_onCircle hc h').ge hback
      obtain ⟨middle, rest, rfl⟩ := List.append_of_mem hp
      rw [horder, ← List.cons_append, ← List.append_assoc] at hpair
      rw [← List.cons_append, ← List.append_assoc] at hnodup
      have hc := mem_of_pair_sublist hnodup hpair
      exact (List.nodup_append.mp hnodup).2.2 c
        (List.mem_append_right before List.mem_cons_self) c (List.mem_cons_of_mem p hc) rfl
  · rintro ⟨hc, q, hq, hpair⟩
    obtain rfl := hangs_unique h hq
    have hpair' := pair_sublist_applyOrder _ (depth_of_onCircle (hcircle.mpr hc) h').le hpair
    rw [horder] at hpair'
    exact mem_of_pair_sublist hnodup hpair'

/-- A field that is overtaken is not written after its parent. -/
theorem not_mem_after_of_overtaken (hc : Overtaken fields c) (h : Hangs fields c p)
    {before after : List String} (horder : applyOrder (firsts fields) = before ++ p :: after) :
    c ∉ after := by
  intro hmem
  obtain ⟨middle, rest, rfl⟩ := List.append_of_mem hmem
  have hnodup := nodup_applyOrder_firsts fields
  have hsplit : applyOrder (firsts fields) = (before ++ p :: middle) ++ c :: rest := by
    rw [horder, List.append_assoc, List.cons_append]
  have hp : p ∈ rest := (parent_mem_after_iff h hsplit).mpr hc
  rw [hsplit] at hnodup
  exact (List.nodup_append.mp hnodup).2.2 p
    (List.mem_append_right before List.mem_cons_self) p (List.mem_cons_of_mem c hp) rfl

/-- **Where fields hang on each other in a circle, one of them is overtaken**: the first one
in the form. -/
theorem exists_overtaken {k : String} (hk : OnCircle fields k) : ∃ c, Overtaken fields c := by
  classical
  have hmem : ∀ a, Relation.TransGen (Hangs fields) k a →
      a ∈ (firsts fields).map FieldSpec.key := fun a ha => by
    rw [← withKey?_isSome_iff, withKey?_firsts]
    exact known_of_transGen ha
  obtain ⟨c, hfind⟩ : ∃ c, ((firsts fields).map FieldSpec.key).find?
      (fun a => Relation.TransGen (Hangs fields) k a) = some c :=
    Option.isSome_iff_exists.mp (List.find?_isSome.mpr ⟨k, hmem k hk, decide_eq_true hk⟩)
  obtain ⟨hkc, front, back, hkeys, hfront⟩ := List.find?_eq_some_iff_append.mp hfind
  have hkc : Relation.TransGen (Hangs fields) k c := by simpa using hkc
  have hc : OnCircle fields c := hk.of_transGen hkc
  obtain ⟨p, hp, -⟩ := Relation.TransGen.head'_iff.mp hc
  refine ⟨c, hc, p, hp, ?_⟩
  -- The parent is on the circle as well, so it is not in front of the first one.
  have hkp : Relation.TransGen (Hangs fields) k p := hkc.tail hp
  have hmemp := hmem p hkp
  rw [hkeys] at hmemp ⊢
  refine pair_sublist_of_mem ?_
  rcases List.mem_append.mp hmemp with hfirst | hrest
  · simpa [hkp] using hfront p hfirst
  · exact (List.mem_cons.mp hrest).resolve_left (hangs_iff_knownParent?.mp hp).2

/-- A form has no circles if and only if all parents are written before their children. -/
theorem acyclic_iff (fields : List FieldSpec) :
    Acyclic fields ↔ ∀ c, ¬ Overtaken fields c := by
  constructor
  · exact fun h c hc => h c hc.1
  · intro h k hk
    obtain ⟨c, hc⟩ := exists_overtaken hk
    exact h c hc

/-! ### A form with a circle -/

/-- A country that waits for its language. -/
def countryField : FieldSpec where
  key := "country"
  initial := .string "NO"
  binding := some { endpoint := "countries", dependency := some "language" }

/-- A country and a language that wait for each other, a town that waits for the country, and
a street that waits for the town. -/
def circleFields : List FieldSpec :=
  [{ key := "street", binding := some { endpoint := "streets", dependency := some "town" } },
   { key := "town", initial := .string "Oslo",
     binding := some { endpoint := "towns", dependency := some "country" } },
   countryField,
   { key := "language", initial := .string "nb",
     binding := some { endpoint := "languages", dependency := some "country" } }]

theorem overtaken_country : Overtaken circleFields "country" := by
  have hup : Hangs circleFields "country" "language" := rfl
  have hback : Hangs circleFields "language" "country" := rfl
  exact ⟨.tail (.single hup) hback, "language", hup, by decide⟩

theorem not_onCircle_town : ¬ OnCircle circleFields "town" := by
  intro hcircle
  have hup : Hangs circleFields "town" "country" := rfl
  have hdeeper : depth circleFields "town" ≠ depth circleFields "country" := by decide
  exact hdeeper (depth_of_onCircle hcircle hup)

theorem not_overtaken_town : ¬ Overtaken circleFields "town" := fun h => not_onCircle_town h.1

theorem not_overtaken_language : ¬ Overtaken circleFields "language" := by
  rintro ⟨-, p, hp, hpair⟩
  obtain rfl : "country" = p := Option.some.inj hp
  exact absurd hpair (by decide)

end FieldSpec

end SmartForm
