import Mathlib.Data.List.Nodup
import SmartForm.Loading.Store

/-!
# The slots of a store

What each operation of a `SmartForm.ChoiceStore` does to the slot of every key. An
operation is on one key, and the slots of all others stay as they are; so everything
that follows can look at one slot at a time.

The one thing to know is how a result is refused. `SmartForm.ChoiceSlot.settle` takes a
result only for the token that is the generation of the slot, and
`SmartForm.ChoiceSlot.renew`, which stands for both the beginning of a load and the
clearing of a slot, moves the generation on. A token that has been passed by never
counts again (`SmartForm.ChoiceStore.finishLoad_of_ne`).
-/

namespace SmartForm

/-- Looking a key up among pairs whose values were changed key by key. -/
theorem lookup_map_keyed {α β : Type} (xs : List (String × α)) (g : String → α → β)
    (k : String) : (xs.map fun e => (e.1, g e.1 e.2)).lookup k = (xs.lookup k).map (g k) := by
  induction xs with
  | nil => rfl
  | cons e xs ih =>
    rw [List.map_cons, List.lookup_cons, List.lookup_cons, ih]
    cases h : k == e.1 with
    | false => rfl
    | true => rw [eq_of_beq h]; rfl

/-- A pair in front is found first. -/
theorem lookup_cons_pair {α : Type} (n : String) (v : α) (xs : List (String × α)) (k : String) :
    ((n, v) :: xs).lookup k = if k = n then some v else xs.lookup k := by
  rw [List.lookup_cons]
  by_cases hk : k = n
  · rw [if_pos hk, beq_iff_eq.mpr hk]
  · rw [if_neg hk, beq_false_of_ne hk]

theorem lookup_eq_none_of_not_mem {α : Type} {xs : List (String × α)} {k : String}
    (h : k ∉ xs.map Prod.fst) : xs.lookup k = none :=
  List.lookup_eq_none_iff.mpr fun e he =>
    bne_iff_ne.mpr fun hk => h (List.mem_map.mpr ⟨e, he, hk.symm⟩)

/-- Of pairs with different keys, each is found under its key. -/
theorem lookup_of_mem {α : Type} {xs : List (String × α)} {e : String × α}
    (hxs : (xs.map Prod.fst).Nodup) (he : e ∈ xs) : xs.lookup e.1 = some e.2 := by
  induction xs with
  | nil => cases he
  | cons x xs ih =>
    obtain ⟨hx, hrest⟩ := List.nodup_cons.mp hxs
    rw [List.lookup_cons]
    rcases List.mem_cons.mp he with rfl | he
    · rw [beq_self_eq_true]
    · have hne : e.1 ≠ x.1 := fun h => hx (h ▸ List.mem_map_of_mem he)
      rw [beq_false_of_ne hne]
      exact ih hrest he

/-- Two tables with the same keys and the same values are the same. -/
theorem eq_of_lookup_eq {α : Type} {xs ys : List (String × α)}
    (hkeys : xs.map Prod.fst = ys.map Prod.fst) (hxs : (xs.map Prod.fst).Nodup)
    (hlookup : ∀ k, xs.lookup k = ys.lookup k) : xs = ys := by
  induction xs generalizing ys with
  | nil => exact (List.map_eq_nil_iff.mp hkeys.symm).symm
  | cons x xs ih =>
    cases ys with
    | nil => cases hkeys
    | cons y ys =>
      obtain ⟨k, v⟩ := x
      obtain ⟨k', w⟩ := y
      simp only [List.map_cons, List.cons.injEq] at hkeys
      obtain ⟨rfl, hkeys⟩ := hkeys
      obtain ⟨hk, hrest⟩ := List.nodup_cons.mp hxs
      have hv := hlookup k
      simp only [List.lookup_cons, beq_self_eq_true, Option.some.injEq] at hv
      rw [hv, ih hkeys hrest]
      intro j
      by_cases hj : j = k
      · rw [hj, lookup_eq_none_of_not_mem hk, lookup_eq_none_of_not_mem (hkeys ▸ hk)]
      · have hb : (j == k) = false := beq_false_of_ne hj
        simpa [List.lookup_cons, hb] using hlookup j

/-- Of things with different keys, the one that is found for a key is the one that is
there. -/
theorem find?_key_eq_some {α : Type} {key : α → String} {xs : List α} {k : String} {x : α}
    (hxs : (xs.map key).Nodup) :
    (xs.find? fun y => key y = k) = some x ↔ x ∈ xs ∧ key x = k := by
  constructor
  · intro h
    exact ⟨List.mem_of_find?_eq_some h, by simpa using List.find?_some h⟩
  · rintro ⟨hx, rfl⟩
    cases h : xs.find? fun y => key y = key x with
    | none =>
      have := List.find?_eq_none.mp h x hx
      simp at this
    | some y =>
      have hkey : key y = key x := by simpa using List.find?_some h
      rw [List.inj_on_of_nodup_map hxs (List.mem_of_find?_eq_some h) hx hkey]

/-! ### What becomes of one slot -/

namespace ChoiceSlot

/-- The slot with another state, in a new generation. -/
def renew (s : LoadState) (x : ChoiceSlot) : ChoiceSlot := ⟨x.current.write s, x.generation + 1⟩

/-- The slot after a result came in: it is taken if its token is the generation. -/
def settle (token : Nat) (result : Option (List Choice)) (x : ChoiceSlot) : ChoiceSlot :=
  if x.generation = token then { x with current := x.current.write (.ofResult result) } else x

@[simp] theorem settle_generation (token : Nat) (result : Option (List Choice)) (x : ChoiceSlot) :
    (x.settle token result).generation = x.generation := by
  rw [settle]
  split <;> rfl

theorem settle_value (token : Nat) (result : Option (List Choice)) (x : ChoiceSlot) :
    (x.settle token result).current.value =
      if x.generation = token then .ofResult result else x.current.value := by
  rw [settle]
  split <;> rfl

end ChoiceSlot

/-! ### The slots after an operation -/

namespace ChoiceStore

theorem slot?_modify (s : ChoiceStore) (key : String) (f : ChoiceSlot → ChoiceSlot) (k : String) :
    (s.modify key f).slot? k = if k = key then (s.slot? k).map f else s.slot? k := by
  have hmap : (s.modify key f).slots =
      s.slots.map fun e => (e.1, if e.1 = key then f e.2 else e.2) := by
    refine List.map_congr_left fun e _ => ?_
    by_cases h : e.1 = key <;> simp [h]
  rw [slot?, hmap, lookup_map_keyed (g := fun j x => if j = key then f x else x)]
  by_cases h : k = key
  · simp only [h, if_true]
    rfl
  · simp only [h, if_false, Option.map_id']
    rfl

theorem slot?_clear (s : ChoiceStore) (key k : String) :
    (s.clear key).slot? k = if k = key then (s.slot? k).map (.renew {}) else s.slot? k :=
  slot?_modify s key _ k

/-- The token of a load is the generation that it begins. -/
theorem beginLoad_token (s : ChoiceStore) (key : String) :
    (s.beginLoad key).2 = (s.slot? key).map fun x => x.generation + 1 := by
  rw [beginLoad]
  cases s.slot? key <;> rfl

theorem slot?_beginLoad (s : ChoiceStore) (key k : String) :
    (s.beginLoad key).1.slot? k =
      if k = key then (s.slot? k).map (.renew .underWay) else s.slot? k := by
  rw [beginLoad]
  cases h : s.slot? key with
  | none =>
    by_cases hk : k = key
    · simp [hk, h]
    · simp [hk]
  | some x => exact slot?_modify s key _ k

theorem slot?_finishLoad (s : ChoiceStore) (key : String) (token : Nat)
    (result : Option (List Choice)) (k : String) :
    (s.finishLoad key token result).1.slot? k =
      if k = key then (s.slot? k).map (.settle token result) else s.slot? k := by
  rw [finishLoad]
  cases h : s.slot? key with
  | none =>
    by_cases hk : k = key
    · simp [hk, h]
    · simp [hk]
  | some x =>
    by_cases hx : x.generation = token
    · simp only [hx, if_true, slot?_modify]
      by_cases hk : k = key
      · simp [hk, h, ChoiceSlot.settle, hx]
      · simp [hk]
    · simp only [hx, if_false]
      by_cases hk : k = key
      · simp [hk, h, ChoiceSlot.settle, hx]
      · simp [hk]

/-- **A result is refused for good** once its token has been passed by: nothing is
written. -/
theorem finishLoad_of_ne {s : ChoiceStore} {key : String} {x : ChoiceSlot} {token : Nat}
    (hx : s.slot? key = some x) (hne : x.generation ≠ token) (result : Option (List Choice)) :
    s.finishLoad key token result = (s, false) := by
  rw [finishLoad, hx]
  exact if_neg hne

/-- A second slot for a key is never made. -/
theorem slot?_seed (s : ChoiceStore) (key : String) (choices : List Choice) (k : String) :
    (s.seed key choices).slot? k =
      (s.slot? k).or (if k = key then some ⟨⟨.ofChoices choices, 0⟩, 0⟩ else none) := by
  rw [seed, contains]
  cases h : s.slot? key with
  | some x =>
    by_cases hk : k = key
    · simp [hk, h]
    · simp [hk]
  | none =>
    by_cases hk : k = key
    · simp [slot?, List.lookup_append, hk]
    · have hkb : (k == key) = false := beq_false_of_ne hk
      simp [slot?, List.lookup_append, List.lookup_cons, hk, hkb]

/-! ### The keys with a slot -/

/-- The keys with a slot. -/
def keys (s : ChoiceStore) : List String := s.slots.map Prod.fst

theorem isSome_slot?_iff (s : ChoiceStore) (k : String) : (s.slot? k).isSome ↔ k ∈ s.keys := by
  rw [slot?, keys, ← not_iff_not, Option.not_isSome_iff_eq_none, List.lookup_eq_none_iff]
  constructor
  · intro h hk
    obtain ⟨e, he, rfl⟩ := List.mem_map.mp hk
    simpa using h e he
  · exact fun h e he => bne_iff_ne.mpr fun hk => h (List.mem_map.mpr ⟨e, he, hk.symm⟩)

theorem keys_modify (s : ChoiceStore) (key : String) (f : ChoiceSlot → ChoiceSlot) :
    (s.modify key f).keys = s.keys := by
  refine List.map_map.trans (List.map_congr_left fun e _ => ?_)
  simp only [Function.comp]
  split <;> rfl

theorem keys_beginLoad (s : ChoiceStore) (key : String) : (s.beginLoad key).1.keys = s.keys := by
  rw [beginLoad]
  cases s.slot? key with
  | none => rfl
  | some x => exact keys_modify s key _

theorem keys_finishLoad (s : ChoiceStore) (key : String) (token : Nat)
    (result : Option (List Choice)) : (s.finishLoad key token result).1.keys = s.keys := by
  rw [finishLoad]
  cases s.slot? key with
  | none => rfl
  | some x =>
    dsimp only
    split
    · exact keys_modify s key _
    · rfl

/-- Nothing is being loaded if no slot says so. -/
theorem anyLoading_eq_false {s : ChoiceStore} (hs : s.keys.Nodup)
    (h : ∀ k x, s.slot? k = some x → x.current.value.isLoading = false) :
    s.anyLoading = false := by
  rw [anyLoading, List.any_eq_false]
  intro y hy
  obtain ⟨e, he, rfl⟩ := List.mem_map.mp hy
  exact Bool.not_eq_true _ ▸ h e.1 e.2 (lookup_of_mem hs he)

theorem get?_eq_some {s : ChoiceStore} {key : String} {x : LoadState} :
    s.get? key = some x ↔ ∃ slot, s.slot? key = some slot ∧ slot.current.value = x :=
  Option.map_eq_some_iff

theorem mem_states_of_slot? {s : ChoiceStore} {key : String} {slot : ChoiceSlot}
    (hslot : s.slot? key = some slot) : (key, slot.current.value) ∈ s.states := by
  obtain ⟨before, after, hslots, -⟩ := List.lookup_eq_some_iff.mp hslot
  rw [states, hslots]
  exact List.mem_map.mpr ⟨(key, slot), List.mem_append_right _ List.mem_cons_self, rfl⟩

end ChoiceStore

end SmartForm
