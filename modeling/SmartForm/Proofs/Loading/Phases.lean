import Mathlib.Data.List.Induction
import SmartForm.Proofs.Loading.Supersession

/-!
# What a slot shows

The state of a slot says three things that belong together: whether a load is under way, how
far the loading has come, and which choices there are. Whatever is done to a store, they never
contradict each other, and they tell what has happened to the key
(`SmartForm.ChoiceStore.Tells`): the choices that a slot was made with are there until a load is
begun or the slot is cleared for the first time, loaded choices are those of the last result
that was taken, and there are none in between.

The whole point is that no honesty is asked of anybody. Results may come in with any token,
also for a load that was never begun, and the slot still shows what is true of it
(`SmartForm.ChoiceStore.slots_tell`). The one thing to keep in mind is that a key has no slot
before it is seeded, so that what is done to it earlier leaves no trace
(`SmartForm.ChoiceStore.clear_before_seed`).
-/

namespace SmartForm

namespace ChoiceStore

variable {s : ChoiceStore} {ops : List StoreOp} {op : StoreOp} {k : String} {x : LoadState}

/-! ### What is taken -/

/-- The result that an operation brings for a key, if it is taken. -/
def takenBy (s : ChoiceStore) (k : String) : StoreOp → Option (Option (List Choice))
  | .finishLoad key token result =>
    if key = k ∧ (s.finishLoad key token result).2 = true then some result else none
  | _ => none

/-- The results that are taken for a key in the course of some operations, in their order. -/
def takenResults (k : String) : ChoiceStore → List StoreOp → List (Option (List Choice))
  | _, [] => []
  | s, op :: ops => (s.takenBy k op).toList ++ takenResults k (s.apply op) ops

theorem takenResults_concat (k : String) (s : ChoiceStore) (ops : List StoreOp) (op : StoreOp) :
    takenResults k s (ops ++ [op]) =
      takenResults k s ops ++ ((s.run ops).takenBy k op).toList := by
  induction ops generalizing s with
  | nil => exact List.append_nil _
  | cons op' ops ih =>
    rw [List.cons_append, takenResults, takenResults, ih, List.append_assoc]
    rfl

theorem takenBy_of_ne (h : k ≠ op.key) : s.takenBy k op = none := by
  cases op with
  | finishLoad key token result => exact if_neg fun htaken => h htaken.1.symm
  | _ => rfl

theorem takenBy_finishLoad {slot : ChoiceSlot} (hslot : s.slot? k = some slot) (token : Nat)
    (result : Option (List Choice)) :
    s.takenBy k (.finishLoad k token result) =
      if slot.generation = token then some result else none := by
  rw [takenBy, finishLoad, hslot]
  by_cases htoken : slot.generation = token <;> simp [htoken]

/-! ### What a slot tells -/

/-- **What the state of a slot tells** of the operations that were done to the store. -/
structure Tells (ops : List StoreOp) (k : String) (x : LoadState) : Prop where
  /-- A load is under way in the phase of loading and in no other. -/
  loading : x.isLoading = true ↔ x.phase = .loading
  /-- There are no choices while a load is under way, and none after it has failed. -/
  empty : x.phase = .loading ∨ x.phase = .failed → x.choices = []
  /-- The slot was made at some time. The choices that it was made with are there, when nothing
  is loaded, until a load is begun or the slot is cleared for the first time, and never
  again. -/
  seeded : ∃ before choices after, ops = before ++ .seed k choices :: after ∧
    (∀ choices', .seed k choices' ∉ before) ∧
    (x.phase = .idle →
      ((∀ op ∈ after, ¬op.Renews k) → x.choices = choices) ∧
      ((∃ op ∈ after, op.Renews k) → x.choices = []))
  /-- Loaded choices are those of the last result that was taken for the key. -/
  loaded : x.phase = .loaded → (takenResults k {} ops).getLast? = some (some x.choices)

/-- What leaves a slot as it is does not make what it tells untrue. -/
theorem Tells.skip (h : Tells ops k x) (hrenews : ¬op.Renews k)
    (htaken : (({} : ChoiceStore).run ops).takenBy k op = none) : Tells (ops ++ [op]) k x where
  loading := h.loading
  empty := h.empty
  seeded := by
    obtain ⟨before, choices, after, rfl, hfirst, hidle⟩ := h.seeded
    refine ⟨before, choices, after ++ [op], by simp, hfirst, fun hphase => ?_⟩
    obtain ⟨hkept, hlost⟩ := hidle hphase
    constructor
    · exact fun hquiet => hkept fun op' hop' => hquiet op' (List.mem_append_left _ hop')
    · rintro ⟨op', hop', hop'renews⟩
      rcases List.mem_append.mp hop' with hop' | hop'
      · exact hlost ⟨op', hop', hop'renews⟩
      · exact absurd (List.mem_singleton.mp hop' ▸ hop'renews) hrenews
  loaded := fun hphase => by
    rw [takenResults_concat, htaken, Option.toList_none, List.append_nil]
    exact h.loaded hphase

/-- A slot that is written tells what it should, if the state that is written does, and if it
has no choices when nothing is loaded. -/
theorem Tells.write (h : Tells ops k x) {y : LoadState}
    (hloading : y.isLoading = true ↔ y.phase = .loading)
    (hempty : y.phase ≠ .loaded → y.choices = []) (hidle : y.phase = .idle → op.Renews k)
    (hloaded : y.phase = .loaded →
      (({} : ChoiceStore).run ops).takenBy k op = some (some y.choices)) :
    Tells (ops ++ [op]) k y where
  loading := hloading
  empty := fun hphase => hempty fun hne => by
    rw [hne] at hphase
    rcases hphase with hphase | hphase <;> cases hphase
  seeded := by
    obtain ⟨before, choices, after, rfl, hfirst, -⟩ := h.seeded
    refine ⟨before, choices, after ++ [op], by simp, hfirst, fun hphase => ?_⟩
    constructor
    · exact fun hquiet => absurd (hidle hphase) (hquiet op (by simp))
    · exact fun _ => hempty fun hne => by
        rw [hne] at hphase
        cases hphase
  loaded := fun hphase => by
    rw [takenResults_concat, hloaded hphase, Option.toList_some, List.getLast?_concat]

/-- A slot that takes a result tells what was loaded. -/
theorem Tells.settle (h : Tells ops k x) {result : Option (List Choice)}
    (htaken : (({} : ChoiceStore).run ops).takenBy k op = some result) :
    Tells (ops ++ [op]) k (.ofResult result) := by
  cases result with
  | some choices =>
    exact h.write (iff_of_false Bool.false_ne_true fun hphase => by cases hphase)
      (fun hphase => absurd rfl hphase) (fun hphase => by cases hphase) fun _ => htaken
  | none =>
    exact h.write (iff_of_false Bool.false_ne_true fun hphase => by cases hphase)
      (fun _ => rfl) (fun hphase => by cases hphase) fun hphase => by cases hphase

/-- A slot that is made has the choices that it is made with. -/
theorem tells_seed (hfirst : ∀ choices, .seed k choices ∉ ops) (choices : List Choice) :
    Tells (ops ++ [.seed k choices]) k (.ofChoices choices) where
  loading := ⟨nofun, nofun⟩
  empty := nofun
  seeded := ⟨ops, choices, [], rfl, hfirst, fun _ => ⟨fun _ => rfl, fun ⟨_, hop, _⟩ => nomatch hop⟩⟩
  loaded := nofun

/-! ### One operation after the other -/

/-- What is true of the slot of a key after some operations: there is none as long as the key
was not seeded, and it tells what it should. -/
def Truthful (ops : List StoreOp) (k : String) : Option ChoiceSlot → Prop
  | none => ∀ choices, .seed k choices ∉ ops
  | some slot => Tells ops k slot.current.value

theorem truthful_none (hops : Truthful ops k none) (op : StoreOp) :
    Truthful (ops ++ [op]) k (op.act k none) := by
  have hsame : (∀ choices, op ≠ .seed k choices) → Truthful (ops ++ [op]) k none := by
    intro hop choices hmem
    rcases List.mem_append.mp hmem with hmem | hmem
    · exact hops choices hmem
    · exact hop choices (List.mem_singleton.mp hmem).symm
  cases op with
  | seed key choices =>
    by_cases hk : k = key
    · subst hk
      rw [StoreOp.act, if_pos rfl]
      exact tells_seed hops choices
    · rw [StoreOp.act_of_ne hk]
      exact hsame fun choices' h => hk (StoreOp.seed.inj h).1.symm
  | _ =>
    rw [StoreOp.act, Option.map_none, ite_self]
    exact hsame fun choices h => by cases h

theorem truthful_some {slot : ChoiceSlot}
    (hslot : (({} : ChoiceStore).run ops).slot? k = some slot)
    (htells : Tells ops k slot.current.value) (op : StoreOp) :
    Truthful (ops ++ [op]) k (op.act k (some slot)) := by
  by_cases hk : k = op.key
  · cases op with
    | seed key choices => exact htells.skip id rfl
    | beginLoad key =>
      obtain rfl : k = key := hk
      rw [StoreOp.act, if_pos rfl, Option.map_some]
      exact htells.write (iff_of_true rfl rfl) (fun _ => rfl) (fun h => by cases h)
        fun h => by cases h
    | clear key =>
      obtain rfl : k = key := hk
      rw [StoreOp.act, if_pos rfl, Option.map_some]
      exact htells.write (iff_of_false Bool.false_ne_true fun h => by cases h) (fun _ => rfl)
        (fun _ => rfl) fun h => by cases h
    | finishLoad key token result =>
      obtain rfl : k = key := hk
      have htaken := takenBy_finishLoad hslot token result
      rw [StoreOp.act, if_pos rfl, Option.map_some, Truthful, ChoiceSlot.settle_value]
      by_cases htoken : slot.generation = token
      · rw [if_pos htoken] at htaken ⊢
        exact htells.settle htaken
      · rw [if_neg htoken] at htaken ⊢
        exact htells.skip id htaken
  · rw [StoreOp.act_of_ne hk]
    refine htells.skip (fun hrenews => hk ?_) (takenBy_of_ne hk)
    cases op <;> first | exact hrenews.symm | exact hrenews.elim

theorem truthful_run (ops : List StoreOp) (k : String) :
    Truthful ops k ((({} : ChoiceStore).run ops).slot? k) := by
  induction ops using List.reverseRecOn with
  | nil => exact fun _ => List.not_mem_nil
  | append_singleton ops op ih =>
    have hrun : ({} : ChoiceStore).run (ops ++ [op]) = (({} : ChoiceStore).run ops).apply op :=
      run_append _ ops [op]
    rw [hrun, slot?_apply]
    cases hslot : (({} : ChoiceStore).run ops).slot? k with
    | none =>
      rw [hslot] at ih
      exact truthful_none ih op
    | some slot =>
      rw [hslot] at ih
      exact truthful_some hslot ih op

/-! ### What is seen of a slot -/

/-- **What is seen of a store**: the state of a key when it is asked for, when all states are,
or when somebody who watches the slot takes what comes next. -/
inductive Shows (s : ChoiceStore) (k : String) : LoadState → Prop
  | get {x : LoadState} : s.get? k = some x → Shows s k x
  | states {x : LoadState} : (k, x) ∈ s.states → Shows s k x
  | watched {slot : ChoiceSlot} {x : LoadState} (w : Watcher) (isOpen : Bool) :
    s.slot? k = some slot → (w.next slot.current isOpen).2 = .item x → Shows s k x

theorem keys_seed (s : ChoiceStore) (key : String) (choices : List Choice) :
    (s.seed key choices).keys = if key ∈ s.keys then s.keys else s.keys ++ [key] := by
  have hcontains : s.contains key = true ↔ key ∈ s.keys := isSome_slot?_iff s key
  by_cases hkey : key ∈ s.keys
  · rw [seed, if_pos (hcontains.mpr hkey), if_pos hkey]
  · rw [seed, if_neg fun h => hkey (hcontains.mp h), if_neg hkey, keys, keys, List.map_append]
    rfl

/-- No key has two slots. -/
theorem nodup_keys_run (ops : List StoreOp) : (({} : ChoiceStore).run ops).keys.Nodup := by
  induction ops using List.reverseRecOn with
  | nil => exact List.nodup_nil
  | append_singleton ops op ih =>
    rw [run_append]
    change (apply _ op).keys.Nodup
    cases op with
    | seed key choices =>
      rw [apply, keys_seed]
      split
      · exact ih
      · next hkey => exact List.concat_eq_append ▸ ih.concat hkey
    | beginLoad key => rwa [apply, keys_beginLoad]
    | finishLoad key token result => rwa [apply, keys_finishLoad]
    | clear key => rwa [apply, clear, keys_modify]

theorem mem_states_iff (hs : s.keys.Nodup) : (k, x) ∈ s.states ↔ s.get? k = some x := by
  rw [get?_eq_some, states, List.mem_map]
  constructor
  · rintro ⟨⟨key, slot⟩, hmem, heq⟩
    obtain ⟨rfl, rfl⟩ := Prod.mk.inj heq
    exact ⟨slot, lookup_of_mem hs hmem, rfl⟩
  · rintro ⟨slot, hslot, rfl⟩
    exact List.mem_map.mp (mem_states_of_slot? hslot)

/-- All who look at a slot see the same. -/
theorem shows_iff (hs : s.keys.Nodup) : s.Shows k x ↔ s.get? k = some x := by
  refine ⟨fun h => ?_, .get⟩
  cases h with
  | get h => exact h
  | states h => exact (mem_states_iff hs).mp h
  | watched w isOpen hslot hitem =>
    rw [get?, hslot, Option.map_some, Option.some.injEq]
    rw [Watcher.next] at hitem
    split at hitem
    · exact Upcoming.item.inj hitem
    · split at hitem <;> cases hitem

/-- **Slots tell what was done to them.** Let anything be done to a store: slots are made, loads
are begun, results come in, be it with tokens that nobody was given, and slots are cleared.
Whoever looks at a slot sees a state that tells what it should; and the store says that
something is being loaded if and only if a slot is in the phase of loading. -/
theorem slots_tell (ops : List StoreOp) :
    (∀ k x, (({} : ChoiceStore).run ops).Shows k x → Tells ops k x) ∧
      ((({} : ChoiceStore).run ops).anyLoading = true ↔
        ∃ k x, (({} : ChoiceStore).run ops).Shows k x ∧ x.phase = .loading) := by
  have hkeys := nodup_keys_run ops
  have htells : ∀ k x, (({} : ChoiceStore).run ops).Shows k x → Tells ops k x := by
    intro k x hx
    obtain ⟨slot, hslot, rfl⟩ := get?_eq_some.mp ((shows_iff hkeys).mp hx)
    have htruthful := truthful_run ops k
    rwa [hslot] at htruthful
  refine ⟨htells, ?_⟩
  rw [anyLoading, List.any_eq_true]
  constructor
  · rintro ⟨⟨k, x⟩, hmem, hloading⟩
    exact ⟨k, x, .states hmem, (htells k x (.states hmem)).loading.mp hloading⟩
  · rintro ⟨k, x, hshows, hphase⟩
    exact ⟨(k, x), (mem_states_iff hkeys).mpr ((shows_iff hkeys).mp hshows),
      (htells k x hshows).loading.mpr hphase⟩

/-- A choice of one town. -/
def town (name : String) : Choice := { label := name, value := .text name }

/-- A result with the token nought is taken although no load was ever begun, and one with
another token is not. -/
theorem slots_tell_unasked :
    let ops : List StoreOp :=
      [.seed "town" [town "Oslo"], .finishLoad "town" 0 (some [town "Bergen"]),
        .finishLoad "town" 5 none]
    (({} : ChoiceStore).run ops).Shows "town" ⟨false, [town "Bergen"], .loaded⟩ ∧
      (takenResults "town" {} ops).getLast? = some (some [town "Bergen"]) := by
  intro ops
  have hshows : (({} : ChoiceStore).run ops).Shows "town" ⟨false, [town "Bergen"], .loaded⟩ :=
    .get rfl
  exact ⟨hshows, ((slots_tell ops).1 "town" _ hshows).loaded rfl⟩

/-- **A key that is cleared before it is seeded loses nothing**: the choices that its slot is
made with are there, although the key was cleared. -/
theorem clear_before_seed :
    let ops : List StoreOp := [.clear "town", .seed "town" [town "Oslo"]]
    (∃ op ∈ ops, op.Renews "town") ∧ (∀ key, .beginLoad key ∉ ops) ∧
      (({} : ChoiceStore).run ops).Shows "town" ⟨false, [town "Oslo"], .idle⟩ :=
  ⟨⟨.clear "town", List.mem_cons_self, rfl⟩, by simp, .get rfl⟩

end ChoiceStore

end SmartForm
