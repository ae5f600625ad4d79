import SmartForm.Proofs.Loading.Store

/-!
# The latest load counts

A store is used in any order (`SmartForm.StoreOp`): slots are made, loads are begun, results
come in, slots are cleared. If every result comes with a token that was given for its key,
and no token is used twice (`SmartForm.ChoiceStore.Honest`), then a result is taken exactly
if its load is the latest and was not cleared away
(`SmartForm.ChoiceStore.latest_load_counts`).

The one thing to know is what a slot does while it is not renewed. It stays as it is, for
the only result that could change it is the one that is waited for
(`SmartForm.ChoiceSlot.act_of_quiet`). And once it is renewed it never goes back
(`SmartForm.ChoiceSlot.generation_act`), so a token that was passed by stays so. Nothing has
to be kept in mind about several loads at once.
-/

namespace SmartForm

/-! ### Operations -/

/-- What can be done to a store. -/
inductive StoreOp where
  /-- A slot is made, unless there is one. -/
  | seed (key : String) (choices : List Choice)
  /-- A load is begun. -/
  | beginLoad (key : String)
  /-- A result comes in. -/
  | finishLoad (key : String) (token : Nat) (result : Option (List Choice))
  /-- A slot is cleared. -/
  | clear (key : String)

namespace StoreOp

/-- The key that an operation is on. -/
def key : StoreOp → String
  | seed k _ => k
  | beginLoad k => k
  | finishLoad k _ _ => k
  | clear k => k

/-- An operation starts a new generation of the slot of a key. -/
def Renews (k : String) : StoreOp → Prop
  | beginLoad key => key = k
  | clear key => key = k
  | _ => False

/-- What an operation does to the slot of a key, if there is one. -/
def act (k : String) (x : Option ChoiceSlot) : StoreOp → Option ChoiceSlot
  | seed key choices => x.or (if k = key then some ⟨⟨.ofChoices choices, 0⟩, 0⟩ else none)
  | beginLoad key => if k = key then x.map (.renew .underWay) else x
  | finishLoad key token result => if k = key then x.map (.settle token result) else x
  | clear key => if k = key then x.map (.renew {}) else x

/-- An operation does nothing to the slots of other keys. -/
theorem act_of_ne {op : StoreOp} {k : String} (hk : k ≠ op.key) (x : Option ChoiceSlot) :
    op.act k x = x := by
  cases op with
  | seed key choices => exact (congrArg x.or (if_neg hk)).trans Option.or_none
  | _ => exact if_neg hk

end StoreOp

namespace ChoiceStore

/-- Does something to a store. -/
def apply (s : ChoiceStore) : StoreOp → ChoiceStore
  | .seed key choices => s.seed key choices
  | .beginLoad key => (s.beginLoad key).1
  | .finishLoad key token result => (s.finishLoad key token result).1
  | .clear key => s.clear key

/-- Does one thing after the other. -/
def run (s : ChoiceStore) (ops : List StoreOp) : ChoiceStore := ops.foldl apply s

/-- A token was given for a key in the course of some operations. -/
def Issued (s : ChoiceStore) (ops : List StoreOp) (key : String) (token : Nat) : Prop :=
  ∃ before after, ops = before ++ .beginLoad key :: after ∧
    ((s.run before).beginLoad key).2 = some token

/-- **Results come in honestly**: each with a token that was given for its key before, and
no token twice. -/
def Honest (s : ChoiceStore) (ops : List StoreOp) : Prop :=
  ∀ before key token result after, ops = before ++ .finishLoad key token result :: after →
    s.Issued before key token ∧ ∀ result', .finishLoad key token result' ∉ before

/-- **What a store keeps to** in the course of some operations. -/
structure KeepsLatest (s : ChoiceStore) (ops : List StoreOp) : Prop where
  /-- A result is taken if and only if its load is the latest for the key and the slot was
  not cleared. The slot was loading, and shows the result. If it is not taken, nothing
  changes. -/
  taken : ∀ before key token between result after,
    ops = before ++ .beginLoad key :: (between ++ .finishLoad key token result :: after) →
    ((s.run before).beginLoad key).2 = some token →
    ∀ x, x = s.run (before ++ .beginLoad key :: between) →
      ((x.finishLoad key token result).2 = true ↔ ∀ op ∈ between, ¬ op.Renews key) ∧
        ((x.finishLoad key token result).2 = true → x.get? key = some .underWay ∧
          (x.finishLoad key token result).1.get? key = some (.ofResult result)) ∧
        ((x.finishLoad key token result).2 = false → (x.finishLoad key token result).1 = x)
  /-- The tokens for a key grow. -/
  growing : ∀ before key token between token' after,
    ops = before ++ .beginLoad key :: (between ++ .beginLoad key :: after) →
    ((s.run before).beginLoad key).2 = some token →
    ((s.run (before ++ .beginLoad key :: between)).beginLoad key).2 = some token' →
    token < token'
  /-- No token is greater than the generation at the start and the number of operations
  together. -/
  bounded : ∀ key token, s.Issued ops key token →
    token ≤ ((s.slot? key).map ChoiceSlot.generation).getD 0 + ops.length
  /-- An operation on one key leaves the slots of all others alone. -/
  apart : ∀ before op after, ops = before ++ op :: after →
    ∀ k, k ≠ op.key → ((s.run before).apply op).slot? k = (s.run before).slot? k
  /-- A slot that is written goes into a phase that fits: loading if a load is begun, idle
  if it is made or cleared, and loaded or failed, which it only does while it is loading, if
  a result comes in. -/
  entered : ∀ before op after, ops = before ++ op :: after →
    ∀ k slot, ((s.run before).apply op).slot? k = some slot →
      (s.run before).slot? k ≠ some slot →
      match slot.current.value.phase with
      | .loading => op = .beginLoad k
      | .idle => op = .clear k ∨
          (s.run before).slot? k = none ∧ ∃ choices, op = .seed k choices
      | _ => (s.run before).get? k = some .underWay ∧
          ∃ token result, op = .finishLoad k token result

/-! ### One slot -/

theorem slot?_apply (s : ChoiceStore) (op : StoreOp) (k : String) :
    (s.apply op).slot? k = op.act k (s.slot? k) := by
  cases op with
  | seed key choices => exact slot?_seed s key choices k
  | beginLoad key => exact slot?_beginLoad s key k
  | finishLoad key token result => exact slot?_finishLoad s key token result k
  | clear key => exact slot?_clear s key k

end ChoiceStore

namespace ChoiceSlot

variable {k : String} {op : StoreOp}

/-- **A slot stays as it is** while it is not renewed and the result that it waits for does
not come in. -/
theorem act_of_quiet {x : ChoiceSlot} (hop : ¬ op.Renews k)
    (hresult : ∀ result, op ≠ .finishLoad k x.generation result) :
    op.act k (some x) = some x := by
  cases op with
  | seed key choices => rfl
  | beginLoad key => exact if_neg fun h => hop h.symm
  | clear key => exact if_neg fun h => hop h.symm
  | finishLoad key token result =>
    rw [StoreOp.act]
    split
    · next hk =>
      have hne : x.generation ≠ token := fun h => hresult result (by rw [hk, h])
      rw [Option.map_some, settle, if_neg hne]
    · rfl

/-- **A slot never goes back**, and it goes on if it is renewed. -/
theorem generation_act (k : String) (op : StoreOp) (x : ChoiceSlot) :
    ∃ y, op.act k (some x) = some y ∧ x.generation ≤ y.generation ∧
      y.generation ≤ x.generation + 1 ∧ (op.Renews k → x.generation < y.generation) := by
  have hsame : x.generation ≤ x.generation ∧ x.generation ≤ x.generation + 1 :=
    ⟨Nat.le_refl _, Nat.le_succ _⟩
  have hnext : x.generation ≤ x.generation + 1 ∧ x.generation + 1 ≤ x.generation + 1 :=
    ⟨Nat.le_succ _, Nat.le_refl _⟩
  cases op with
  | seed key choices => exact ⟨x, rfl, hsame.1, hsame.2, False.elim⟩
  | beginLoad key =>
    by_cases hk : k = key
    · exact ⟨x.renew .underWay, if_pos hk, hnext.1, hnext.2, fun _ => Nat.lt_succ_self _⟩
    · exact ⟨x, if_neg hk, hsame.1, hsame.2, fun h => absurd h.symm hk⟩
  | clear key =>
    by_cases hk : k = key
    · exact ⟨x.renew {}, if_pos hk, hnext.1, hnext.2, fun _ => Nat.lt_succ_self _⟩
    · exact ⟨x, if_neg hk, hsame.1, hsame.2, fun h => absurd h.symm hk⟩
  | finishLoad key token result =>
    by_cases hk : k = key
    · refine ⟨x.settle token result, if_pos hk, ?_⟩
      rw [settle_generation]
      exact ⟨hsame.1, hsame.2, False.elim⟩
    · exact ⟨x, if_neg hk, hsame.1, hsame.2, False.elim⟩

end ChoiceSlot

namespace ChoiceStore

variable {s : ChoiceStore} {k key : String} {token : Nat}

theorem run_append (s : ChoiceStore) (ops ops' : List StoreOp) :
    s.run (ops ++ ops') = (s.run ops).run ops' := List.foldl_append

theorem run_cons (s : ChoiceStore) (op : StoreOp) (ops : List StoreOp) :
    s.run (op :: ops) = (s.apply op).run ops := rfl

theorem slot?_run_of_quiet {x : ChoiceSlot} {ops : List StoreOp} (hx : s.slot? k = some x)
    (hops : ∀ op ∈ ops, ¬ op.Renews k)
    (hresult : ∀ result, .finishLoad k x.generation result ∉ ops) :
    (s.run ops).slot? k = some x := by
  induction ops generalizing s with
  | nil => exact hx
  | cons op ops ih =>
    refine ih ?_ (fun op' h => hops op' (List.mem_cons_of_mem op h))
      fun result h => hresult result (List.mem_cons_of_mem op h)
    rw [slot?_apply, hx]
    refine ChoiceSlot.act_of_quiet (hops op List.mem_cons_self) fun result h => ?_
    exact hresult result (h ▸ List.mem_cons_self)

theorem generation_run {x : ChoiceSlot} (hx : s.slot? k = some x) (ops : List StoreOp) :
    ∃ y, (s.run ops).slot? k = some y ∧ x.generation ≤ y.generation ∧
      ((∃ op ∈ ops, op.Renews k) → x.generation < y.generation) := by
  induction ops generalizing s x with
  | nil => exact ⟨x, hx, Nat.le_refl _, fun ⟨op, h, _⟩ => (List.not_mem_nil h).elim⟩
  | cons op ops ih =>
    obtain ⟨y, hy, hle, -, hlt⟩ := ChoiceSlot.generation_act k op x
    obtain ⟨z, hz, hle', hlt'⟩ := ih (s := s.apply op) ((slot?_apply s op k).trans (hx ▸ hy))
    refine ⟨z, hz, Nat.le_trans hle hle', fun ⟨op', hmem, hrenews⟩ => ?_⟩
    rcases List.mem_cons.mp hmem with rfl | hmem
    · exact Nat.lt_of_lt_of_le (hlt hrenews) hle'
    · exact Nat.lt_of_le_of_lt hle (hlt' ⟨op', hmem, hrenews⟩)

/-- The generation of a slot; nought for a key without one. -/
def generationOf (s : ChoiceStore) (k : String) : Nat :=
  ((s.slot? k).map ChoiceSlot.generation).getD 0

theorem generationOf_apply_le (s : ChoiceStore) (op : StoreOp) (k : String) :
    (s.apply op).generationOf k ≤ s.generationOf k + 1 := by
  rw [generationOf, generationOf, slot?_apply]
  cases s.slot? k with
  | some x =>
    obtain ⟨y, hy, -, hle, -⟩ := ChoiceSlot.generation_act k op x
    rw [hy]
    exact hle
  | none =>
    -- The only operation that makes a slot gives it the generation nought.
    have hnone : ((op.act k none).map ChoiceSlot.generation).getD 0 = 0 := by
      cases op <;> rw [StoreOp.act] <;> split <;> rfl
    rw [hnone]
    exact Nat.zero_le _

theorem generationOf_run_le (s : ChoiceStore) (ops : List StoreOp) (k : String) :
    (s.run ops).generationOf k ≤ s.generationOf k + ops.length := by
  induction ops generalizing s with
  | nil => exact Nat.le_refl _
  | cons op ops ih =>
    have hstep := generationOf_apply_le s op k
    have hrest := ih (s.apply op)
    rw [List.length_cons, run_cons]
    omega

/-! ### From the beginning of a load to its result -/

/-- A load that has just begun is waited for. -/
theorem slot?_of_begun (h : (s.beginLoad key).2 = some token) :
    ∃ x, (s.apply (.beginLoad key)).slot? key = some x ∧ x.generation = token ∧
      x.current.value = .underWay := by
  rw [beginLoad_token, Option.map_eq_some_iff] at h
  obtain ⟨x, hx, rfl⟩ := h
  refine ⟨x.renew .underWay, ?_, rfl, rfl⟩
  rw [slot?_apply, StoreOp.act, if_pos rfl, hx, Option.map_some]

variable {before between : List StoreOp}

/-- **A load that is not superseded is waited for.** -/
theorem slot?_of_awaited (hbegun : ((s.run before).beginLoad key).2 = some token)
    (hbetween : ∀ op ∈ between, ¬ op.Renews key)
    (hresult : ∀ result, .finishLoad key token result ∉ between) :
    ∃ x, (s.run (before ++ .beginLoad key :: between)).slot? key = some x ∧
      x.generation = token ∧ x.current.value = .underWay := by
  obtain ⟨x, hx, htoken, hvalue⟩ := slot?_of_begun hbegun
  refine ⟨x, ?_, htoken, hvalue⟩
  rw [run_append, run_cons]
  exact slot?_run_of_quiet hx hbetween (htoken ▸ hresult)

/-- **A load that is superseded is past**, and no slot goes back behind a load. -/
theorem slot?_of_begun_run (hbegun : ((s.run before).beginLoad key).2 = some token)
    (between : List StoreOp) :
    ∃ x, (s.run (before ++ .beginLoad key :: between)).slot? key = some x ∧
      token ≤ x.generation ∧ ((∃ op ∈ between, op.Renews key) → token < x.generation) := by
  obtain ⟨x, hx, rfl, -⟩ := slot?_of_begun hbegun
  obtain ⟨y, hy, hle, hlt⟩ := generation_run hx between
  refine ⟨y, ?_, hle, hlt⟩
  rw [run_append, run_cons]
  exact hy

/-- A result that is waited for is taken. -/
theorem finishLoad_of_eq {x : ChoiceSlot} (hx : s.slot? key = some x)
    (htoken : x.generation = token) (result : Option (List Choice)) :
    (s.finishLoad key token result).2 = true ∧
      (s.finishLoad key token result).1.get? key = some (.ofResult result) := by
  constructor
  · rw [finishLoad, hx]
    simp only [htoken, if_true]
  · rw [get?, slot?_finishLoad, if_pos rfl, hx, Option.map_some, Option.map_some,
      ChoiceSlot.settle_value, if_pos htoken]

/-! ### Honest results -/

variable {ops : List StoreOp}

/-- Between the beginning of a load and its result, no other result has its token. -/
theorem Honest.not_mem_between (hops : s.Honest ops) {before between after : List StoreOp}
    {result : Option (List Choice)}
    (h : ops = before ++ .beginLoad key :: (between ++ .finishLoad key token result :: after))
    (result' : Option (List Choice)) : .finishLoad key token result' ∉ between := by
  have hsplit : ops =
      (before ++ .beginLoad key :: between) ++ .finishLoad key token result :: after := by
    rw [h, List.append_assoc, List.cons_append]
  intro hmem
  exact (hops _ _ _ _ _ hsplit).2 result'
    (List.mem_append_right _ (List.mem_cons_of_mem _ hmem))

theorem taken_of_honest (hops : s.Honest ops) {before between after : List StoreOp}
    {result : Option (List Choice)}
    (h : ops = before ++ .beginLoad key :: (between ++ .finishLoad key token result :: after))
    (hbegun : ((s.run before).beginLoad key).2 = some token) {x : ChoiceStore}
    (hx : x = s.run (before ++ .beginLoad key :: between)) :
    ((x.finishLoad key token result).2 = true ↔ ∀ op ∈ between, ¬ op.Renews key) ∧
      ((x.finishLoad key token result).2 = true → x.get? key = some .underWay ∧
        (x.finishLoad key token result).1.get? key = some (.ofResult result)) ∧
      ((x.finishLoad key token result).2 = false → (x.finishLoad key token result).1 = x) := by
  by_cases hquiet : ∀ op ∈ between, ¬ op.Renews key
  · -- The load is the latest: the slot waits for it.
    obtain ⟨y, hy, htoken, hvalue⟩ :=
      slot?_of_awaited hbegun hquiet (hops.not_mem_between h)
    rw [← hx] at hy
    obtain ⟨htaken, hget⟩ := finishLoad_of_eq hy htoken result
    refine ⟨iff_of_true htaken hquiet, fun _ => ⟨?_, hget⟩, fun hfalse => ?_⟩
    · rw [get?, hy, Option.map_some, hvalue]
    · rw [htaken] at hfalse
      cases hfalse
  · -- The load is superseded: the slot has a later generation, and the result is refused.
    have hrenewed : ∃ op ∈ between, op.Renews key := by
      simpa only [not_forall, not_not, exists_prop] using hquiet
    obtain ⟨y, hy, -, hlt⟩ := slot?_of_begun_run hbegun between
    rw [← hx] at hy
    have hrefused := finishLoad_of_ne hy (Nat.ne_of_gt (hlt hrenewed)) result
    rw [hrefused]
    exact ⟨iff_of_false Bool.false_ne_true hquiet, fun h => absurd h Bool.false_ne_true,
      fun _ => rfl⟩

theorem growing_of_begun {before between : List StoreOp} {token' : Nat}
    (hbegun : ((s.run before).beginLoad key).2 = some token)
    (hagain : ((s.run (before ++ .beginLoad key :: between)).beginLoad key).2 = some token') :
    token < token' := by
  obtain ⟨x, hx, hle, -⟩ := slot?_of_begun_run hbegun between
  rw [beginLoad_token, hx, Option.map_some, Option.some.injEq] at hagain
  omega

theorem Issued.le (h : s.Issued ops key token) :
    token ≤ ((s.slot? key).map ChoiceSlot.generation).getD 0 + ops.length := by
  obtain ⟨before, after, rfl, hbegun⟩ := h
  have hle := generationOf_run_le s before key
  rw [beginLoad_token, Option.map_eq_some_iff] at hbegun
  obtain ⟨x, hx, rfl⟩ := hbegun
  rw [generationOf, hx, Option.map_some, Option.getD_some, generationOf] at hle
  rw [List.length_append, List.length_cons]
  omega

/-- A result that comes in honestly and has the token that a slot waits for is waited
for. -/
theorem underWay_of_honest {before after : List StoreOp} {result : Option (List Choice)}
    (hops : s.Honest ops) (h : ops = before ++ .finishLoad key token result :: after)
    {x : ChoiceSlot} (hx : (s.run before).slot? key = some x) (htoken : x.generation = token) :
    x.current.value = .underWay := by
  obtain ⟨⟨before', between, rfl, hbegun⟩, hfresh⟩ := hops _ _ _ _ _ h
  -- Were the slot renewed since the load began, its generation would be beyond the token.
  have hquiet : ∀ op ∈ between, ¬ op.Renews key := by
    intro op hop hrenews
    obtain ⟨y, hy, -, hlt⟩ := slot?_of_begun_run hbegun between
    obtain rfl : y = x := Option.some.inj (hy.symm.trans hx)
    have hlater := hlt ⟨op, hop, hrenews⟩
    omega
  obtain ⟨y, hy, -, hvalue⟩ := slot?_of_awaited hbegun hquiet fun result' hmem =>
    hfresh result' (List.mem_append_right _ (List.mem_cons_of_mem _ hmem))
  obtain rfl : y = x := Option.some.inj (hy.symm.trans hx)
  exact hvalue

/-- A slot is written into a phase that fits. -/
theorem entered_of_honest (hops : s.Honest ops) {before after : List StoreOp} {op : StoreOp}
    (h : ops = before ++ op :: after) {slot : ChoiceSlot}
    (hafter : ((s.run before).apply op).slot? k = some slot)
    (hbefore : (s.run before).slot? k ≠ some slot) :
    match slot.current.value.phase with
    | .loading => op = .beginLoad k
    | .idle => op = .clear k ∨ (s.run before).slot? k = none ∧ ∃ choices, op = .seed k choices
    | _ => (s.run before).get? k = some .underWay ∧
        ∃ token result, op = .finishLoad k token result := by
  rw [slot?_apply] at hafter
  -- Only an operation on the key itself writes the slot.
  obtain rfl : k = op.key := by
    by_contra hk
    rw [StoreOp.act_of_ne hk] at hafter
    exact hbefore hafter
  cases hx : (s.run before).slot? op.key with
  | none =>
    rw [hx] at hafter
    cases op with
    | seed key choices =>
      obtain rfl := Option.some.inj ((if_pos rfl).symm.trans hafter)
      exact Or.inr ⟨rfl, choices, rfl⟩
    | _ => cases (if_pos rfl).symm.trans hafter
  | some x =>
    rw [hx] at hafter hbefore
    cases op with
    | seed key choices => exact absurd hafter hbefore
    | beginLoad key =>
      obtain rfl := Option.some.inj ((if_pos rfl).symm.trans hafter)
      exact rfl
    | clear key =>
      obtain rfl := Option.some.inj ((if_pos rfl).symm.trans hafter)
      exact Or.inl rfl
    | finishLoad key token result =>
      have hslot := Option.some.inj ((if_pos rfl).symm.trans hafter)
      have htoken : x.generation = token := by
        by_contra hne
        rw [ChoiceSlot.settle, if_neg hne] at hslot
        exact hbefore (congrArg some hslot)
      have hwaits := underWay_of_honest hops h hx htoken
      have hloading : (s.run before).get? key = some .underWay :=
        get?_eq_some.mpr ⟨x, hx, hwaits⟩
      rw [← hslot, ChoiceSlot.settle_value, if_pos htoken]
      cases result <;> exact ⟨hloading, token, _, rfl⟩

/-- **The latest load counts.** Let results come in honestly. Then a result is taken if and
only if no load was begun and nothing was cleared for its key since its own load began; its
slot was loading until then, and shows the result from then on. A result that is not taken
changes nothing. Tokens grow, no faster than operations are made, and slots change their
phase as they should, each on its own. -/
theorem latest_load_counts (hops : s.Honest ops) : s.KeepsLatest ops where
  taken := fun _ _ _ _ _ _ h hbegun _ hx => taken_of_honest hops h hbegun hx
  growing := fun _ _ _ _ _ _ _ hbegun hagain => growing_of_begun hbegun hagain
  bounded := fun _ _ h => h.le
  apart := fun _ op _ _ k hk => (slot?_apply _ op k).trans (StoreOp.act_of_ne hk _)
  entered := fun _ _ _ h _ _ hafter hbefore => entered_of_honest hops h hafter hbefore

theorem honest_nil (s : ChoiceStore) : s.Honest [] :=
  fun _ _ _ _ _ h => (List.append_ne_nil_of_right_ne_nil _ (List.cons_ne_nil _ _) h.symm).elim

/-- What is done after honest operations stays honest. -/
theorem Honest.concat (hops : s.Honest ops) (op : StoreOp)
    (hop : ∀ key token result, op = .finishLoad key token result →
      s.Issued ops key token ∧ ∀ result', .finishLoad key token result' ∉ ops) :
    s.Honest (ops ++ [op]) := by
  intro before key token result after h
  rcases List.eq_nil_or_concat after with rfl | ⟨rest, last, rfl⟩
  · obtain ⟨rfl, hlast⟩ := List.append_inj' h rfl
    exact hop key token result (List.cons.inj hlast).1
  · have hsplit : ops ++ [op] =
        (before ++ .finishLoad key token result :: rest) ++ [last] := by simpa using h
    exact hops _ _ _ _ _ (List.append_inj' hsplit rfl).1

/-- Two loads are begun for a town, and then both results come in: the first is refused and
the second, which tells of a failure, is taken. -/
theorem latest_load_counts_town :
    let ops : List StoreOp := [.seed "town" [], .beginLoad "town", .beginLoad "town"]
    let early : StoreOp := .finishLoad "town" 1 (some [])
    ({} : ChoiceStore).Honest (ops ++ [early] ++ [.finishLoad "town" 2 none]) ∧
      (({} : ChoiceStore).run ops).finishLoad "town" 1 (some []) =
        (({} : ChoiceStore).run ops, false) ∧
      ((({} : ChoiceStore).run (ops ++ [early])).finishLoad "town" 2 none).1.get? "town" =
        some ⟨false, [], .failed⟩ := by
  intro ops early
  have hops : ({} : ChoiceStore).Honest ops :=
    (((honest_nil _).concat (.seed "town" []) nofun).concat
      (.beginLoad "town") nofun).concat (.beginLoad "town") nofun
  have hearly : ({} : ChoiceStore).Honest (ops ++ [early]) := by
    refine hops.concat _ fun key token result h => ?_
    obtain ⟨rfl, rfl, rfl⟩ := StoreOp.finishLoad.inj h
    exact ⟨⟨[.seed "town" []], [.beginLoad "town"], rfl, rfl⟩, by simp [ops]⟩
  have hlate : ({} : ChoiceStore).Honest (ops ++ [early] ++ [.finishLoad "town" 2 none]) := by
    refine hearly.concat _ fun key token result h => ?_
    obtain ⟨rfl, rfl, rfl⟩ := StoreOp.finishLoad.inj h
    exact ⟨⟨[.seed "town" [], .beginLoad "town"], [early], rfl, rfl⟩, by simp [ops, early]⟩
  have hkeeps := latest_load_counts hlate
  obtain ⟨hiff, -, hrefused⟩ :=
    hkeeps.taken [.seed "town" []] "town" 1 [.beginLoad "town"] (some []) _ rfl rfl _ rfl
  obtain ⟨hiff', htaken, -⟩ :=
    hkeeps.taken [.seed "town" [], .beginLoad "town"] "town" 2 [early] none [] rfl rfl _ rfl
  refine ⟨hlate, ?_, ?_⟩
  · have hnot : ¬ ∀ op ∈ [StoreOp.beginLoad "town"], ¬ op.Renews "town" := by
      simp [StoreOp.Renews]
    have hfalse := Bool.not_eq_true _ ▸ mt hiff.mp hnot
    exact Prod.ext (hrefused hfalse) hfalse
  · exact (htaken (hiff'.mpr (by simp [early, StoreOp.Renews]))).2

end ChoiceStore

end SmartForm
