import SmartForm.Proofs.Loading.Lane

/-!
# Sound boards

A lane is **sound** (`SmartForm.Lane.Sound`) if what it shows and what is under way agree.
Either it is **quiet**: nothing is under way and nothing is shown to be. Or it is
**busy**: one load is under way, it is the latest, its being under way is shown, and the
link that started it knows it.

The last clause is the one that carries the invariant. A cascade aborts the load that
the link knows of and starts another; were the two not tied together, an older load
could stay behind the new one, or the new one be aborted in its place.

Every operation keeps lanes sound (`SmartForm.Lane.Sound.cascade`,
`SmartForm.Lane.Sound.finish`), and so boards (`SmartForm.Board.Sound.set`,
`SmartForm.Board.Sound.finish`).
-/

namespace SmartForm

namespace Lane

/-- Nothing is under way, and nothing is shown to be. -/
def Quiet (x : Lane) : Prop :=
  x.loads = [] ∧
    ∀ s ∈ x.slot, s.current.value.isLoading = false ∧ s.current.value.phase ≠ .loading

/-- One load is under way; it is the latest, it is shown, and the link knows it. -/
def Busy (x : Lane) : Prop :=
  ∃ s l, x.slot = some s ∧ x.loads = [l] ∧ l.token = s.generation ∧
    s.current.value = .underWay ∧ ∀ k ∈ x.link, k.inFlight = some l.token

/-- **What is shown and what is under way agree.** -/
structure Sound (x : Lane) : Prop where
  /-- The link knows of no load that has not been started. -/
  past : ∀ s ∈ x.slot, ∀ k ∈ x.link, ∀ t ∈ k.inFlight, t ≤ s.generation
  /-- Either nothing is under way, or one load is. -/
  quiet_or_busy : x.Quiet ∨ x.Busy

theorem sound_empty : Lane.Sound ⟨none, none, none, []⟩ where
  past := fun s hs => by cases hs
  quiet_or_busy := Or.inl ⟨rfl, fun s hs => by cases hs⟩

variable {x : Lane}

/-- **What is shown to be under way is under way**, once and with the latest token. -/
theorem Sound.loads_of_loading (hx : x.Sound) {s : ChoiceSlot} (hs : x.slot = some s)
    (hload : s.current.value.isLoading = true) :
    ∃ l, x.loads = [l] ∧ l.token = s.generation := by
  rcases hx.quiet_or_busy with hq | ⟨s', l, hs', hl, ht, -, -⟩
  · rw [(hq.2 s hs).1] at hload
    cases hload
  · obtain rfl : s' = s := Option.some.inj (hs'.symm.trans hs)
    exact ⟨l, hl, ht⟩

/-- **What is under way is shown to be under way.** -/
theorem Sound.value_of_mem_loads (hx : x.Sound) {l : Load} (hl : l ∈ x.loads) :
    ∃ s, x.slot = some s ∧ s.current.value = .underWay := by
  rcases hx.quiet_or_busy with hq | ⟨s, -, hs, -, -, hv, -⟩
  · rw [hq.1] at hl
    cases hl
  · exact ⟨s, hs, hv⟩

theorem Sound.write (hx : x.Sound) (v : Json) : (x.write v).Sound := ⟨hx.past, hx.quiet_or_busy⟩

theorem slot_cascade {k : Link} (hk : x.link = some k) (v : Json) :
    (x.cascade v).slot = x.slot.map (.renew (if v.isEmpty then {} else .underWay)) := by
  rw [cascade, hk]

theorem link_cascade {k : Link} (hk : x.link = some k) (v : Json) :
    (x.cascade v).link = some { k with inFlight := (x.renewal k v).map Load.token } := by
  rw [cascade, hk]

/-- **A cascade leaves the new load alone on the lane**, in place of any that was under
way before. -/
theorem Sound.loads_cascade (hx : x.Sound) {k : Link} (hk : x.link = some k) (v : Json) :
    (x.cascade v).loads = (x.renewal k v).toList := by
  -- The new load is beyond all that the link knows of.
  have hkeep : ∀ y ∈ (x.renewal k v).toList, k.inFlight ≠ some y.token := by
    intro y hy hflight
    rw [Option.mem_toList, Lane.renewal] at hy
    split at hy
    · cases hy
    · obtain ⟨s, hs, rfl⟩ := Option.map_eq_some_iff.mp hy
      have hle : s.generation + 1 ≤ s.generation := hx.past s hs k hk _ hflight
      omega
  -- What was under way before is just what the link knows of.
  have hdrop : ∀ y ∈ x.loads, k.inFlight = some y.token := by
    intro y hy
    rcases hx.quiet_or_busy with ⟨hnil, -⟩ | ⟨s, l, -, hl, -, -, hknow⟩
    · rw [hnil] at hy
      cases hy
    · rw [hl, List.mem_singleton] at hy
      rw [hy]
      exact hknow k hk
  rw [cascade, hk]
  simp only [List.filter_append]
  rw [List.filter_eq_nil_iff.mpr fun y hy => by simpa using hdrop y hy,
    List.filter_eq_self.mpr fun y hy => by simpa using hkeep y hy, List.nil_append]

theorem Sound.cascade (hx : x.Sound) (v : Json) : (x.cascade v).Sound := by
  cases hk : x.link with
  | none =>
    rw [Lane.cascade, hk]
    exact hx
  | some k =>
    have hloads := hx.loads_cascade hk v
    have hslot := slot_cascade hk v
    have hlink := link_cascade hk v
    cases hs : x.slot with
    | none =>
      have hnone : x.renewal k v = none := by simp [renewal, hs]
      rw [hs] at hslot
      rw [hnone] at hloads
      refine ⟨fun s h => ?_, Or.inl ⟨hloads, fun s h => ?_⟩⟩ <;> rw [hslot] at h <;> cases h
    | some s =>
      rw [hs] at hslot
      -- An emptied parent leaves a quiet lane, and any other a busy one.
      cases hv : v.isEmpty with
      | true =>
        have hnone : x.renewal k v = none := by simp [renewal, hv]
        rw [hnone] at hloads hlink
        rw [hv] at hslot
        refine ⟨fun s' h k' hk' t ht => ?_, Or.inl ⟨hloads, fun s' h => ?_⟩⟩
        · rw [hlink] at hk'
          cases hk'
          cases ht
        · rw [hslot] at h
          cases h
          exact ⟨rfl, LoadPhase.noConfusion⟩
      | false =>
        have hsome : x.renewal k v = some ⟨k.child, s.generation + 1, k.binding, some v⟩ := by
          simp [renewal, hv, hs]
        rw [hsome] at hloads hlink
        rw [hv] at hslot
        refine ⟨fun s' h k' hk' t ht => ?_,
          Or.inr ⟨_, _, hslot, hloads, rfl, rfl, fun k' hk' => ?_⟩⟩
        · rw [hslot] at h
          rw [hlink] at hk'
          cases h
          cases hk'
          cases ht
          exact Nat.le_refl _
        · rw [hlink] at hk'
          cases hk'
          rfl

theorem Sound.finish (hx : x.Sound) (token : Nat) (records : Option (List Json)) :
    (x.finish token records).Sound := by
  rcases hx.quiet_or_busy with hq | ⟨s, l, hs, hl, ht, hv, hknow⟩
  · rw [Lane.finish, hq.1]
    exact hx
  · by_cases hlt : l.token = token
    · have hfinish : x.finish token records =
          { x with
            slot := some (s.settle token (Board.resultOf l.binding records))
            loads := [] } := by
        rw [Lane.finish, hl, hs]
        simp [hlt]
      rw [hfinish]
      refine ⟨fun s' h k hk t hkt => ?_, Or.inl ⟨rfl, fun s' h => ?_⟩⟩
      · cases h
        rw [ChoiceSlot.settle_generation]
        exact hx.past s hs k hk t hkt
      · cases h
        rw [ChoiceSlot.settle_value, if_pos (ht.symm.trans hlt)]
        cases Board.resultOf l.binding records <;> exact ⟨rfl, LoadPhase.noConfusion⟩
    · have hfinish : x.finish token records = x := by
        rw [Lane.finish, hl]
        simp [hlt]
      rw [hfinish]
      exact hx

end Lane

namespace Board

section Preserved

variable {b : Board}

theorem Wired.set (hb : b.Wired) (p : String) (v : Json) : (b.set p v).Wired :=
  hb.of_frame (frame_set b p v)

theorem Wired.finish (hb : b.Wired) (key : String) (token : Nat)
    (records : Option (List Json)) : (b.finish key token records).Wired :=
  hb.of_frame (frame_finish b key token records)

/-- **A board in which everything that is shown and everything that is under way agree.** -/
structure Sound (b : Board) : Prop where
  /-- Links lead from cells to other cells. -/
  wired : b.Wired
  /-- Every lane is sound. -/
  lanes : ∀ k, (b.lane k).Sound

theorem Sound.set (hb : b.Sound) (p : String) (v : Json) : (b.set p v).Sound := by
  refine ⟨hb.wired.set p v, fun k => ?_⟩
  rw [lane_set hb.wired]
  split
  · exact (hb.lanes k).write v
  · split
    · exact (hb.lanes k).cascade v
    · exact hb.lanes k

theorem Sound.finish (hb : b.Sound) (key : String) (token : Nat)
    (records : Option (List Json)) : (b.finish key token records).Sound := by
  refine ⟨hb.wired.finish key token records, fun k => ?_⟩
  rw [lane_finish]
  split
  · exact (hb.lanes k).finish token records
  · exact hb.lanes k

end Preserved

end Board

end SmartForm
