import SmartForm.Proofs.Form.Engine

/-!
# Engines without a past

When a form is made anew, what is left of the former ones has no effect on it: neither a
load that ends late nor a held cell that is set. So an engine with a past and an engine
that has just been made go the same way from there on
(`SmartForm.FormEngine.build_leaves_past`).

The one thing to know is that a past can be **forgotten** (`SmartForm.FormEngine.forget`):
the first forms of an engine are replaced by a single one that was never made, and the
cells of them that are held are let go. Whatever happens to the engine, forgetting before
and forgetting after it are the same (`SmartForm.FormEngine.forget_undergo`). Only what
happens to a forgotten cell has no counterpart, and a cell of a later form is known under
another number.
-/

namespace SmartForm

/-! ### What happens to an engine -/

/-- What can happen to an engine and to all the forms that it has had. -/
inductive Happening where
  /-- The engine does what it is asked to. -/
  | ask (ev : EngineEvent)
  /-- A load for a cell of the present form or of a former one comes to its end, with
  records or without. -/
  | finish (r : CellRef) (token : Nat) (records : Option (List Json))

namespace FormEngine

/-- What becomes of an engine. -/
def undergo (e : FormEngine) : Happening → FormEngine
  | .ask ev => e.handle ev
  | .finish r token records =>
    e.modifyForm r.form fun f => f.modify fun b => b.finish r.key token records

/-- What becomes of an engine to which one thing happens after the other. -/
def undergoAll (e : FormEngine) (hs : List Happening) : FormEngine := hs.foldl undergo e

end FormEngine

/-! ### Forgetting -/

/-- A cell as it is known once the first `n` forms are forgotten; nothing for a cell of
one of these. A single form stands for them. -/
def CellRef.since? (n : Nat) (r : CellRef) : Option CellRef :=
  if r.form < n then none else some ⟨r.form - n + 1, r.key⟩

/-- What an engine is asked to do, seen by an engine that has forgotten the first `n`
forms. -/
def EngineEvent.since? (n : Nat) : EngineEvent → Option EngineEvent
  | .release r => (r.since? n).map .release
  | .setCell r v => (r.since? n).map fun r => .setCell r v
  | ev => some ev

/-- What happens to an engine, seen by an engine that has forgotten the first `n`
forms. -/
def Happening.since? (n : Nat) : Happening → Option Happening
  | .ask ev => (ev.since? n).map .ask
  | .finish r token records => (r.since? n).map fun r => .finish r token records

namespace CellRef

variable {n : Nat} {r x : CellRef}

theorem since?_eq_none : r.since? n = none ↔ r.form < n := by
  rw [since?]
  split <;> simp_all

theorem since?_of_le (h : n ≤ r.form) : r.since? n = some ⟨r.form - n + 1, r.key⟩ :=
  if_neg (Nat.not_lt.mpr h)

theorem le_of_since?_eq_some (h : r.since? n = some x) : n ≤ r.form := by
  by_contra hlt
  rw [since?_eq_none.mpr (Nat.not_le.mp hlt)] at h
  cases h

theorem since?_inj (hr : n ≤ r.form) : x.since? n = r.since? n ↔ x = r := by
  refine ⟨fun h => ?_, fun h => h ▸ rfl⟩
  have hx : n ≤ x.form := le_of_since?_eq_some (h.trans (since?_of_le hr))
  rw [since?_of_le hr, since?_of_le hx, Option.some.injEq, CellRef.mk.injEq] at h
  obtain ⟨m, k⟩ := r
  obtain ⟨m', k'⟩ := x
  simp only at h hr hx
  obtain ⟨hm, rfl⟩ := h
  rw [CellRef.mk.injEq]
  exact ⟨by omega, rfl⟩

/-- A cell that is not forgotten is among the others under its new number. -/
theorem mem_filterMap_since? (hr : r.since? n = some x) (rs : List CellRef) :
    x ∈ rs.filterMap (since? n) ↔ r ∈ rs := by
  rw [List.mem_filterMap, ← hr]
  simp only [since?_inj (le_of_since?_eq_some hr), exists_eq_right]

/-- A cell that is left out once is left out once under its new number, unless it is
forgotten. -/
theorem filterMap_since?_erase (n : Nat) (r : CellRef) (rs : List CellRef) :
    (rs.erase r).filterMap (since? n) =
      ((r.since? n).map (rs.filterMap (since? n)).erase).getD (rs.filterMap (since? n)) := by
  induction rs with
  | nil => cases r.since? n <;> rfl
  | cons x rs ih =>
    by_cases hx : x = r
    · subst hx
      rw [List.erase_cons_head, List.filterMap_cons]
      cases x.since? n with
      | none => rfl
      | some y => rw [Option.map_some, Option.getD_some, List.erase_cons_head]
    · rw [List.erase_cons_tail (by simpa using hx), List.filterMap_cons, List.filterMap_cons, ih]
      cases hr : r.since? n with
      | none => cases x.since? n <;> rfl
      | some r' =>
        cases hx' : x.since? n with
        | none => rfl
        | some x' =>
          -- Two cells that are not forgotten stay different.
          have hne : x' ≠ r' := by
            rintro rfl
            exact hx ((since?_inj (le_of_since?_eq_some hr)).mp (hx'.trans hr.symm))
          rw [Option.map_some, Option.getD_some, Option.map_some, Option.getD_some,
            List.erase_cons_tail (by simpa using hne)]

end CellRef

namespace FormEngine

/-- The engine with its first `n` forms forgotten. -/
def forget (n : Nat) (e : FormEngine) : FormEngine :=
  { e with
    former := {} :: e.former.drop n
    held := e.held.filterMap (CellRef.since? n) }

variable {e : FormEngine} {n : Nat}

@[simp] theorem form_forget (n : Nat) (e : FormEngine) : (e.forget n).form = e.form := rfl

theorem number_forget (n : Nat) (e : FormEngine) : (e.forget n).number = e.number - n + 1 := by
  simp [forget, number]

/-! #### Changes of one form -/

/-- A form that is not forgotten is changed under its new number; changes of a forgotten
one are forgotten. -/
theorem forget_modifyForm (hn : n ≤ e.number) (m : Nat) (f : Form → Form) :
    (e.modifyForm m f).forget n =
      if m < n then e.forget n else (e.forget n).modifyForm (m - n + 1) f := by
  rw [modifyForm]
  by_cases hm : m = e.number
  · have hlt : ¬ m < n := by omega
    have hnumber : m - n + 1 = (e.forget n).number := by rw [number_forget, hm]
    rw [if_pos hm, if_neg hlt, modifyForm, if_pos hnumber]
    rfl
  · rw [if_neg hm]
    by_cases hlt : m < n
    · rw [if_pos hlt, forget, List.drop_modify_of_lt _ _ _ _ hlt]
      rfl
    · have hnumber : m - n + 1 ≠ (e.forget n).number := by
        rw [number_forget]
        omega
      rw [if_neg hlt, modifyForm, if_neg hnumber, forget,
        List.drop_modify_of_ge _ _ _ _ (Nat.not_lt.mp hlt), forget, List.modify_succ_cons]

/-- Changing the form of a cell, then forgetting. -/
theorem forget_modifyForm_ref (hn : n ≤ e.number) (r : CellRef) (f : String → Form → Form) :
    (e.modifyForm r.form (f r.key)).forget n =
      ((r.since? n).map fun r' => (e.forget n).modifyForm r'.form (f r'.key)).getD
        (e.forget n) := by
  rw [forget_modifyForm hn, CellRef.since?]
  split <;> rfl

@[simp] theorem number_modifyForm (e : FormEngine) (m : Nat) (f : Form → Form) :
    (e.modifyForm m f).number = e.number := by
  rw [modifyForm]
  split
  · rfl
  · exact List.length_modify ..

@[simp] theorem held_modifyForm (e : FormEngine) (m : Nat) (f : Form → Form) :
    (e.modifyForm m f).held = e.held := by
  rw [modifyForm]
  split <;> rfl

/-! #### Held cells -/

/-- The engine with a held cell let go once, but for what becomes of the cell. -/
def unhold (e : FormEngine) (r : CellRef) : FormEngine := { e with held := e.held.erase r }

theorem release_eq (e : FormEngine) (r : CellRef) :
    e.release r =
      if r.form = e.number ∨ r ∈ e.held.erase r then e.unhold r
      else (e.unhold r).modifyForm r.form fun f => f.modify fun b => b.drop r.key := rfl

@[simp] theorem number_release (e : FormEngine) (r : CellRef) :
    (e.release r).number = e.number := by
  rw [release_eq]
  split
  · rfl
  · exact number_modifyForm ..

@[simp] theorem held_release (e : FormEngine) (r : CellRef) :
    (e.release r).held = e.held.erase r := by
  rw [release_eq]
  split
  · rfl
  · exact held_modifyForm ..

/-- A cell of the present form that is held is one of the present form after forgetting. -/
theorem forget_hold (hn : n ≤ e.number) (key : String) :
    (e.hold key).forget n = (e.forget n).hold key := by
  have hsince : CellRef.since? n ⟨e.number, key⟩ = some ⟨e.number - n + 1, key⟩ :=
    CellRef.since?_of_le hn
  rw [hold, hold, number_forget, forget, List.filterMap_cons, hsince]
  rfl

theorem forget_unhold (n : Nat) (e : FormEngine) (r : CellRef) :
    (e.unhold r).forget n = ((r.since? n).map (e.forget n).unhold).getD (e.forget n) := by
  have hheld : (e.unhold r).held.filterMap (CellRef.since? n) =
      ((r.since? n).map (e.forget n).held.erase).getD (e.forget n).held :=
    CellRef.filterMap_since?_erase n r e.held
  rw [forget, hheld]
  cases r.since? n <;> rfl

/-- Letting a cell go, then forgetting. -/
theorem forget_release (hn : n ≤ e.number) (r : CellRef) :
    (e.release r).forget n = ((r.since? n).map (e.forget n).release).getD (e.forget n) := by
  have hunhold := forget_unhold n e r
  rw [release_eq]
  by_cases hlt : r.form < n
  · have hnone : r.since? n = none := CellRef.since?_eq_none.mpr hlt
    rw [hnone] at hunhold ⊢
    split
    · exact hunhold
    · rw [forget_modifyForm (e := e.unhold r) hn, if_pos hlt, hunhold]
      rfl
  · have hsome := CellRef.since?_of_le (Nat.not_lt.mp hlt)
    have hheld : (e.unhold r).forget n = (e.forget n).unhold ⟨r.form - n + 1, r.key⟩ := by
      rw [hunhold, hsome]
      rfl
    -- The cell is still held, or is of the present form, on both sides or on neither.
    have hmem : ⟨r.form - n + 1, r.key⟩ ∈ (e.forget n).held.erase ⟨r.form - n + 1, r.key⟩ ↔
        r ∈ e.held.erase r := by
      have hiff := CellRef.mem_filterMap_since? hsome (e.held.erase r)
      rw [CellRef.filterMap_since?_erase, hsome] at hiff
      exact hiff
    have hnumber : r.form - n + 1 = (e.forget n).number ↔ r.form = e.number := by
      rw [number_forget]
      omega
    rw [hsome, Option.map_some, Option.getD_some, release_eq]
    simp only [hmem, hnumber]
    split
    · exact hheld
    · rw [forget_modifyForm (e := e.unhold r) hn, if_neg hlt, hheld]

/-! #### Everything else -/

theorem forget_build (hn : n ≤ e.number) (fields : List FieldSpec) :
    (e.build fields).forget n = (e.forget n).build fields := by
  have hheld : (e.forget n).heldOf (e.forget n).number = e.heldOf e.number := by
    rw [heldOf, heldOf, number_forget, forget]
    simp only
    induction e.held with
    | nil => rfl
    | cons x xs ih =>
      rw [List.filterMap_cons]
      by_cases hlt : x.form < n
      · have hne : x.form ≠ e.number := by omega
        simp [CellRef.since?_eq_none.mpr hlt, ih, hne]
      · rw [CellRef.since?_of_le (Nat.not_lt.mp hlt)]
        by_cases hx : x.form = e.number
        · simp [hx, ih]
        · have hne : x.form - n ≠ e.number - n := by omega
          simp [hx, hne, ih]
  rw [build, build, hheld, forget, List.drop_append_of_le_length hn]
  rfl

/-- The calls of the loader are those of the former forms, then those of the present
one. -/
theorem calls_sleep (e : FormEngine) (ms : Nat) :
    (e.sleep ms).2 =
      (e.former.flatMap fun t => (t.timed.sleep e.service e.now ms).2) ++
        (e.current.timed.sleep e.service e.now ms).2 := by
  simp only [sleep, modifyAll, List.flatMap_map]

/-- The calls of the loader on behalf of the first `n` forms while time goes by. -/
def callsBefore (n : Nat) (e : FormEngine) (ms : Nat) : List LoadCall :=
  (e.former.take n).flatMap fun t => (t.timed.sleep e.service e.now ms).2

/-- **Forms sleep apart**: the calls of the loader are those on behalf of the forms that are
forgotten, then those of the others. -/
theorem calls_forget (n : Nat) (e : FormEngine) (ms : Nat) :
    (e.sleep ms).2 = e.callsBefore n ms ++ ((e.forget n).sleep ms).2 := by
  have hblank : (({} : TimedForm).timed.sleep e.service e.now ms).2 = [] := rfl
  have hforget : (e.forget n).former = {} :: e.former.drop n := rfl
  rw [calls_sleep, calls_sleep, hforget, List.flatMap_cons]
  conv_lhs => rw [← List.take_append_drop n e.former, List.flatMap_append, List.append_assoc]
  simp only [forget, hblank, List.nil_append]
  rfl

theorem forget_sleep (n : Nat) (e : FormEngine) (ms : Nat) :
    (e.sleep ms).1.forget n = ((e.forget n).sleep ms).1 := by
  simp only [sleep, modifyAll, forget, List.map_drop, List.map_cons]
  rfl

theorem forget_settle (n : Nat) (e : FormEngine) :
    e.settle.1.forget n = (e.forget n).settle.1 := by
  rw [settle_eq, settle_eq, form_forget]
  split
  · exact forget_sleep n e e.rest
  · rfl

theorem forget_fill (n : Nat) (e : FormEngine) (ev : FormEvent) :
    (e.fill ev).forget n = (e.forget n).fill ev := by
  cases ev with
  | set key v =>
    rw [fill, fill, set, set, form_forget]
    cases e.form.set key v <;> rfl
  | _ => rfl

/-! ### One happening after the other -/

theorem forget_handle (hn : n ≤ e.number) (ev : EngineEvent) :
    (e.handle ev).forget n = ((ev.since? n).map (e.forget n).handle).getD (e.forget n) := by
  cases ev with
  | build fields => exact forget_build hn fields
  | fill ev => exact forget_fill n e ev
  | hold key => exact forget_hold hn key
  | release r =>
    refine (forget_release hn r).trans ?_
    rw [EngineEvent.since?, Option.map_map]
    rfl
  | setCell r v =>
    refine (forget_modifyForm_ref hn r fun key f => f.modify fun b => b.set key v).trans ?_
    rw [EngineEvent.since?, Option.map_map]
    rfl
  | sleep ms => exact forget_sleep n e ms
  | settle => exact forget_settle n e

/-- **A past can be forgotten at any time**: whatever happens to an engine, it is the same
whether the past is forgotten before or after it. -/
theorem forget_undergo (hn : n ≤ e.number) (h : Happening) :
    (e.undergo h).forget n = ((h.since? n).map (e.forget n).undergo).getD (e.forget n) := by
  cases h with
  | ask ev =>
    refine (forget_handle hn ev).trans ?_
    rw [Happening.since?, Option.map_map]
    rfl
  | finish r token records =>
    refine (forget_modifyForm_ref hn r
      fun key f => f.modify fun b => b.finish key token records).trans ?_
    rw [Happening.since?, Option.map_map]
    rfl

/-! ### Held cells are cells -/

/-- Nobody holds a cell of a form that is not there. -/
def HoldsKnown (e : FormEngine) : Prop := ∀ r ∈ e.held, r.form ≤ e.number

theorem HoldsKnown.of_held_subset (he : e.HoldsKnown) {e' : FormEngine} (hheld : e'.held ⊆ e.held)
    (hnumber : e.number ≤ e'.number) : e'.HoldsKnown :=
  fun r hr => Nat.le_trans (he r (hheld hr)) hnumber

theorem held_fill (e : FormEngine) (ev : FormEvent) :
    (e.fill ev).held = e.held ∧ (e.fill ev).former = e.former := by
  cases ev with
  | set key v =>
    rw [fill, set]
    cases e.form.set key v <;> exact ⟨rfl, rfl⟩
  | _ => exact ⟨rfl, rfl⟩

theorem number_sleep (e : FormEngine) (ms : Nat) : (e.sleep ms).1.number = e.number := by
  simp [sleep, modifyAll, number]

/-- No form is lost. -/
theorem number_undergo (e : FormEngine) (h : Happening) : e.number ≤ (e.undergo h).number := by
  cases h with
  | finish r token records => exact Nat.le_of_eq (number_modifyForm ..).symm
  | ask ev =>
    cases ev with
    | build fields =>
      rw [undergo, handle, number, number, build, List.length_append]
      exact Nat.le_add_right ..
    | fill ev => exact Nat.le_of_eq (congrArg List.length (held_fill e ev).2).symm
    | hold key => exact Nat.le_refl _
    | release r => exact Nat.le_of_eq (number_release e r).symm
    | setCell r v => exact Nat.le_of_eq (number_modifyForm ..).symm
    | sleep ms => exact Nat.le_of_eq (number_sleep e ms).symm
    | settle =>
      rw [undergo, handle, settle_eq]
      split
      · exact Nat.le_of_eq (number_sleep e e.rest).symm
      · exact Nat.le_refl _

/-- Only cells of the present form come to be held. -/
theorem HoldsKnown.undergo (he : e.HoldsKnown) (h : Happening) : (e.undergo h).HoldsKnown := by
  have hpart : (e.undergo h).held ⊆ e.held → (e.undergo h).HoldsKnown :=
    fun hheld => he.of_held_subset hheld (number_undergo e h)
  have hsame : (e.undergo h).held = e.held → (e.undergo h).HoldsKnown :=
    fun hheld => hpart fun _ hr => hheld ▸ hr
  cases h with
  | finish r token records => exact hsame (held_modifyForm ..)
  | ask ev =>
    cases ev with
    | build fields => exact hsame rfl
    | fill ev => exact hsame (held_fill e ev).1
    | hold key => exact List.forall_mem_cons.mpr ⟨Nat.le_refl _, he⟩
    | release r =>
      refine hpart ?_
      rw [FormEngine.undergo, handle, held_release]
      exact List.erase_subset
    | setCell r v => exact hsame (held_modifyForm ..)
    | sleep ms => exact hsame rfl
    | settle =>
      refine hsame ?_
      rw [FormEngine.undergo, handle, settle_eq]
      split <;> rfl

-- Cells of two forms are held under one key, and neither takes the place of the other.
example (service : LoadService) (fields : List FieldSpec) :
    ((((({ service } : FormEngine).build fields).hold "state").build fields).hold "state").held =
      [⟨2, "state"⟩, ⟨1, "state"⟩] := rfl

theorem HoldsKnown.undergoAll (he : e.HoldsKnown) (hs : List Happening) :
    (e.undergoAll hs).HoldsKnown := by
  induction hs generalizing e with
  | nil => exact he
  | cons h hs ih => exact ih (he.undergo h)

/-- **A past can be forgotten**, however much happens after it. -/
theorem forget_undergoAll (hn : n ≤ e.number) (hs : List Happening) :
    (e.undergoAll hs).forget n = (e.forget n).undergoAll (hs.filterMap (Happening.since? n)) := by
  induction hs generalizing e with
  | nil => rfl
  | cons h hs ih =>
    refine (ih (Nat.le_trans hn (number_undergo e h))).trans ?_
    rw [forget_undergo hn, List.filterMap_cons]
    cases h.since? n <;> rfl

/-! ### A new form -/

theorem service_modifyForm (e : FormEngine) (m : Nat) (f : Form → Form) :
    (e.modifyForm m f).service = e.service := by
  rw [modifyForm]
  split <;> rfl

theorem service_release (e : FormEngine) (r : CellRef) : (e.release r).service = e.service := by
  rw [release_eq]
  split
  · rfl
  · exact service_modifyForm ..

/-- An engine keeps its loader. -/
theorem service_undergo (e : FormEngine) (h : Happening) : (e.undergo h).service = e.service := by
  cases h with
  | finish r token records => exact service_modifyForm ..
  | ask ev =>
    cases ev with
    | build fields => rfl
    | fill ev =>
      cases ev with
      | set key v =>
        rw [undergo, handle, fill, set]
        cases e.form.set key v <;> rfl
      | _ => rfl
    | hold key => rfl
    | release r => exact service_release e r
    | setCell r v => exact service_modifyForm ..
    | sleep ms => rfl
    | settle =>
      rw [undergo, handle, settle_eq]
      split <;> rfl

theorem service_undergoAll (e : FormEngine) (hs : List Happening) :
    (e.undergoAll hs).service = e.service := by
  induction hs generalizing e with
  | nil => rfl
  | cons h hs ih => exact (ih _).trans (service_undergo e h)

/-- Of an engine that makes a form and forgets all forms before, nothing is left but its
loader, the time and the form. -/
theorem forget_build_all (he : e.HoldsKnown) (fields : List FieldSpec) :
    (e.build fields).forget (e.number + 1) =
      ({ service := e.service, now := e.now } : FormEngine).build fields := by
  have hheld : e.held.filterMap (CellRef.since? (e.number + 1)) = [] :=
    List.filterMap_eq_nil_iff.mpr fun r hr =>
      CellRef.since?_eq_none.mpr (Nat.lt_succ_of_le (he r hr))
  have hformer : (e.build fields).former.drop (e.number + 1) = [] :=
    List.drop_eq_nil_of_le (by simp [build, number])
  rw [forget, hformer]
  simp only [build, hheld]
  rfl

/-- **A new form has no past.** Let anything happen to an engine (`past`), and let it then
make a form. From there on (`future`) the present form is at all times the one of an engine
that was made just then, with the same loader and the same longest time: it holds and shows
the same, the same loads are under way, and they will end at the same times. What happens to
the cells and the loads of the forms before has no counterpart there. The calls of the
loader are those on behalf of the forms before, and then the same. -/
theorem build_leaves_past (service : LoadService) (past : List Happening)
    (fields : List FieldSpec) (future : List Happening) :
    let e := ({ service } : FormEngine).undergoAll past
    let n := e.number + 1
    let old := (e.build fields).undergoAll future
    let new := (({ service, now := e.now } : FormEngine).build fields).undergoAll
      (future.filterMap (Happening.since? n))
    old.current = new.current ∧ old.now = new.now ∧
      ∀ ms, (old.sleep ms).2 = old.callsBefore n ms ++ (new.sleep ms).2 := by
  intro e n old new
  have hstart : ({ service } : FormEngine).HoldsKnown := fun r hr => (List.not_mem_nil hr).elim
  have he : e.HoldsKnown := hstart.undergoAll past
  have hservice : e.service = service := service_undergoAll _ past
  have hn : n ≤ (e.build fields).number := by simp [n, build, number]
  -- The one engine is the other with its past forgotten.
  have hforget : old.forget n = new := by
    refine (forget_undergoAll hn future).trans ?_
    rw [forget_build_all he, hservice]
  rw [← hforget]
  exact ⟨rfl, rfl, old.calls_forget n⟩

end FormEngine

end SmartForm
