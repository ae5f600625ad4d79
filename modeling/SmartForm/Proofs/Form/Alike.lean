import Mathlib.Data.List.Nodup
import SmartForm.Proofs.Form.Freshness
import SmartForm.Proofs.Form.Patching
import SmartForm.Proofs.Form.Settling
import SmartForm.Proofs.Loading.Alike

/-!
# Forms that are alike

Forms are alike (`SmartForm.Form.Alike`) if their boards are. Whatever happens to them, they
stay so, and they show the same at all times (`SmartForm.Form.ShowsSame`).

This is about forms on a clock, too. The order in which loads stand on a board is the order
in which the loader is called, and so the order of ends that come at the same time. The one
thing to know is why it makes no difference. For a key at most one load is under way, so
there is at most one end to come for it (`SmartForm.TimedBoard.Alike.once`), and ends for
different keys reach different lanes (`SmartForm.Board.lane_finishAll`).
-/

namespace SmartForm

/-! ### Ends for different keys -/

namespace Board

variable {b b' : Board}

/-- A lane hears of the end that is there for its key, and of no other. -/
theorem lane_finishAll (b : Board) {ends : List LoadEnd} (hends : (ends.map LoadEnd.key).Nodup)
    (k : String) :
    (b.finishAll ends).lane k =
      match ends.find? fun d => d.key = k with
      | some d => (b.lane k).finish d.token d.records
      | none => b.lane k := by
  induction ends generalizing b with
  | nil => rfl
  | cons d ends ih =>
    obtain ⟨hd, hrest⟩ := List.nodup_cons.mp hends
    refine (ih (b.finish d.key d.token d.records) hrest).trans ?_
    rw [lane_finish, List.find?_cons]
    by_cases hk : d.key = k
    · -- All other ends are for other keys.
      have hnone : (ends.find? fun x => x.key = k) = none := by
        refine List.find?_eq_none.mpr fun x hx hkey => hd ?_
        rw [hk, ← of_decide_eq_true hkey]
        exact List.mem_map_of_mem hx
      simp [hk, hnone]
    · simp [hk, Ne.symm hk]

/-- Loads that end in another order leave boards that are alike. -/
theorem Alike.finishAll (h : b.Alike b') {ends ends' : List LoadEnd}
    (hends : (ends.map LoadEnd.key).Nodup) (hperm : ends'.Perm ends) :
    (b.finishAll ends).Alike (b'.finishAll ends') := by
  have hends' : (ends'.map LoadEnd.key).Nodup := (hperm.map _).nodup_iff.mpr hends
  refine ⟨(frame_finishAll ..).trans (h.frame_eq.trans (frame_finishAll ..).symm), fun k => ?_⟩
  have hfind : (ends'.find? fun d => d.key = k) = ends.find? fun d => d.key = k := by
    refine Option.ext fun d => ?_
    rw [find?_key_eq_some hends', find?_key_eq_some hends, hperm.mem_iff]
  rw [lane_finishAll _ hends', lane_finishAll _ hends, hfind, h.lane_eq]

/-- No two loads under way are for the same key. -/
theorem Sound.nodup_loads (hb : b.Sound) : (b.loads.map Load.key).Nodup := by
  refine List.nodup_iff_count_le_one.mpr fun k => ?_
  have hcount : (b.loads.map Load.key).count k = (b.lane k).loads.length := by
    rw [List.count, List.countP_map, List.countP_eq_length_filter]
    exact congrArg List.length (List.filter_congr fun l _ => beq_eq_decide ..)
  rw [hcount]
  rcases (hb.lanes k).quiet_or_busy with ⟨hnil, -⟩ | ⟨-, l, -, hl, -⟩
  · rw [hnil]
    exact Nat.zero_le _
  · rw [hl]
    exact Nat.le_refl _

end Board

/-! ### Boards on a clock -/

namespace TimedBoard

/-- **Two boards on a clock that are alike.** The ends that will come are the same, and they
are in order on both: each is the end of a load under way, and no load has two. So a board
is alike to itself just if its ends are in order. -/
structure Alike (t t' : TimedBoard) : Prop where
  /-- The boards are alike. -/
  board : t.board.Alike t'.board
  /-- The same ends will come. -/
  ends : t'.ends.Perm t.ends
  /-- What will end is under way. -/
  under_way : ∀ d ∈ t.ends, ∃ l ∈ t.board.loads, l.key = d.key ∧ l.token = d.token
  /-- No two ends are for the same key. -/
  once : (t.ends.map LoadEnd.key).Nodup

variable {t t' : TimedBoard}

theorem exists_load_iff (b : Board) (key : String) (token : Nat) :
    (b.load? key token).isSome ↔ ∃ l ∈ b.loads, l.key = key ∧ l.token = token := by
  simp [Board.load?, List.find?_isSome, Board.isLoad]

namespace Alike

/-- On a board on which no end will come, they are in order. -/
theorem start (b : Board) : (⟨b, []⟩ : TimedBoard).Alike ⟨b, []⟩ where
  board := .refl b
  ends := .refl []
  under_way _ hd := (List.not_mem_nil hd).elim
  once := List.nodup_nil

theorem once_filter (h : t.Alike t') (p : LoadEnd → Bool) :
    ((t.ends.filter p).map LoadEnd.key).Nodup :=
  h.once.sublist (List.filter_sublist.map _)

theorem modify (h : t.Alike t') {f g : Board → Board} (hfg : (f t.board).Alike (g t'.board)) :
    (t.modify f).Alike (t'.modify g) where
  board := hfg
  ends := by
    simp only [TimedBoard.modify, hfg.load?_eq]
    exact h.ends.filter _
  under_way d hd := (exists_load_iff ..).mp (List.mem_filter.mp hd).2
  once := h.once_filter _

/-- The loader is called for the same loads. -/
theorem resting_perm (h : t.Alike t') : t'.resting.Perm t.resting := by
  have hcalled : ∀ l : Load, (!t'.ends.any fun e => e.key = l.key && e.token = l.token) =
      !t.ends.any fun e => e.key = l.key && e.token = l.token := fun l =>
    congrArg not h.ends.any_eq
  simp only [resting, hcalled]
  exact h.board.loads_perm.filter _

/-- A load that rests has no end yet, nor has any other load for its key. -/
theorem key_ne_of_resting (h : t.Alike t') (hb : t.board.Sound) {d : LoadEnd} (hd : d ∈ t.ends)
    {l : Load} (hl : l ∈ t.resting) : d.key ≠ l.key := by
  intro hkeys
  obtain ⟨hload, hcalled⟩ := List.mem_filter.mp hl
  -- The end is that of the one load for the key, for which the loader was called then.
  obtain ⟨l', hl', hkey, htoken⟩ := h.under_way d hd
  obtain rfl : l' = l := List.inj_on_of_nodup_map hb.nodup_loads hl' hload (hkey.trans hkeys)
  have hany : (t.ends.any fun e => e.key = l'.key && e.token = l'.token) = true :=
    List.any_eq_true.mpr ⟨d, hd, by simp [hkey, htoken]⟩
  rw [hany] at hcalled
  cases hcalled

theorem wake (h : t.Alike t') (hb : t.board.Sound) (service : LoadService) (now : Nat) :
    (t.wake service now).1.Alike (t'.wake service now).1 where
  board := ⟨h.board.frame_eq, h.board.lane_eq⟩
  ends := h.ends.append (h.resting_perm.map _)
  under_way d hd := by
    rcases List.mem_append.mp hd with hd | hd
    · exact h.under_way d hd
    · obtain ⟨l, hl, rfl⟩ := List.mem_map.mp hd
      exact ⟨l, (List.mem_filter.mp hl).1, rfl, rfl⟩
  once := by
    have hends : (t.wake service now).1.ends.map LoadEnd.key =
        t.ends.map LoadEnd.key ++ t.resting.map Load.key := by
      rw [TimedBoard.wake, List.map_append, List.map_map]
      rfl
    have hresting : (t.resting.map Load.key).Nodup :=
      hb.nodup_loads.sublist (List.filter_sublist.map Load.key)
    rw [hends]
    refine List.nodup_append.mpr ⟨h.once, hresting, fun k hk k' hk' => ?_⟩
    obtain ⟨d, hd, rfl⟩ := List.mem_map.mp hk
    obtain ⟨l, hl, rfl⟩ := List.mem_map.mp hk'
    exact h.key_ne_of_resting hb hd hl

/-- A load whose end comes later goes on. -/
theorem mem_loads_endBy (h : t.Alike t') {d : LoadEnd} (hd : d ∈ t.ends) {time : Nat}
    (hlater : time < d.time) {l : Load} (hl : l ∈ t.board.loads) (hkey : l.key = d.key) :
    l ∈ (t.endBy time).board.loads := by
  have hloads : (t.endBy time).board.loads = t.board.loads.filter fun l =>
      !Board.ended (sortEnds (t.ends.filter fun e => e.time ≤ time)) l := Board.loads_finishAll ..
  rw [hloads, List.mem_filter, Bool.not_eq_true']
  refine ⟨hl, Bool.eq_false_iff.mpr fun hended => ?_⟩
  -- Another end for the load would be a second one for its key.
  obtain ⟨x, hx, hload⟩ := List.any_eq_true.mp hended
  obtain ⟨hx, hdue⟩ := List.mem_filter.mp (mem_sortEnds.mp hx)
  rw [Board.isLoad, Bool.and_eq_true, decide_eq_true_iff] at hload
  obtain rfl : x = d := List.inj_on_of_nodup_map h.once hx hd (hload.1.symm.trans hkey)
  exact absurd (of_decide_eq_true hdue) (Nat.not_le_of_lt hlater)

theorem endBy (h : t.Alike t') (time : Nat) : (t.endBy time).Alike (t'.endBy time) := by
  have hdue : (sortEnds (t'.ends.filter fun e => e.time ≤ time)).Perm
      (sortEnds (t.ends.filter fun e => e.time ≤ time)) :=
    (perm_sortEnds _).trans ((h.ends.filter _).trans (perm_sortEnds _).symm)
  have honce : ((sortEnds (t.ends.filter fun e => e.time ≤ time)).map LoadEnd.key).Nodup :=
    ((perm_sortEnds _).map _).nodup_iff.mpr (h.once_filter _)
  refine ⟨h.board.finishAll honce hdue, h.ends.filter _, fun d hd => ?_, h.once_filter _⟩
  obtain ⟨hmem, hlater⟩ := List.mem_filter.mp hd
  obtain ⟨l, hl, hkey, htoken⟩ := h.under_way d hmem
  exact ⟨l, h.mem_loads_endBy hmem (of_decide_eq_true hlater) hl hkey, hkey, htoken⟩

theorem sleep (h : t.Alike t') (hb : t.board.Sound) (service : LoadService) (now ms : Nat) :
    (t.sleep service now ms).1.Alike (t'.sleep service now ms).1 :=
  (h.wake hb service now).endBy (now + ms)

/-- The last of the ends comes at the same time. -/
theorem lastEnd_eq (h : t.Alike t') (now : Nat) : t'.lastEnd now = t.lastEnd now := by
  have hcomm : RightCommutative fun (m : Nat) (e : LoadEnd) => max m e.time :=
    ⟨fun m d e => Nat.max_right_comm m d.time e.time⟩
  exact h.ends.foldl_eq now

/-- Forgetting ends after each of two independent writes is forgetting them after both. -/
theorem modify_set_set (h : t.Alike t) (hb : t.board.Wired) {p q : String}
    (hpq : t.board.Independent p q) (v w : Json) :
    (t.modify fun b => b.set p v).modify (fun b => b.set q w) =
      t.modify fun b => (b.set p v).set q w := by
  simp only [TimedBoard.modify, List.filter_filter, TimedBoard.mk.injEq, true_and]
  refine List.filter_congr fun d hd => ?_
  -- What is under way after both writes is so after the first.
  have hold : (t.board.load? d.key d.token).isSome := (exists_load_iff ..).mpr (h.under_way d hd)
  rw [Board.load?_eq_find?] at hold ⊢
  rw [Board.load?_eq_find?]
  rcases Board.loads_set_or hb hpq v w d.key with hloads | hloads
  · rw [hloads, hold, Bool.and_true]
  · rw [hloads, Bool.and_self]

/-- **Independent writes commute on a clock**: the same loads are given up, and those that
go on will end at the same times. -/
theorem set_comm (h : t.Alike t) (hb : t.board.Wired) {p q : String}
    (hpq : t.board.Independent p q) (v w : Json) :
    ((t.modify fun b => b.set p v).modify fun b => b.set q w).Alike
      ((t.modify fun b => b.set q w).modify fun b => b.set p v) := by
  rw [h.modify_set_set hb hpq, h.modify_set_set hb hpq.symm]
  exact h.modify (Board.set_comm hb hpq)

end Alike

end TimedBoard

/-! ### Forms -/

namespace Form

/-- **Two forms show the same.** -/
structure ShowsSame (f f' : Form) : Prop where
  /-- They have the same values. -/
  value : f'.value = f.value
  /-- The values do the same things wrong. -/
  errors : f'.errors = f.errors
  /-- The choices of all fields are the same, and they came about in the same way. -/
  states : f'.states = f.states
  /-- The latest load of every field has the same token. -/
  tokens : ∀ k, f'.generation? k = f.generation? k
  /-- The same loads are under way, and they depend on the same values. -/
  loads : f'.board.loads.Perm f.board.loads

/-- **Two forms that are alike.** -/
structure Alike (f f' : Form) : Prop where
  /-- They have the same fields. -/
  fields_eq : f'.fields = f.fields
  /-- Values are written together in the same order. -/
  order_eq : f'.applyOrder = f.applyOrder
  /-- Their boards are alike. -/
  board : f.board.Alike f'.board

variable {fields : List FieldSpec} {f f' : Form}

namespace Alike

theorem steady (h : f.Alike f') (hf : f.Steady fields) : f'.Steady fields :=
  ⟨h.fields_eq.trans hf.fields_eq, h.order_eq.trans hf.order_eq,
    h.board.frame_eq.trans hf.frame_eq, h.board.sound hf.sound⟩

/-- **Forms stay alike** whatever happens to them. -/
theorem handle (h : f.Alike f') (hf : f.Steady fields) (ev : FormEvent) :
    (f.handle ev).Alike (f'.handle ev) := by
  have hf' := h.steady hf
  have hafter := steady_handle hf ev
  have hafter' := steady_handle hf' ev
  refine ⟨hafter'.fields_eq.trans hafter.fields_eq.symm,
    hafter'.order_eq.trans hafter.order_eq.symm, ?_⟩
  rw [board_handle hf, board_handle hf']
  cases ev with
  | finish key token records => exact h.board.finish key token records
  | _ => exact h.board.setAll hf.sound.wired _

theorem store_eq (h : f.Alike f') (hf : f.Steady fields) : f'.board.store = f.board.store :=
  h.board.store_eq hf.nodup_keys

theorem isLoading_eq (h : f.Alike f') (hf : f.Steady fields) : f'.isLoading = f.isLoading :=
  congrArg ChoiceStore.anyLoading (h.store_eq hf)

/-- **Forms that are alike show the same.** -/
theorem showsSame (h : f.Alike f') (hf : f.Steady fields) : ShowsSame f f' := by
  have hf' := h.steady hf
  have halive : f'.board.alive = f.board.alive := by
    refine eq_of_lookup_eq (hf'.keys_alive.trans hf.keys_alive.symm) ?_ fun k => ?_
    · rw [hf'.keys_alive]
      exact FieldSpec.nodup_keys_firsts fields
    · rw [hf'.lookup_alive, hf.lookup_alive]
      exact congrArg Lane.cell (h.board.lane_eq k)
  refine ⟨?_, ?_, ?_, fun k => ?_, h.board.loads_perm⟩
  · rw [value, halive, value]
  · rw [errors, halive, errors]
  · rw [states, h.store_eq hf, states]
  · rw [generation?, h.board.lane_eq, generation?]

end Alike

end Form

end SmartForm
