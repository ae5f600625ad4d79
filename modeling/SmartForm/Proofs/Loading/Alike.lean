import Mathlib.Data.List.Count
import Mathlib.Data.List.Perm.Basic
import SmartForm.Proofs.Loading.Writes

/-!
# Boards that are alike

Two boards are **alike** (`SmartForm.Board.Alike`) if they have the same frame and hold the
same for every key. What still may be different is the order in which the loads stand on
them, and how many aborted loads have not been cleared away. Whatever happens to two boards
that are alike, they stay so.

Cells that are set in either order leave boards that are alike, if neither of them is the
parent of the other (`SmartForm.Board.set_comm`). The one thing to know is that a cell has
one parent. So of two such writes at most one reaches the lane of any cell, be it by writing
into the cell or by cascading over it, and the other finds the lane as it was.
-/

namespace SmartForm

namespace Board

/-- **Two boards that are alike**: nothing that is held for a key tells them apart. -/
structure Alike (b b' : Board) : Prop where
  /-- The same cells, places for choices and links are on both. -/
  frame_eq : b'.frame = b.frame
  /-- The same is held for every key. -/
  lane_eq : ∀ k, b'.lane k = b.lane k

/-- **Two cells that can be set in either order**: they are different, and neither is the
parent of the other. -/
structure Independent (b : Board) (p q : String) : Prop where
  /-- They are different. -/
  ne : p ≠ q
  /-- The second is not the parent of the first. -/
  not_parent : b.parentOf? p ≠ some q
  /-- The first is not the parent of the second. -/
  not_child : b.parentOf? q ≠ some p

variable {b b' : Board}

theorem Independent.symm {p q : String} (h : b.Independent p q) : b.Independent q p :=
  ⟨h.ne.symm, h.not_child, h.not_parent⟩

/-- A cell has one parent, so it is not a child of both. -/
theorem Independent.parentOf?_ne {p q k : String} (h : b.Independent p q)
    (hp : b.parentOf? k = some p) : b.parentOf? k ≠ some q :=
  fun hq => h.ne (Option.some.inj (hp.symm.trans hq))

/-! ### Staying alike -/

namespace Alike

theorem refl (b : Board) : b.Alike b := ⟨rfl, fun _ => rfl⟩

theorem wired (h : b.Alike b') (hb : b.Wired) : b'.Wired := hb.of_frame h.frame_eq

theorem sound (h : b.Alike b') (hb : b.Sound) : b'.Sound :=
  ⟨h.wired hb.wired, fun k => (h.lane_eq k).symm ▸ hb.lanes k⟩

theorem set (h : b.Alike b') (hb : b.Wired) (p : String) (v : Json) :
    (b.set p v).Alike (b'.set p v) := by
  refine ⟨(frame_set ..).trans (h.frame_eq.trans (frame_set ..).symm), fun k => ?_⟩
  rw [lane_set hb, lane_set (h.wired hb), h.lane_eq]

theorem setAll (h : b.Alike b') (hb : b.Wired) (ws : List (String × Json)) :
    (b.setAll ws).Alike (b'.setAll ws) := by
  induction ws generalizing b b' with
  | nil => exact h
  | cons w ws ih => exact ih (h.set hb w.1 w.2) (hb.set w.1 w.2)

theorem finish (h : b.Alike b') (key : String) (token : Nat) (records : Option (List Json)) :
    (b.finish key token records).Alike (b'.finish key token records) := by
  refine ⟨(frame_finish ..).trans (h.frame_eq.trans (frame_finish ..).symm), fun k => ?_⟩
  rw [lane_finish, lane_finish, h.lane_eq]

/-! ### What cannot tell them apart -/

theorem load?_eq (h : b.Alike b') (key : String) (token : Nat) :
    b'.load? key token = b.load? key token := by
  rw [load?_eq_find?, load?_eq_find?, h.lane_eq]

/-- All places for choices are the same, their order included. -/
theorem store_eq (h : b.Alike b') (hkeys : b.store.keys.Nodup) : b'.store = b.store := by
  have hslots : b'.store.slots = b.store.slots := by
    have hkeys_eq : b'.store.keys = b.store.keys := keys_of_frame h.frame_eq
    have hkeys' : b'.store.keys.Nodup := hkeys_eq ▸ hkeys
    exact eq_of_lookup_eq hkeys_eq hkeys' fun k => congrArg Lane.slot (h.lane_eq k)
  exact congrArg ChoiceStore.mk hslots

/-- The same loads are under way. -/
theorem loads_perm (h : b.Alike b') : b'.loads.Perm b.loads := by
  classical
  refine List.perm_iff_count.mpr fun l => ?_
  -- A load stands on the lane of its key as often as on the board.
  have hcount : ∀ c : Board, c.loads.count l = (c.lane l.key).loads.count l := fun c =>
    (List.count_filter (p := fun x : Load => x.key = l.key) (decide_eq_true rfl)).symm
  rw [hcount, hcount, h.lane_eq]

end Alike

/-! ### Two writes -/

section Independent

variable {p q : String} {v w : Json}

/-- **What becomes of a lane when two cells are set**: the two writes share none of the
lanes that they reach. -/
theorem lane_set_set (hb : b.Wired) (h : b.Independent p q) (k : String) :
    ((b.set p v).set q w).lane k =
      if k = p then (b.lane k).write v
      else if k = q then (b.lane k).write w
      else if b.parentOf? k = some p then (b.lane k).cascade v
      else if b.parentOf? k = some q then (b.lane k).cascade w
      else b.lane k := by
  have hparent : ((b.set p v).lane k).link.map Link.parent = b.parentOf? k :=
    parentOf?_of_frame (frame_set b p v) k
  rw [lane_set (hb.set p v), hparent, lane_set hb, ← parentOf?]
  by_cases hkp : k = p
  · subst hkp
    rw [if_neg h.ne, if_neg h.not_parent, if_pos rfl, if_pos rfl]
  · rw [if_neg hkp, if_neg hkp]
    by_cases hkq : k = q
    · subst hkq
      rw [if_pos rfl, if_pos rfl, if_neg h.not_child]
    · rw [if_neg hkq, if_neg hkq]
      by_cases hp : b.parentOf? k = some p
      · rw [if_neg (h.parentOf?_ne hp), if_pos hp, if_pos hp]
      · rw [if_neg hp, if_neg hp]

/-- **Independent writes commute.** -/
theorem set_comm (hb : b.Wired) (h : b.Independent p q) :
    ((b.set p v).set q w).Alike ((b.set q w).set p v) := by
  refine ⟨?_, fun k => ?_⟩
  · simp only [frame_set]
  · rw [lane_set_set hb h, lane_set_set hb h.symm]
    by_cases hkp : k = p
    · rw [if_pos hkp, if_pos hkp, if_neg fun hkq => h.ne (hkp.symm.trans hkq)]
    · rw [if_neg hkp, if_neg hkp]
      by_cases hp : b.parentOf? k = some p
      · rw [if_pos hp, if_pos hp, if_neg (h.parentOf?_ne hp)]
      · rw [if_neg hp, if_neg hp]

/-- A first write either leaves the loads of a lane alone, or it is the one that counts for
them. -/
theorem loads_set_or (hb : b.Wired) (h : b.Independent p q) (v w : Json) (k : String) :
    ((b.set p v).lane k).loads = (b.lane k).loads ∨
      ((b.set p v).lane k).loads = (((b.set p v).set q w).lane k).loads := by
  rw [lane_set_set hb h, lane_set hb, ← parentOf?]
  by_cases hkp : k = p
  · rw [if_pos hkp]
    exact Or.inl rfl
  · rw [if_neg hkp, if_neg hkp]
    by_cases hp : b.parentOf? k = some p
    · rw [if_pos hp, if_pos hp]
      refine Or.inr ?_
      rw [if_neg]
      rintro rfl
      exact h.not_child hp
    · rw [if_neg hp]
      exact Or.inl rfl

end Independent

end Board

end SmartForm
