import Mathlib.Data.List.Induction
import Mathlib.Data.String.Basic
import SmartForm.Json.Value

/-!
# Members sorted by name

The members of a free-form object are **sorted** (`SmartForm.Json.Sorted`): each name is less
than all names behind it, so no name stands twice. Sorting gives sorted members, and leaves
members alone that are sorted already (`SmartForm.Json.sortMembers_eq_self`).
-/

namespace SmartForm

namespace Json

/-- The name of every member is less than the names behind it. -/
def Sorted (members : List (String × Json)) : Prop := members.Pairwise fun m n => m.1 < n.1

variable {name : String} {v : Json} {members : List (String × Json)}

theorem mem_insertMember {m : String × Json} (h : m ∈ insertMember name v members) :
    m = (name, v) ∨ m ∈ members := by
  induction members with
  | nil => exact Or.inl (List.mem_singleton.mp h)
  | cons x members ih =>
    obtain ⟨n, w⟩ := x
    rw [insertMember] at h
    split at h
    · rcases List.mem_cons.mp h with rfl | h
      · exact Or.inl rfl
      · exact Or.inr (List.mem_cons_of_mem _ h)
    · split at h
      · exact List.mem_cons.mp h
      · rcases List.mem_cons.mp h with rfl | h
        · exact Or.inr List.mem_cons_self
        · exact (ih h).imp_right (List.mem_cons_of_mem _)

theorem Sorted.insertMember (h : Sorted members) : Sorted (insertMember name v members) := by
  induction members with
  | nil => exact List.pairwise_singleton ..
  | cons x members ih =>
    obtain ⟨n, w⟩ := x
    obtain ⟨hx, hrest⟩ := List.pairwise_cons.mp h
    rw [Json.insertMember]
    split
    · next heq =>
      subst heq
      exact List.pairwise_cons.mpr ⟨hx, hrest⟩
    · next hne =>
      split
      · next hlt =>
        refine List.pairwise_cons.mpr ⟨fun m hm => ?_, h⟩
        rcases List.mem_cons.mp hm with rfl | hm
        · exact hlt
        · exact hlt.trans (hx m hm)
      · next hnot =>
        -- The name goes further down, behind `n`.
        have hlt : n < name := lt_of_le_of_ne (not_lt.mp hnot) (Ne.symm hne)
        refine List.pairwise_cons.mpr ⟨fun m hm => ?_, ih hrest⟩
        rcases mem_insertMember hm with rfl | hm
        · exact hlt
        · exact hx m hm

/-- A name that is greater than all others goes to the end. -/
theorem insertMember_of_lt (h : ∀ m ∈ members, m.1 < name) :
    insertMember name v members = members ++ [(name, v)] := by
  induction members with
  | nil => rfl
  | cons x members ih =>
    obtain ⟨n, w⟩ := x
    have hlt : n < name := h (n, w) List.mem_cons_self
    rw [insertMember, if_neg hlt.ne', if_neg hlt.asymm,
      ih fun m hm => h m (List.mem_cons_of_mem _ hm)]
    rfl

theorem mem_sortMembers {m : String × Json} (h : m ∈ sortMembers members) : m ∈ members := by
  induction members using List.reverseRecOn with
  | nil => exact h
  | append_singleton members x ih =>
    rw [sortMembers, List.foldl_append] at h
    rcases mem_insertMember h with rfl | h
    · exact List.mem_append_right _ List.mem_cons_self
    · exact List.mem_append_left _ (ih h)

theorem sorted_sortMembers (members : List (String × Json)) : Sorted (sortMembers members) := by
  induction members using List.reverseRecOn with
  | nil => exact List.Pairwise.nil
  | append_singleton members x ih =>
    rw [sortMembers, List.foldl_append]
    exact ih.insertMember

/-- **Sorted members stay where they are.** -/
theorem sortMembers_eq_self (h : Sorted members) : sortMembers members = members := by
  induction members using List.reverseRecOn with
  | nil => rfl
  | append_singleton members x ih =>
    obtain ⟨hsorted, -, hlast⟩ := List.pairwise_append.mp h
    have hinsert := insertMember_of_lt (v := x.2) fun m hm => hlast m hm x List.mem_cons_self
    have hmembers := ih hsorted
    rw [sortMembers] at hmembers
    rw [sortMembers, List.foldl_append, hmembers]
    exact hinsert

end Json

end SmartForm
