import Mathlib.Data.List.Pairwise
import SmartForm.Decoding.Reader
import SmartForm.Proofs.Json.Definite
import SmartForm.Proofs.Json.Sorting

/-!
# Readers that keep what they read

What a reader makes of a document can be written and be read again. The reader **keeps** it
(`SmartForm.Reader.Keeps`) if the same comes out, with no more lists and objects allowed
inside each other than the first time.

The one thing to know is that a text does not have to be what is written of it. A reader
is free to sort members, to drop some and to put defaults in, but doing so a second time
has no effect. For free-form values that is a matter of the order of the names: members
that are sorted already stay where they are (`SmartForm.Json.sortMembers_eq_self`).
-/

namespace SmartForm

namespace Reader

/-- **A reader keeps what it reads** if that is read again from what is written of it. -/
def Keeps {α : Type} (r : Reader α) (write : α → Json) (budget : Nat) : Prop :=
  ∀ d a, d.Definite → r .json budget d = .ok a → r .json budget (.ofJson (write a)) = .ok a

/-! ### Leaves -/

theorem keeps_string (budget : Nat) : Keeps string Json.string budget := fun _ _ _ _ => rfl

theorem keeps_bool (budget : Nat) : Keeps bool Json.bool budget := fun _ _ _ _ => rfl

theorem keeps_word (wanted : String) (budget : Nat) : Keeps (word wanted) Json.nat budget := by
  intro d n _ h
  have hfits : Word.fits n = true := by
    cases d with
    | number m =>
      cases m with
      | int i =>
        simp only [word] at h
        split at h
        · next hi =>
          cases h
          exact hi.2
        · cases h
      | float x => cases h
    | _ => cases h
  simp [word, Json.nat, Document.ofJson, hfits]

/-- A word of a closed set is kept if it stands for what it is written for. -/
theorem keeps_oneOf {α : Type} {words : List (String × α)} {name : α → String}
    (hwords : ∀ a, words.lookup (name a) = some a) (budget : Nat) :
    Keeps (oneOf words) (fun a => .string (name a)) budget := by
  intro d a _ _
  simp only [oneOf, Document.ofJson, known, hwords]

theorem option_of_ne {α : Type} {r : Reader α} {budget : Nat} {d : Document} (hd : d ≠ .null) :
    option r .json budget d = (r .json budget d).map some := by
  cases d with
  | null => exact absurd rfl hd
  | _ => rfl

theorem ofJson_ne_null {v : Json} (hv : v ≠ .null) :
    Document.ofJson v ≠ .null := by
  cases v with
  | null => exact absurd rfl hv
  | _ => exact Document.noConfusion

/-! ### Lists -/

theorem bind_eq_ok {α β : Type} {x : Except Flaw α} {f : α → Except Flaw β} {b : β} :
    (x >>= f) = .ok b ↔ ∃ a, x = .ok a ∧ f a = .ok b := by
  cases x with
  | error flaw => simp [bind, Except.bind]
  | ok a => simp [bind, Except.bind]

theorem map_eq_ok {α β : Type} {x : Except Flaw α} {f : α → β} {b : β} :
    x.map f = .ok b ↔ ∃ a, x = .ok a ∧ f a = b := by
  cases x with
  | error flaw => simp [Except.map]
  | ok a => simp [Except.map]

theorem mapM_cons_eq_ok {α β : Type} {f : α → Except Flaw β} {x : α} {xs : List α} {ys : List β} :
    (x :: xs).mapM f = .ok ys ↔ ∃ y ys', f x = .ok y ∧ xs.mapM f = .ok ys' ∧ ys = y :: ys' := by
  simp only [List.mapM_cons, bind_eq_ok, pure, Except.pure, Except.ok.injEq, eq_comm (a := ys)]
  exact ⟨fun ⟨y, hy, ys', hys, heq⟩ => ⟨y, ys', hy, hys, heq⟩,
    fun ⟨y, ys', hy, hys, heq⟩ => ⟨y, hy, ys', hys, heq⟩⟩

/-- A list is kept if its items are, of which each may open one list or object less. -/
theorem keeps_list {α : Type} {item : Reader α} {write : α → Json} {budget : Nat}
    (hitem : Keeps item write (budget - 1)) :
    Keeps (list item) (fun xs => .array (xs.map write)) budget := by
  intro d as hd h
  cases d with
  | array items closed =>
    cases budget with
    | zero => cases h
    | succ budget =>
      obtain ⟨bs, hread, hclosed⟩ := bind_eq_ok.mp h
      obtain rfl : bs = as := by
        split at hclosed
        · exact Except.ok.inj hclosed
        · cases hclosed
      rw [Document.Definite, Document.definiteItems_iff] at hd
      have hagain : (Document.ofItems (bs.map write)).mapM (item .json budget) = .ok bs := by
        clear h hclosed
        induction items generalizing bs with
        | nil =>
          cases hread
          rfl
        | cons x xs ih =>
          obtain ⟨a, as, hx, hxs, rfl⟩ := mapM_cons_eq_ok.mp hread
          have hrest := ih (fun y hy => hd y (List.mem_cons_of_mem x hy)) as hxs
          exact mapM_cons_eq_ok.mpr
            ⟨a, as, hitem x a (hd x List.mem_cons_self) hx, hrest, rfl⟩
      exact bind_eq_ok.mpr ⟨bs, hagain, rfl⟩
  | bare s => exact hd.elim
  | _ => cases h

/-! ### Free-form values -/

theorem freeMembers_ofMembers {budget : Nat} {ms : List (String × Json)}
    (h : ∀ m ∈ ms, freeValue budget (.ofJson m.2) = .ok m.2) :
    freeMembers budget (Document.ofMembers ms) = .ok ms := by
  induction ms with
  | nil => rfl
  | cons m ms ih =>
    obtain ⟨k, v⟩ := m
    have hv : freeValue budget (.ofJson v) = .ok v := h (k, v) List.mem_cons_self
    have hms := ih fun m hm => h m (List.mem_cons_of_mem _ hm)
    exact bind_eq_ok.mpr ⟨v, hv, bind_eq_ok.mpr ⟨ms, hms, rfl⟩⟩

/-- Sorted members of an object are read as they are. -/
theorem freeValue_object {budget : Nat} {ms : List (String × Json)} (hsorted : Json.Sorted ms)
    (h : ∀ m ∈ ms, freeValue budget (.ofJson m.2) = .ok m.2) :
    freeValue (budget + 1) (.ofJson (.object ms)) = .ok (.object ms) := by
  have hread := freeMembers_ofMembers h
  refine bind_eq_ok.mpr ⟨ms, hread, ?_⟩
  rw [if_pos rfl, Json.sortMembers_eq_self hsorted]

mutual

/-- **A free-form value is read again** as it was read. -/
theorem freeValue_ofJson {budget : Nat} : ∀ {d : Document} {v : Json}, d.Definite →
    freeValue budget d = .ok v → freeValue budget (.ofJson v) = .ok v
  | .null, v, _, h => by cases h; rfl
  | .bool b, v, _, h => by cases h; rfl
  | .number (.int i), v, _, h => by cases h; rfl
  | .number (.float x), v, hd, h => by
    have hx : x.isFinite = true := hd
    rw [freeValue, if_pos hx] at h
    cases h
    rw [Document.ofJson, freeValue, if_pos hx]
  | .string s, v, _, h => by cases h; rfl
  | .bare s, v, hd, _ => hd.elim
  | .unreadable, v, _, h => by cases h
  | .broken, v, _, h => by cases h
  | .array items closed, v, hd, h => by
    cases budget with
    | zero => cases h
    | succ budget =>
      obtain ⟨vs, hvs, hclosed⟩ := bind_eq_ok.mp h
      split at hclosed
      · cases hclosed
        exact bind_eq_ok.mpr ⟨vs, freeItems_ofItems hd hvs, rfl⟩
      · cases hclosed
  | .object members closed, v, hd, h => by
    cases budget with
    | zero => cases h
    | succ budget =>
      obtain ⟨ms, hms, hclosed⟩ := bind_eq_ok.mp h
      split at hclosed
      · cases hclosed
        have hread := freeValue_of_mem hd hms
        exact freeValue_object (Json.sorted_sortMembers ms) fun m hm =>
          hread m (Json.mem_sortMembers hm)
      · cases hclosed

theorem freeItems_ofItems {budget : Nat} : ∀ {items : List Document} {vs : List Json},
    Document.DefiniteItems items → freeItems budget items = .ok vs →
      freeItems budget (Document.ofItems vs) = .ok vs
  | [], vs, _, h => by cases h; rfl
  | d :: ds, vs, hd, h => by
    obtain ⟨v, hv, hrest⟩ := bind_eq_ok.mp h
    obtain ⟨vs', hvs', heq⟩ := bind_eq_ok.mp hrest
    cases heq
    exact bind_eq_ok.mpr ⟨v, freeValue_ofJson hd.1 hv,
      bind_eq_ok.mpr ⟨vs', freeItems_ofItems hd.2 hvs', rfl⟩⟩

theorem freeValue_of_mem {budget : Nat} : ∀ {members : List (Option String × Document)}
    {ms : List (String × Json)}, Document.DefiniteMembers members →
      freeMembers budget members = .ok ms →
        ∀ m ∈ ms, freeValue budget (.ofJson m.2) = .ok m.2
  | [], ms, _, h => by cases h; exact fun m hm => absurd hm List.not_mem_nil
  | (none, d) :: _, ms, _, h => by cases h
  | (some k, d) :: rest, ms, hd, h => by
    obtain ⟨v, hv, hrest⟩ := bind_eq_ok.mp h
    obtain ⟨ms', hms', heq⟩ := bind_eq_ok.mp hrest
    cases heq
    exact List.forall_mem_cons.mpr ⟨freeValue_ofJson hd.1 hv, freeValue_of_mem hd.2 hms'⟩

end

theorem keeps_json (budget : Nat) : Keeps json id budget := fun _ _ hd h => freeValue_ofJson hd h

/-- Where there is a value, it is not nothing. -/
theorem freeValue_ne_null {budget : Nat} {d : Document} {v : Json} (hd : d.Definite)
    (hnull : d ≠ .null) (h : freeValue budget d = .ok v) : v ≠ .null := by
  rintro rfl
  cases d with
  | null => exact hnull rfl
  | number n =>
    cases n with
    | int i => cases h
    | float x =>
      have hx : x.isFinite = true := hd
      rw [freeValue, if_pos hx] at h
      cases h
  | array items closed =>
    cases budget with
    | zero => cases h
    | succ budget =>
      obtain ⟨vs, -, hclosed⟩ := bind_eq_ok.mp h
      split at hclosed <;> cases hclosed
  | object members closed =>
    cases budget with
    | zero => cases h
    | succ budget =>
      obtain ⟨ms, -, hclosed⟩ := bind_eq_ok.mp h
      split at hclosed <;> cases hclosed
  | bare s => exact hd
  | _ => cases h

theorem exists_members {budget : Nat} {members : List (Option String × Document)} {closed : Bool}
    {v : Json} (h : freeValue budget (.object members closed) = .ok v) : ∃ ms, v = .object ms := by
  cases budget with
  | zero => cases h
  | succ budget =>
    obtain ⟨ms, -, hclosed⟩ := bind_eq_ok.mp h
    split at hclosed
    · cases hclosed
      exact ⟨_, rfl⟩
    · cases hclosed

/-- The members of a free-form object are kept. -/
theorem keeps_freeObject (budget : Nat) : Keeps freeObject Json.object budget := by
  intro d ms hd h
  cases d with
  | object members closed =>
    obtain ⟨v, hv, hms⟩ := map_eq_ok.mp h
    obtain ⟨ms', rfl⟩ := exists_members hv
    obtain rfl : ms' = ms := hms
    exact map_eq_ok.mpr ⟨_, freeValue_ofJson hd hv, rfl⟩
  | bare s => exact hd.elim
  | _ => cases h

end Reader

end SmartForm
