import SmartForm.Json.Reader
import SmartForm.Proofs.Number.Nearest

/-!
# What is read is definite

A document that was read from a JSON text is **definite** (`SmartForm.Document.Definite`): its
texts stand in quotes, so that nobody has to decide what they are, and its numbers are
neither infinite nor not a number. A text that writes too large a number has no value at
all (`SmartForm.Json.definite_readDocument`).

The one thing to know is where the magnitude is bounded. Most numbers are checked when they
are moved by a power of ten. Only an integer with a sign that fits into no word is not, and
its significand does fit into one.
-/

namespace SmartForm

/-- A number is an integer or a finite double. -/
def Number.IsFinite : Number → Prop
  | .int _ => True
  | .float d => d.isFinite = true

namespace Document

mutual

/-- No text in a document is without quotes, and no number is not finite. -/
def Definite : Document → Prop
  | .number n => n.IsFinite
  | .bare _ => False
  | .array items _ => DefiniteItems items
  | .object members _ => DefiniteMembers members
  | _ => True

/-- All items are definite. -/
def DefiniteItems : List Document → Prop
  | [] => True
  | d :: ds => Definite d ∧ DefiniteItems ds

/-- All members are definite. -/
def DefiniteMembers : List (Option String × Document) → Prop
  | [] => True
  | (_, d) :: ms => Definite d ∧ DefiniteMembers ms

end

theorem definiteItems_iff {items : List Document} :
    DefiniteItems items ↔ ∀ d ∈ items, d.Definite := by
  induction items with
  | nil => simp [DefiniteItems]
  | cons d ds ih => simp [DefiniteItems, ih]

theorem definiteMembers_iff {members : List (Option String × Document)} :
    DefiniteMembers members ↔ ∀ m ∈ members, m.2.Definite := by
  induction members with
  | nil => simp [DefiniteMembers]
  | cons m ms ih => simp [DefiniteMembers, ih]

end Document

namespace Json

/-! ### Numbers -/

theorem takeDigits_le {ds : List Char} {n : Nat} (hn : n ≤ significandMax) :
    (takeDigits n ds).1 ≤ significandMax := by
  induction ds generalizing n with
  | nil => exact hn
  | cons d ds ih =>
    rw [takeDigits]
    split
    · next hnext => exact ih hnext
    · exact hn

theorem isFinite_numberOf {negative : Bool} {whole : List Char} {fraction : Option (List Char)}
    {e : Option Int} {n : Number} (h : numberOf negative whole fraction e = some n) :
    n.IsFinite := by
  have hscaled : ∀ {s : Nat} {e : Int}, (Double.ofScaled negative s e).map Number.float = some n →
      n.IsFinite := by
    intro s e h
    obtain ⟨d, hd, rfl⟩ := Option.map_eq_some_iff.mp h
    exact Double.isFinite_ofScaled hd
  have hle : (takeDigits 0 whole).1 ≤ significandMax := takeDigits_le (Nat.zero_le _)
  rw [numberOf] at h
  split at h
  next significand left hdigits =>
    rw [hdigits] at hle
    split at h
    · split at h
      · split at h
        · split at h
          · cases h
            exact (Double.isFinite_opposite _).trans (Double.isFinite_ofInt hle)
          · cases h
            trivial
        · cases h
          trivial
      · exact hscaled h
    · exact hscaled h

theorem isFinite_number? {cs rest : List Char} {n : Number}
    (h : number? cs = some (some n, rest)) : n.IsFinite := by
  unfold number? at h
  split at h
  split at h
  · cases h
  · cases h
  · split at h
    · cases h
    · split at h
      · cases h
      · obtain ⟨hn, -⟩ := Prod.ext_iff.mp (Option.some.inj h)
        exact isFinite_numberOf hn

theorem definite_leaf (cs : List Char) : (leaf cs).1.Definite := by
  have hword : ∀ (w : String) {d : Document}, d.Definite → (word w d cs).1.Definite := by
    intro w d hd
    rw [word]
    split
    · exact hd
    · trivial
  unfold leaf
  split
  · trivial
  · split <;> trivial
  · split
    · exact hword _ trivial
    · split
      · exact hword _ trivial
      · split
        · exact hword _ trivial
        · split
          · split
            · trivial
            · next hn => exact isFinite_number? hn
            · trivial
          · trivial

/-! ### Documents -/

/-- **What is read is definite**, be it a value, items or members. -/
theorem definite_read (fuel : Nat) :
    (∀ cs, (readValue fuel cs).1.Definite) ∧ (∀ cs, ∀ d ∈ (readItems fuel cs).1, d.Definite) ∧
      ∀ cs, ∀ m ∈ (readMembers fuel cs).1, m.2.Definite := by
  induction fuel with
  | zero =>
    refine ⟨fun cs => trivial, fun cs => ?_, fun cs => ?_⟩
    · exact fun d hd => absurd hd List.not_mem_nil
    · exact fun m hm => absurd hm List.not_mem_nil
  | succ fuel ih =>
    obtain ⟨hvalue, hitems, hmembers⟩ := ih
    refine ⟨fun cs => ?_, fun cs => ?_, fun cs => ?_⟩
    · unfold readValue
      split
      · split
        · trivial
        · exact Document.definiteItems_iff.mpr (hitems _)
      · split
        · trivial
        · exact Document.definiteMembers_iff.mpr (hmembers _)
      · exact definite_leaf _
    · have hd := hvalue cs
      unfold readItems
      split
      · next heq =>
        rw [heq] at hd
        exact List.forall_mem_singleton.mpr hd
      · next heq =>
        rw [heq] at hd
        split
        · exact List.forall_mem_singleton.mpr hd
        · exact List.forall_mem_cons.mpr ⟨hd, hitems _⟩
        · exact List.forall_mem_singleton.mpr hd
    · have hnone : ∀ m ∈ ([] : List (Option String × Document)), m.2.Definite := fun m hm =>
        absurd hm List.not_mem_nil
      unfold readMembers
      split
      · split
        · exact hnone
        · split
          · next rest _ =>
            have hd := hvalue rest
            split
            · next heq =>
              rw [heq] at hd
              exact List.forall_mem_singleton.mpr hd
            · next heq =>
              rw [heq] at hd
              split
              · exact List.forall_mem_singleton.mpr hd
              · exact List.forall_mem_cons.mpr ⟨hd, hmembers _⟩
              · exact List.forall_mem_singleton.mpr hd
          · exact List.forall_mem_singleton.mpr trivial
      · exact hnone

/-- **What is read of a text is definite.** -/
theorem definite_readDocument (text : String) : (readDocument text).1.Definite := by
  have hd := (definite_read (2 * text.toList.length + 2)).1 text.toList
  rw [readDocument]
  split
  · next heq =>
    rw [heq] at hd
    exact hd
  · next heq =>
    rw [heq] at hd
    exact hd

end Json

end SmartForm
