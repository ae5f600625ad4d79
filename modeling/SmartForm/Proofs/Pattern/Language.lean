import SmartForm.Proofs.Pattern.Matching

/-!
# The texts that an expression reads

An expression that says nothing about what stands around its match is a language: between two
positions of a text it matches if and only if the characters in between are a text of the
language, wherever in the text they stand (`SmartForm.Regex.matches_iff_reads`). So what is
known of positions becomes a statement on texts, where it can be compared with a grammar.

The one thing to know is that positions split as texts do. Where one expression is followed by
another, the position between them lies between the two others, and so cuts the characters into
those of the one and those of the other (`SmartForm.Regex.follows_iff`). A repetition is this
as often as there are turns.
-/

namespace SmartForm

namespace Regex

/-! ### Languages -/

/-- An expression that says nothing about what stands around its match. -/
def LookFree : Regex → Prop
  | empty => True
  | chars _ => True
  | look _ => False
  | cat a b => a.LookFree ∧ b.LookFree
  | alt a b => a.LookFree ∧ b.LookFree
  | rep _ _ r => r.LookFree
  | group r => r.LookFree

/-- **The language of an expression.** It has no text for a condition, which is not about the
text that is matched. -/
def Reads : Regex → List Char → Prop
  | empty, w => w = []
  | chars set, w => ∃ c, w = [c] ∧ set.hasChar c = true
  | look _, _ => False
  | cat a b, w => ∃ u v, w = u ++ v ∧ a.Reads u ∧ b.Reads v
  | alt a b, w => a.Reads w ∨ b.Reads w
  | rep least most r, w =>
    ∃ ws : List (List Char), least ≤ ws.length ∧ (∀ m ∈ most, ws.length ≤ max least m) ∧
      ws.flatten = w ∧ ∀ u ∈ ws, r.Reads u
  | group r, w => r.Reads w

/-! ### Positions and texts -/

/-- A relation between positions that holds at the two ends of the middle one of three
texts. -/
def Spans (R : Array Char → Nat → Nat → Prop) (before w after : List Char) : Prop :=
  R (before ++ w ++ after).toArray before.length (before.length + w.length)

section Spans

variable {R S : Array Char → Nat → Nat → Prop} {before w after : List Char}

/-- **What follows one another splits the text**, at the position in between. -/
theorem follows_iff (hR : ∀ text, Forward text.size (R text))
    (hS : ∀ text, Forward text.size (S text)) :
    Spans (fun text i j => ∃ k, R text i k ∧ S text k j) before w after ↔
      ∃ u v, w = u ++ v ∧ Spans R before u (v ++ after) ∧ Spans S (before ++ u) v after := by
  constructor
  · rintro ⟨k, hfirst, hrest⟩
    have hlow := (hR _).le _ k hfirst
    have hhigh := (hS _).le k _ hrest
    refine ⟨w.take (k - before.length), w.drop (k - before.length),
      (List.take_append_drop _ w).symm, ?_, ?_⟩
    · have hk : before.length + (w.take (k - before.length)).length = k := by
        rw [List.length_take]
        omega
      rw [Spans, hk, ← List.append_assoc, List.append_assoc before, List.take_append_drop]
      exact hfirst
    · have hk : (before ++ w.take (k - before.length)).length = k := by
        rw [List.length_append, List.length_take]
        omega
      have hend : k + (w.drop (k - before.length)).length = before.length + w.length := by
        rw [List.length_drop]
        omega
      rw [Spans, hk, hend, List.append_assoc before, List.take_append_drop]
      exact hrest
  · rintro ⟨u, v, rfl, hfirst, hrest⟩
    refine ⟨before.length + u.length, ?_, ?_⟩
    · rw [Spans] at hfirst
      rwa [← List.append_assoc before, List.append_assoc (before ++ u)]
    · rw [Spans, List.length_append] at hrest
      rwa [← List.append_assoc before, List.length_append, ← Nat.add_assoc]

/-- Turns of a relation that is a language are as many texts of the language. -/
theorem times_iff_reads {r : Regex}
    (ih : ∀ before w after, Spans (r.Matches ·) before w after ↔ r.Reads w) (n : Nat) :
    Spans (fun text => Times (r.Matches text) n) before w after ↔
      ∃ ws : List (List Char), ws.length = n ∧ ws.flatten = w ∧ ∀ u ∈ ws, r.Reads u := by
  induction n generalizing before w with
  | zero =>
    constructor
    · intro h
      have hlength : before.length = before.length + w.length := h
      exact ⟨[], rfl, (List.length_eq_zero_iff.mp (by omega)).symm,
        fun u hu => (List.not_mem_nil hu).elim⟩
    · rintro ⟨ws, hn, rfl, -⟩
      obtain rfl := List.length_eq_zero_iff.mp hn
      rfl
  | succ n ihn =>
    have hsplit : Spans (fun text => Times (r.Matches text) (n + 1)) before w after ↔
        ∃ u v, w = u ++ v ∧ Spans (r.Matches ·) before u (v ++ after) ∧
          Spans (fun text => Times (r.Matches text) n) (before ++ u) v after :=
      follows_iff (fun text => forward_matches text r)
        fun text => (forward_matches text r).times n
    rw [hsplit]
    simp only [ih, ihn]
    constructor
    · rintro ⟨u, v, rfl, hu, ws, rfl, rfl, hws⟩
      exact ⟨u :: ws, rfl, rfl, List.forall_mem_cons.mpr ⟨hu, hws⟩⟩
    · rintro ⟨ws, hn, rfl, hws⟩
      obtain ⟨u, ws, rfl⟩ := List.exists_cons_of_length_eq_add_one hn
      obtain ⟨hu, hws⟩ := List.forall_mem_cons.mp hws
      exact ⟨u, ws.flatten, rfl, hu, ws, Nat.succ.inj hn, rfl, hws⟩

theorem chars_iff_reads {set : CodeSet} :
    Spans ((chars set).Matches ·) before w after ↔ (chars set).Reads w := by
  constructor
  · rintro ⟨hlength, hset⟩
    obtain ⟨c, rfl⟩ := List.length_eq_one_iff.mp (show w.length = 1 by omega)
    exact ⟨c, rfl, by simpa using hset⟩
  · rintro ⟨c, rfl, hset⟩
    exact ⟨rfl, by simpa using hset⟩

end Spans

/-- **Between two positions stands a text of the language.** -/
theorem matches_iff_reads {r : Regex} (hr : r.LookFree) (before w after : List Char) :
    Spans (r.Matches ·) before w after ↔ r.Reads w := by
  induction r generalizing before w after with
  | empty =>
    rw [Spans, Matches, Reads, Nat.left_eq_add, List.length_eq_zero_iff]
  | chars set => exact chars_iff_reads
  | look l => exact hr.elim
  | cat a b iha ihb =>
    have hsplit : Spans ((cat a b).Matches ·) before w after ↔
        ∃ u v, w = u ++ v ∧ Spans (a.Matches ·) before u (v ++ after) ∧
          Spans (b.Matches ·) (before ++ u) v after :=
      follows_iff (fun text => forward_matches text a) fun text => forward_matches text b
    rw [hsplit, Reads]
    simp only [iha hr.1, ihb hr.2]
  | alt a b iha ihb => exact or_congr (iha hr.1 before w after) (ihb hr.2 before w after)
  | rep least most r ih =>
    have hturns : Spans ((rep least most r).Matches ·) before w after ↔
        ∃ n, least ≤ n ∧ (∀ m ∈ most, n ≤ max least m) ∧
          Spans (fun text => Times (r.Matches text) n) before w after := Iff.rfl
    rw [hturns, Reads]
    simp only [times_iff_reads (ih hr)]
    constructor
    · rintro ⟨n, hleast, hmost, ws, rfl, hws⟩
      exact ⟨ws, hleast, hmost, hws⟩
    · rintro ⟨ws, hleast, hmost, hws⟩
      exact ⟨ws.length, hleast, hmost, ws, rfl, hws⟩
  | group r ih => exact ih hr before w after

/-- A whole text is matched if it is a text of the language. -/
theorem matchesWhole_iff_reads {r : Regex} (hr : r.LookFree) (s : String) :
    r.MatchesWhole s ↔ r.Reads s.toList := by
  rw [← matches_iff_reads hr [] s.toList [], Spans, MatchesWhole]
  simp

/-! ### Repetitions -/

theorem reads_rep_chars_iff {least : Nat} {most : Option Nat} {set : CodeSet} {w : List Char} :
    (rep least most (chars set)).Reads w ↔
      least ≤ w.length ∧ (∀ m ∈ most, w.length ≤ max least m) ∧
        ∀ c ∈ w, set.hasChar c = true := by
  constructor
  · rintro ⟨ws, hleast, hmost, rfl, hws⟩
    have hone : ∀ u ∈ ws, u.length = 1 := by
      rintro u hu
      obtain ⟨c, rfl, -⟩ := hws u hu
      rfl
    have hlength : ws.flatten.length = ws.length := by
      rw [List.length_flatten, List.map_congr_left hone]
      simp
    rw [hlength]
    refine ⟨hleast, hmost, fun c hc => ?_⟩
    obtain ⟨u, hu, hcu⟩ := List.mem_flatten.mp hc
    obtain ⟨d, rfl, hd⟩ := hws u hu
    obtain rfl := List.mem_singleton.mp hcu
    exact hd
  · rintro ⟨hleast, hmost, hall⟩
    refine ⟨w.map fun c => [c], by rwa [List.length_map], by rwa [List.length_map], ?_, ?_⟩
    · rw [← List.flatMap_def, List.flatMap_singleton']
    · intro u hu
      obtain ⟨c, hc, rfl⟩ := List.mem_map.mp hu
      exact ⟨c, rfl, hall c hc⟩

/-- What is there once at most is there or not. -/
theorem reads_optional_iff {r : Regex} {w : List Char} :
    (rep 0 (some 1) r).Reads w ↔ w = [] ∨ r.Reads w := by
  constructor
  · rintro ⟨ws, -, hmost, rfl, hws⟩
    have hlength : ws.length ≤ 1 := hmost 1 rfl
    match ws with
    | [] => exact Or.inl rfl
    | [u] => exact Or.inr (by simpa using hws)
    | _ :: _ :: _ => exact absurd hlength (by simp)
  · rintro (rfl | hw)
    · exact ⟨[], by simp⟩
    · exact ⟨[w], by simpa using hw⟩

/-- What is repeated without a limit is a row of texts. -/
theorem reads_star_iff {r : Regex} {w : List Char} :
    (rep 0 none r).Reads w ↔ ∃ ws : List (List Char), ws.flatten = w ∧ ∀ u ∈ ws, r.Reads u := by
  constructor
  · rintro ⟨ws, -, -, hws⟩
    exact ⟨ws, hws⟩
  · rintro ⟨ws, hws⟩
    exact ⟨ws, Nat.zero_le _, fun m hm => (Option.not_mem_none m hm).elim, hws⟩

/-! ### Anchors and parentheses -/

/-- **Between anchors, a match anywhere is a match of the whole text.** -/
theorem isMatch_anchored_iff {r : Regex} {s : String} :
    (cat (look .textStart) (cat r (look .textEnd))).isMatch s = true ↔ r.MatchesWhole s := by
  rw [isMatch_iff, MatchesWhole]
  constructor
  · rintro ⟨i, j, -, k, ⟨hik, hstart⟩, l, hr, -, hend⟩
    have hi : i = 0 := by simpa [holds] using hstart
    have hl : l = s.toList.toArray.size := by simpa [holds] using hend
    rwa [← hik, hi, hl] at hr
  · intro hr
    exact ⟨0, _, Nat.zero_le _, 0, ⟨rfl, by simp [holds]⟩, _, hr, rfl, by simp [holds]⟩

/-- How expressions that follow one another are put together makes no difference. -/
theorem matches_cat_assoc {a b c : Regex} {text : Array Char} {i j : Nat} :
    (cat (cat a b) c).Matches text i j ↔ (cat a (cat b c)).Matches text i j := by
  constructor
  · rintro ⟨k, ⟨l, ha, hb⟩, hc⟩
    exact ⟨l, ha, k, hb, hc⟩
  · rintro ⟨l, ha, k, hb, hc⟩
    exact ⟨k, ⟨l, ha, hb⟩, hc⟩

theorem matches_cat_congr {a b b' : Regex} {text : Array Char} {i j : Nat}
    (h : ∀ i j, b.Matches text i j ↔ b'.Matches text i j) :
    (cat a b).Matches text i j ↔ (cat a b').Matches text i j :=
  exists_congr fun k => and_congr_right fun _ => h k j

theorem isMatch_congr {r r' : Regex} (h : ∀ text i j, r.Matches text i j ↔ r'.Matches text i j)
    (s : String) : r.isMatch s = true ↔ r'.isMatch s = true := by
  rw [isMatch_iff, isMatch_iff]
  simp only [h]

end Regex

end SmartForm
