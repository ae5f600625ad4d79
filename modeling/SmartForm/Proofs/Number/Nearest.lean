import Mathlib.Tactic.LinearCombination
import Mathlib.Tactic.Ring
import SmartForm.Number.Double

/-!
# The nearest double

A finite double is counted in grains, and what numbers of grains are doubles is said without
any rounding: those of fifty-three bits at most, behind which there are zeros
(`SmartForm.Double.IsDouble`). Of these one is the nearest to a given number of grains, an even
one where two are as near (`SmartForm.Double.IsNearest`), and there is only one such
(`SmartForm.Double.IsNearest.unique`). Rounding finds it
(`SmartForm.Double.isNearest_roundGrains`).

The one thing to know is how the last bit of a double can be spoken of without its bits. Two
doubles that are as near to something have no other one between them, so the last bit of one is
even, and twice their distance goes into that one. It does not go into both, or else twice
their distance would go into their distance.

Whole numbers beyond fifty-three bits may have one nearest double in common: they **merge**
(`SmartForm.Double.Merge`). Those within fifty-three bits do not merge with any other one
(`SmartForm.Double.Merge.eq_of_lt`), and all that do not merge stay in their order
(`SmartForm.Double.IsNearest.lt_iff`).
-/

namespace SmartForm

namespace Double

/-! ### Magnitudes -/

theorem roundHalfEven_le (num den : Nat) : roundHalfEven num den ≤ num / den + 1 := by
  simp only [roundHalfEven]
  split
  · omega
  · split <;> omega

theorem roundGrains_one (n : Nat) :
    roundGrains n 1 = roundHalfEven n (spacing n) * spacing n := by
  rw [roundGrains, Nat.div_one, Nat.one_mul]

/-- Rounding at most doubles a magnitude. -/
theorem roundGrains_le (num : Nat) : roundGrains num 1 ≤ 2 * num + 1 := by
  have hspacing : spacing num ≤ num + 1 := by
    rw [spacing]
    by_cases hnum : num = 0
    · rw [hnum]
      decide
    · calc Nat.pow 2 (num.log2 - 52)
          ≤ 2 ^ num.log2 := Nat.pow_le_pow_right (by decide) (Nat.sub_le ..)
        _ ≤ num + 1 := Nat.le_succ_of_le (Nat.log2_self_le hnum)
  rw [roundGrains_one]
  calc roundHalfEven num (spacing num) * spacing num
      ≤ (num / spacing num + 1) * spacing num :=
        Nat.mul_le_mul_right _ (roundHalfEven_le ..)
    _ = num / spacing num * spacing num + spacing num := by rw [Nat.add_mul, Nat.one_mul]
    _ ≤ 2 * num + 1 := by
        have := Nat.div_mul_le_self num (spacing num)
        omega

/-- There is much room between the words and the limit. -/
theorem grains_lt_grainLimit : 2 * Word.greatest * grainsPerUnit + 1 < grainLimit := by
  decide +kernel

theorem roundGrains_lt_grainLimit {n : Nat} (hn : n ≤ Word.greatest) :
    roundGrains (n * grainsPerUnit) 1 < grainLimit :=
  calc roundGrains (n * grainsPerUnit) 1
      ≤ 2 * (n * grainsPerUnit) + 1 := roundGrains_le _
    _ = 2 * n * grainsPerUnit + 1 := by rw [Nat.mul_assoc]
    _ ≤ 2 * Word.greatest * grainsPerUnit + 1 :=
      Nat.add_le_add_right (Nat.mul_le_mul_right _ (Nat.mul_le_mul_left 2 hn)) 1
    _ < grainLimit := grains_lt_grainLimit

theorem isFinite_ofInt {n : Nat} (hn : n ≤ Word.greatest) : (ofInt n).isFinite = true := by
  rw [ofInt, ofRatio, Int.natAbs_natCast, ofGrains, if_pos (roundGrains_lt_grainLimit hn)]
  rfl

theorem isFinite_opposite (d : Double) : d.opposite.isFinite = d.isFinite := by
  cases d <;> rfl

/-- A significand that is moved has a finite value or none. -/
theorem isFinite_ofScaled {negative : Bool} {significand : Nat} {e : Int} {d : Double}
    (h : ofScaled negative significand e = some d) : d.isFinite = true := by
  simp only [ofScaled] at h
  split at h
  · split at h
    · cases h; rfl
    · cases h
  · split at h
    · split at h
      · cases h; rfl
      · cases h
    · split at h
      · cases h; rfl
      · split at h
        · cases h; rfl
        · cases h; rfl

/-! ### The nearest multiple -/

/-- **What is rounded is within half a step**, and even where it is just half a step away. -/
theorem roundHalfEven_spec (num : Nat) {den : Nat} (hden : 0 < den) :
    2 * ((num : Int) - (roundHalfEven num den * den : Nat)).natAbs ≤ den ∧
      (2 * ((num : Int) - (roundHalfEven num den * den : Nat)).natAbs = den →
        2 ∣ roundHalfEven num den) := by
  have hsplit : num = num / den * den + num % den := (Nat.div_add_mod' num den).symm
  have hrest : num % den < den := Nat.mod_lt _ hden
  have hnext : (num / den + 1) * den = num / den * den + den := Nat.succ_mul ..
  simp only [roundHalfEven]
  split
  · omega
  · split
    · rw [hnext]
      omega
    · rcases Nat.mod_two_eq_zero_or_one (num / den) with heven | hodd
      · rw [heven, Nat.add_zero]
        omega
      · rw [hodd, hnext]
        omega

/-- A multiple of the step is not nearer than what is rounded, and where it is as near, the
latter is even. -/
theorem roundHalfEven_least (num : Nat) {den : Nat} (hden : 0 < den) (hy : (den : Int) ∣ y) :
    let x : Int := (roundHalfEven num den * den : Nat)
    (num - x).natAbs ≤ (num - y).natAbs ∧
      (y ≠ x → (num - y).natAbs = (num - x).natAbs → 2 * (y - x) ∣ x) := by
  intro x
  obtain ⟨hhalf, heven⟩ := roundHalfEven_spec num hden
  obtain ⟨t, rfl⟩ := hy
  by_cases hne : (den : Int) * t = x
  · exact ⟨by rw [hne], fun h => absurd hne h⟩
  · -- Two multiples are a step apart, if they are not one.
    have hx : x = den * (roundHalfEven num den : Int) := by
      rw [Int.mul_comm]
      exact Int.natCast_mul ..
    have hgap : (den * t - x : Int).natAbs =
        den * (t - (roundHalfEven num den : Int)).natAbs := by
      rw [hx, ← Int.mul_sub, Int.natAbs_mul, Int.natAbs_natCast]
    have hstep : 0 < (t - (roundHalfEven num den : Int)).natAbs := by
      refine Int.natAbs_pos.mpr fun h => hne ?_
      rw [hx, Int.eq_of_sub_eq_zero h]
    have hone : den ≤ den * (t - (roundHalfEven num den : Int)).natAbs :=
      Nat.le_mul_of_pos_right den hstep
    refine ⟨by omega, fun _ hdist => ?_⟩
    obtain ⟨k, hk⟩ := heven (by omega)
    have hnext : (den * t - x : Int).natAbs = den := by omega
    have hx' : x = den * (2 * k) := by rw [hx, hk, Int.natCast_mul]; rfl
    rcases Int.natAbs_eq (den * t - x : Int) with h | h
    · rw [h, hnext, hx']
      exact ⟨k, by ring⟩
    · rw [h, hnext, hx']
      exact ⟨-k, by ring⟩

theorem roundHalfEven_le_of_lt {num den k : Nat} (h : num < k * den) :
    roundHalfEven num den ≤ k := by
  have hdiv : num / den < k := Nat.div_lt_of_lt_mul (by rwa [Nat.mul_comm])
  have hround := roundHalfEven_le num den
  omega

/-! ### Doubles -/

/-- A whole number of grains is a double: it has fifty-three bits at most with zeros behind
them, and it is not too large. -/
structure IsDouble (x : Int) : Prop where
  /-- The bits, and how many zeros there are. -/
  bits : ∃ (m : Int) (e : Nat), m.natAbs < 2 ^ 53 ∧ x = m * 2 ^ e
  /-- Larger magnitudes are infinite. -/
  bounded : x.natAbs < grainLimit

/-- **The double `x` is the nearest one** to a number of grains `i`. -/
structure IsNearest (i x : Int) : Prop where
  /-- It is a double. -/
  isDouble : IsDouble x
  /-- No other one is nearer. -/
  least : ∀ y, IsDouble y → (i - x).natAbs ≤ (i - y).natAbs
  /-- Of two that are as near, it is the one whose last bit is even: twice their distance goes
  into it. -/
  even : ∀ y, IsDouble y → y ≠ x → (i - y).natAbs = (i - x).natAbs → 2 * (y - x) ∣ x

variable {i j x y : Int}

theorem IsNearest.unique (hx : IsNearest i x) (hy : IsNearest i y) : x = y := by
  by_contra hne
  have hdist : (i - y).natAbs = (i - x).natAbs :=
    Nat.le_antisymm (hy.least x hx.isDouble) (hx.least y hy.isDouble)
  obtain ⟨s, hs⟩ := hx.even y hy.isDouble (Ne.symm hne) hdist
  obtain ⟨t, ht⟩ := hy.even x hx.isDouble hne hdist.symm
  -- Twice the distance of the two would go into their distance.
  have hodd : (y - x) * (1 + 2 * (s + t)) = 0 := by linear_combination ht - hs
  rcases Int.mul_eq_zero.mp hodd with h | h <;> omega

theorem IsNearest.mono (hij : i < j) (hx : IsNearest i x) (hy : IsNearest j y) : x ≤ y := by
  have hfirst := hx.least y hy.isDouble
  have hsecond := hy.least x hx.isDouble
  omega

theorem IsNearest.eq_of_isDouble (hx : IsNearest i x) (hi : IsDouble i) : x = i := by
  have hleast := hx.least i hi
  omega

theorem IsDouble.neg (hx : IsDouble x) : IsDouble (-x) := by
  obtain ⟨⟨m, e, hm, rfl⟩, hbounded⟩ := hx
  exact ⟨⟨-m, e, by rwa [Int.natAbs_neg], (Int.neg_mul ..).symm⟩, by rwa [Int.natAbs_neg]⟩

theorem IsNearest.neg (hx : IsNearest i x) : IsNearest (-i) (-x) where
  isDouble := hx.isDouble.neg
  least := fun y hy => by
    have hleast := hx.least (-y) hy.neg
    omega
  even := fun y hy hne hdist => by
    have hopposite : 2 * (y - -x) = -(2 * (-y - x)) := by omega
    rw [hopposite, Int.neg_dvd, Int.dvd_neg]
    exact hx.even (-y) hy.neg (by omega) (by omega)

/-- Fifty-three ones and the next number are no more than a bit apart. -/
theorem isDouble_of_le {m : Int} {e : Nat} (hm : m.natAbs ≤ 2 ^ 53)
    (hbounded : (m * 2 ^ e).natAbs < grainLimit) : IsDouble (m * 2 ^ e) := by
  refine ⟨?_, hbounded⟩
  rcases Nat.lt_or_eq_of_le hm with hlt | heq
  · exact ⟨m, e, hlt, rfl⟩
  · obtain ⟨k, rfl⟩ : (2 : Int) ∣ m := by omega
    exact ⟨k, e + 1, by omega, by ring⟩

/-! ### What is rounded -/

theorem spacing_pos (n : Nat) : 0 < spacing n := Nat.two_pow_pos _

/-- **The doubles near a magnitude are multiples of the spacing**: all others lie below the
magnitude, and below a multiple that lies below it as well. -/
theorem spacing_dvd_or {n : Nat} (hy : IsDouble y) :
    (spacing n : Int) ∣ y ∨
      y < (2 ^ 52 * spacing n : Nat) ∧ 2 ^ 52 * spacing n ≤ n := by
  obtain ⟨⟨m, e, hm, rfl⟩, -⟩ := hy
  have hspacing : spacing n = 2 ^ (n.log2 - 52) := rfl
  rw [hspacing]
  by_cases he : n.log2 - 52 ≤ e
  · left
    rw [Nat.cast_pow]
    exact Dvd.dvd.mul_left (pow_dvd_pow 2 he) m
  · right
    have hn : n ≠ 0 := by
      rintro rfl
      exact he (Nat.zero_le e)
    have hlt : (m * 2 ^ e).natAbs < 2 ^ 52 * 2 ^ (n.log2 - 52) :=
      calc (m * 2 ^ e).natAbs
          = m.natAbs * 2 ^ e := by rw [Int.natAbs_mul, Int.natAbs_pow]; rfl
        _ < 2 ^ 53 * 2 ^ e := Nat.mul_lt_mul_of_pos_right hm (Nat.two_pow_pos e)
        _ = 2 ^ 52 * 2 ^ (e + 1) := by ring
        _ ≤ 2 ^ 52 * 2 ^ (n.log2 - 52) :=
            Nat.mul_le_mul_left _ (Nat.pow_le_pow_right (by decide) (by omega))
    refine ⟨Int.lt_of_le_of_lt Int.le_natAbs (Int.ofNat_lt.mpr hlt), ?_⟩
    calc 2 ^ 52 * 2 ^ (n.log2 - 52)
        = 2 ^ n.log2 := by rw [← Nat.pow_add, Nat.add_sub_cancel' (by omega)]
      _ ≤ n := Nat.log2_self_le hn

/-- **A rounded magnitude is the nearest double.** -/
theorem isNearest_roundGrains {n : Nat} (hlimit : roundGrains n 1 < grainLimit) :
    IsNearest n (roundGrains n 1 : Nat) := by
  rw [roundGrains_one] at hlimit ⊢
  have hbits : roundHalfEven n (spacing n) ≤ 2 ^ 53 := by
    refine roundHalfEven_le_of_lt (Nat.lt_of_lt_of_le Nat.lt_log2_self ?_)
    calc 2 ^ (n.log2 + 1)
        ≤ 2 ^ (53 + (n.log2 - 52)) := Nat.pow_le_pow_right (by decide) (by omega)
      _ = 2 ^ 53 * spacing n := Nat.pow_add ..
  have hbelow := roundHalfEven_least n (spacing_pos n) (y := (2 ^ 52 * spacing n : Nat))
    (Int.natCast_dvd_natCast.mpr (Nat.dvd_mul_left ..))
  constructor
  · have hcast : ((roundHalfEven n (spacing n) * spacing n : Nat) : Int) =
        (roundHalfEven n (spacing n) : Int) * 2 ^ (n.log2 - 52) := by
      rw [Int.natCast_mul, spacing]
      exact congrArg _ (Int.natCast_pow ..)
    rw [hcast]
    exact isDouble_of_le hbits (by rwa [← hcast])
  · intro y hy
    rcases spacing_dvd_or (n := n) hy with hdvd | ⟨hlt, hle⟩
    · exact (roundHalfEven_least n (spacing_pos n) hdvd).1
    · omega
  · intro y hy hne hdist
    rcases spacing_dvd_or (n := n) hy with hdvd | ⟨hlt, hle⟩
    · exact (roundHalfEven_least n (spacing_pos n) hdvd).2 hne hdist
    · omega

/-! ### Whole numbers -/

theorem exists_grainsPerUnit : ∃ e, grainsPerUnit = 2 ^ e := ⟨1074, by decide +kernel⟩

theorem grainsPerUnit_pos : 0 < grainsPerUnit := by
  obtain ⟨e, he⟩ := exists_grainsPerUnit
  exact he ▸ Nat.two_pow_pos e

theorem mul_grainsPerUnit_lt {i j : Int} (hij : i < j) :
    i * (grainsPerUnit : Int) < j * grainsPerUnit :=
  Int.mul_lt_mul_of_pos_right hij (Int.natCast_pos.mpr grainsPerUnit_pos)

/-- **A whole number is taken as the nearest double.** -/
theorem exists_ofInt (hi : i.natAbs ≤ Word.greatest) :
    ∃ negative grains, ofInt i = .finite negative grains ∧
      IsNearest (i * grainsPerUnit) (signedGrains negative grains) := by
  have hlimit := roundGrains_lt_grainLimit hi
  have hnearest := isNearest_roundGrains hlimit
  refine ⟨decide (i < 0), _, by rw [ofInt, ofRatio, ofGrains, if_pos hlimit], ?_⟩
  rw [Int.natCast_mul] at hnearest
  by_cases hneg : i < 0
  · have hi : (i.natAbs : Int) = -i := by omega
    rw [hi, Int.neg_mul] at hnearest
    rw [decide_eq_true hneg, signedGrains, if_pos rfl]
    have hopposite := hnearest.neg
    rwa [Int.neg_neg] at hopposite
  · have hi : (i.natAbs : Int) = i := by omega
    rw [hi] at hnearest
    rwa [decide_eq_false hneg, signedGrains, if_neg Bool.false_ne_true]

/-- A whole number of fifty-three bits, with a few zeros behind them, is a double. -/
theorem isDouble_mul_grainsPerUnit {e : Nat} (hi : i.natAbs ≤ 2 ^ 53) (he : e ≤ 11) :
    IsDouble (i * 2 ^ e * grainsPerUnit) := by
  have hword : i.natAbs * 2 ^ e ≤ 2 * Word.greatest :=
    calc i.natAbs * 2 ^ e
        ≤ 2 ^ 53 * 2 ^ 11 := Nat.mul_le_mul hi (Nat.pow_le_pow_right (by decide) he)
      _ ≤ 2 * Word.greatest := by decide
  have hbounded : (i * 2 ^ e * grainsPerUnit).natAbs < grainLimit :=
    calc (i * 2 ^ e * grainsPerUnit).natAbs
        = i.natAbs * 2 ^ e * grainsPerUnit := by
          rw [Int.natAbs_mul, Int.natAbs_mul, Int.natAbs_pow, Int.natAbs_natCast]
          rfl
      _ ≤ 2 * Word.greatest * grainsPerUnit + 1 :=
        (Nat.mul_le_mul_right _ hword).trans (Nat.le_add_right _ 1)
      _ < grainLimit := grains_lt_grainLimit
  obtain ⟨k, hk⟩ := exists_grainsPerUnit
  rw [hk, Int.natCast_pow, Int.mul_assoc] at hbounded ⊢
  have hzeros : (2 : Int) ^ e * (2 : Nat) ^ k = 2 ^ (e + k) := (Int.pow_add ..).symm
  rw [hzeros] at hbounded ⊢
  exact isDouble_of_le hi hbounded

theorem isDouble_ofInt (hi : i.natAbs ≤ 2 ^ 53) : IsDouble (i * grainsPerUnit) := by
  have hdouble := isDouble_mul_grainsPerUnit hi (Nat.zero_le 11)
  rwa [Int.pow_zero, Int.mul_one] at hdouble

/-- Two whole numbers **merge** if one double is nearest to both. -/
def Merge (i j : Int) : Prop :=
  ∃ x, IsNearest (i * grainsPerUnit) x ∧ IsNearest (j * grainsPerUnit) x

theorem Merge.symm (h : Merge i j) : Merge j i := h.imp fun _ => And.symm

/-- The nearest doubles are in the order of the whole numbers, unless these merge. -/
theorem IsNearest.lt_iff (hx : IsNearest (i * grainsPerUnit) x)
    (hy : IsNearest (j * grainsPerUnit) y) : x < y ↔ i < j ∧ ¬ Merge i j := by
  constructor
  · intro hlt
    refine ⟨?_, fun ⟨z, hz, hz'⟩ => ?_⟩
    · by_contra hij
      rcases Int.lt_or_eq_of_le (Int.not_lt.mp hij) with hji | rfl
      · have hle := hy.mono (mul_grainsPerUnit_lt hji) hx
        omega
      · exact hlt.ne (hx.unique hy)
    · exact hlt.ne ((hx.unique hz).trans (hz'.unique hy))
  · rintro ⟨hij, hmerge⟩
    have hle := hx.mono (mul_grainsPerUnit_lt hij) hy
    exact lt_of_le_of_ne hle fun h => hmerge ⟨x, hx, h ▸ hy⟩

/-- **A whole number of fifty-three bits merges with no other one.** -/
theorem Merge.eq_of_lt (h : Merge i j) (hi : i.natAbs < 2 ^ 53) : i = j := by
  obtain ⟨x, hx, hy⟩ := h
  obtain rfl := hx.eq_of_isDouble (isDouble_ofInt hi.le)
  -- Otherwise the neighbour on the way to the other number would be nearer to that.
  rcases Int.lt_trichotomy i j with hlt | heq | hgt
  · have hleast := hy.least _ (isDouble_ofInt (i := i + 1) (by omega))
    have hnext := mul_grainsPerUnit_lt (Int.lt_succ i)
    have hle : (i + 1) * (grainsPerUnit : Int) ≤ j * grainsPerUnit :=
      Int.mul_le_mul_of_nonneg_right hlt (Int.natCast_nonneg _)
    omega
  · exact heq
  · have hleast := hy.least _ (isDouble_ofInt (i := i - 1) (by omega))
    have hnext := mul_grainsPerUnit_lt (Int.sub_one_lt_of_le (Int.le_refl i))
    have hle : j * (grainsPerUnit : Int) ≤ (i - 1) * grainsPerUnit :=
      Int.mul_le_mul_of_nonneg_right (Int.le_sub_one_of_lt hgt) (Int.natCast_nonneg _)
    omega

/-- The nearest double of a word is at most half of the largest spacing away. -/
theorem IsNearest.near (hx : IsNearest (i * grainsPerUnit) x) (hi : i.natAbs ≤ Word.greatest) :
    (i * grainsPerUnit - x).natAbs ≤ 2 ^ 10 * grainsPerUnit := by
  have hgreatest : Word.greatest = 2 ^ 64 - 1 := rfl
  -- Every word has a multiple of the largest spacing nearby.
  have hdouble := isDouble_mul_grainsPerUnit (i := (i + 2 ^ 10) / 2 ^ 11) (e := 11) (by omega)
    (Nat.le_refl 11)
  calc (i * grainsPerUnit - x).natAbs
      ≤ (i * grainsPerUnit - (i + 2 ^ 10) / 2 ^ 11 * 2 ^ 11 * grainsPerUnit).natAbs :=
        hx.least _ hdouble
    _ = (i - (i + 2 ^ 10) / 2 ^ 11 * 2 ^ 11).natAbs * grainsPerUnit := by
        rw [← Int.sub_mul, Int.natAbs_mul, Int.natAbs_natCast]
    _ ≤ 2 ^ 10 * grainsPerUnit := Nat.mul_le_mul_right _ (by omega)

/-- **Words that merge are close to each other.** -/
theorem Merge.near (h : Merge i j) (hi : i.natAbs ≤ Word.greatest)
    (hj : j.natAbs ≤ Word.greatest) : (i - j).natAbs ≤ 2 ^ 11 := by
  obtain ⟨x, hx, hy⟩ := h
  have hxi := hx.near hi
  have hyj := hy.near hj
  refine Nat.le_of_mul_le_mul_right ?_ grainsPerUnit_pos
  calc (i - j).natAbs * grainsPerUnit
      = (i * grainsPerUnit - j * grainsPerUnit).natAbs := by
        rw [← Int.sub_mul, Int.natAbs_mul, Int.natAbs_natCast]
    _ ≤ 2 ^ 11 * grainsPerUnit := by
        generalize grainsPerUnit = g at hxi hyj ⊢
        omega

end Double

end SmartForm
