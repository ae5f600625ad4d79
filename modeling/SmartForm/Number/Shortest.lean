import SmartForm.Number.Double

/-!
# The fewest digits that read back

A finite double stands for every real number that rounds to it. Among the
decimal numbers in that interval `SmartForm.Double.shortest` takes one with the
fewest digits, and of those the one nearest to the double.

For each digit count the decimals form a grid, and if any point of the grid
lies in the interval then so does one of the two neighbours of the double on
that grid. So it is enough to test two points per count, and seventeen digits
always suffice.
-/

namespace SmartForm

/-- The decimal number `coefficient * 10 ^ exponent`. -/
structure Decimal where
  /-- The digits, read as a natural number. -/
  coefficient : Nat
  /-- The power of ten of the last digit. -/
  exponent : Int
deriving DecidableEq, Repr, Inhabited

/-- What to do with a double that lies exactly between two decimals. -/
inductive Tie where
  /-- Take the decimal whose last digit is even. -/
  | even
  /-- Take the larger decimal. -/
  | up
deriving DecidableEq, Repr

/-- The decimal without the zeros at its end. -/
def Decimal.strip : Nat → Decimal → Decimal
  | 0, d => d
  | fuel + 1, d =>
    if d.coefficient ≠ 0 ∧ d.coefficient % 10 = 0 then
      strip fuel ⟨d.coefficient / 10, d.exponent + 1⟩
    else d

namespace Double

/-- The exponent of the leading decimal digit of a magnitude of at least one
grain. The factor `10 ^ 400` makes the quotient a large whole number for the
smallest magnitude already. -/
def leadingExponent (grains : Nat) : Int :=
  (Nat.toDigits 10 (grains * Nat.pow 10 400 / grainsPerUnit)).length - 1 - 400

/-- The decimal on the grid of step `10 ^ k` that rounds to `grains`, if there is
one: the neighbour below or the one above, and of two the nearer. Magnitudes
are counted in quarter grains, so that the ends of the interval are whole. -/
def onGrid (tie : Tie) (grains : Nat) (k : Int) : Option Decimal :=
  let s := spacing grains
  let below := if grains = Nat.pow 2 52 * s ∧ 1 < s then s else 2 * s
  let closed := grains / s % 2 = 0
  let stretch := Nat.pow 10 (-k).toNat
  let step := 4 * grainsPerUnit * Nat.pow 10 k.toNat
  let value := 4 * grains * stretch
  let low := (4 * grains - below) * stretch
  let high := (4 * grains + 2 * s) * stretch
  let q := value / step
  let r := value % step
  let lowerFits := if closed then low ≤ q * step else low < q * step
  let upperFits := if closed then (q + 1) * step ≤ high else (q + 1) * step < high
  if lowerFits then
    if upperFits then
      if 2 * r < step then some ⟨q, k⟩
      else if step < 2 * r then some ⟨q + 1, k⟩
      else match tie with
        | .even => some ⟨q + q % 2, k⟩
        | .up => some ⟨q + 1, k⟩
    else some ⟨q, k⟩
  else if upperFits then some ⟨q + 1, k⟩
  else none

/-- The first of the grids from step `10 ^ k` downward that has a decimal
rounding to `grains`. -/
def firstGrid (tie : Tie) (grains : Nat) : Nat → Int → Decimal
  | 0, k => ⟨0, k⟩
  | fuel + 1, k =>
    match onGrid tie grains k with
    | some d => d
    | none => firstGrid tie grains fuel (k - 1)

/-- The shortest decimal that rounds to a magnitude of at least one grain. -/
def shortest (tie : Tie) (grains : Nat) : Decimal :=
  (firstGrid tie grains 17 (leadingExponent grains)).strip 20

end Double

end SmartForm
