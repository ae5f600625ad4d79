import SmartForm.Number.Word

/-!
# Double-precision numbers, exactly

A finite double is a whole number of *grains*, the grain being the least
positive double, one part in `2 ^ 1074`. Every operation below is therefore
arithmetic on natural numbers: the exact quotient is formed first and rounded
once, to fifty-three significant bits, a half going to the even neighbour.

The main definitions are

* `SmartForm.Double` – the numbers, with both infinities and the not-a-number;
* `SmartForm.Double.roundGrains` – the one rounding, of a quotient of naturals;
* `SmartForm.Double.ofDecimal` – the double nearest to a decimal number;
* `SmartForm.Double.ofScaled` – a sixty-four-bit significand moved by a power
  of ten in double precision, which is *not* always the nearest double;
* `SmartForm.Double.compare` – the order, undefined on the not-a-number.
-/

namespace SmartForm

/-- A double-precision number. A finite one carries its sign and its magnitude
in grains, so that the two zeros stay apart. -/
inductive Double where
  /-- The number `grains / 2 ^ 1074`, or its opposite. -/
  | finite (negative : Bool) (grains : Nat)
  /-- The infinity of the given sign. -/
  | infinite (negative : Bool)
  /-- Not a number. -/
  | nan
deriving DecidableEq, Repr, Inhabited

namespace Double

/-! ### Rounding -/

/-- The whole number nearest to `num / den`, a half going to the even one. -/
def roundHalfEven (num den : Nat) : Nat :=
  let q := num / den
  let r := num % den
  if 2 * r < den then q else if den < 2 * r then q + 1 else q + q % 2

/-- How many grains make up the number one. -/
def grainsPerUnit : Nat := Nat.pow 2 1074

/-- The least magnitude in grains that is too large to be finite. -/
def grainLimit : Nat := Nat.pow 2 2098

/-- The distance in grains between neighbouring doubles from `grains` upward:
one grain as long as fifty-three bits hold the whole magnitude. -/
def spacing (grains : Nat) : Nat := Nat.pow 2 (grains.log2 - 52)

/-- The magnitude `num / den`, in grains, rounded to fifty-three significant
bits. The result may reach `grainLimit`. -/
def roundGrains (num den : Nat) : Nat :=
  let s := spacing (num / den)
  roundHalfEven num (den * s) * s

/-- A rounded magnitude as a number: from `grainLimit` on it is infinite. -/
def ofGrains (negative : Bool) (grains : Nat) : Double :=
  if grains < grainLimit then .finite negative grains else .infinite negative

/-- The double nearest to `num / den`. -/
def ofRatio (negative : Bool) (num den : Nat) : Double :=
  ofGrains negative (roundGrains (num * grainsPerUnit) den)

/-- The double nearest to a whole number. -/
def ofInt (i : Int) : Double := ofRatio (decide (i < 0)) i.natAbs 1

/-! ### From decimal notation -/

/-- The double nearest to `significand * 10 ^ exponent`. Far outside the range
of doubles the answer is known without forming the power. -/
def ofDecimal (negative : Bool) (significand : Nat) (exponent : Int) : Double :=
  if significand = 0 then .finite negative 0
  else if 0 ≤ exponent then
    if 400 < exponent then .infinite negative
    else ofRatio negative (significand * Nat.pow 10 exponent.toNat) 1
  else
    if significand.log2 + 400 < (-exponent).toNat then .finite negative 0
    else ofRatio negative significand (Nat.pow 10 (-exponent).toNat)

/-- The double nearest to `10 ^ k`, in grains. -/
def tenTo (k : Nat) : Nat := roundGrains (Nat.pow 10 k * grainsPerUnit) 1

/-- The rounded product of two magnitudes. -/
def mulGrains (a b : Nat) : Nat := roundGrains (a * b) grainsPerUnit

/-- The rounded quotient of two magnitudes. -/
def divGrains (a b : Nat) : Nat := roundGrains (a * grainsPerUnit) b

/-- `significand * 10 ^ exponent`, computed in double precision: the significand
is rounded, then multiplied or divided by a rounded power of ten, of which the
largest is `10 ^ 308`. There is no answer when the magnitude is not finite.

Two divisions by `10 ^ 308` bring every sixty-four-bit significand to zero, so
nothing is left below the second one. -/
def ofScaled (negative : Bool) (significand : Nat) (exponent : Int) : Option Double :=
  let f := roundGrains (significand * grainsPerUnit) 1
  if 308 < exponent then
    if f = 0 then some (.finite negative 0) else none
  else if 0 ≤ exponent then
    let g := mulGrains f (tenTo exponent.toNat)
    if g < grainLimit then some (.finite negative g) else none
  else if -308 ≤ exponent then
    some (.finite negative (divGrains f (tenTo (-exponent).toNat)))
  else if -616 ≤ exponent then
    some (.finite negative (divGrains (divGrains f (tenTo 308)) (tenTo (-exponent - 308).toNat)))
  else some (.finite negative 0)

/-- The number with the other sign. -/
def opposite : Double → Double
  | .finite negative grains => .finite (!negative) grains
  | .infinite negative => .infinite (!negative)
  | .nan => .nan

/-- The number rounded to a natural number of sixty-four bits, a half going up.
What lies below the range gives zero, what lies above it the largest number. -/
def toWord : Double → Nat
  | .finite false grains => min ((2 * grains + grainsPerUnit) / (2 * grainsPerUnit)) Word.greatest
  | .infinite false => Word.greatest
  | _ => 0

/-! ### Order -/

/-- Whether the number is neither infinite nor the not-a-number. -/
def isFinite : Double → Bool
  | .finite _ _ => true
  | _ => false

/-- A magnitude with its sign, in grains; both zeros give `0`. -/
def signedGrains (negative : Bool) (grains : Nat) : Int :=
  if negative then -(grains : Int) else grains

/-- How the first number stands to the second one. The not-a-number stands in
no order to anything, itself included, and the two zeros are equal. -/
def compare : Double → Double → Option Ordering
  | .nan, _ => none
  | _, .nan => none
  | .infinite true, .infinite true => some .eq
  | .infinite true, _ => some .lt
  | .infinite false, .infinite false => some .eq
  | .infinite false, _ => some .gt
  | _, .infinite true => some .gt
  | _, .infinite false => some .lt
  | .finite m a, .finite n b => some (Ord.compare (signedGrains m a) (signedGrains n b))

end Double

end SmartForm
