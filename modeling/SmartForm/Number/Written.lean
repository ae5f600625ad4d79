import SmartForm.Number.Shortest

/-!
# Written forms of a double

Two ways of writing a double are in use, and each is one value of
`SmartForm.NumberStyle`: `SmartForm.NumberStyle.echo` writes numbers in documents and
wherever a number is taken as a text, `SmartForm.NumberStyle.plain` writes the
bounds named in messages. Both write the fewest digits that read back.
-/

namespace SmartForm

/-- How a double is written. -/
structure NumberStyle where
  /-- The least and the greatest exponent of the leading digit that is written
  without an exponent; nothing means that no number has one. -/
  positional : Option (Int × Int)
  /-- Whether a whole number ends in a point and a zero. -/
  pointZero : Bool
  /-- Which of two equally near decimals is written. -/
  tie : Tie
deriving Repr

/-- Numbers in documents: from `0.00001` to below `10 ^ 16` in positional form,
outside it with a signed exponent, and never without a sign of being a float. -/
def NumberStyle.echo : NumberStyle := ⟨some (-5, 15), true, .even⟩

/-- Bounds in messages: no exponent ever, and whole numbers without a point. -/
def NumberStyle.plain : NumberStyle := ⟨none, false, .up⟩

namespace Decimal

/-- `n` zeros. -/
def zeros (n : Nat) : List Char := List.replicate n '0'

/-- The decimal without an exponent. -/
def positional (pointZero : Bool) (d : Decimal) : List Char :=
  let ds := Nat.toDigits 10 d.coefficient
  if 0 ≤ d.exponent then
    ds ++ zeros d.exponent.toNat ++ (if pointZero then ['.', '0'] else [])
  else
    let places := (-d.exponent).toNat
    if places < ds.length then
      ds.take (ds.length - places) ++ '.' :: ds.drop (ds.length - places)
    else '0' :: '.' :: zeros (places - ds.length) ++ ds

/-- The decimal as its first digit, the others after a point, and the exponent
of the first digit with its sign. -/
def scientific (d : Decimal) : List Char :=
  let ds := Nat.toDigits 10 d.coefficient
  let e := d.exponent + ds.length - 1
  let mantissa := match ds with
    | [] => []
    | [c] => [c]
    | c :: rest => c :: '.' :: rest
  mantissa ++ 'e' :: (if e < 0 then '-' else '+') :: Nat.toDigits 10 e.natAbs

/-- The exponent of the leading digit. -/
def leading (d : Decimal) : Int :=
  d.exponent + (Nat.toDigits 10 d.coefficient).length - 1

/-- The decimal as the notation writes it. -/
def chars (n : NumberStyle) (d : Decimal) : List Char :=
  match n.positional with
  | none => d.positional n.pointZero
  | some (low, high) =>
    if low ≤ d.leading ∧ d.leading ≤ high then d.positional n.pointZero else d.scientific

end Decimal

/-- The written form of a double. -/
def Double.text (n : NumberStyle) : Double → String
  | .nan => "NaN"
  | .infinite negative => if negative then "-inf" else "inf"
  | .finite negative grains =>
    let body :=
      if grains = 0 then if n.pointZero then ['0', '.', '0'] else ['0']
      else (Double.shortest n.tie grains).chars n
    String.ofList (if negative then '-' :: body else body)

end SmartForm
