/-!
# Words

The whole numbers that fit into a word of sixty-four bits, with a sign
(`SmartForm.Word.fitsSigned`) or without one (`SmartForm.Word.fits`).
-/

namespace SmartForm

namespace Word

/-- How many words there are. -/
def count : Nat := Nat.pow 2 64

/-- The largest word without a sign. -/
def greatest : Nat := count - 1

/-- The magnitude of the least word with a sign. -/
def half : Nat := Nat.pow 2 63

/-- Whether a number fits into a word without a sign. -/
def fits (n : Nat) : Bool := n < count

/-- Whether a number fits into a word with a sign. -/
def fitsSigned (i : Int) : Bool := -(half : Int) ≤ i && i < half

/-- Whether a number fits into a word of either sort. -/
def fitsEither (i : Int) : Bool := -(half : Int) ≤ i && i < count

end Word

end SmartForm
