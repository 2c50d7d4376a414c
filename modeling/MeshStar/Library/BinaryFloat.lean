import Mathlib.Algebra.Order.Field.Rat
import Mathlib.Data.Rat.Floor

/-!
# Rounding to a binary floating-point format

A format is given by its precision in bits and its least exponent. A rational number is
rounded to the nearest number of the format, a tie to the even one. Values above the
largest finite number are left unbounded.
-/

namespace BinaryFloat

/-- The nearest integer, the even one of two. -/
def roundHalfEven (value : ℚ) : Int :=
  let below := value.floor
  let rest := value - below
  if rest < 1 / 2 then below
  else if rest > 1 / 2 then below + 1
  else if below % 2 = 0 then below
  else below + 1

/-- The exponent of the leading bit. -/
def exponent (value : ℚ) : Int :=
  let guess : Int := (value.num.natAbs.log2 : Int) - value.den.log2
  if (2 : ℚ) ^ guess ≤ |value| then guess else guess - 1

/-- The nearest number with so many bits, whose exponent is not below the least. -/
def round (precision : Nat) (least : Int) (value : ℚ) : ℚ :=
  if value = 0 then 0
  else
    let unit : ℚ := 2 ^ (max (exponent value) least - (precision - 1))
    roundHalfEven (value / unit) * unit

end BinaryFloat
