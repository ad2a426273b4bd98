import GridSource.Decimal.Scaled
import GridSource.Misuse

/-!
# Integers as decimal text

An integer is read from and written as decimal digits.  There is a most number
of digits for both directions.
-/

namespace GridSource

/-- The most digits an integer may have. -/
def mostIntegerDigits : Nat := 4300

/-- Whether an integer has no more digits than an integer may have. -/
def hasText (number : Int) : Bool := decide (decimalLength number.natAbs ≤ mostIntegerDigits)

/-- The cause where an integer has no text. -/
def tooManyDigits : Misuse := .unacceptable none

/-- The text of an integer, refused where it would have more digits than an
integer may have. -/
def integerText (number : Int) : Except Misuse String :=
  if hasText number then .ok (toString number) else .error tooManyDigits

end GridSource
