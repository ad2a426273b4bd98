/-!
# Reading scaled decimals

The double nearest to `digits · 10 ^ exponent`.  Exponents far outside the range
of doubles are settled before any power is computed.
-/

namespace GridSource

/-- The number of decimal digits, at least one. -/
def decimalLength (number : Nat) : Nat := (toString number).length

def scaledFloat (negative : Bool) (digits : Nat) (exponent : Int) : Float :=
  let magnitude :=
    if digits = 0 then 0.0
    else
      let leading := exponent + Int.ofNat (decimalLength digits)
      if 400 < leading then 1.0 / 0.0
      else if leading < -400 then 0.0
      else if 0 ≤ exponent then Float.ofScientific (digits * Nat.pow 10 exponent.toNat) false 0
      else Float.ofScientific digits true (-exponent).toNat
  if negative then -magnitude else magnitude

end GridSource
