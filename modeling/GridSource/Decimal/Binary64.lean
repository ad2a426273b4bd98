/-!
# Binary floating point, taken apart

A finite double is `mantissa · 2 ^ exponent` with a sign.  Everything that
must be exact about a double (its shortest decimal, whether it is an integer)
is computed on these parts in integer arithmetic.
-/

namespace GridSource

inductive Binary64 where
  | finite (negative : Bool) (mantissa : Nat) (exponent : Int)
  | infinite (negative : Bool)
  | notANumber
deriving Repr, DecidableEq, Inhabited

namespace Binary64

/-- The first mantissa of the normal numbers. -/
def hiddenBit : Nat := Nat.pow 2 52

/-- The exponent of the subnormal numbers and of the smallest normal ones. -/
def leastExponent : Int := -1074

def ofFloat (number : Float) : Binary64 :=
  let bits := number.toBits.toNat
  let negative := bits / Nat.pow 2 63 == 1
  let biased := bits / Nat.pow 2 52 % Nat.pow 2 11
  let fraction := bits % Nat.pow 2 52
  if biased = 2047 then
    if fraction = 0 then .infinite negative else .notANumber
  else if biased = 0 then .finite negative fraction leastExponent
  else .finite negative (hiddenBit + fraction) (Int.ofNat biased + leastExponent - 1)

/-- The integer equal to a double, if there is one. -/
def toInt? : Binary64 → Option Int
  | .finite negative mantissa exponent =>
      let magnitude : Option Nat :=
        if 0 ≤ exponent then some (mantissa * Nat.pow 2 exponent.toNat)
        else if mantissa % Nat.pow 2 (-exponent).toNat = 0 then
          some (mantissa / Nat.pow 2 (-exponent).toNat)
        else none
      magnitude.map fun size => if negative then -(size : Int) else size
  | _ => none

end Binary64

end GridSource
