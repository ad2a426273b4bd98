import GridSource.Decimal.Shortest

/-!
# Written decimals

How a double is written: positional notation while the decimal exponent lies
from -4 to 15, with at least one digit after the point; otherwise a mantissa
and a signed exponent of at least two digits.
-/

namespace GridSource

structure DecimalNotation where
  leastPositional : Int
  mostPositional : Int
  infinity : String
  notANumber : String

/-- The notation of floats in texts, reports and documents. -/
def DecimalNotation.plain : DecimalNotation :=
  { leastPositional := -4, mostPositional := 15, infinity := "inf", notANumber := "nan" }

/-- The notation of floats in JSON documents. -/
def DecimalNotation.json : DecimalNotation :=
  { DecimalNotation.plain with infinity := "Infinity", notANumber := "NaN" }

namespace Decimal

def zeros (count : Nat) : String := String.ofList (List.replicate count '0')

def writtenExponent (exponent : Int) : String :=
  let digits := toString exponent.natAbs
  let padded := if digits.length < 2 then "0" ++ digits else digits
  (if exponent < 0 then "e-" else "e+") ++ padded

def positional (digits : String) (leading : Int) : String :=
  if leading < 0 then "0." ++ zeros (-leading - 1).toNat ++ digits
  else
    let whole := leading.toNat + 1
    if digits.length ≤ whole then digits ++ zeros (whole - digits.length) ++ ".0"
    else
      String.ofList (digits.toList.take whole) ++ "." ++ String.ofList (digits.toList.drop whole)

def scientific (digits : String) (leading : Int) : String :=
  let fraction := digits.toList.drop 1
  let mantissa :=
    if fraction.isEmpty then digits
    else String.ofList (digits.toList.take 1) ++ "." ++ String.ofList fraction
  mantissa ++ writtenExponent leading

/-- A positive decimal in a notation. -/
def write (notationOf : DecimalNotation) (decimal : Decimal) : String :=
  let digits := toString decimal.digits
  let leading := decimal.exponent + digits.length - 1
  if notationOf.leastPositional ≤ leading ∧ leading ≤ notationOf.mostPositional then
    positional digits leading
  else scientific digits leading

end Decimal

def Binary64.write (notationOf : DecimalNotation) : Binary64 → String
  | .notANumber => notationOf.notANumber
  | .infinite negative => (if negative then "-" else "") ++ notationOf.infinity
  | .finite negative mantissa exponent =>
      let magnitude :=
        if mantissa = 0 then "0.0" else (Decimal.shortest mantissa exponent).write notationOf
      (if negative then "-" else "") ++ magnitude

def writeFloat (notationOf : DecimalNotation) (number : Float) : String :=
  (Binary64.ofFloat number).write notationOf

end GridSource
