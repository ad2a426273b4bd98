import GridSource.Decimal.Binary64

/-!
# Shortest decimals

The decimal of a double is the one with the fewest digits that lies in the
interval of numbers rounding to that double; of two with equally many digits
the nearer wins, and an exact tie goes to the even last digit.  The search asks
each decimal grid, coarse to fine, for the two neighbours of the value.
-/

namespace GridSource

/-- The number `digits · 10 ^ exponent`. -/
structure Decimal where
  digits : Nat
  exponent : Int
deriving Repr, DecidableEq, Inhabited

namespace Decimal

/-- A positive number as a quotient of natural numbers. -/
structure Ratio where
  top : Nat
  bottom : Nat
deriving Repr

namespace Ratio

def ofScaled (mantissa : Nat) (exponent : Int) : Ratio :=
  if 0 ≤ exponent then ⟨mantissa * Nat.pow 2 exponent.toNat, 1⟩
  else ⟨mantissa, Nat.pow 2 (-exponent).toNat⟩

def le (left right : Ratio) : Bool :=
  left.top * right.bottom ≤ right.top * left.bottom

def lt (left right : Ratio) : Bool :=
  left.top * right.bottom < right.top * left.bottom

end Ratio

def toRatio (decimal : Decimal) : Ratio :=
  if 0 ≤ decimal.exponent then ⟨decimal.digits * Nat.pow 10 decimal.exponent.toNat, 1⟩
  else ⟨decimal.digits, Nat.pow 10 (-decimal.exponent).toNat⟩

/-- The numbers that round to `mantissa · 2 ^ exponent`.  Its ends belong to it
when the mantissa is even. -/
structure Interval where
  low : Ratio
  middle : Ratio
  high : Ratio
  closed : Bool

namespace Interval

def around (mantissa : Nat) (exponent : Int) : Interval :=
  let narrow := mantissa = Binary64.hiddenBit ∧ Binary64.leastExponent < exponent
  { low := .ofScaled (4 * mantissa - (if narrow then 1 else 2)) (exponent - 2)
    middle := .ofScaled (4 * mantissa) (exponent - 2)
    high := .ofScaled (4 * mantissa + 2) (exponent - 2)
    closed := mantissa % 2 = 0 }

def contains (interval : Interval) (number : Ratio) : Bool :=
  if interval.closed then interval.low.le number && number.le interval.high
  else interval.low.lt number && number.lt interval.high

/-- The least `place` with `middle < 10 ^ place`, near a guess from the binary
logarithm. -/
def place (interval : Interval) : Int :=
  let guess : Int :=
    (((interval.middle.top.log2 : Int) - interval.middle.bottom.log2) * 30103).fdiv 100000 - 1
  let candidates := (List.range 4).map fun step => guess + Int.ofNat step
  match candidates.find? fun power => interval.middle.lt (toRatio ⟨1, power⟩) with
  | some power => power
  | none => guess + 4

/-- The neighbour of the middle on the grid of multiples of `10 ^ power` that
lies in the interval and is nearest. -/
def onGrid? (interval : Interval) (power : Int) : Option Decimal :=
  let unit := toRatio ⟨1, power⟩
  let below := interval.middle.top * unit.bottom / (interval.middle.bottom * unit.top)
  let twice := 2 * (interval.middle.top * unit.bottom)
  let half := (2 * below + 1) * (interval.middle.bottom * unit.top)
  let upFirst := if twice = half then below % 2 = 1 else half < twice
  let ordered := if upFirst then [below + 1, below] else [below, below + 1]
  (ordered.map fun digits => (⟨digits, power⟩ : Decimal)).find? fun decimal =>
    decimal.digits != 0 && interval.contains (toRatio decimal)

end Interval

/-- Drops trailing zeros of the digits. -/
def normalize : Nat → Decimal → Decimal
  | 0, decimal => decimal
  | fuel + 1, decimal =>
      if decimal.digits ≠ 0 ∧ decimal.digits % 10 = 0 then
        normalize fuel ⟨decimal.digits / 10, decimal.exponent + 1⟩
      else decimal

/-- The shortest decimal of the positive double `mantissa · 2 ^ exponent`. -/
def shortest (mantissa : Nat) (exponent : Int) : Decimal :=
  let interval := Interval.around mantissa exponent
  let place := interval.place
  let grids := (List.range 17).map fun count => place - 1 - Int.ofNat count
  match grids.findSome? interval.onGrid? with
  | some decimal => normalize 20 decimal
  | none => ⟨mantissa, exponent⟩

end Decimal

end GridSource
