import GridSource.Decimal.Binary64
import GridSource.Decimal.Scaled
import GridSource.Value

/-!
# Timeouts

A timeout is given in seconds and kept in microseconds.  The part of a
microsecond is rounded to the nearest, a half to the even neighbour.
-/

namespace GridSource.Timeout

/-- The most days a timeout may have, in either direction. -/
def mostDays : Int := 999999999

def microsecondsPerDay : Int := 86400 * 1000000

def check (microseconds : Int) : Except Misuse Int :=
  let days := microseconds.fdiv microsecondsPerDay
  if -mostDays ≤ days ∧ days ≤ mostDays then .ok microseconds else .error .outOfRange

/-- The whole part of a finite float, and the rest of it. -/
def splitFloat (number : Float) : Int × Float :=
  let whole := if number < 0.0 then number.ceil else number.floor
  (((Binary64.ofFloat whole).toInt?).getD 0, number - whole)

/-- The nearest integer to `whole + rest`, where the rest is less than one. -/
def roundHalfEven (whole : Int) (rest : Float) : Int :=
  let size := rest.abs
  let away : Int := if rest < 0.0 then -1 else 1
  if size < 0.5 then whole
  else if 0.5 < size then whole + away
  else if whole % 2 = 0 then whole
  else whole + away

def ofFloat (seconds : Float) : Except Misuse Int :=
  if seconds.isNaN then .error (.unacceptable none)
  else if seconds.isInf then .error .outOfRange
  else
    let (whole, fraction) := splitFloat seconds
    let (microseconds, rest) := splitFloat (fraction * 1000000.0)
    check (roundHalfEven (whole * 1000000 + microseconds) rest)

/-- The microseconds of a timeout. -/
def ofValue : Value → Except Misuse Int
  | .int seconds => check (seconds * 1000000)
  | .bool flag => check (if flag then 1000000 else 0)
  | .float seconds => ofFloat seconds
  | _ => .error .wrongArgument

/-- A timeout in seconds. -/
def seconds (microseconds : Int) : Float :=
  if microseconds < 0 then scaledFloat true microseconds.natAbs (-6)
  else scaledFloat false microseconds.natAbs (-6)

end GridSource.Timeout
