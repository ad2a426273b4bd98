/-!
# Timestamps

A date, or a date with a time of day, a fraction of a second and an offset.  A
timestamp is kept as the text of its normal form.
-/

namespace GridSource.Yaml

structure Timestamp where
  year : Nat
  month : Nat
  day : Nat
  /-- Hour, minute, second and microsecond, if there is a time of day. -/
  time : Option (Nat × Nat × Nat × Nat)
  /-- Minutes east of the zero meridian, if an offset is given. -/
  offset : Option Int
deriving Repr, DecidableEq

namespace Timestamp

def digitsValue (digits : List Char) : Nat :=
  digits.foldl (fun value digit => value * 10 + (digit.toNat - 0x30)) 0

/-- A number of at least `least` and at most `most` digits. -/
def number? (least most : Nat) (characters : List Char) : Option (Nat × List Char) :=
  let digits := (characters.take most).takeWhile Char.isDigit
  if digits.length < least then none
  else some (digitsValue digits, characters.drop digits.length)

def expect? (expected : Char) : List Char → Option (List Char)
  | character :: rest => if character = expected then some rest else none
  | [] => none

def isBlank (character : Char) : Bool := character == ' ' || character == '\t'

/-- What separates a date from a time: a letter or blanks. -/
def separator? : List Char → Option (List Char)
  | 'T' :: rest | 't' :: rest => some rest
  | characters =>
      let rest := characters.dropWhile isBlank
      if rest.length = characters.length then none else some rest

/-- Microseconds from the digits after a point; further digits are dropped. -/
def microseconds (digits : List Char) : Nat :=
  let kept := digits.take 6
  digitsValue (kept ++ List.replicate (6 - kept.length) '0')

def fraction (characters : List Char) : Nat × List Char :=
  match characters with
  | '.' :: rest => (microseconds (rest.takeWhile Char.isDigit), rest.dropWhile Char.isDigit)
  | _ => (0, characters)

def signedOffset? (negative : Bool) (characters : List Char) : Option Int := do
  let (hours, afterHours) ← number? 1 2 characters
  let minutes ←
    match afterHours with
    | [] => some 0
    | ':' :: rest => do
        let (minutes, last) ← number? 2 2 rest
        if last.isEmpty then some minutes else none
    | _ => none
  let size : Int := hours * 60 + minutes
  return if negative then -size else size

def offset? (characters : List Char) : Option (Option Int) :=
  if characters.isEmpty then some none
  else
    match characters.dropWhile isBlank with
    | ['Z'] => some (some 0)
    | '+' :: rest => (signedOffset? false rest).map some
    | '-' :: rest => (signedOffset? true rest).map some
    | _ => none

def time? (year month day : Nat) (characters : List Char) : Option Timestamp := do
  let (hour, afterHour) ← number? 1 2 (← separator? characters)
  let (minute, afterMinute) ← number? 2 2 (← expect? ':' afterHour)
  let (second, afterSecond) ← number? 2 2 (← expect? ':' afterMinute)
  let (part, rest) := fraction afterSecond
  let offset ← offset? rest
  return { year, month, day, time := some (hour, minute, second, part), offset }

/-- The timestamp a text writes, whether or not there is such a day. -/
def parse? (characters : List Char) : Option Timestamp := do
  let (year, afterYear) ← number? 4 4 characters
  let monthFrom ← expect? '-' afterYear
  let (month, afterMonth) ← number? 1 2 monthFrom
  let dayFrom ← expect? '-' afterMonth
  let (day, rest) ← number? 1 2 dayFrom
  if rest.isEmpty then
    if characters.length = 10 then
      return { year, month, day, time := none, offset := none }
    else none
  else time? year month day rest

def isLeap (year : Nat) : Bool := year % 4 == 0 && (year % 100 != 0 || year % 400 == 0)

def daysIn (year month : Nat) : Nat :=
  if month = 2 then if isLeap year then 29 else 28
  else if month = 4 ∨ month = 6 ∨ month = 9 ∨ month = 11 then 30
  else 31

/-- Whether there is such a day and such a time of day. -/
def isReal (timestamp : Timestamp) : Bool :=
  decide (1 ≤ timestamp.year ∧ 1 ≤ timestamp.month ∧ timestamp.month ≤ 12 ∧ 1 ≤ timestamp.day ∧
    timestamp.day ≤ daysIn timestamp.year timestamp.month) &&
  (match timestamp.time with
  | some (hour, minute, second, _) => decide (hour < 24 ∧ minute < 60 ∧ second < 60)
  | none => true) &&
  (match timestamp.offset with
  | some minutes => decide (minutes.natAbs < 1440)
  | none => true)

def padded (width number : Nat) : String :=
  let digits := toString number
  String.ofList (List.replicate (width - digits.length) '0') ++ digits

def offsetText (minutes : Int) : String :=
  (if minutes < 0 then "-" else "+") ++ padded 2 (minutes.natAbs / 60) ++ ":" ++
    padded 2 (minutes.natAbs % 60)

/-- The normal form. -/
def write (timestamp : Timestamp) : String :=
  let date :=
    padded 4 timestamp.year ++ "-" ++ padded 2 timestamp.month ++ "-" ++ padded 2 timestamp.day
  match timestamp.time with
  | none => date
  | some (hour, minute, second, part) =>
      date ++ " " ++ padded 2 hour ++ ":" ++ padded 2 minute ++ ":" ++ padded 2 second ++
        (if part = 0 then "" else "." ++ padded 6 part) ++
        (timestamp.offset.map offsetText).getD ""

end Timestamp

end GridSource.Yaml
