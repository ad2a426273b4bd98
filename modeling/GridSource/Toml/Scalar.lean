import GridSource.Decimal.Integer
import GridSource.Toml.Text
import GridSource.Value
import GridSource.Yaml.Timestamp

/-!
# Numbers and times

The scalars that are written without quotes.
-/

namespace GridSource.Toml

/-! ## Numbers -/

/-- Digits of a class with single underscores between them. -/
def digitRun (accepts : Char → Bool) : List Char → List Char × List Char
  | '_' :: digit :: rest =>
      if accepts digit then
        let (others, last) := digitRun accepts rest
        (digit :: others, last)
      else ([], '_' :: digit :: rest)
  | digit :: rest =>
      if accepts digit then
        let (others, last) := digitRun accepts rest
        (digit :: others, last)
      else ([], digit :: rest)
  | [] => ([], [])

/-- Digits that begin with a digit. -/
def digits (accepts : Char → Bool) (characters : List Char) : List Char × List Char :=
  match characters with
  | '_' :: _ => ([], characters)
  | _ => digitRun accepts characters

def inBase (base : Nat) (written : List Char) : Nat :=
  written.foldl (fun value digit => value * base + (Json.hexValue? digit).getD 0) 0

def isOctal (character : Char) : Bool := decide ('0' ≤ character ∧ character ≤ '7')

def isBinary (character : Char) : Bool := character == '0' || character == '1'

/-- An integer with a base mark. -/
def basedInt? (characters : List Char) : Option (Value × List Char) :=
  let read (base : Nat) (accepts : Char → Bool) (rest : List Char) :
      Option (Value × List Char) :=
    match digits accepts rest with
    | ([], _) => none
    | (written, after) => some (.int (inBase base written), after)
  match characters with
  | '0' :: 'x' :: rest => read 16 (fun digit => (Json.hexValue? digit).isSome) rest
  | '0' :: 'b' :: rest => read 2 isBinary rest
  | '0' :: 'o' :: rest => read 8 isOctal rest
  | _ => none

def splitSign : List Char → Bool × List Char
  | '-' :: rest => (true, rest)
  | '+' :: rest => (false, rest)
  | characters => (false, characters)

def fraction (characters : List Char) : List Char × List Char :=
  match characters with
  | '.' :: rest =>
      match digits Char.isDigit rest with
      | ([], _) => ([], characters)
      | found => found
  | _ => ([], characters)

def exponent? (characters : List Char) : Option (Int × List Char) :=
  match characters with
  | letter :: rest =>
      if letter = 'e' ∨ letter = 'E' then
        let (negative, unsigned) := splitSign rest
        match digits Char.isDigit unsigned with
        | ([], _) => none
        | (written, after) =>
            let size : Int := inBase 10 written
            some (if negative then -size else size, after)
      else none
  | [] => none

def decimal? (characters : List Char) : Option (Except Fault (Value × List Char)) :=
  let (negative, unsigned) := splitSign characters
  let (whole, afterWhole) :=
    match unsigned with
    | '0' :: rest => (['0'], rest)
    | _ => digits Char.isDigit unsigned
  if whole.isEmpty then none
  else
    let (part, afterPart) := fraction afterWhole
    let (power, rest) := (exponent? afterPart).getD (0, afterPart)
    if rest.length = afterWhole.length then
      if mostIntegerDigits < whole.length then some (.error (.misuse (.unacceptable none)))
      else
        let size : Int := inBase 10 whole
        some (.ok (.int (if negative then -size else size), rest))
    else
      let number :=
        scaledFloat negative (inBase 10 (whole ++ part)) (power - Int.ofNat part.length)
      some (.ok (.float number, rest))

def infinity : Float := 1.0 / 0.0

def special? (characters : List Char) : Option (Value × List Char) :=
  let (negative, unsigned) := splitSign characters
  if startsWith "inf" unsigned then
    some (.float (if negative then -infinity else infinity), unsigned.drop 3)
  else if startsWith "nan" unsigned then some (.float (0.0 / 0.0), unsigned.drop 3)
  else none

/-! ## Dates and times -/

/-- Two digits from a least to a greatest value. -/
def twoDigits? (least greatest : Nat) (characters : List Char) : Option (Nat × List Char) := do
  let (value, rest) ← Yaml.Timestamp.number? 2 2 characters
  if least ≤ value ∧ value ≤ greatest then some (value, rest) else none

abbrev TimeOfDay := Nat × Nat × Nat × Nat

def time? (characters : List Char) : Option (TimeOfDay × List Char) := do
  let (hour, afterHour) ← twoDigits? 0 23 characters
  let (minute, afterMinute) ← twoDigits? 0 59 (← Yaml.Timestamp.expect? ':' afterHour)
  let (second, afterSecond) ← twoDigits? 0 59 (← Yaml.Timestamp.expect? ':' afterMinute)
  match afterSecond with
  | '.' :: rest =>
      let written := rest.takeWhile Char.isDigit
      if written.isEmpty then return ((hour, minute, second, 0), afterSecond)
      else
        return ((hour, minute, second, Yaml.Timestamp.microseconds written),
          rest.drop written.length)
  | _ => return ((hour, minute, second, 0), afterSecond)

def offset (characters : List Char) : Option Int × List Char :=
  let signed (factor : Int) (rest : List Char) : Option (Int × List Char) := do
    let (hours, afterHours) ← twoDigits? 0 23 rest
    let (minutes, last) ← twoDigits? 0 59 (← Yaml.Timestamp.expect? ':' afterHours)
    return (factor * (hours * 60 + minutes : Nat), last)
  let found :=
    match characters with
    | 'Z' :: rest | 'z' :: rest => some ((0 : Int), rest)
    | '+' :: rest => signed 1 rest
    | '-' :: rest => signed (-1) rest
    | _ => none
  match found with
  | some (minutes, rest) => (some minutes, rest)
  | none => (none, characters)

def isTimeMark (character : Char) : Bool :=
  character == 'T' || character == 't' || character == ' '

def timestamp? (characters : List Char) : Option (Yaml.Timestamp × List Char) := do
  let (year, afterYear) ← Yaml.Timestamp.number? 4 4 characters
  let (month, afterMonth) ← twoDigits? 1 12 (← Yaml.Timestamp.expect? '-' afterYear)
  let (day, afterDay) ← twoDigits? 1 31 (← Yaml.Timestamp.expect? '-' afterMonth)
  let date : Yaml.Timestamp := { year, month, day, time := none, offset := none }
  match afterDay with
  | mark :: rest =>
      match if isTimeMark mark then time? rest else none with
      | some (time, afterTime) =>
          let (minutes, last) := offset afterTime
          return ({ date with time := some time, offset := minutes }, last)
      | none => return (date, afterDay)
  | [] => return (date, afterDay)

def timeText (time : TimeOfDay) : String :=
  let (hour, minute, second, part) := time
  Yaml.Timestamp.padded 2 hour ++ ":" ++ Yaml.Timestamp.padded 2 minute ++ ":" ++
    Yaml.Timestamp.padded 2 second ++
    (if part = 0 then "" else "." ++ Yaml.Timestamp.padded 6 part)

/-- A date, a time or both. -/
def moment? (characters : List Char) : Option (Except Fault (Value × List Char)) :=
  match timestamp? characters with
  | some (found, rest) =>
      some (if found.isReal then .ok (.foreign found.write, rest) else malformed "invalid date")
  | none => (time? characters).map fun (found, rest) => .ok (.foreign (timeText found), rest)

/-- A scalar that is written without quotes. -/
def bareScalar (characters : List Char) : Except Fault (Value × List Char) :=
  if startsWith "true" characters then .ok (.bool true, characters.drop 4)
  else if startsWith "false" characters then .ok (.bool false, characters.drop 5)
  else
    match moment? characters, basedInt? characters, decimal? characters, special? characters with
    | some found, _, _, _ => found
    | none, some found, _, _ => .ok found
    | none, none, some found, _ => found
    | none, none, none, some found => .ok found
    | none, none, none, none => malformed "invalid value"

end GridSource.Toml
