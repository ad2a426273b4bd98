import GridSource.Decimal.Integer
import GridSource.Text.Blank
import GridSource.Text.DecimalDigit
import GridSource.Text.Quoted

/-!
# Numerals in settings

A setting written as text is read as an integer or a float: blanks around it
are dropped, digits of every script count, and a single underscore may stand
between two digits.  A text that is no numeral is reported with its quoted form.
-/

namespace GridSource.Numeral

/-- Digits and spaces outside ASCII are replaced by their ASCII counterparts. -/
def toAscii (character : Char) : Char :=
  if character.toNat < 127 then character
  else if isBlank character then ' '
  else
    match DecimalDigit.value? character with
    | some value => Char.ofNat (0x30 + value)
    | none => '?'

def plainText (content : String) : List Char :=
  trimBy isAsciiBlank (content.toList.map toAscii)

/-- Drops every underscore that stands between two digits; fails on any other. -/
def joinDigits : List Char → Option (List Char)
  | [] => some []
  | '_' :: _ => none
  | character :: '_' :: following :: rest =>
      if character.isDigit && following.isDigit then
        (joinDigits (following :: rest)).map (character :: ·)
      else none
  | [_, '_'] => none
  | character :: rest => (joinDigits rest).map (character :: ·)

def digitsValue (digits : List Char) : Nat :=
  digits.foldl (fun value digit => value * 10 + (digit.toNat - 0x30)) 0

def allDigits (characters : List Char) : Bool :=
  !characters.isEmpty && characters.all Char.isDigit

/-- Splits a sign from what follows it. -/
def splitSign : List Char → Bool × List Char
  | '-' :: rest => (true, rest)
  | '+' :: rest => (false, rest)
  | characters => (false, characters)

def integer? (content : String) : Except Misuse Int :=
  let refused : Except Misuse Int :=
    let shown := (GridSource.quoted content).toList.take 200
    .error (.unacceptable
      (some ("invalid literal for int() with base 10: " ++ String.ofList shown)))
  match joinDigits (plainText content) with
  | none => refused
  | some characters =>
      let (negative, digits) := splitSign characters
      if !allDigits digits then refused
      else if mostIntegerDigits < digits.length then .error (.unacceptable none)
      else
        let value : Int := digitsValue digits
        .ok (if negative then -value else value)

/-- An exponent part: nothing, or a letter, a sign and digits. -/
def exponentPart? : List Char → Option Int
  | [] => some 0
  | letter :: rest =>
      if letter = 'e' ∨ letter = 'E' then
        let (negative, digits) := splitSign rest
        if allDigits digits then
          let value : Int := digitsValue digits
          some (if negative then -value else value)
        else none
      else none

/-- Digits with at most one point and an optional exponent. -/
def decimal? (characters : List Char) : Option (Nat × Int) := do
  let whole := characters.takeWhile Char.isDigit
  let afterWhole := characters.dropWhile Char.isDigit
  let (fraction, rest) :=
    match afterWhole with
    | '.' :: tail => (tail.takeWhile Char.isDigit, tail.dropWhile Char.isDigit)
    | _ => ([], afterWhole)
  if whole.isEmpty && fraction.isEmpty then none
  else
    let exponent ← exponentPart? rest
    some (digitsValue (whole ++ fraction), exponent - Int.ofNat fraction.length)

def magnitude? (negative : Bool) (characters : List Char) : Option Float :=
  let word := String.ofList (characters.map Char.toLower)
  if word = "inf" ∨ word = "infinity" then some (if negative then -1.0 / 0.0 else 1.0 / 0.0)
  else if word = "nan" then some (0.0 / 0.0)
  else (decimal? characters).map fun (digits, exponent) => scaledFloat negative digits exponent

def float? (content : String) : Except Misuse Float :=
  let read : Option Float := do
    let characters ← joinDigits (plainText content)
    let (negative, rest) := splitSign characters
    magnitude? negative rest
  match read with
  | some number => .ok number
  | none =>
      .error (.unacceptable
        (some ("could not convert string to float: " ++ GridSource.quoted content)))

end GridSource.Numeral
