import GridSource.Decimal.Integer
import GridSource.Text.Alphabet
import GridSource.Value.Members

/-!
# Reading JSON

A document is read into a value, or into the first fault and where it stands.
The literals `NaN`, `Infinity` and `-Infinity` are numbers, a repeated member
keeps its first place and its last value, and control characters may not stand
in a text, though half of a surrogate pair may.  Every step hands on the
characters not yet read; the position of a fault is the number of characters
before them.
-/

namespace GridSource

inductive JsonFault where
  | expectingValue
  | expectingName
  | expectingColon
  | expectingComma
  | unterminatedText
  | controlCharacter
  | unknownEscape
  | incompleteCode
  | extraData
  | byteOrderMark
  | tooManyDigits
deriving Repr, DecidableEq, Inhabited

def JsonFault.message : JsonFault → String
  | .expectingValue => "Expecting value"
  | .expectingName => "Expecting property name enclosed in double quotes"
  | .expectingColon => "Expecting ':' delimiter"
  | .expectingComma => "Expecting ',' delimiter"
  | .unterminatedText => "Unterminated string starting at"
  | .controlCharacter => "Invalid control character at"
  | .unknownEscape => "Invalid \\escape"
  | .incompleteCode => "Invalid \\uXXXX escape"
  | .extraData => "Extra data"
  | .byteOrderMark => "Unexpected UTF-8 BOM (decode using utf-8-sig)"
  | .tooManyDigits => "Exceeds the limit for integer numerals"

/-- A fault, the line and column where it stands (from one) and its position in
characters (from zero). -/
structure JsonError where
  fault : JsonFault
  line : Nat
  column : Nat
  position : Nat
deriving Repr, DecidableEq, Inhabited

def JsonError.message (problem : JsonError) : String :=
  problem.fault.message ++ ": line " ++ toString problem.line ++ " column " ++
    toString problem.column ++ " (char " ++ toString problem.position ++ ")"

namespace Json

/-- A fault with the characters from where it stands on. -/
abbrev Stop := JsonFault × List Char

def isGap (character : Char) : Bool :=
  character == ' ' || character == '\t' || character == '\n' || character == '\r'

def skipGap (characters : List Char) : List Char := characters.dropWhile isGap

def hexValue? (character : Char) : Option Nat :=
  let code := character.toNat
  if 0x30 ≤ code ∧ code ≤ 0x39 then some (code - 0x30)
  else if 0x61 ≤ code ∧ code ≤ 0x66 then some (code - 0x57)
  else if 0x41 ≤ code ∧ code ≤ 0x46 then some (code - 0x37)
  else none

def hexCode? (digits : List Char) : Option Nat :=
  digits.foldlM (fun value digit => (hexValue? digit).map (value * 16 + ·)) 0

/-- A part of a text: a character, or the code of a code escape, which may be
half of a pair. -/
inductive Piece where
  | character (value : Char)
  | code (value : Nat)

/-- Joins the halves of pairs; a half that stands alone is left to the alphabet. -/
def joinPieces (alphabet : Alphabet) : List Piece → List Char
  | [] => []
  | .character value :: rest => value :: joinPieces alphabet rest
  | .code high :: .code low :: rest =>
      if 0xd800 ≤ high ∧ high < 0xdc00 ∧ 0xdc00 ≤ low ∧ low < 0xe000 then
        Char.ofNat (0x10000 + (high - 0xd800) * 0x400 + (low - 0xdc00)) :: joinPieces alphabet rest
      else if 0xd800 ≤ high ∧ high < 0xe000 then
        alphabet.half high :: joinPieces alphabet (.code low :: rest)
      else Char.ofNat high :: joinPieces alphabet (.code low :: rest)
  | .code single :: rest =>
      (if 0xd800 ≤ single ∧ single < 0xe000 then alphabet.half single else Char.ofNat single) ::
        joinPieces alphabet rest

def shortEscape? : Char → Option Char
  | '"' => some '"'
  | '\\' => some '\\'
  | '/' => some '/'
  | 'b' => some '\x08'
  | 'f' => some '\x0c'
  | 'n' => some '\n'
  | 'r' => some '\r'
  | 't' => some '\t'
  | _ => none

/-- The pieces of a text up to its closing quote; `opening` starts at the opening
quote. -/
def pieces (opening : List Char) : List Char → Except Stop (List Piece × List Char)
  | [] => .error (.unterminatedText, opening)
  | '"' :: rest => .ok ([], rest)
  | ['\\'] => .error (.unterminatedText, opening)
  | '\\' :: 'u' :: first :: second :: third :: fourth :: rest =>
      match hexCode? [first, second, third, fourth] with
      | some code =>
          if rest.isEmpty then
            .error (.incompleteCode, 'u' :: first :: second :: third :: fourth :: rest)
          else
            match pieces opening rest with
            | .ok (others, after) => .ok (.code code :: others, after)
            | .error stop => .error stop
      | none => .error (.incompleteCode, 'u' :: first :: second :: third :: fourth :: rest)
  | '\\' :: 'u' :: rest => .error (.incompleteCode, 'u' :: rest)
  | '\\' :: letter :: rest =>
      match shortEscape? letter with
      | some character =>
          match pieces opening rest with
          | .ok (others, after) => .ok (.character character :: others, after)
          | .error stop => .error stop
      | none => .error (.unknownEscape, '\\' :: letter :: rest)
  | character :: rest =>
      if character.toNat < 0x20 then .error (.controlCharacter, character :: rest)
      else
        match pieces opening rest with
        | .ok (others, after) => .ok (.character character :: others, after)
        | .error stop => .error stop

/-- A text; the characters start after the opening quote. -/
def readText (alphabet : Alphabet) (characters : List Char) :
    Except Stop (String × List Char) := do
  let (found, rest) ← pieces ('"' :: characters) characters
  return (String.ofList (joinPieces alphabet found), rest)

/-- The digits after a point, if there are any. -/
def fractionPart : List Char → Option (List Char × List Char)
  | '.' :: rest =>
      let digits := rest.takeWhile Char.isDigit
      if digits.isEmpty then none else some (digits, rest.dropWhile Char.isDigit)
  | _ => none

/-- A signed exponent after its letter, if it has digits. -/
def exponentPart : List Char → Option (Int × List Char)
  | letter :: rest =>
      if letter = 'e' ∨ letter = 'E' then
        let (negative, digitsFrom) :=
          match rest with
          | '-' :: tail => (true, tail)
          | '+' :: tail => (false, tail)
          | tail => (false, tail)
        let digits := digitsFrom.takeWhile Char.isDigit
        if digits.isEmpty then none
        else
          let size : Int := decimalValue digits
          some (if negative then -size else size, digitsFrom.dropWhile Char.isDigit)
      else none
  | [] => none
where
  decimalValue (digits : List Char) : Nat :=
    digits.foldl (fun value digit => value * 10 + (digit.toNat - 0x30)) 0

/-- Splits a minus sign from what follows it. -/
def signPart : List Char → Bool × List Char
  | '-' :: rest => (true, rest)
  | characters => (false, characters)

/-- The digits before a point; a zero stands alone. -/
def wholePart : List Char → List Char
  | '0' :: _ => ['0']
  | characters => characters.takeWhile Char.isDigit

/-- A number; `start` begins at its sign or first digit. -/
def readNumber (start : List Char) : Except Stop (Value × List Char) :=
  let (negative, characters) := signPart start
  let whole := wholePart characters
  if whole.isEmpty then .error (.expectingValue, start)
  else
    let afterWhole := characters.drop whole.length
    let (fraction, afterFraction) := (fractionPart afterWhole).getD ([], afterWhole)
    let (exponent, rest) := (exponentPart afterFraction).getD (0, afterFraction)
    let digits := exponentPart.decimalValue (whole ++ fraction)
    if rest.length = afterWhole.length then
      if mostIntegerDigits < whole.length then .error (.tooManyDigits, start)
      else .ok (.int (if negative then -digits else digits), rest)
    else .ok (.float (scaledFloat negative digits (exponent - Int.ofNat fraction.length)), rest)

def literal? : List Char → Option (Value × List Char)
  | 'n' :: 'u' :: 'l' :: 'l' :: rest => some (.null, rest)
  | 't' :: 'r' :: 'u' :: 'e' :: rest => some (.bool true, rest)
  | 'f' :: 'a' :: 'l' :: 's' :: 'e' :: rest => some (.bool false, rest)
  | 'N' :: 'a' :: 'N' :: rest => some (.float (0.0 / 0.0), rest)
  | 'I' :: 'n' :: 'f' :: 'i' :: 'n' :: 'i' :: 't' :: 'y' :: rest => some (.float (1.0 / 0.0), rest)
  | '-' :: 'I' :: 'n' :: 'f' :: 'i' :: 'n' :: 'i' :: 't' :: 'y' :: rest =>
      some (.float (-1.0 / 0.0), rest)
  | _ => none

mutual

def readValue (alphabet : Alphabet) : Nat → List Char → Except Stop (Value × List Char)
  | 0, characters => .error (.expectingValue, characters)
  | fuel + 1, characters =>
      match characters with
      | '"' :: rest => do
          let (content, after) ← readText alphabet rest
          return (.text content, after)
      | '[' :: rest =>
          match skipGap rest with
          | ']' :: after => .ok (.list [], after)
          | start => readItems alphabet fuel [] start
      | '\x7b' :: rest =>
          match skipGap rest with
          | '\x7d' :: after => .ok (.object [], after)
          | start => readMembers alphabet fuel [] start
      | _ =>
          match literal? characters with
          | some found => .ok found
          | none => readNumber characters

/-- The items of a list from the next one on; `read` holds the earlier ones,
last first. -/
def readItems (alphabet : Alphabet) :
    Nat → List Value → List Char → Except Stop (Value × List Char)
  | 0, _, characters => .error (.expectingValue, characters)
  | fuel + 1, read, characters => do
      let (item, afterItem) ← readValue alphabet fuel characters
      match skipGap afterItem with
      | ']' :: rest => return (.list (item :: read).reverse, rest)
      | ',' :: rest => readItems alphabet fuel (item :: read) (skipGap rest)
      | rest => .error (.expectingComma, rest)

def readMembers (alphabet : Alphabet) :
    Nat → Members → List Char → Except Stop (Value × List Char)
  | 0, _, characters => .error (.expectingValue, characters)
  | fuel + 1, read, characters =>
      match characters with
      | '"' :: nameFrom => do
          let (name, afterName) ← readText alphabet nameFrom
          match skipGap afterName with
          | ':' :: valueFrom =>
              let (value, afterValue) ← readValue alphabet fuel (skipGap valueFrom)
              let collected := Members.insert read (.text name) value
              match skipGap afterValue with
              | '\x7d' :: rest => return (.object collected, rest)
              | ',' :: rest => readMembers alphabet fuel collected (skipGap rest)
              | rest => .error (.expectingComma, rest)
          | rest => .error (.expectingColon, rest)
      | _ => .error (.expectingName, characters)

end

/-- Every step of the reader passes a character within two of its levels. -/
def enough (characters : List Char) : Nat := 2 * characters.length + 2

def readWhole (document : List Char) (alphabet : Alphabet := .unicode) : Except Stop Value := do
  let start := skipGap document
  let (value, rest) ← readValue alphabet (enough start) start
  match skipGap rest with
  | [] => return value
  | extra => .error (.extraData, extra)

def locate (document : List Char) (stop : Stop) : JsonError :=
  let position := document.length - stop.2.length
  let before := document.take position
  { fault := stop.1
    line := before.count '\n' + 1
    column := (before.reverse.takeWhile (· != '\n')).length + 1
    position }

/-- Reads a document; one that begins with a byte order mark is refused. -/
def read (document : List Char) (alphabet : Alphabet := .unicode) : Except JsonError Value :=
  match document with
  | '\ufeff' :: _ => .error (locate document (.byteOrderMark, document))
  | _ => (readWhole document alphabet).mapError (locate document)

end Json

end GridSource
