import GridSource.Decimal.Numeral
import GridSource.Url.Form
import GridSource.Value.Members
import GridSource.Yaml.Node
import GridSource.Yaml.Timestamp

/-!
# Documents

The value of a document.  A plain scalar is what its text looks like: null, a
boolean word, an integer in one of five notations, a float, a timestamp, else a
text.  The pairs of a merge key go in front of a mapping's own pairs, which
replace them.
-/

namespace GridSource.Yaml

/-! ## What a plain scalar looks like -/

namespace Plain

inductive Kind where
  | null
  | bool
  | int
  | float
  | timestamp
  | merge
  | value
  | text
deriving Repr, DecidableEq

def nullWords : List String := ["", "~", "null", "Null", "NULL"]

def trueWords : List String := ["yes", "true", "on"]

def falseWords : List String := ["no", "false", "off"]

/-- A word is written in lower case, in upper case or with a capital. -/
def spellings (word : String) : List String := [word, word.capitalize, word.toUpper]

def boolWords : List String := (trueWords ++ falseWords).flatMap spellings

def isSign (character : Char) : Bool := character == '-' || character == '+'

def withoutSign : List Char → List Char
  | character :: rest => if isSign character then rest else character :: rest
  | [] => []

def isDigitOrUnderscore (character : Char) : Bool := character.isDigit || character == '_'

def isBinary (character : Char) : Bool := character == '0' || character == '1' || character == '_'

def isOctal (character : Char) : Bool :=
  decide ('0' ≤ character ∧ character ≤ '7') || character == '_'

def isHexadecimal (character : Char) : Bool :=
  (Json.hexValue? character).isSome || character == '_'

def someOf (accepts : Char → Bool) (characters : List Char) : Bool :=
  !characters.isEmpty && characters.all accepts

/-- A part of a number in base sixty: one digit, or two of which the first is at
most five. -/
def isSixtieth : List Char → Bool
  | [digit] => digit.isDigit
  | [tens, digit] => decide ('0' ≤ tens ∧ tens ≤ '5') && digit.isDigit
  | _ => false

def colonParts (characters : List Char) : List (List Char) := Form.splitAt ':' characters

def isSixtyInt (characters : List Char) : Bool :=
  match colonParts characters with
  | (first :: more) :: part :: parts =>
      first.isDigit && first != '0' && more.all isDigitOrUnderscore &&
        (part :: parts).all isSixtieth
  | _ => false

def isInt (characters : List Char) : Bool :=
  match withoutSign characters with
  | ['0'] => true
  | '0' :: 'b' :: digits => someOf isBinary digits
  | '0' :: 'x' :: digits => someOf isHexadecimal digits
  | '0' :: digits => someOf isOctal digits
  | first :: digits =>
      (first.isDigit && digits.all isDigitOrUnderscore) || isSixtyInt (first :: digits)
  | [] => false

/-- Nothing, or an exponent with a sign. -/
def isExponent : List Char → Bool
  | [] => true
  | letter :: sign :: digits =>
      (letter == 'e' || letter == 'E') && isSign sign && someOf Char.isDigit digits
  | _ => false

def isFraction (characters : List Char) : Bool :=
  isExponent (characters.dropWhile isDigitOrUnderscore)

/-- Digits, a point, a fraction and an exponent; a number without digits before
the point has no sign. -/
def isDecimal (characters : List Char) : Bool :=
  let unsigned := withoutSign characters
  match unsigned.takeWhile isDigitOrUnderscore, unsigned.dropWhile isDigitOrUnderscore with
  | first :: _, '.' :: rest => first.isDigit && isFraction rest
  | [], '.' :: first :: rest =>
      unsigned.length == characters.length && first.isDigit && isFraction rest
  | _, _ => false

def isSixtyFloat (characters : List Char) : Bool :=
  match colonParts (withoutSign characters) with
  | (first :: more) :: part :: parts =>
      let last := (part :: parts).getLastD []
      let tail := last.dropWhile (· != '.')
      first.isDigit && more.all isDigitOrUnderscore &&
        ((part :: parts).dropLast.all isSixtieth) &&
        isSixtieth (last.takeWhile (· != '.')) &&
        tail.head? == some '.' && (tail.drop 1).all isDigitOrUnderscore
  | _ => false

def infinityWords : List String := [".inf", ".Inf", ".INF"]

def nanWords : List String := [".nan", ".NaN", ".NAN"]

def isFloat (characters : List Char) : Bool :=
  isDecimal characters || isSixtyFloat characters ||
    infinityWords.contains (String.ofList (withoutSign characters)) ||
    nanWords.contains (String.ofList characters)

/-- The kind a text looks like. -/
def kind (content : String) : Kind :=
  let characters := content.toList
  if nullWords.contains content then .null
  else if boolWords.contains content then .bool
  else if content = "<<" then .merge
  else if content = "=" then .value
  else if isFloat characters then .float
  else if isInt characters then .int
  else if (Timestamp.parse? characters).isSome then .timestamp
  else .text

end Plain

/-! ## Reading scalars of a kind -/

namespace Read

def misuse {α : Type} (outcome : Except Misuse α) : Except Fault α := outcome.mapError .misuse

def withoutUnderscores (content : String) : List Char := content.toList.filter (· != '_')

def bool (content : String) : Except Fault Value :=
  let word := content.toLower
  if Plain.trueWords.contains word then .ok (.bool true)
  else if Plain.falseWords.contains word then .ok (.bool false)
  else .error (.misuse .absentKey)

def digitValue? (base : Nat) (digit : Char) : Option Nat :=
  match Json.hexValue? digit with
  | some value => if value < base then some value else none
  | none => none

/-- An integer in a base, read from nothing but its digits. -/
def inBase (base : Nat) (digits : List Char) : Except Fault Nat :=
  let value := digits.foldlM (fun value digit => (digitValue? base digit).map (value * base + ·)) 0
  match value with
  | some number => if digits.isEmpty then refused else .ok number
  | none => refused
where
  refused : Except Fault Nat :=
    .error (.misuse (.unacceptable (some ("invalid literal for int() with base " ++
      toString base ++ ": " ++ GridSource.quoted (String.ofList digits)))))

def decimalInt (digits : List Char) : Except Fault Int :=
  misuse (Numeral.integer? (String.ofList digits))

/-- A number in base sixty from its parts. -/
def sixty (parts : List (List Char)) : Except Fault Int :=
  parts.foldlM (fun value part => do return value * 60 + (← decimalInt part)) 0

def magnitude (digits : List Char) : Except Fault Int :=
  match digits with
  | ['0'] => .ok 0
  | '0' :: 'b' :: rest => (inBase 2 rest).map Int.ofNat
  | '0' :: 'x' :: rest => (inBase 16 rest).map Int.ofNat
  | '0' :: rest => (inBase 8 ('0' :: rest)).map Int.ofNat
  | _ => if digits.contains ':' then sixty (Plain.colonParts digits) else decimalInt digits

def splitSign : List Char → Int × List Char
  | '-' :: rest => (-1, rest)
  | '+' :: rest => (1, rest)
  | characters => (1, characters)

def int (content : String) : Except Fault Value := do
  let characters := withoutUnderscores content
  if characters.isEmpty then .error (.misuse .noElement)
  else
    let (sign, digits) := splitSign characters
    let size ← magnitude digits
    return .int (sign * size)

/-- A float in base sixty from its parts, the last of which may have a fraction. -/
def sixtyFloat (parts : List (List Char)) : Except Fault Float := do
  let (total, _) ← parts.reverse.foldlM (fun (total, unit) part => do
    let number ← misuse (Numeral.float? (String.ofList part))
    return (total + number * unit, unit * 60.0)) (0.0, 1.0)
  return total

def float (content : String) : Except Fault Value := do
  let characters := (withoutUnderscores content).map Char.toLower
  if characters.isEmpty then .error (.misuse .noElement)
  else
    let (sign, digits) := splitSign characters
    let factor := if sign < 0 then -1.0 else 1.0
    if digits == ".inf".toList then return .float (factor * (1.0 / 0.0))
    else if digits == ".nan".toList then return .float (0.0 / 0.0)
    else if digits.contains ':' then
      return .float (factor * (← sixtyFloat (Plain.colonParts digits)))
    else return .float (factor * (← misuse (Numeral.float? (String.ofList digits))))

def timestamp (content : String) : Except Fault Value :=
  match Timestamp.parse? content.toList with
  | none => .error (.misuse .lacksOperation)
  | some found =>
      if found.isReal then .ok (.foreign found.write)
      else .error (.misuse (.unacceptable none))

def plain (content : String) : Except Fault Value :=
  match Plain.kind content with
  | .null => .ok .null
  | .bool => bool content
  | .int => int content
  | .float => float content
  | .timestamp => timestamp content
  | .text => .ok (.text content)
  | .merge | .value => malformed "could not determine a constructor for the tag"

end Read

/-! ## The value of a node -/

def tagRoot : String := "tag:yaml.org,2002:"

/-- The last part of a common tag. -/
def commonTag? (tag : String) : Option String :=
  if tag.startsWith tagRoot then some (String.ofList (tag.toList.drop tagRoot.length)) else none

def unknownTag {α : Type} : Except Fault α :=
  malformed "could not determine a constructor for the tag"

def scalarValue (tag : Option String) (content : String) (plain : Bool) : Except Fault Value :=
  match tag with
  | none => if plain then Read.plain content else .ok (.text content)
  | some tag =>
      match commonTag? tag with
      | some "null" => .ok .null
      | some "bool" => Read.bool content
      | some "int" => Read.int content
      | some "float" => Read.float content
      | some "timestamp" => Read.timestamp content
      | some "str" => .ok (.text content)
      | _ => unknownTag

def isCollectionTag (expected : String) (tag : Option String) : Bool :=
  match tag with
  | none => true
  | some tag => commonTag? tag == some expected

namespace Node

def isMergeKey : Node → Bool
  | .scalar none content plain => plain && content == "<<"
  | .scalar (some tag) _ _ => commonTag? tag == some "merge"
  | _ => false

/-- A key that stands for the value of its mapping is read as a text. -/
def plainKey : Node → Node
  | .scalar none "=" true => .scalar none "=" false
  | node => node

mutual

/-- The pairs of a mapping, those of its merge keys first. -/
def mergedPairs : Nat → List (Node × Node) → Except Fault (List (Node × Node))
  | 0, _ => malformed "the document is nested too deeply"
  | fuel + 1, pairs => do
      let merged ← (pairs.filter fun pair => isMergeKey pair.1).mapM fun pair =>
        mergeSource fuel pair.2
      let own := (pairs.filter fun pair => !isMergeKey pair.1).map fun pair =>
        (plainKey pair.1, pair.2)
      return merged.flatten ++ own

/-- The pairs a merge key brings in: those of one mapping or of several, of
which the first counts most. -/
def mergeSource : Nat → Node → Except Fault (List (Node × Node))
  | 0, _ => malformed "the document is nested too deeply"
  | fuel + 1, .mapping _ pairs => mergedPairs fuel pairs
  | fuel + 1, .sequence _ items => do
      let sources ← items.mapM fun item =>
        match item with
        | .mapping _ pairs => mergedPairs fuel pairs
        | _ => malformed "expected a mapping for merging"
      return sources.reverse.flatten
  | _, .scalar .. => malformed "expected a mapping or list of mappings for merging"

end

/-- A pair for a tagged list of pairs. -/
def singlePair : Value → Except Fault Value
  | .object [(key, value)] => .ok (.tuple [key, value])
  | _ => malformed "expected a single mapping item"

def toValue : Nat → Node → Except Fault Value
  | 0, _ => malformed "the document is nested too deeply"
  | _, .scalar tag content plain => scalarValue tag content plain
  | fuel + 1, .sequence tag items =>
      if isCollectionTag "seq" tag then do
        return .list (← items.mapM (toValue fuel))
      else if isCollectionTag "pairs" tag || isCollectionTag "omap" tag then do
        let entries ← items.mapM (toValue fuel)
        return .list (← entries.mapM singlePair)
      else unknownTag
  | fuel + 1, .mapping tag pairs =>
      if isCollectionTag "map" tag then do
        let merged ← mergedPairs (fuel + 1) pairs
        let members ← merged.foldlM (fun members (key, value) => do
          let name ← toValue fuel key
          if name.hashable then
            return Members.insert members name (← toValue fuel value)
          else malformed "found an unhashable key") []
        return .object members
      else unknownTag

end Node

/-- The value of a document; an empty one is null. -/
def read (content : List Char) : Except Fault Value := do
  let tokens ← Token.scan content
  match ← Node.ofTokens tokens with
  | none => return .null
  | some node => node.toValue (tokens.length + 2)

end GridSource.Yaml
