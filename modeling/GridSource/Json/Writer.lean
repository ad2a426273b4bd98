import GridSource.Value
import GridSource.Decimal.Integer
import GridSource.Decimal.Notation
import GridSource.Text.Quoted

/-!
# Writing JSON

A value is written in one pass, members in their order.  A style fixes the
separators, whether characters outside ASCII are escaped, and what becomes of
the values JSON has no form for: foreign values and floats that are not finite.
-/

namespace GridSource

inductive ForeignRule where
  | asLabel
  | asQuoted
  | refuse
deriving Repr, DecidableEq

structure JsonStyle where
  itemSeparator : String
  memberSeparator : String
  asciiOnly : Bool
  foreignValues : ForeignRule
  nonFiniteFloats : Bool

namespace JsonStyle

/-- The style of search trees: no blanks, characters as they are, foreign values
by their label. -/
def search : JsonStyle :=
  { itemSeparator := ",", memberSeparator := ":", asciiOnly := false
    foreignValues := .asLabel, nonFiniteFloats := true }

/-- The style of request bodies, which holds JSON proper only. -/
def body : JsonStyle :=
  { search with foreignValues := .refuse, nonFiniteFloats := false }

/-- The style of documents: a blank after each separator, ASCII only. -/
def document : JsonStyle :=
  { itemSeparator := ", ", memberSeparator := ": ", asciiOnly := true
    foreignValues := .refuse, nonFiniteFloats := true }

/-- The style of log lines. -/
def logLine : JsonStyle :=
  { document with foreignValues := .asQuoted }

end JsonStyle

namespace Json

def escapeCode (code : Nat) : List Char := '\\' :: 'u' :: Quoted.hex 4 code

/-- One code escape, or two for a character beyond the basic plane. -/
def escapeCodes (character : Char) : List Char :=
  let code := character.toNat
  if code < 0x10000 then escapeCode code
  else
    escapeCode (0xd800 + (code - 0x10000) / 0x400) ++
      escapeCode (0xdc00 + (code - 0x10000) % 0x400)

def escape (asciiOnly : Bool) (character : Char) : List Char :=
  if character = '"' ∨ character = '\\' then ['\\', character]
  else if character = '\n' then ['\\', 'n']
  else if character = '\r' then ['\\', 'r']
  else if character = '\t' then ['\\', 't']
  else if character = '\x08' then ['\\', 'b']
  else if character = '\x0c' then ['\\', 'f']
  else if character.toNat < 0x20 then escapeCode character.toNat
  else if asciiOnly && decide (0x7e < character.toNat) then escapeCodes character
  else [character]

def writeText (asciiOnly : Bool) (content : String) : String :=
  String.ofList ('"' :: content.toList.flatMap (escape asciiOnly) ++ ['"'])

def writeNumber (style : JsonStyle) (number : Float) : Except Misuse String :=
  if number.isFinite || style.nonFiniteFloats then .ok (writeFloat .json number)
  else .error (.unacceptable none)

/-- The name a key gets as a member: scalars take their written form. -/
def memberName (style : JsonStyle) : Value → Except Misuse String
  | .text content => .ok content
  | .null => .ok "null"
  | .bool flag => .ok (if flag then "true" else "false")
  | .int number => integerText number
  | .float number => writeNumber style number
  | _ => .error .wrongArgument

def writeForeign (style : JsonStyle) (label : String) : Except Misuse String :=
  match style.foreignValues with
  | .asLabel => .ok (writeText style.asciiOnly label)
  | .asQuoted => .ok (writeText style.asciiOnly ("<" ++ label ++ ">"))
  | .refuse => .error .wrongArgument

mutual

def write (style : JsonStyle) : Value → Except Misuse String
  | .null => .ok "null"
  | .bool flag => .ok (if flag then "true" else "false")
  | .int number => integerText number
  | .float number => writeNumber style number
  | .text content => .ok (writeText style.asciiOnly content)
  | .list items => do
      let written ← writeItems style items
      return "[" ++ style.itemSeparator.intercalate written ++ "]"
  | .tuple items => do
      let written ← writeItems style items
      return "[" ++ style.itemSeparator.intercalate written ++ "]"
  | .object members => do
      let written ← writeMembers style members
      return "\x7b" ++ style.itemSeparator.intercalate written ++ "\x7d"
  | .foreign label => writeForeign style label

def writeItems (style : JsonStyle) : List Value → Except Misuse (List String)
  | [] => .ok []
  | item :: rest => do
      let first ← write style item
      let others ← writeItems style rest
      return first :: others

def writeMembers (style : JsonStyle) : List (Value × Value) → Except Misuse (List String)
  | [] => .ok []
  | (key, value) :: rest => do
      let name ← memberName style key
      let content ← write style value
      let others ← writeMembers style rest
      return (writeText style.asciiOnly name ++ style.memberSeparator ++ content) :: others

end

end Json

end GridSource
