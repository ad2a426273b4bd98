import GridSource.Text.Quoted

/-!
# Percent encoding

A character of the safe class stands for itself; of every other character each
UTF-8 byte is written as a percent sign and two upper-case hexadecimal digits.
-/

namespace GridSource.Percent

def isUnreserved (character : Char) : Bool :=
  character.isAlphanum || character == '_' || character == '.' || character == '-' ||
    character == '~'

def upperHexDigit (value : Nat) : Char :=
  if value < 10 then Char.ofNat (0x30 + value) else Char.ofNat (0x37 + value)

def encodeByte (byte : UInt8) : List Char :=
  ['%', upperHexDigit (byte.toNat / 16), upperHexDigit (byte.toNat % 16)]

def encodeChar (safe : Char → Bool) (character : Char) : List Char :=
  if safe character then [character]
  else (String.singleton character).toUTF8.toList.flatMap encodeByte

def encode (safe : Char → Bool) (content : String) : String :=
  String.ofList (content.toList.flatMap (encodeChar safe))

def hexValue? (character : Char) : Option Nat :=
  let code := character.toNat
  if 0x30 ≤ code ∧ code ≤ 0x39 then some (code - 0x30)
  else if 0x41 ≤ code ∧ code ≤ 0x46 then some (code - 0x37)
  else if 0x61 ≤ code ∧ code ≤ 0x66 then some (code - 0x57)
  else none

/-- The bytes an encoded text stands for.  A percent sign without two digits
stands for itself. -/
def decodeBytes : List Char → List UInt8
  | [] => []
  | '%' :: high :: low :: rest =>
      match hexValue? high, hexValue? low with
      | some upper, some lower => UInt8.ofNat (upper * 16 + lower) :: decodeBytes rest
      | _, _ => '%'.toUInt8 :: decodeBytes (high :: low :: rest)
  | character :: rest => (String.singleton character).toUTF8.toList ++ decodeBytes rest

def decode? (content : String) : Option String :=
  String.fromUTF8? ⟨(decodeBytes content.toList).toArray⟩

end GridSource.Percent
