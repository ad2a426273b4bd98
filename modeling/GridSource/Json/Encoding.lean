import GridSource.Json.Reader

/-!
# JSON as bytes

A body is bytes.  A mark at its start names the encoding; without one the zero
bytes of the first characters, which are ASCII in every JSON document, tell it.
Half of a pair that stands alone is left to the alphabet, encoded by itself or spelled
as an escape.  A body that does not decode, or whose text is no JSON, has no value.
-/

namespace GridSource.Json

inductive Encoding where
  | utf8
  | utf16 (bigEndian : Bool)
  | utf32 (bigEndian : Bool)
deriving Repr, DecidableEq

/-- The encoding of a body and the bytes after its mark. -/
def detect (bytes : List UInt8) : Encoding × List UInt8 :=
  match bytes with
  | 0x00 :: 0x00 :: 0xfe :: 0xff :: rest => (.utf32 true, rest)
  | 0xff :: 0xfe :: 0x00 :: 0x00 :: rest => (.utf32 false, rest)
  | 0xfe :: 0xff :: rest => (.utf16 true, rest)
  | 0xff :: 0xfe :: rest => (.utf16 false, rest)
  | 0xef :: 0xbb :: 0xbf :: rest => (.utf8, rest)
  | first :: second :: third :: fourth :: _ =>
      if first = 0 then (if second = 0 then .utf32 true else .utf16 true, bytes)
      else if second = 0 then
        (if third = 0 ∧ fourth = 0 then .utf32 false else .utf16 false, bytes)
      else (.utf8, bytes)
  | [first, second] =>
      if first = 0 then (.utf16 true, bytes)
      else if second = 0 then (.utf16 false, bytes)
      else (.utf8, bytes)
  | _ => (.utf8, bytes)

/-- The units of two bytes; fails on an odd byte. -/
def units16 (bigEndian : Bool) : List UInt8 → Option (List Nat)
  | [] => some []
  | [_] => none
  | first :: second :: rest =>
      let unit :=
        if bigEndian then first.toNat * 0x100 + second.toNat
        else second.toNat * 0x100 + first.toNat
      (units16 bigEndian rest).map (unit :: ·)

/-- The bytes with a character of the alphabet for every half of a pair that is encoded
by itself. -/
def replaceHalves (alphabet : Alphabet) : List UInt8 → List UInt8
  | 0xed :: second :: third :: rest =>
      if 0xa0 ≤ second ∧ second < 0xc0 ∧ 0x80 ≤ third ∧ third < 0xc0 then
        let code := 0xd000 + second.toNat % 0x40 * 0x40 + third.toNat % 0x40
        String.utf8EncodeChar (alphabet.half code) ++ replaceHalves alphabet rest
      else 0xed :: replaceHalves alphabet (second :: third :: rest)
  | first :: rest => first :: replaceHalves alphabet rest
  | [] => []

/-- The characters of units of two bytes. -/
def decodeUnits16 (alphabet : Alphabet) (units : List Nat) : List Char :=
  joinPieces alphabet (units.map .code)

def decode32 (alphabet : Alphabet) (bigEndian : Bool) : List UInt8 → Option (List Char)
  | [] => some []
  | first :: second :: third :: fourth :: rest =>
      let bytes :=
        if bigEndian then [first, second, third, fourth] else [fourth, third, second, first]
      let code : Nat := bytes.foldl (fun value byte => value * 0x100 + byte.toNat) 0
      if 0xd800 ≤ code ∧ code < 0xe000 then
        (decode32 alphabet bigEndian rest).map (alphabet.half code :: ·)
      else if code.isValidChar then (decode32 alphabet bigEndian rest).map (Char.ofNat code :: ·)
      else none
  | _ => none

def decode (bytes : List UInt8) (alphabet : Alphabet := .unicode) : Option (List Char) :=
  match detect bytes with
  | (.utf8, rest) => (String.fromUTF8? ⟨(replaceHalves alphabet rest).toArray⟩).map String.toList
  | (.utf16 bigEndian, rest) => (units16 bigEndian rest).map (decodeUnits16 alphabet)
  | (.utf32 bigEndian, rest) => decode32 alphabet bigEndian rest

/-- The value of a body; absent when it is not JSON. -/
def readBytes? (bytes : List UInt8) (alphabet : Alphabet := .unicode) : Option Value := do
  let characters ← decode bytes alphabet
  (readWhole characters alphabet).toOption

end GridSource.Json
