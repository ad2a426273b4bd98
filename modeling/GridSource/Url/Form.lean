import GridSource.Url.Percent

/-!
# Form encoding

A query string is a list of named values: pieces joined by `&`, each a name, an
equals sign and a value.  A space is written as a plus sign.  Decoding splits a
piece at its first equals sign and skips empty pieces.
-/

namespace GridSource.Form

def isSafe (character : Char) : Bool := Percent.isUnreserved character

def encodeChar (character : Char) : List Char :=
  if character = ' ' then ['+'] else Percent.encodeChar isSafe character

def encodeText (content : String) : String :=
  String.ofList (content.toList.flatMap encodeChar)

def encodePair (pair : String × String) : String :=
  encodeText pair.1 ++ "=" ++ encodeText pair.2

def encode (pairs : List (String × String)) : String :=
  "&".intercalate (pairs.map encodePair)

def decodeText? (characters : List Char) : Option String :=
  Percent.decode? (String.ofList (characters.map fun character =>
    if character = '+' then ' ' else character))

def decodePair? (piece : List Char) : Option (String × String) := do
  let name ← decodeText? (piece.takeWhile (· != '='))
  let value ← decodeText? ((piece.dropWhile (· != '=')).drop 1)
  return (name, value)

/-- The pieces between separators. -/
def splitAt (separator : Char) : List Char → List (List Char)
  | [] => [[]]
  | character :: rest =>
      if character = separator then [] :: splitAt separator rest
      else
        match splitAt separator rest with
        | piece :: others => (character :: piece) :: others
        | [] => [[character]]

def decode? (query : String) : Option (List (String × String)) :=
  ((splitAt '&' query.toList).filter (!·.isEmpty)).mapM decodePair?

end GridSource.Form
