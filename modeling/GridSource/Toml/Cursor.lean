import GridSource.Misuse

/-!
# Reading steps

Every step of the reader takes characters and hands on those it has not read.
-/

namespace GridSource.Toml

/-- Why a document has no value. -/
inductive Fault where
  | malformed (reason : String)
  | misuse (cause : Misuse)
deriving Repr, DecidableEq, Inhabited

def malformed {α : Type} (reason : String) : Except Fault α := .error (.malformed reason)

def isBlank (character : Char) : Bool := character == ' ' || character == '\t'

def isBlankOrBreak (character : Char) : Bool := isBlank character || character == '\n'

/-- Control characters of ASCII other than the tab. -/
def isControl (character : Char) : Bool :=
  character != '\t' && (decide (character.toNat < 0x20) || character == '\x7f')

def skipBlanks (characters : List Char) : List Char := characters.dropWhile isBlank

/-- Whether a text stands at the start. -/
def startsWith (expected : String) (characters : List Char) : Bool :=
  expected.toList.isPrefixOf characters

/-- Passes a comment; control characters may not stand in it. -/
def skipComment (characters : List Char) : Except Fault (List Char) :=
  match characters with
  | '#' :: rest =>
      if (rest.takeWhile (· != '\n')).any isControl then malformed "illegal character in a comment"
      else .ok (rest.dropWhile (· != '\n'))
  | _ => .ok characters

/-- Passes blanks, line breaks and comments. -/
def skipFiller : Nat → List Char → Except Fault (List Char)
  | 0, characters => .ok characters
  | fuel + 1, characters => do
      let after := characters.dropWhile isBlankOrBreak
      let next ← skipComment after
      if next.length = characters.length then return next else skipFiller fuel next

end GridSource.Toml
