import GridSource.Misuse

/-!
# Cursors

A place in a document: the characters from there on, and how many characters,
lines and columns come before them.  The end of a document reads as the null
character, which no document may hold.
-/

namespace GridSource.Yaml

/-- Why a document has no value. -/
inductive Fault where
  | malformed (reason : String)
  | misuse (cause : Misuse)
deriving Repr, DecidableEq, Inhabited

def malformed {α : Type} (reason : String) : Except Fault α := .error (.malformed reason)

structure Cursor where
  rest : List Char
  index : Nat
  line : Nat
  column : Nat
deriving Repr, Inhabited

def endMark : Char := '\x00'

def isBreak (character : Char) : Bool :=
  character == '\n' || character == '\r' || character == '\x85' || character == '\u2028' ||
    character == '\u2029'

def isBreakOrEnd (character : Char) : Bool := isBreak character || character == endMark

def isSpaceBreakOrEnd (character : Char) : Bool := character == ' ' || isBreakOrEnd character

/-- What may follow an indicator. -/
def isGap (character : Char) : Bool := character == '\t' || isSpaceBreakOrEnd character

/-- The characters of names. -/
def isNameChar (character : Char) : Bool :=
  character.isAlphanum || character == '-' || character == '_'

namespace Cursor

def start (content : List Char) : Cursor := { rest := content, index := 0, line := 0, column := 0 }

def peek (cursor : Cursor) : Char := cursor.rest.headD endMark

def peekAt (cursor : Cursor) (distance : Nat) : Char := (cursor.rest.drop distance).headD endMark

/-- The next place. -/
def next (cursor : Cursor) : Cursor :=
  match cursor.rest with
  | [] => cursor
  | character :: rest =>
      let endsLine := isBreak character && !(character == '\r' && rest.head? == some '\n')
      { rest
        index := cursor.index + 1
        line := if endsLine then cursor.line + 1 else cursor.line
        column :=
          if endsLine then 0
          else if character = '\ufeff' then cursor.column
          else cursor.column + 1 }

def advance : Nat → Cursor → Cursor
  | 0, cursor => cursor
  | count + 1, cursor => advance count cursor.next

/-- Passes the characters of a class. -/
def skipWhile (accepts : Char → Bool) (cursor : Cursor) : Cursor :=
  cursor.advance (cursor.rest.takeWhile accepts).length

/-- The characters of a class from here on, and the place after them. -/
def takeWhile (accepts : Char → Bool) (cursor : Cursor) : List Char × Cursor :=
  let taken := cursor.rest.takeWhile accepts
  (taken, cursor.advance taken.length)

def skipSpaces (cursor : Cursor) : Cursor := cursor.skipWhile (· == ' ')

/-- A line break, in its normal form, and the place after it. -/
def lineBreak (cursor : Cursor) : List Char × Cursor :=
  match cursor.rest with
  | '\r' :: '\n' :: _ => (['\n'], cursor.advance 2)
  | character :: _ =>
      if character = '\u2028' ∨ character = '\u2029' then ([character], cursor.next)
      else if isBreak character then (['\n'], cursor.next)
      else ([], cursor)
  | [] => ([], cursor)

/-- Whether three equal marks and a gap stand here. -/
def atMarks (cursor : Cursor) (mark : Char) : Bool :=
  cursor.rest.take 3 == [mark, mark, mark] && isGap (cursor.peekAt 3)

/-- Whether a mark between documents stands here. -/
def atDocumentMark (cursor : Cursor) : Bool := cursor.atMarks '-' || cursor.atMarks '.'

def skipComment (cursor : Cursor) : Cursor :=
  if cursor.peek = '#' then cursor.skipWhile (!isBreakOrEnd ·) else cursor

/-- Passes the rest of a line that holds nothing but blanks and a comment. -/
def endLine (cursor : Cursor) : Except Fault Cursor :=
  let after := cursor.skipSpaces.skipComment
  if isBreakOrEnd after.peek then .ok after.lineBreak.2
  else malformed "expected the end of the line"

end Cursor

end GridSource.Yaml
