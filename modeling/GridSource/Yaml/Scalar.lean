import GridSource.Json.Reader
import GridSource.Yaml.Cursor

/-!
# Scalars

The five ways to write a scalar: plain, in single or double quotes, and as a
literal or folded block.  A line break inside a plain or quoted scalar folds to
a space, and each further one stays.  A block keeps its lines, or folds those
that do not begin with a blank.
-/

namespace GridSource.Yaml

namespace Scalar

/-! ## Plain scalars -/

/-- Whether a plain scalar ends at a character that is followed by another. -/
def endsPlain (inFlow : Bool) (character following : Char) : Bool :=
  isGap character ||
    (character == ':' &&
      (isGap following || (inFlow && ",[]\x7b\x7d".toList.contains following))) ||
    (inFlow && ",?[]\x7b\x7d".toList.contains character)

def plainWord (inFlow : Bool) : List Char → List Char
  | [] => []
  | character :: rest =>
      if endsPlain inFlow character (rest.headD endMark) then []
      else character :: plainWord inFlow rest

/-- Line breaks and spaces between the lines of a plain scalar; nothing when a
mark between documents stands at the start of a line. -/
def plainBreaks : Nat → Cursor → Option (List Char × Cursor)
  | 0, cursor => some ([], cursor)
  | fuel + 1, cursor =>
      if cursor.peek = ' ' then plainBreaks fuel cursor.next
      else if isBreak cursor.peek then
        let (found, after) := cursor.lineBreak
        if after.atDocumentMark then none
        else (plainBreaks fuel after).map fun (others, last) => (found ++ others, last)
      else some ([], cursor)

/-- How a first line break and those after it fold. -/
def fold (first others : List Char) : List Char :=
  (if first != ['\n'] then first else if others.isEmpty then [' '] else []) ++ others

structure Gap where
  content : List Char
  after : Cursor
  /-- Whether a line break was passed. -/
  broken : Bool

/-- The blanks after a word of a plain scalar. -/
def plainGap (cursor : Cursor) : Gap :=
  let (spaces, afterSpaces) := cursor.takeWhile (· == ' ')
  if isBreak afterSpaces.peek then
    let (first, after) := afterSpaces.lineBreak
    if after.atDocumentMark then ⟨[], after, true⟩
    else
      match plainBreaks after.rest.length after with
      | some (others, last) => ⟨fold first others, last, true⟩
      | none => ⟨[], lastLine after.rest.length after, true⟩
  else ⟨spaces, afterSpaces, false⟩
where
  /-- The line that begins with a mark between documents. -/
  lastLine : Nat → Cursor → Cursor
    | 0, cursor => cursor
    | fuel + 1, cursor =>
        if cursor.atDocumentMark && cursor.column == 0 then cursor
        else if cursor.peek = ' ' then lastLine fuel cursor.next
        else if isBreak cursor.peek then lastLine fuel cursor.lineBreak.2
        else cursor

structure Plain where
  content : List Char
  after : Cursor
  /-- Whether the scalar ended behind a line break. -/
  broken : Bool

/-- A plain scalar; continuation lines are indented by at least `indent`. -/
def plain (inFlow : Bool) (indent : Nat) : Nat → Cursor → Plain
  | 0, cursor => ⟨[], cursor, false⟩
  | fuel + 1, cursor =>
      let word := if cursor.peek = '#' then [] else plainWord inFlow cursor.rest
      if word.isEmpty then ⟨[], cursor, false⟩
      else
        let gap := plainGap (cursor.advance word.length)
        if gap.content.isEmpty || gap.after.peek == '#' ||
            (!inFlow && decide (gap.after.column < indent)) then
          ⟨word, gap.after, gap.broken⟩
        else
          let more := plain inFlow indent fuel gap.after
          if more.content.isEmpty then ⟨word, gap.after, gap.broken⟩
          else ⟨word ++ gap.content ++ more.content, more.after, more.broken⟩

/-! ## Quoted scalars -/

def escapes : List (Char × Char) :=
  [ ('0', '\x00'), ('a', '\x07'), ('b', '\x08'), ('t', '\t'), ('\t', '\t'), ('n', '\n'),
    ('v', '\x0b'), ('f', '\x0c'), ('r', '\r'), ('e', '\x1b'), (' ', ' '), ('"', '"'),
    ('\\', '\\'), ('/', '/'), ('N', '\x85'), ('_', '\xa0'), ('L', '\u2028'), ('P', '\u2029') ]

/-- The number of digits of a code escape. -/
def codeLength? (letter : Char) : Option Nat :=
  [('x', 2), ('u', 4), ('U', 8)].lookup letter

def codeCharacter (code : Nat) : Except Fault Char :=
  if 0x7fffffff < code then .error (.misuse .outOfRange)
  else if 0x10ffff < code then .error (.misuse (.unacceptable none))
  else if code.isValidChar then .ok (Char.ofNat code)
  else .ok '\ufffd'

/-- Blank lines inside a quoted scalar. -/
def quotedBreaks : Nat → Cursor → Except Fault (List Char × Cursor)
  | 0, cursor => .ok ([], cursor)
  | fuel + 1, cursor =>
      if cursor.atDocumentMark then malformed "found a document mark inside a quoted scalar"
      else
        let after := cursor.skipWhile fun character => character == ' ' || character == '\t'
        if isBreak after.peek then do
          let (found, next) := after.lineBreak
          let (others, last) ← quotedBreaks fuel next
          return (found ++ others, last)
        else .ok ([], after)

/-- The escape after a backslash. -/
def escape (cursor : Cursor) : Except Fault (List Char × Cursor) :=
  let letter := cursor.peek
  match escapes.lookup letter with
  | some character => .ok ([character], cursor.next)
  | none =>
      match codeLength? letter with
      | some count =>
          let digits := cursor.next.rest.take count
          match Json.hexCode? digits with
          | some code =>
              if digits.length = count then do
                let character ← codeCharacter code
                return ([character], cursor.advance (count + 1))
              else malformed "expected hexadecimal digits"
          | none => malformed "expected hexadecimal digits"
      | none =>
          if isBreak letter then quotedBreaks cursor.rest.length cursor.lineBreak.2
          else malformed "found an unknown escape"

/-- A quoted scalar after its opening quote. -/
def quoted (double : Bool) : Nat → Cursor → Except Fault (List Char × Cursor)
  | 0, _ => malformed "found the end of the document in a quoted scalar"
  | fuel + 1, cursor => do
      let prepend (head : List Char) (after : Cursor) : Except Fault (List Char × Cursor) := do
        let (others, last) ← quoted double fuel after
        return (head ++ others, last)
      match cursor.rest with
      | [] => malformed "found the end of the document in a quoted scalar"
      | '\x00' :: _ => malformed "found the end of the document in a quoted scalar"
      | '\'' :: '\'' :: _ =>
          if double then prepend ['\''] cursor.next else prepend ['\''] (cursor.advance 2)
      | '\'' :: _ => if double then prepend ['\''] cursor.next else .ok ([], cursor.next)
      | '"' :: _ => if double then .ok ([], cursor.next) else prepend ['"'] cursor.next
      | '\\' :: _ =>
          if double then
            let (found, after) ← escape cursor.next
            prepend found after
          else prepend ['\\'] cursor.next
      | character :: _ =>
          if character = ' ' ∨ character = '\t' ∨ isBreak character then
            let (blanks, after) :=
              cursor.takeWhile fun blank => blank == ' ' || blank == '\t'
            if isBreak after.peek then
              let (first, next) := after.lineBreak
              let (others, last) ← quotedBreaks next.rest.length next
              prepend (fold first others) last
            else if after.rest.isEmpty then
              malformed "found the end of the document in a quoted scalar"
            else prepend blanks after
          else prepend [character] cursor.next

/-! ## Block scalars -/

inductive Chomping where
  | strip
  | clip
  | keep
deriving Repr, DecidableEq

structure Header where
  chomping : Chomping
  increment : Option Nat

def chompingOf? : Char → Option Chomping
  | '+' => some .keep
  | '-' => some .strip
  | _ => none

def incrementOf? (character : Char) : Option Nat :=
  if character.isDigit then some (character.toNat - 0x30) else none

/-- The indicators of a block scalar, in either order. -/
def header (cursor : Cursor) : Except Fault (Header × Cursor) := do
  let (found, after) ←
    match chompingOf? cursor.peek, incrementOf? cursor.peek with
    | some chomping, _ =>
        let next := cursor.next
        match incrementOf? next.peek with
        | some increment => Except.ok ((⟨chomping, some increment⟩ : Header), next.next)
        | none => .ok (⟨chomping, none⟩, next)
    | none, some increment =>
        let next := cursor.next
        match chompingOf? next.peek with
        | some chomping => .ok (⟨chomping, some increment⟩, next.next)
        | none => .ok (⟨.clip, some increment⟩, next)
    | none, none => .ok (⟨.clip, none⟩, cursor)
  if found.increment = some 0 then malformed "an indentation of zero is not allowed"
  else if isSpaceBreakOrEnd after.peek then return (found, after)
  else malformed "expected chomping or indentation indicators"

/-- Leading blank lines and the deepest indentation among them. -/
def blockStart : Nat → Nat → Cursor → List Char × Nat × Cursor
  | 0, deepest, cursor => ([], deepest, cursor)
  | fuel + 1, deepest, cursor =>
      if cursor.peek = ' ' then
        let after := cursor.next
        blockStart fuel (max deepest after.column) after
      else if isBreak cursor.peek then
        let (found, after) := cursor.lineBreak
        let (others, depth, last) := blockStart fuel deepest after
        (found ++ others, depth, last)
      else ([], deepest, cursor)

def skipIndent (indent : Nat) (cursor : Cursor) : Cursor :=
  cursor.advance (min (indent - cursor.column) (cursor.rest.takeWhile (· == ' ')).length)

/-- The line breaks before the next line of a block of an indentation. -/
def blockBreaks (indent : Nat) : Nat → Cursor → List Char × Cursor
  | 0, cursor => ([], cursor)
  | fuel + 1, cursor =>
      let after := skipIndent indent cursor
      if isBreak after.peek then
        let (found, next) := after.lineBreak
        let (others, last) := blockBreaks indent fuel next
        (found ++ others, last)
      else ([], after)

def atLine (indent : Nat) (cursor : Cursor) : Bool :=
  cursor.column == indent && cursor.peek != endMark

def isBlank (character : Char) : Bool := character == ' ' || character == '\t'

structure Block where
  content : List Char
  /-- The break of the last line and the breaks after it. -/
  lastBreak : List Char
  trailing : List Char
  after : Cursor

/-- The lines of a block from the next one on. -/
def blockLines (folded : Bool) (indent : Nat) : Nat → Cursor → Block
  | 0, cursor => ⟨[], [], [], cursor⟩
  | fuel + 1, cursor =>
      let flush := !isBlank cursor.peek
      let (line, afterLine) := cursor.takeWhile (!isBreakOrEnd ·)
      let (lineEnd, afterBreak) := afterLine.lineBreak
      let (breaks, next) := blockBreaks indent (afterBreak.rest.length + 1) afterBreak
      if atLine indent next then
        let joint :=
          if folded && lineEnd == ['\n'] && flush && !isBlank next.peek then
            if breaks.isEmpty then [' '] else []
          else lineEnd
        let more := blockLines folded indent fuel next
        { more with content := line ++ joint ++ breaks ++ more.content }
      else ⟨line, lineEnd, breaks, next⟩

/-- A block scalar after its first indicator; `parent` is the indentation of the
node it belongs to. -/
def block (folded : Bool) (parent : Int) (cursor : Cursor) :
    Except Fault (List Char × Cursor) := do
  let (found, afterHeader) ← header cursor
  let start ← afterHeader.endLine
  let least := max (parent + 1) 1 |>.toNat
  let fuel := start.rest.length + 1
  let (indent, breaks, first) :=
    match found.increment with
    | some increment =>
        let indent := least + increment - 1
        let (breaks, first) := blockBreaks indent fuel start
        (indent, breaks, first)
    | none =>
        let (breaks, deepest, first) := blockStart fuel 0 start
        (max least deepest, breaks, first)
  let lines : Block :=
    if atLine indent first then
      let lines := blockLines folded indent fuel first
      { lines with content := breaks ++ lines.content }
    else ⟨[], [], breaks, first⟩
  let ending :=
    match found.chomping with
    | .strip => []
    | .clip => lines.lastBreak
    | .keep => lines.lastBreak ++ lines.trailing
  return (lines.content ++ ending, lines.after)

end Scalar

end GridSource.Yaml
