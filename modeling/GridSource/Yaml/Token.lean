import GridSource.Url.Percent
import GridSource.Yaml.Scalar

/-!
# Tokens

A document as a list of tokens.  Indentation opens and closes block
collections.  A node that may turn out to be the key of a mapping is remembered
until its line or 1024 characters have passed; when a value indicator follows,
the key token, and if need be the start of the mapping, go in front of it.
-/

namespace GridSource.Yaml

inductive Token where
  | versionDirective (major : Nat)
  | tagDirective (handle expansion : String)
  | otherDirective
  | documentStart
  | documentEnd
  | streamEnd
  | blockSequenceStart
  | blockMappingStart
  | blockEnd
  | flowSequenceStart
  | flowSequenceEnd
  | flowMappingStart
  | flowMappingEnd
  | blockEntry
  | flowEntry
  | key
  | value
  | alias (name : String)
  | anchor (name : String)
  | tag (handle : Option String) (suffix : String)
  | scalar (content : String) (plain : Bool)
deriving Repr, DecidableEq, Inhabited

/-- A node that may be a key: where its first token is, and where it begins. -/
structure Candidate where
  token : Nat
  required : Bool
  index : Nat
  line : Nat
  column : Nat
deriving Repr

structure Scanner where
  cursor : Cursor
  tokens : Array Token
  indent : Int
  outerIndents : List Int
  flowLevel : Nat
  /-- Whether a key may begin here. -/
  keyAllowed : Bool
  /-- The candidates, each with its flow level. -/
  candidates : List (Nat × Candidate)
  finished : Bool

namespace Scanner

def start (content : List Char) : Scanner :=
  { cursor := .start content, tokens := #[], indent := -1, outerIndents := [], flowLevel := 0
    keyAllowed := true, candidates := [], finished := false }

def inFlow (scanner : Scanner) : Bool := scanner.flowLevel != 0

def emit (scanner : Scanner) (token : Token) : Scanner :=
  { scanner with tokens := scanner.tokens.push token }

def moveTo (scanner : Scanner) (cursor : Cursor) : Scanner := { scanner with cursor }

def allowKey (scanner : Scanner) (allowed : Bool) : Scanner :=
  { scanner with keyAllowed := allowed }

/-! ## Candidates -/

def candidate? (scanner : Scanner) : Option Candidate :=
  scanner.candidates.lookup scanner.flowLevel

def withoutCandidate (scanner : Scanner) : Scanner :=
  { scanner with
    candidates := scanner.candidates.filter fun entry => entry.1 != scanner.flowLevel }

/-- Gives up the candidate of this flow level; one that had to be a key is a
fault. -/
def dropCandidate (scanner : Scanner) : Except Fault Scanner :=
  match scanner.candidate? with
  | some candidate =>
      if candidate.required then malformed "could not find the expected ':'"
      else .ok scanner.withoutCandidate
  | none => .ok scanner

/-- The farthest a value indicator may be from the start of its key. -/
def longestKey : Nat := 1024

def isStale (scanner : Scanner) (candidate : Candidate) : Bool :=
  candidate.line != scanner.cursor.line ||
    decide (longestKey < scanner.cursor.index - candidate.index)

def dropStale (scanner : Scanner) : Except Fault Scanner :=
  if scanner.candidates.any fun entry => entry.2.required && scanner.isStale entry.2 then
    malformed "could not find the expected ':'"
  else
    .ok { scanner with
      candidates := scanner.candidates.filter fun entry => !scanner.isStale entry.2 }

/-- Remembers that a key may begin here. -/
def saveCandidate (scanner : Scanner) : Except Fault Scanner :=
  if scanner.keyAllowed then do
    let cleared ← scanner.dropCandidate
    let candidate : Candidate :=
      { token := scanner.tokens.size
        required := !scanner.inFlow && scanner.indent == scanner.cursor.column
        index := scanner.cursor.index
        line := scanner.cursor.line
        column := scanner.cursor.column }
    return { cleared with candidates := (scanner.flowLevel, candidate) :: cleared.candidates }
  else .ok scanner

/-! ## Indentation -/

/-- Closes the block collections that are deeper than a column. -/
def unwind (column : Int) : List Int → Scanner → Scanner
  | outer :: rest, scanner =>
      if column < scanner.indent then
        unwind column rest
          { scanner.emit .blockEnd with indent := outer, outerIndents := rest }
      else scanner
  | [], scanner => scanner

def unwindTo (scanner : Scanner) (column : Int) : Scanner :=
  if scanner.inFlow then scanner else unwind column scanner.outerIndents scanner

/-- Opens a deeper indentation, if the column is one. -/
def deepen (scanner : Scanner) (column : Nat) : Option Scanner :=
  if scanner.indent < column then
    some { scanner with
      indent := column, outerIndents := scanner.indent :: scanner.outerIndents }
  else none

def openBlock (scanner : Scanner) (token : Token) : Scanner :=
  match scanner.deepen scanner.cursor.column with
  | some deeper => deeper.emit token
  | none => scanner

/-! ## Single tokens -/

def endStream (scanner : Scanner) : Except Fault Scanner := do
  let cleared ← (scanner.unwindTo (-1)).dropCandidate
  return { cleared.emit .streamEnd with keyAllowed := false, candidates := [], finished := true }

def documentMark (scanner : Scanner) (token : Token) : Except Fault Scanner := do
  let cleared ← (scanner.unwindTo (-1)).dropCandidate
  return ((cleared.allowKey false).moveTo (cleared.cursor.advance 3)).emit token

def openFlow (scanner : Scanner) (token : Token) : Except Fault Scanner := do
  let saved ← scanner.saveCandidate
  return { (saved.moveTo saved.cursor.next).emit token with
    flowLevel := saved.flowLevel + 1, keyAllowed := true }

def closeFlow (scanner : Scanner) (token : Token) : Except Fault Scanner := do
  let cleared ← scanner.dropCandidate
  return { (cleared.moveTo cleared.cursor.next).emit token with
    flowLevel := cleared.flowLevel - 1, keyAllowed := false }

def flowEntry (scanner : Scanner) : Except Fault Scanner := do
  let cleared ← (scanner.allowKey true).dropCandidate
  return (cleared.moveTo cleared.cursor.next).emit .flowEntry

def blockEntry (scanner : Scanner) : Except Fault Scanner := do
  if !scanner.inFlow && !scanner.keyAllowed then
    malformed "sequence entries are not allowed here"
  else
    let opened := if scanner.inFlow then scanner else scanner.openBlock .blockSequenceStart
    let cleared ← (opened.allowKey true).dropCandidate
    return (cleared.moveTo cleared.cursor.next).emit .blockEntry

def explicitKey (scanner : Scanner) : Except Fault Scanner := do
  if !scanner.inFlow && !scanner.keyAllowed then
    malformed "mapping keys are not allowed here"
  else
    let opened := if scanner.inFlow then scanner else scanner.openBlock .blockMappingStart
    let cleared ← (opened.allowKey !opened.inFlow).dropCandidate
    return (cleared.moveTo cleared.cursor.next).emit .key

def insertToken (tokens : Array Token) (position : Nat) (token : Token) : Array Token :=
  tokens.extract 0 position ++ #[token] ++ tokens.extract position tokens.size

/-- Makes a remembered node the key of a mapping. -/
def promote (scanner : Scanner) (candidate : Candidate) : Scanner :=
  let cleared := scanner.withoutCandidate
  let keyed := { cleared with tokens := insertToken cleared.tokens candidate.token .key }
  if scanner.inFlow then keyed
  else
    match keyed.deepen candidate.column with
    | some deeper =>
        { deeper with
          tokens := insertToken deeper.tokens candidate.token .blockMappingStart }
    | none => keyed

def valueIndicator (scanner : Scanner) : Except Fault Scanner := do
  let ready ←
    match scanner.candidate? with
    | some candidate => Except.ok ((scanner.promote candidate).allowKey false)
    | none =>
        if scanner.inFlow then (scanner.allowKey false).dropCandidate
        else if scanner.keyAllowed then
          ((scanner.openBlock .blockMappingStart).allowKey true).dropCandidate
        else malformed "mapping values are not allowed here"
  return (ready.moveTo ready.cursor.next).emit .value

/-- A name after the indicator of an alias or an anchor. -/
def name (cursor : Cursor) : Except Fault (String × Cursor) :=
  let (characters, after) := cursor.next.takeWhile isNameChar
  if characters.isEmpty then malformed "expected a name"
  else if isGap after.peek || "?:,]\x7d%@`".toList.contains after.peek then
    .ok (String.ofList characters, after)
  else malformed "expected a name"

def named (scanner : Scanner) (token : String → Token) : Except Fault Scanner := do
  let saved ← scanner.saveCandidate
  let (found, after) ← name saved.cursor
  return ((saved.allowKey false).moveTo after).emit (token found)

/-! ## Tags -/

def isUriChar (character : Char) : Bool :=
  character.isAlphanum || "-;/?:@&=+$,_.!~*'()[]%".toList.contains character

/-- A tag or the expansion of a handle, percent escapes decoded. -/
def uri (cursor : Cursor) : Except Fault (String × Cursor) :=
  let (characters, after) := cursor.takeWhile isUriChar
  if characters.isEmpty then malformed "expected a tag"
  else if !escapesComplete characters then malformed "expected hexadecimal digits"
  else
    match Percent.decode? (String.ofList characters) with
    | some content => .ok (content, after)
    | none => malformed "expected text in the escapes of a tag"
where
  escapesComplete : List Char → Bool
    | [] => true
    | '%' :: high :: low :: rest =>
        (Percent.hexValue? high).isSome && (Percent.hexValue? low).isSome &&
          escapesComplete rest
    | '%' :: _ => false
    | _ :: rest => escapesComplete rest

/-- A handle: an exclamation mark, or a name between two of them. -/
def handle (cursor : Cursor) : Except Fault (String × Cursor) :=
  if cursor.peek != '!' then malformed "expected '!'"
  else if cursor.peekAt 1 = ' ' then .ok ("!", cursor.next)
  else
    let (characters, after) := cursor.next.takeWhile isNameChar
    if after.peek = '!' then .ok ("!" ++ String.ofList characters ++ "!", after.next)
    else malformed "expected '!'"

def hasHandle (cursor : Cursor) : Bool :=
  (cursor.next.rest.takeWhile (!isSpaceBreakOrEnd ·)).contains '!'

def tagAt (cursor : Cursor) : Except Fault (Option String × String × Cursor) := do
  let following := cursor.peekAt 1
  if following = '<' then
    let (content, after) ← uri (cursor.advance 2)
    if after.peek = '>' then return (none, content, after.next)
    else malformed "expected '>'"
  else if isGap following then return (none, "!", cursor.next)
  else if hasHandle cursor then
    let (found, afterHandle) ← handle cursor
    let (content, after) ← uri afterHandle
    return (some found, content, after)
  else
    let (content, after) ← uri cursor.next
    return (some "!", content, after)

def tag (scanner : Scanner) : Except Fault Scanner := do
  let saved ← scanner.saveCandidate
  let (found, suffix, after) ← tagAt saved.cursor
  if isSpaceBreakOrEnd after.peek then
    return ((saved.allowKey false).moveTo after).emit (.tag found suffix)
  else malformed "expected a blank after a tag"

/-! ## Directives -/

def versionNumber (cursor : Cursor) : Except Fault (Nat × Cursor) :=
  let (digits, after) := cursor.takeWhile Char.isDigit
  if digits.isEmpty then malformed "expected a digit"
  else .ok (Json.exponentPart.decimalValue digits, after)

def directiveToken (directive : String) (cursor : Cursor) : Except Fault (Token × Cursor) := do
  if directive = "YAML" then
    let (major, afterMajor) ← versionNumber cursor.skipSpaces
    if afterMajor.peek != '.' then malformed "expected '.'"
    else
      let (_, after) ← versionNumber afterMajor.next
      if isSpaceBreakOrEnd after.peek then return (.versionDirective major, after)
      else malformed "expected a blank after a version"
  else if directive = "TAG" then
    let (found, afterHandle) ← handle cursor.skipSpaces
    if afterHandle.peek != ' ' then malformed "expected a blank after a handle"
    else
      let (expansion, after) ← uri afterHandle.skipSpaces
      if isSpaceBreakOrEnd after.peek then return (.tagDirective found expansion, after)
      else malformed "expected a blank after a tag"
  else return (.otherDirective, cursor.skipWhile (!isBreakOrEnd ·))

def directive (scanner : Scanner) : Except Fault Scanner := do
  let cleared ← (scanner.unwindTo (-1)).dropCandidate
  let (characters, afterName) := cleared.cursor.next.takeWhile isNameChar
  if characters.isEmpty || !isSpaceBreakOrEnd afterName.peek then
    malformed "expected the name of a directive"
  else
    let (token, after) ← directiveToken (String.ofList characters) afterName
    let last ← after.endLine
    return ((cleared.allowKey false).moveTo last).emit token

/-! ## Scalars -/

def blockScalar (scanner : Scanner) (folded : Bool) : Except Fault Scanner := do
  let cleared ← (scanner.allowKey true).dropCandidate
  let (content, after) ← Scalar.block folded cleared.indent cleared.cursor.next
  return (cleared.moveTo after).emit (.scalar (String.ofList content) false)

def quotedScalar (scanner : Scanner) (double : Bool) : Except Fault Scanner := do
  let saved ← scanner.saveCandidate
  let start := saved.cursor.next
  let (content, after) ← Scalar.quoted double (start.rest.length + 1) start
  return ((saved.allowKey false).moveTo after).emit (.scalar (String.ofList content) false)

def plainScalar (scanner : Scanner) : Except Fault Scanner := do
  let saved ← scanner.saveCandidate
  let found :=
    Scalar.plain saved.inFlow (saved.indent + 1).toNat (saved.cursor.rest.length + 1) saved.cursor
  return ((saved.allowKey found.broken).moveTo found.after).emit
    (.scalar (String.ofList found.content) true)

def startsPlain (scanner : Scanner) : Bool :=
  let first := scanner.cursor.peek
  !(isGap first || "-?:,[]\x7b\x7d#&*!|>'\"%@`".toList.contains first) ||
    (!isGap (scanner.cursor.peekAt 1) &&
      (first == '-' || (!scanner.inFlow && (first == '?' || first == ':'))))

/-! ## The scan -/

/-- Passes blanks, comments and line breaks.  A line break outside a flow
collection allows a key. -/
def skipToToken : Nat → Scanner → Scanner
  | 0, scanner => scanner
  | fuel + 1, scanner =>
      let after := scanner.cursor.skipSpaces.skipComment
      if isBreak after.peek then
        let broken := scanner.moveTo after.lineBreak.2
        skipToToken fuel (if scanner.inFlow then broken else broken.allowKey true)
      else scanner.moveTo after

def skipMark (scanner : Scanner) : Scanner :=
  if scanner.cursor.index = 0 && scanner.cursor.peek == '\ufeff' then
    scanner.moveTo scanner.cursor.next
  else scanner

/-- Whether an indicator is followed by a gap, or stands in a flow collection. -/
def isIndicator (scanner : Scanner) : Bool :=
  scanner.inFlow || isGap (scanner.cursor.peekAt 1)

def scanToken (scanner : Scanner) : Except Fault Scanner :=
  let cursor := scanner.cursor
  let atLineStart := cursor.column == 0
  if cursor.rest.isEmpty then scanner.endStream
  else if atLineStart && cursor.peek == '%' then scanner.directive
  else if atLineStart && cursor.atMarks '-' then scanner.documentMark .documentStart
  else if atLineStart && cursor.atMarks '.' then scanner.documentMark .documentEnd
  else
    match cursor.peek with
    | '[' => scanner.openFlow .flowSequenceStart
    | '\x7b' => scanner.openFlow .flowMappingStart
    | ']' => scanner.closeFlow .flowSequenceEnd
    | '\x7d' => scanner.closeFlow .flowMappingEnd
    | ',' => scanner.flowEntry
    | '*' => scanner.named .alias
    | '&' => scanner.named .anchor
    | '!' => scanner.tag
    | '\'' => scanner.quotedScalar false
    | '"' => scanner.quotedScalar true
    | first =>
        if first = '-' ∧ isGap (cursor.peekAt 1) then scanner.blockEntry
        else if first = '?' ∧ scanner.isIndicator then scanner.explicitKey
        else if first = ':' ∧ scanner.isIndicator then scanner.valueIndicator
        else if first = '|' ∧ !scanner.inFlow then scanner.blockScalar false
        else if first = '>' ∧ !scanner.inFlow then scanner.blockScalar true
        else if scanner.startsPlain then scanner.plainScalar
        else malformed "found a character that cannot start any token"

def step (scanner : Scanner) : Except Fault Scanner := do
  let skipped := skipToToken (scanner.cursor.rest.length + 1) scanner.skipMark
  let fresh ← skipped.dropStale
  scanToken (fresh.unwindTo fresh.cursor.column)

def run : Nat → Scanner → Except Fault Scanner
  | 0, _ => malformed "the document does not end"
  | fuel + 1, scanner =>
      if scanner.finished then .ok scanner
      else do
        let next ← scanner.step
        run fuel next

end Scanner

/-- The characters a document may hold. -/
def isPrintable (character : Char) : Bool :=
  let code := character.toNat
  code == 0x09 || code == 0x0a || code == 0x0d || code == 0x85 ||
    decide (0x20 ≤ code ∧ code ≤ 0x7e) || decide (0xa0 ≤ code ∧ code ≤ 0xd7ff) ||
    decide (0xe000 ≤ code ∧ code ≤ 0xfffd) || decide (0x10000 ≤ code)

def Token.scan (content : List Char) : Except Fault (List Token) :=
  if content.all isPrintable then do
    let scanner ← Scanner.run (content.length + 2) (.start content)
    return scanner.tokens.toList
  else malformed "special characters are not allowed"

end GridSource.Yaml
