import GridSource.Json.Reader
import GridSource.Toml.Cursor

/-!
# Texts

Basic texts stand between double quotes and have escapes, literal ones stand
between single quotes and have none.  Three quotes open a text of several lines,
whose first line break does not count and which may end in two more quotes.
-/

namespace GridSource.Toml

def shortEscape? : Char → Option Char
  | 'b' => some '\x08'
  | 't' => some '\t'
  | 'n' => some '\n'
  | 'f' => some '\x0c'
  | 'r' => some '\r'
  | '"' => some '"'
  | '\\' => some '\\'
  | _ => none

/-- A character of a code escape. -/
def codeEscape (count : Nat) (characters : List Char) : Except Fault (Char × List Char) :=
  let digits := characters.take count
  match Json.hexCode? digits with
  | some code =>
      if digits.length = count ∧ code.isValidChar then
        .ok (Char.ofNat code, characters.drop count)
      else malformed "invalid code escape"
  | none => malformed "invalid code escape"

/-- A line break after a backslash swallows the blanks and breaks around it. -/
def lineEscape (characters : List Char) : Except Fault (List Char) :=
  match skipBlanks characters with
  | [] => .ok []
  | '\n' :: rest => .ok (rest.dropWhile isBlankOrBreak)
  | _ => malformed "unescaped backslash in a text"

def basicText (multiline : Bool) : Nat → List Char → Except Fault (List Char × List Char)
  | 0, _ => malformed "unterminated text"
  | fuel + 1, characters => do
      let prepend (character : Char) (rest : List Char) : Except Fault (List Char × List Char) := do
        let (others, last) ← basicText multiline fuel rest
        return (character :: others, last)
      match characters with
      | [] => malformed "unterminated text"
      | '"' :: rest =>
          if multiline then
            match rest with
            | '"' :: '"' :: after => return ([], after)
            | _ => prepend '"' rest
          else return ([], rest)
      | '\\' :: letter :: rest =>
          if multiline && isBlankOrBreak letter then
            basicText multiline fuel (← lineEscape (letter :: rest))
          else if letter = 'u' then
            let (character, after) ← codeEscape 4 rest
            prepend character after
          else if letter = 'U' then
            let (character, after) ← codeEscape 8 rest
            prepend character after
          else
            match shortEscape? letter with
            | some character => prepend character rest
            | none => malformed "unescaped backslash in a text"
      | character :: rest =>
          if character = '\\' then malformed "unescaped backslash in a text"
          else if isControl character && !(multiline && character == '\n') then
            malformed "illegal character in a text"
          else prepend character rest

def literalText (characters : List Char) : Except Fault (List Char × List Char) :=
  let content := characters.takeWhile (· != '\'')
  match characters.drop content.length with
  | _ :: rest => if content.any isControl then malformed "illegal character in a text"
      else .ok (content, rest)
  | [] => malformed "unterminated text"

/-- What comes before the first three single quotes, and after them. -/
def literalLines : List Char → Except Fault (List Char × List Char)
  | [] => malformed "unterminated text"
  | '\'' :: '\'' :: '\'' :: rest => .ok ([], rest)
  | character :: rest =>
      if isControl character && character != '\n' then malformed "illegal character in a text"
      else
        match literalLines rest with
        | .ok (others, last) => .ok (character :: others, last)
        | .error fault => .error fault

/-- Up to two more quotes after the end belong to the text. -/
def extraQuotes (quote : Char) (content characters : List Char) : List Char × List Char :=
  match characters with
  | first :: second :: rest =>
      if first = quote then
        if second = quote then (content ++ [quote, quote], rest)
        else (content ++ [quote], second :: rest)
      else (content, characters)
  | [single] => if single = quote then (content ++ [quote], []) else (content, characters)
  | [] => (content, [])

def dropBreak : List Char → List Char
  | '\n' :: rest => rest
  | characters => characters

/-- A text, if a quote stands here. -/
def text? (characters : List Char) : Option (Except Fault (List Char × List Char)) :=
  match characters with
  | '"' :: '"' :: '"' :: rest =>
      some do
        let (content, after) ← basicText true (rest.length + 1) (dropBreak rest)
        return extraQuotes '"' content after
  | '"' :: rest => some (basicText false (rest.length + 1) rest)
  | '\'' :: '\'' :: '\'' :: rest =>
      some do
        let (content, after) ← literalLines (dropBreak rest)
        return extraQuotes '\'' content after
  | '\'' :: rest => some (literalText rest)
  | _ => none

/-! ## Keys -/

def isBareKey (character : Char) : Bool :=
  character.isAlphanum || character == '-' || character == '_'

/-- One part of a key: bare, or a text of one line. -/
def keyPart (characters : List Char) : Except Fault (String × List Char) :=
  match characters with
  | '"' :: rest => do
      let (content, after) ← basicText false (rest.length + 1) rest
      return (String.ofList content, after)
  | '\'' :: rest => do
      let (content, after) ← literalText rest
      return (String.ofList content, after)
  | _ =>
      let bare := characters.takeWhile isBareKey
      if bare.isEmpty then malformed "invalid initial character for a key part"
      else .ok (String.ofList bare, characters.drop bare.length)

/-- A dotted key. -/
def key : Nat → List Char → Except Fault (List String × List Char)
  | 0, _ => malformed "expected a key"
  | fuel + 1, characters => do
      let (part, afterPart) ← keyPart characters
      match skipBlanks afterPart with
      | '.' :: rest =>
          let (others, last) ← key fuel (skipBlanks rest)
          return (part :: others, last)
      | rest => return ([part], rest)

end GridSource.Toml
