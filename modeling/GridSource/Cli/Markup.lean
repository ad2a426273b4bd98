import GridSource.Text.Blank

/-!
# Markup

The console reads a word in square brackets as the name of a style, and one with
a slash as its end.  Shown without colours a marked text is the text between the
tags.  A backslash keeps a bracket from being a tag.
-/

namespace GridSource.Markup

inductive Piece where
  | plain (characters : List Char)
  | tag (content : List Char)
deriving Repr, DecidableEq

def startsTag (character : Char) : Bool :=
  decide ('a' ≤ character ∧ character ≤ 'z') || ['#', '/', '@'].contains character

/-- The content of a tag whose opening bracket is read, and what follows it. -/
def tag? : List Char → Option (List Char × List Char)
  | [] => none
  | first :: rest =>
      if startsTag first then
        let others := rest.takeWhile fun character => character != ']' && character != '['
        match rest.drop others.length with
        | ']' :: after => some (first :: others, after)
        | _ => none
      else none

/-- The pieces of a text.  Of the backslashes before a tag every two are one, and
an odd one keeps the tag from being read; before any other bracket one goes. -/
def piecesWithin : Nat → List Char → List Piece
  | 0, _ => []
  | _ + 1, [] => []
  | steps + 1, first :: rest =>
      let slashes := ((first :: rest).takeWhile (· == '\\')).length
      match (first :: rest).drop slashes with
      | '[' :: inside =>
          match tag? inside with
          | some (content, after) =>
              .plain (List.replicate (slashes / 2) '\\') ::
                (if slashes % 2 = 1 then .plain ('[' :: content ++ [']']) else .tag content) ::
                piecesWithin steps after
          | none =>
              .plain (List.replicate (slashes - 1) '\\' ++ ['[']) :: piecesWithin steps inside
      | after =>
          if slashes = 0 then .plain [first] :: piecesWithin steps rest
          else .plain (List.replicate slashes '\\') :: piecesWithin steps after

/-- Every step passes a character. -/
def pieces (characters : List Char) : List Piece := piecesWithin (characters.length + 1) characters

/-- A tag ends no style that is open. -/
structure Fault where
  closing : String
deriving Repr, DecidableEq, Inhabited

def styleName (characters : List Char) : String :=
  (String.ofList (trimBy isBlank characters)).toLower

/-- The styles still open after a tag; the innermost comes first. -/
def openAfter (styles : List String) (content : List Char) : Except Fault (List String) :=
  let name := content.takeWhile (· != '=')
  match name with
  | '/' :: closed =>
      let closing := styleName closed
      if closing.isEmpty then
        match styles with
        | _ :: outer => .ok outer
        | [] => .error ⟨closing⟩
      else if styles.contains closing then .ok (styles.erase closing)
      else .error ⟨closing⟩
  | name => .ok (styleName name :: styles)

def plainText : List String → List Piece → Except Fault (List Char)
  | _, [] => .ok []
  | styles, .plain characters :: rest => (plainText styles rest).map (characters ++ ·)
  | styles, .tag content :: rest => do
      let styles ← openAfter styles content
      plainText styles rest

/-- Control characters that move the cursor are not shown. -/
def isShown (character : Char) : Bool :=
  !(['\x07', '\x08', '\x0b', '\x0c', '\r'].contains character)

/-- What the console shows of a text. -/
def shown (content : String) : Except Fault String :=
  (plainText [] (pieces content.toList)).map fun characters =>
    String.ofList (characters.filter isShown)

end GridSource.Markup
