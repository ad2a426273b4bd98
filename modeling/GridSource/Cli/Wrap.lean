import GridSource.Text.Blank

/-!
# Wrapped lines

A text that is longer than the console is wide goes on in the next line, at the
start of a word where possible.  Blanks belong to the word before them, and those
beyond the width are lost.  A word that fits in no line is cut.
-/

namespace GridSource.Wrap

/-- Words with the blanks after them; blanks at the start are a word of their own. -/
def words : List Char → List (List Char)
  | [] => []
  | character :: rest =>
      match words rest with
      | [] => [[character]]
      | next :: others =>
          let endsHere := isBlank character && (next.head?.map (!isBlank ·)).getD false
          if endsHere then [character] :: next :: others else (character :: next) :: others

def trimRight (line : List Char) : List Char := (line.reverse.dropWhile isBlank).reverse

/-- A line without the blanks that stand beyond the width. -/
def fit (width : Nat) (line : List Char) : List Char :=
  line.take (max width (trimRight line).length)

/-- A long word cut into lines of full width. -/
def cut (width : Nat) : Nat → List Char → List (List Char)
  | 0, word => [word]
  | steps + 1, word =>
      if word.length ≤ width then [word]
      else word.take width :: cut width steps (word.drop width)

/-- The lines of words, where `line` is the one that is being filled. -/
def fill (width : Nat) (line : List Char) : List (List Char) → List (List Char)
  | [] => [line]
  | word :: rest =>
      let length := (trimRight word).length
      if length ≤ width - line.length then fill width (line ++ word) rest
      else
        let finished := if line.isEmpty then [] else [line]
        if width < length then
          let parts := cut width word.length word
          finished ++ parts.dropLast ++ fill width (parts.getLastD []) rest
        else finished ++ fill width word rest

def lines (width : Nat) (characters : List Char) : List (List Char) :=
  (fill width [] (words characters)).map (fit width)

def wrap (width : Nat) (content : String) : String :=
  "\n".intercalate ((lines width content.toList).map String.ofList)

end GridSource.Wrap
