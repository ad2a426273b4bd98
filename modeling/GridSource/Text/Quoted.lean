import GridSource.Text.Unprintable

/-!
# Quoted text

A text in a report stands between single quotes, or between double quotes when
it holds a single quote and no double quote.  The quote in use, the backslash
and unprintable characters are escaped, the latter by their lower-case
hexadecimal code.
-/

namespace GridSource.Quoted

def hexDigit (value : Nat) : Char :=
  if value < 10 then Char.ofNat (0x30 + value) else Char.ofNat (0x57 + value)

/-- The last `width` hexadecimal digits of a number. -/
def hex : Nat → Nat → List Char
  | 0, _ => []
  | width + 1, value => hex width (value / 16) ++ [hexDigit (value % 16)]

def quoteFor (characters : List Char) : Char :=
  if characters.contains '\'' && !characters.contains '"' then '"' else '\''

def escape (quote character : Char) : List Char :=
  if character = quote ∨ character = '\\' then ['\\', character]
  else if character = '\n' then ['\\', 'n']
  else if character = '\r' then ['\\', 'r']
  else if character = '\t' then ['\\', 't']
  else if isUnprintable character then
    let code := character.toNat
    if code < 0x100 then '\\' :: 'x' :: hex 2 code
    else if code < 0x10000 then '\\' :: 'u' :: hex 4 code
    else '\\' :: 'U' :: hex 8 code
  else [character]

def encode (characters : List Char) : List Char :=
  let quote := quoteFor characters
  quote :: characters.flatMap (escape quote) ++ [quote]

end GridSource.Quoted

namespace GridSource

def quoted (content : String) : String := String.ofList (Quoted.encode content.toList)

end GridSource
