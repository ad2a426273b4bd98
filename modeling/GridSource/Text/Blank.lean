/-!
# Blank characters

The characters that separate words: the ASCII blanks, the four information
separators, and the spaces of other scripts.
-/

namespace GridSource

def blankCodes : List Nat :=
  [0x9, 0xa, 0xb, 0xc, 0xd, 0x1c, 0x1d, 0x1e, 0x1f, 0x20, 0x85, 0xa0, 0x1680, 0x2000, 0x2001,
    0x2002, 0x2003, 0x2004, 0x2005, 0x2006, 0x2007, 0x2008, 0x2009, 0x200a, 0x2028, 0x2029,
    0x202f, 0x205f, 0x3000]

def isBlank (character : Char) : Bool := blankCodes.contains character.toNat

/-- The blanks of ASCII, without the information separators. -/
def isAsciiBlank (character : Char) : Bool :=
  character == ' ' || decide (0x9 ≤ character.toNat ∧ character.toNat ≤ 0xd)

/-- Removes the characters of a class from both ends. -/
def trimBy (drops : Char → Bool) (characters : List Char) : List Char :=
  (((characters.dropWhile drops).reverse).dropWhile drops).reverse

end GridSource
