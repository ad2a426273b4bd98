import GridSource.Text.Unprintable

/-!
# Alphabets

A JSON document can spell half of a surrogate pair that stands alone, and a text
that is read from it holds this half.  There is no character for it, so an
alphabet sets characters aside that stand for halves and no longer for
themselves.  A text with a half in it is a text like any other, but the half is
not printable and the text has no encoding as bytes.
-/

namespace GridSource

structure Alphabet where
  /-- The codes of halves with the characters set aside for them. -/
  halves : List (Nat × Char)
  nodup : (halves.map Prod.snd).Nodup
  beyond_ascii : ∀ entry ∈ halves, 0x80 ≤ entry.2.toNat
  unprintable : ∀ entry ∈ halves, isUnprintable entry.2 = true

namespace Alphabet

/-- The alphabet in which every character stands for itself. -/
def unicode : Alphabet := ⟨[], List.nodup_nil, by simp, by simp⟩

instance : Inhabited Alphabet := ⟨unicode⟩

def isHalf (alphabet : Alphabet) (character : Char) : Bool :=
  alphabet.halves.any fun entry => entry.2 == character

/-- The character for half of a pair; without one it is the replacement character. -/
def half (alphabet : Alphabet) (code : Nat) : Char := (alphabet.halves.lookup code).getD '\ufffd'

/-- Whether a text has an encoding as bytes. -/
def encodes (alphabet : Alphabet) (content : String) : Bool :=
  content.toList.all fun character => !alphabet.isHalf character

theorem isHalf_of_ascii (alphabet : Alphabet) {character : Char} (hascii : character.toNat < 0x80) :
    alphabet.isHalf character = false := by
  rw [isHalf, List.any_eq_false]
  intro entry hentry hsame
  have hbeyond := alphabet.beyond_ascii entry hentry
  rw [beq_iff_eq.mp hsame] at hbeyond
  omega

theorem isUnprintable_of_isHalf (alphabet : Alphabet) {character : Char}
    (hhalf : alphabet.isHalf character = true) : isUnprintable character = true := by
  rw [isHalf, List.any_eq_true] at hhalf
  obtain ⟨entry, hentry, hsame⟩ := hhalf
  rw [← beq_iff_eq.mp hsame]
  exact alphabet.unprintable entry hentry

theorem encodes_of_ascii (alphabet : Alphabet) (content : String)
    (hascii : content.toList.all (fun character => character.toNat < 0x80) = true) :
    alphabet.encodes content = true := by
  rw [encodes, List.all_eq_true]
  intro character hmem
  have hsmall : character.toNat < 0x80 := by simpa using List.all_eq_true.mp hascii character hmem
  rw [alphabet.isHalf_of_ascii hsmall]
  rfl

@[simp]
theorem encodes_append (alphabet : Alphabet) (first second : String) :
    alphabet.encodes (first ++ second) = (alphabet.encodes first && alphabet.encodes second) := by
  rw [encodes, String.toList_append, List.all_append, encodes, encodes]

@[simp]
theorem encodes_unicode (content : String) : unicode.encodes content = true := by
  simp [encodes, isHalf, unicode]

end Alphabet

end GridSource
