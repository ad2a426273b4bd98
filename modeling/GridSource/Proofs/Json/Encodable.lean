import GridSource.Json.Writer
import GridSource.Text.Quoted
import GridSource.Text.Alphabet
import Mathlib.Data.List.Nodup
import Mathlib.Tactic.SplitIfs

/-!
# Encoding what is written

Writing a text as JSON adds nothing but ASCII to it and takes no other character away, so what
is written can be encoded exactly when the text can.  A quoted text can always be encoded, for
halves of surrogate pairs are escaped in it.
-/

namespace GridSource

namespace Quoted

theorem hex_ascii (width value : Nat) : ∀ digit ∈ hex width value, digit.toNat < 0x80 := by
  have hdigit : ∀ value < 16, (hexDigit value).toNat < 0x80 := by decide
  induction width generalizing value with
  | zero => simp [hex]
  | succ width ih =>
      intro digit hmem
      rw [hex, List.mem_append, List.mem_singleton] at hmem
      rcases hmem with hmem | rfl
      · exact ih _ digit hmem
      · exact hdigit _ (Nat.mod_lt _ (by decide))

end Quoted

namespace Json

theorem toNat_lt_of_mem_escapeCode {code : Nat} {piece : Char}
    (hpiece : piece ∈ escapeCode code) : piece.toNat < 0x80 := by
  simp only [escapeCode, List.mem_cons] at hpiece
  rcases hpiece with rfl | rfl | hdigit
  · decide
  · decide
  · exact Quoted.hex_ascii 4 code piece hdigit

/-- A character is written as itself, or it is in ASCII and so is its escape. -/
theorem escape_cases (character : Char) :
    escape false character = [character] ∨
      character.toNat < 0x80 ∧ ∀ piece ∈ escape false character, piece.toNat < 0x80 := by
  simp only [escape, Bool.false_and, Bool.false_eq_true, if_false]
  split_ifs with hquoted hline hreturn htab hback hfeed hcontrol
  · right
    rcases hquoted with rfl | rfl <;> simp
  · subst hline
    right
    simp
  · subst hreturn
    right
    simp
  · subst htab
    right
    simp
  · subst hback
    right
    simp
  · subst hfeed
    right
    simp
  · exact .inr ⟨by omega, fun piece => toNat_lt_of_mem_escapeCode⟩
  · exact .inl rfl

end Json

namespace Alphabet

variable (alphabet : Alphabet)

/-- Different halves have different characters, so texts with different halves stay apart. -/
theorem eq_of_half_eq {first second : Nat} (hfirst : (alphabet.halves.lookup first).isSome)
    (hsecond : (alphabet.halves.lookup second).isSome)
    (hsame : alphabet.half first = alphabet.half second) : first = second := by
  obtain ⟨character, hlookup⟩ := Option.isSome_iff_exists.mp hfirst
  obtain ⟨character', hlookup'⟩ := Option.isSome_iff_exists.mp hsecond
  rw [half, half, hlookup, hlookup'] at hsame
  obtain rfl : character = character' := hsame
  obtain ⟨before, after, hhalves, -⟩ := List.lookup_eq_some_iff.mp hlookup
  obtain ⟨before', after', hhalves', -⟩ := List.lookup_eq_some_iff.mp hlookup'
  have hmem : (first, character) ∈ alphabet.halves := by simp [hhalves]
  have hmem' : (second, character) ∈ alphabet.halves := by simp [hhalves']
  exact congrArg Prod.fst (List.inj_on_of_nodup_map alphabet.nodup hmem hmem' rfl)

theorem all_escape (character : Char) :
    ((Json.escape false character).all fun piece => !alphabet.isHalf piece) =
      !alphabet.isHalf character := by
  rcases Json.escape_cases character with hself | ⟨hcharacter, hpieces⟩
  · simp [hself]
  · rw [alphabet.isHalf_of_ascii hcharacter, Bool.not_false, List.all_eq_true]
    intro piece hpiece
    rw [alphabet.isHalf_of_ascii (hpieces piece hpiece)]
    rfl

/-- A written text can be encoded when the text can. -/
@[simp]
theorem encodes_writeText (content : String) :
    alphabet.encodes (Json.writeText false content) = alphabet.encodes content := by
  have hquote : alphabet.isHalf '"' = false := alphabet.isHalf_of_ascii (by decide)
  simp only [encodes, Json.writeText, String.toList_ofList, List.cons_append, List.all_cons,
    List.all_append, List.all_flatMap, all_escape, hquote, List.all_nil, Bool.not_false,
    Bool.true_and, Bool.and_true]

/-! ## Quoted texts -/

/-- No half is left in what a character is quoted as. -/
theorem isHalf_of_mem_escape {quote character piece : Char} (hquote : quote.toNat < 0x80)
    (hpiece : piece ∈ Quoted.escape quote character) : alphabet.isHalf piece = false := by
  have hcode (letter : Char) (hletter : letter.toNat < 0x80) (width : Nat)
      (hmem : piece ∈ '\\' :: letter :: Quoted.hex width character.toNat) :
      alphabet.isHalf piece = false := by
    refine alphabet.isHalf_of_ascii ?_
    simp only [List.mem_cons] at hmem
    rcases hmem with rfl | rfl | hdigit
    · decide
    · exact hletter
    · exact Quoted.hex_ascii _ _ piece hdigit
  have hshort (letter : Char) (hletter : letter.toNat < 0x80) (hmem : piece ∈ ['\\', letter]) :
      alphabet.isHalf piece = false :=
    hcode letter hletter 0 (by simpa [Quoted.hex] using hmem)
  rw [Quoted.escape] at hpiece
  dsimp only at hpiece
  split_ifs at hpiece with hself hline hreturn htab hunprintable
  · refine hshort character ?_ hpiece
    rcases hself with rfl | rfl
    · exact hquote
    · decide
  · exact hshort 'n' (by decide) hpiece
  · exact hshort 'r' (by decide) hpiece
  · exact hshort 't' (by decide) hpiece
  · exact hcode 'x' (by decide) 2 hpiece
  · exact hcode 'u' (by decide) 4 hpiece
  · exact hcode 'U' (by decide) 8 hpiece
  · -- A half is not printable, so what stands for itself is none.
    rw [List.mem_singleton.mp hpiece, Bool.eq_false_iff]
    exact fun hhalf => hunprintable (alphabet.isUnprintable_of_isHalf hhalf)

@[simp]
theorem encodes_quoted (content : String) : alphabet.encodes (quoted content) = true := by
  have hquote : (Quoted.quoteFor content.toList).toNat < 0x80 := by
    rw [Quoted.quoteFor]
    split <;> decide
  have hhalf := alphabet.isHalf_of_ascii hquote
  rw [encodes, quoted, String.toList_ofList, Quoted.encode, List.all_eq_true]
  intro piece hpiece
  rw [List.mem_append, List.mem_cons, List.mem_singleton, List.mem_flatMap] at hpiece
  rcases hpiece with (rfl | ⟨character, -, hmem⟩) | rfl
  · rw [hhalf]
    rfl
  · rw [isHalf_of_mem_escape alphabet hquote hmem]
    rfl
  · rw [hhalf]
    rfl

end Alphabet

end GridSource
