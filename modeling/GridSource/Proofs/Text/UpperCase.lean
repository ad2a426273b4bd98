import GridSource.Text.UpperCase
import Mathlib.Data.List.Basic

/-!
# Upper case taken twice

Only the small letters of ASCII and a few others have capitals that are ASCII throughout, and
none of these letters is a capital.  So where the upper-case form of an upper-case text is ASCII,
it is that text.
-/

namespace GridSource

namespace UpperCase

/-- The letters whose capitals are ASCII throughout. -/
def HasAsciiCapital (point : Nat) : Prop :=
  0x61 ≤ point ∧ point ≤ 0x7a ∨ point = 0xdf ∨ point = 0x131 ∨ point = 0x17f ∨
    0xfb00 ≤ point ∧ point ≤ 0xfb06

instance (point : Nat) : Decidable (HasAsciiCapital point) := by
  unfold HasAsciiCapital
  infer_instance

/-! ## The tables -/

theorem row_valid : ∀ row ∈ rows,
    0 ≤ row.first + row.distance ∧ (row.last + row.distance < 0xd800 ∨
      0xdfff < row.first + row.distance ∧ row.last + row.distance < 0x110000) := by
  decide +kernel

/-- The capitals of a row lie on one side of each letter with an ASCII capital. -/
theorem row_avoids : ∀ row ∈ rows,
    (row.last + row.distance < 0x61 ∨ 0x7a < row.first + row.distance) ∧
      (row.last + row.distance < 0xdf ∨ 0xdf < row.first + row.distance) ∧
      (row.last + row.distance < 0x131 ∨ 0x131 < row.first + row.distance) ∧
      (row.last + row.distance < 0x17f ∨ 0x17f < row.first + row.distance) ∧
      (row.last + row.distance < 0xfb00 ∨ 0xfb06 < row.first + row.distance) := by
  decide +kernel

theorem row_leaves_ascii : ∀ row ∈ rows,
    0x61 ≤ row.first ∧ row.last ≤ 0x7a ∨
      row.first = row.last ∧ (row.first = 0x131 ∨ row.first = 0x17f) ∨
      0x80 ≤ row.first + row.distance := by
  decide +kernel

theorem expansion_avoids : ∀ expansion ∈ expansions, ∀ point ∈ expansion.2,
    point < 0xd800 ∧ ¬ HasAsciiCapital point := by
  decide +kernel

theorem expansion_leaves_ascii : ∀ expansion ∈ expansions,
    HasAsciiCapital expansion.1 ∨ ∃ point ∈ expansion.2, 0x80 ≤ point := by
  decide +kernel

theorem small_letters_mem : (⟨0x61, 0x7a, 1, -32⟩ : Row) ∈ rows := List.mem_cons_self

theorem letters_covered : ∀ point ∈ [0xdf, 0x131, 0x17f, 0xfb00, 0xfb01, 0xfb02, 0xfb03, 0xfb04,
    0xfb05, 0xfb06],
    (rows.any fun row => row.contains point) || (expansions.any fun expansion =>
      expansion.1 == point) := by
  decide +kernel

/-! ## One character -/

theorem toNat_ofNat_of_isValidChar {point : Nat} (hvalid : point.isValidChar) :
    (Char.ofNat point).toNat = point := by
  rw [Char.ofNat, dif_pos hvalid]
  rfl

/-- What a character becomes. -/
inductive Becomes (letter : Char) : List Char → Prop where
  | capital {row : Row} {point : Nat} (hrow : row ∈ rows)
      (hfirst : row.first ≤ letter.toNat) (hlast : letter.toNat ≤ row.last)
      (hpoint : (point : Int) = letter.toNat + row.distance)
      (hvalid : (Char.ofNat point).toNat = point) : Becomes letter [Char.ofNat point]
  | expansion {points : List Nat} (hexpansion : (letter.toNat, points) ∈ expansions) :
      Becomes letter (points.map Char.ofNat)
  | itself (hletter : ¬ HasAsciiCapital letter.toNat) : Becomes letter [letter]

theorem not_hasAsciiCapital {point : Nat} (hrow : ∀ row ∈ rows, row.contains point = false)
    (hexpansion : ∀ expansion ∈ expansions, expansion.1 ≠ point) : ¬ HasAsciiCapital point := by
  have hsmall : ¬ (0x61 ≤ point ∧ point ≤ 0x7a) := by
    simpa [Row.contains, Nat.mod_one] using hrow _ small_letters_mem
  have hletters : point ∉ [0xdf, 0x131, 0x17f, 0xfb00, 0xfb01, 0xfb02, 0xfb03, 0xfb04, 0xfb05,
      0xfb06] := by
    intro hmem
    have hcovered := letters_covered point hmem
    rw [Bool.or_eq_true, List.any_eq_true, List.any_eq_true] at hcovered
    rcases hcovered with ⟨row, hmem, hcontains⟩ | ⟨expansion, hmem, hpoint⟩
    · rw [hrow row hmem] at hcontains
      contradiction
    · exact hexpansion expansion hmem (beq_iff_eq.mp hpoint)
  simp only [List.mem_cons, List.not_mem_nil, or_false, not_or] at hletters
  unfold HasAsciiCapital
  omega

theorem becomes (letter : Char) : Becomes letter (character letter) := by
  rw [character]
  split
  · next row hrow =>
      have hmem := List.mem_of_find?_eq_some hrow
      have hcontains := List.find?_some hrow
      rw [Row.contains, Bool.and_eq_true, decide_eq_true_eq] at hcontains
      have hvalid := row_valid row hmem
      refine .capital hmem hcontains.1.1 hcontains.1.2 (by omega) (toNat_ofNat_of_isValidChar ?_)
      unfold Nat.isValidChar
      omega
  · next hrow =>
      split
      · next point points hexpansion =>
          have hpoint := List.find?_some hexpansion
          obtain rfl : point = letter.toNat := beq_iff_eq.mp hpoint
          exact .expansion (List.mem_of_find?_eq_some hexpansion)
      · next hexpansion =>
          rw [List.find?_eq_none] at hrow hexpansion
          refine .itself (not_hasAsciiCapital ?_ ?_)
          · simpa using hrow
          · simpa using hexpansion

/-- No capital is a letter with an ASCII capital. -/
theorem not_hasAsciiCapital_of_mem {letter capital : Char} (hcapital : capital ∈ character letter) :
    ¬ HasAsciiCapital capital.toNat := by
  have hbecomes := becomes letter
  generalize character letter = capitals at hbecomes hcapital
  cases hbecomes with
  | @capital row point hrow hfirst hlast hpoint hvalid =>
      obtain rfl := List.mem_singleton.mp hcapital
      have havoids := row_avoids row hrow
      rw [hvalid]
      unfold HasAsciiCapital
      omega
  | expansion hexpansion =>
      obtain ⟨point, hpoint, rfl⟩ := List.mem_map.mp hcapital
      obtain ⟨hsmall, havoids⟩ := expansion_avoids _ hexpansion point hpoint
      rw [toNat_ofNat_of_isValidChar (.inl hsmall)]
      exact havoids
  | itself hletter =>
      obtain rfl := List.mem_singleton.mp hcapital
      exact hletter

/-- Every other letter that is not left as it is leaves a character outside ASCII. -/
theorem character_eq_of_ascii {letter : Char} (hletter : ¬ HasAsciiCapital letter.toNat)
    (hascii : ∀ capital ∈ character letter, capital.toNat < 0x80) :
    character letter = [letter] := by
  have hbecomes := becomes letter
  generalize character letter = capitals at hbecomes hascii ⊢
  cases hbecomes with
  | @capital row point hrow hfirst hlast hpoint hvalid =>
      have hleaves := row_leaves_ascii row hrow
      have hpoint' := hascii _ List.mem_cons_self
      rw [hvalid] at hpoint'
      unfold HasAsciiCapital at hletter
      omega
  | @expansion points hexpansion =>
      obtain ⟨point, hpoint, hlarge⟩ :=
        (expansion_leaves_ascii _ hexpansion).resolve_left hletter
      have hsmall := hascii _ (List.mem_map_of_mem hpoint)
      rw [toNat_ofNat_of_isValidChar (.inl (expansion_avoids _ hexpansion point hpoint).1)] at hsmall
      omega
  | itself => rfl

end UpperCase

theorem toList_upperCase (content : String) :
    (upperCase content).toList = content.toList.flatMap UpperCase.character := by
  rw [upperCase, String.toList_ofList]

/-- Where the upper-case form of an upper-case text is ASCII, it is that text. -/
theorem upperCase_upperCase_of_ascii {content : String}
    (hascii : ∀ character ∈ (upperCase (upperCase content)).toList, character.toNat < 0x80) :
    upperCase (upperCase content) = upperCase content := by
  have hfixed : ∀ capital ∈ (upperCase content).toList,
      UpperCase.character capital = [capital] := by
    intro capital hcapital
    have hagain : ∀ again ∈ UpperCase.character capital, again.toNat < 0x80 := by
      intro again hagain
      apply hascii
      rw [toList_upperCase, List.mem_flatMap]
      exact ⟨capital, hcapital, hagain⟩
    rw [toList_upperCase] at hcapital
    obtain ⟨letter, -, hletter⟩ := List.mem_flatMap.mp hcapital
    exact UpperCase.character_eq_of_ascii (UpperCase.not_hasAsciiCapital_of_mem hletter) hagain
  rw [← String.toList_inj, toList_upperCase (upperCase content), List.flatMap_congr hfixed,
    List.flatMap_singleton']

end GridSource
