import GridSource.Json.Reader
import GridSource.Json.Writer
import Mathlib.Tactic.IntervalCases

/-!
# Reading back scalars

The written form of an integer reads back as that integer when what follows
cannot belong to a number, and the written form of a text reads back as that text
whatever follows.  A text is undone piece by piece: every character is written as
one piece, an escape or itself, and no two pieces join.
-/

namespace GridSource

/-! ## Decimal digits -/

/-- There is a first digit, and it is a zero for no number but zero. -/
theorem toDigits_eq_cons (number : Nat) :
    ∃ first others, Nat.toDigits 10 number = first :: others ∧ first.isDigit = true ∧
      (first = '0' → number = 0) := by
  induction number using Nat.base_induction 10 (by decide) with
  | single digit hdigit =>
      refine ⟨digit.digitChar, [], Nat.toDigits_of_lt_base hdigit, ?_, ?_⟩
      · simpa [Nat.isDigit_digitChar] using hdigit
      · exact Nat.digitChar_eq_zero.mp
  | digit front digit hdigit hfront ih =>
      obtain ⟨first, others, hdigits, hfirst, hzero⟩ := ih
      refine ⟨first, others ++ Nat.toDigits 10 digit, ?_, hfirst, ?_⟩
      · rw [← Nat.toDigits_append_toDigits (by decide) hfront hdigit, hdigits, List.cons_append]
      · intro hcontra
        have := hzero hcontra
        omega

theorem isDigit_of_mem_toDigits {number : Nat} {digit : Char}
    (hdigit : digit ∈ Nat.toDigits 10 number) : digit.isDigit = true :=
  Nat.isDigit_of_mem_toDigits (by decide) (by decide) hdigit

theorem ne_of_isDigit {digit other : Char} (hdigit : digit.isDigit = true)
    (hother : other.isDigit = false) : digit ≠ other := by
  intro hsame
  simp [hsame, hother] at hdigit

theorem decimalLength_eq (number : Nat) :
    decimalLength number = (Nat.toDigits 10 number).length := by
  rw [decimalLength, Nat.toString_eq_repr, ← String.length_toList, Nat.toList_repr]

theorem toList_toString_int (number : Int) :
    (toString number).toList =
      (if number < 0 then ['-'] else []) ++ Nat.toDigits 10 number.natAbs := by
  rw [Int.toString_eq_repr, Int.repr_eq_if]
  by_cases hnegative : number < 0
  · have habs : (-number).toNat = number.natAbs := by omega
    rw [if_neg (by omega), if_pos hnegative, habs, String.toList_append, Nat.toList_repr]
    rfl
  · have habs : number.toNat = number.natAbs := by omega
    rw [if_pos (by omega), if_neg hnegative, habs, Nat.toList_repr, List.nil_append]

theorem integerText_eq_ok_iff {number : Int} {written : String} :
    integerText number = .ok written ↔
      (Nat.toDigits 10 number.natAbs).length ≤ mostIntegerDigits ∧
        written = toString number := by
  rw [integerText, hasText, decimalLength_eq]
  by_cases hshort : (Nat.toDigits 10 number.natAbs).length ≤ mostIntegerDigits
  · simp [hshort, eq_comm]
  · simp [hshort]

namespace Json

/-! ## Numbers -/

/-- What may follow a value: nothing, or a character that ends an item. -/
inductive Ending : List Char → Prop where
  | nothing : Ending []
  | comma (rest : List Char) : Ending (',' :: rest)
  | bracket (rest : List Char) : Ending (']' :: rest)
  | brace (rest : List Char) : Ending ('\x7d' :: rest)

theorem Ending.fractionPart_eq_none {rest : List Char} (hrest : Ending rest) :
    fractionPart rest = none := by
  cases hrest <;> rfl

theorem Ending.exponentPart_eq_none {rest : List Char} (hrest : Ending rest) :
    exponentPart rest = none := by
  cases hrest <;> rfl

theorem Ending.takeWhile_isDigit {rest : List Char} (hrest : Ending rest) :
    rest.takeWhile Char.isDigit = [] := by
  cases hrest <;> rfl

@[simp]
theorem decimalValue_toDigits (number : Nat) :
    exponentPart.decimalValue (Nat.toDigits 10 number) = number := by
  have hfold : exponentPart.decimalValue (Nat.toDigits 10 number) =
      Nat.ofDigitChars 10 (Nat.toDigits 10 number) 0 := by
    simp only [exponentPart.decimalValue, Nat.ofDigitChars_eq_foldl, Nat.mul_comm 10]
    rfl
  rw [hfold, Nat.ofDigitChars_ten_toDigits]

theorem wholePart_toDigits (number : Nat) {rest : List Char} (hrest : Ending rest) :
    wholePart (Nat.toDigits 10 number ++ rest) = Nat.toDigits 10 number := by
  obtain ⟨first, others, hdigits, -, hzero⟩ := toDigits_eq_cons number
  by_cases hfirst : first = '0'
  · rw [hzero hfirst]
    rfl
  · rw [hdigits, List.cons_append, wholePart, ← List.cons_append, ← hdigits]
    · rw [List.takeWhile_append_of_pos fun digit hdigit => isDigit_of_mem_toDigits hdigit,
        hrest.takeWhile_isDigit, List.append_nil]
    · simpa using hfirst

theorem signPart_toString (number : Int) (rest : List Char) :
    signPart ((toString number).toList ++ rest) =
      (decide (number < 0), Nat.toDigits 10 number.natAbs ++ rest) := by
  rw [toList_toString_int]
  by_cases hnegative : number < 0
  · rw [if_pos hnegative, decide_eq_true hnegative]
    rfl
  · rw [if_neg hnegative, decide_eq_false hnegative, List.nil_append]
    obtain ⟨first, others, hdigits, hfirst, -⟩ := toDigits_eq_cons number.natAbs
    have hsign : first ≠ '-' := ne_of_isDigit hfirst rfl
    rw [hdigits, List.cons_append, signPart]
    simpa using hsign

/-- A written integer reads back as the integer. -/
theorem readNumber_toString {number : Int} {rest : List Char} (hrest : Ending rest)
    (hlength : (Nat.toDigits 10 number.natAbs).length ≤ mostIntegerDigits) :
    readNumber ((toString number).toList ++ rest) = .ok (.int number, rest) := by
  have hnumber : (if decide (number < 0) = true then -(number.natAbs : Int)
      else (number.natAbs : Int)) = number := by
    by_cases hnegative : number < 0
    · rw [if_pos (decide_eq_true hnegative)]
      omega
    · rw [if_neg (by simpa using hnegative)]
      omega
  have hsome : (Nat.toDigits 10 number.natAbs).isEmpty = false := by
    simp [Nat.toDigits_ne_nil]
  rw [readNumber, signPart_toString]
  simp only [wholePart_toDigits _ hrest, hsome, List.drop_left, hrest.fractionPart_eq_none,
    hrest.exponentPart_eq_none, Option.getD_none, List.append_nil, decimalValue_toDigits]
  rw [if_neg Bool.false_ne_true, if_pos trivial, if_neg (Nat.not_lt.mpr hlength), hnumber]

/-! ## Texts -/

theorem hexValue?_hexDigit {value : Nat} (hvalue : value < 16) :
    hexValue? (Quoted.hexDigit value) = some value := by
  interval_cases value <;> rfl

theorem hexCode?_hex {code : Nat} (hcode : code < 0x10000) :
    hexCode? (Quoted.hex 4 code) = some code := by
  have hdigit := fun value => hexValue?_hexDigit (Nat.mod_lt value (show 0 < 16 by decide))
  simp only [Quoted.hex, List.nil_append, List.cons_append, hexCode?, List.foldlM_cons,
    List.foldlM_nil, hdigit, Option.map_some, Option.pure_def, Option.bind_eq_bind,
    Option.bind_some, Option.some.injEq]
  omega

/-- The piece is read as the character, whatever stands beside it. -/
inductive Piece.Means : Piece → Char → Prop where
  | character (character : Char) : Means (.character character) character
  | code {character : Char} (hcode : character.toNat < 0xd800) :
      Means (.code character.toNat) character

theorem pieces_short {opening rest : List Char} {letter character : Char}
    (hletter : shortEscape? letter = some character) :
    pieces opening ('\\' :: letter :: rest) =
      (pieces opening rest).map fun found => (.character character :: found.1, found.2) := by
  have hcode : letter ≠ 'u' := by
    rintro rfl
    contradiction
  rw [pieces]
  · simp only [hletter]
    cases pieces opening rest <;> rfl
  · simp [hcode]
  · simp [hcode]

theorem pieces_escapeCode {opening rest : List Char} {code : Nat} (hrest : rest ≠ [])
    (hcode : code < 0x10000) :
    pieces opening (escapeCode code ++ rest) =
      (pieces opening rest).map fun found => (.code code :: found.1, found.2) := by
  have hhex := hexCode?_hex hcode
  have hempty : rest.isEmpty = false := by simpa using hrest
  simp only [Quoted.hex, List.nil_append, List.cons_append] at hhex
  simp only [escapeCode, Quoted.hex, List.nil_append, List.cons_append, pieces, hhex, hempty]
  cases pieces opening rest <;> rfl

theorem pieces_plain {opening rest : List Char} {character : Char} (hquote : character ≠ '"')
    (hescape : character ≠ '\\') (hcontrol : ¬ character.toNat < 0x20) :
    pieces opening (character :: rest) =
      (pieces opening rest).map fun found => (.character character :: found.1, found.2) := by
  rw [pieces]
  · rw [if_neg hcontrol]
    cases pieces opening rest <;> rfl
  · simpa using hquote
  all_goals simp [hescape]

/-- A written character is read as one piece. -/
theorem pieces_escape (opening : List Char) {rest : List Char} (hrest : rest ≠ [])
    (character : Char) :
    ∃ piece : Piece, piece.Means character ∧
      pieces opening (escape false character ++ rest) =
        (pieces opening rest).map fun found => (piece :: found.1, found.2) := by
  rw [escape]
  split
  · next hmark =>
      refine ⟨_, .character character, pieces_short ?_⟩
      rcases hmark with rfl | rfl <;> rfl
  split
  · next h => exact ⟨_, .character _, h ▸ pieces_short rfl⟩
  split
  · next h => exact ⟨_, .character _, h ▸ pieces_short rfl⟩
  split
  · next h => exact ⟨_, .character _, h ▸ pieces_short rfl⟩
  split
  · next h => exact ⟨_, .character _, h ▸ pieces_short rfl⟩
  split
  · next h => exact ⟨_, .character _, h ▸ pieces_short rfl⟩
  split
  · next hcontrol =>
      exact ⟨_, .code (by omega), pieces_escapeCode hrest (by omega)⟩
  rw [Bool.false_and, if_neg Bool.false_ne_true]
  next hmark _ _ _ _ _ hcontrol =>
    rw [not_or] at hmark
    exact ⟨_, .character character, pieces_plain hmark.1 hmark.2 hcontrol⟩

theorem pieces_escapes (opening characters rest : List Char) :
    ∃ found, List.Forall₂ Piece.Means found characters ∧
      pieces opening (characters.flatMap (escape false) ++ '"' :: rest) = .ok (found, rest) := by
  induction characters with
  | nil => exact ⟨[], .nil, by rw [List.flatMap_nil, List.nil_append, pieces]⟩
  | cons character characters ih =>
      obtain ⟨found, hfound, hpieces⟩ := ih
      have hrest : characters.flatMap (escape false) ++ '"' :: rest ≠ [] := by simp
      obtain ⟨piece, hpiece, hstep⟩ := pieces_escape opening hrest character
      refine ⟨piece :: found, .cons hpiece hfound, ?_⟩
      rw [List.flatMap_cons, List.append_assoc, hstep, hpieces]
      rfl

variable (alphabet : Alphabet)

theorem joinPieces_code {code : Nat} (hcode : code < 0xd800) (rest : List Piece) :
    joinPieces alphabet (.code code :: rest) = Char.ofNat code :: joinPieces alphabet rest := by
  have hhigh : ¬ (0xd800 ≤ code ∧ code < 0xe000) := by omega
  match rest with
  | [] => simp [joinPieces, hhigh]
  | .character value :: others => simp [joinPieces, hhigh]
  | .code low :: others =>
      rw [joinPieces, if_neg (by omega), if_neg hhigh]

theorem joinPieces_of_means {found : List Piece} {characters : List Char}
    (hfound : List.Forall₂ Piece.Means found characters) :
    joinPieces alphabet found = characters := by
  induction hfound with
  | nil => rfl
  | cons hpiece _ ih =>
      cases hpiece with
      | character character => rw [joinPieces, ih]
      | code hcode => rw [joinPieces_code alphabet hcode, ih, Char.ofNat_toNat]

/-- A written text reads back as the text. -/
theorem readText_escapes (content : String) (rest : List Char) :
    readText alphabet (content.toList.flatMap (escape false) ++ '"' :: rest) =
      .ok (content, rest) := by
  obtain ⟨found, hfound, hpieces⟩ :=
    pieces_escapes ('"' :: (content.toList.flatMap (escape false) ++ '"' :: rest))
      content.toList rest
  rw [readText, hpieces]
  change Except.ok (String.ofList (joinPieces alphabet found), rest) = _
  rw [joinPieces_of_means alphabet hfound, String.ofList_toList]

end Json

end GridSource
