import Mathlib.Data.List.Infix

/-!
# Delimited texts

A list of texts is joined by putting a delimiter between them, and taken apart again by
splitting at the occurrences of the delimiter, which are found from left to right.  Nothing is
escaped, so a text that contains the delimiter is cut in two, and so may be a text whose end
looks like the beginning of the delimiter.  The main result says exactly which lists are read
back as they were joined.
-/

namespace GridSource.Delimited

/-- The pieces between the occurrences of a delimiter.  The number counts the characters of the
last occurrence that are still to be passed over. -/
def piecesFrom (delimiter : List Char) : ℕ → List Char → List (List Char)
  | _, [] => [[]]
  | remaining + 1, _ :: rest => piecesFrom delimiter remaining rest
  | 0, character :: rest =>
      if delimiter <+: character :: rest then
        [] :: piecesFrom delimiter (delimiter.length - 1) rest
      else (piecesFrom delimiter 0 rest).modifyHead (character :: ·)

def pieces (delimiter : List Char) : List Char → List (List Char) := piecesFrom delimiter 0

def split (delimiter text : String) : List String :=
  (pieces delimiter.toList text.toList).map String.ofList

/-- Every text of the list ends where the delimiter after it begins: no occurrence of the
delimiter begins inside the text.  The last text has none after it, and an empty list cannot be
told from a list of one empty text. -/
def Separable (delimiter : List Char) : List (List Char) → Prop
  | [] => False
  | [last] => ¬ delimiter <:+: last
  | text :: next :: rest =>
      ¬ delimiter <:+: (text ++ delimiter).dropLast ∧ Separable delimiter (next :: rest)

instance decidableSeparable (delimiter : List Char) :
    (texts : List (List Char)) → Decidable (Separable delimiter texts)
  | [] => inferInstanceAs (Decidable False)
  | [last] => inferInstanceAs (Decidable (¬ delimiter <:+: last))
  | text :: next :: rest =>
      have := decidableSeparable delimiter (next :: rest)
      inferInstanceAs (Decidable
        (¬ delimiter <:+: (text ++ delimiter).dropLast ∧ Separable delimiter (next :: rest)))

variable {delimiter : List Char}

/-! ## One piece -/

theorem piecesFrom_eq (remaining : ℕ) (text : List Char) :
    piecesFrom delimiter remaining text = pieces delimiter (text.drop remaining) := by
  induction text generalizing remaining with
  | nil => cases remaining <;> simp [pieces, piecesFrom]
  | cons character rest ih =>
      cases remaining with
      | zero => rfl
      | succ remaining =>
          rw [piecesFrom, List.drop_succ_cons]
          exact ih remaining

theorem pieces_append_self (hdelimiter : delimiter ≠ []) (rest : List Char) :
    pieces delimiter (delimiter ++ rest) = [] :: pieces delimiter rest := by
  obtain ⟨first, others, rfl⟩ := List.exists_cons_of_ne_nil hdelimiter
  have hstarts : first :: others <+: first :: (others ++ rest) := List.prefix_append _ rest
  rw [List.cons_append, pieces, piecesFrom, if_pos hstarts, piecesFrom_eq, List.length_cons,
    Nat.add_sub_cancel, List.drop_left]
  rfl

theorem pieces_cons {character : Char} {rest : List Char}
    (hother : ¬ delimiter <+: character :: rest) :
    pieces delimiter (character :: rest) =
      (pieces delimiter rest).modifyHead (character :: ·) := by
  rw [pieces, piecesFrom, if_neg hother]

theorem pieces_eq_nil_cons {text : List Char} (hdelimiter : delimiter ≠ [])
    (htext : delimiter <+: text) : ∃ rest, pieces delimiter text = [] :: rest := by
  obtain ⟨rest, rfl⟩ := htext
  exact ⟨_, pieces_append_self hdelimiter rest⟩

theorem modifyHead_cons_eq_iff {character : Char} {found : List (List Char)} {text : List Char}
    {rest : List (List Char)} :
    found.modifyHead (character :: ·) = (character :: text) :: rest ↔ found = text :: rest := by
  cases found <;> simp

/-- A text is one piece if it does not contain the delimiter. -/
theorem pieces_eq_singleton_iff (hdelimiter : delimiter ≠ []) {text : List Char} :
    pieces delimiter text = [text] ↔ ¬ delimiter <:+: text := by
  induction text with
  | nil => simp [pieces, piecesFrom, hdelimiter]
  | cons character rest ih =>
      rw [List.infix_cons_iff, not_or]
      by_cases hstarts : delimiter <+: character :: rest
      · obtain ⟨others, hothers⟩ := pieces_eq_nil_cons hdelimiter hstarts
        simp [hothers, hstarts]
      · rw [pieces_cons hstarts, modifyHead_cons_eq_iff, ih]
        simp [hstarts]

/-- Up to the end of a text, the delimiter after it makes up for what follows. -/
theorem isPrefix_append_iff {text : List Char} (htext : text ≠ []) (rest : List Char) :
    delimiter <+: text ++ delimiter ++ rest ↔ delimiter <+: (text ++ delimiter).dropLast := by
  have hlonger : delimiter.length ≤ (text ++ delimiter).dropLast.length := by
    have hlength := List.length_pos_iff.mpr htext
    rw [List.length_dropLast, List.length_append]
    omega
  have hwhole : (text ++ delimiter).dropLast <+: text ++ delimiter ++ rest :=
    (List.dropLast_prefix _).trans (List.prefix_append _ _)
  exact ⟨fun hstarts => List.prefix_of_prefix_length_le hstarts hwhole hlonger,
    fun hstarts => hstarts.trans hwhole⟩

/-- A text before a delimiter is the first piece if no delimiter begins inside it. -/
theorem pieces_append_eq_cons_iff (hdelimiter : delimiter ≠ []) {text rest : List Char}
    {others : List (List Char)} :
    pieces delimiter (text ++ delimiter ++ rest) = text :: others ↔
      ¬ delimiter <:+: (text ++ delimiter).dropLast ∧ pieces delimiter rest = others := by
  induction text with
  | nil =>
      have hshorter : ¬ delimiter <:+: delimiter.dropLast := fun hinside => by
        have hlength := hinside.length_le
        have hpositive := List.length_pos_iff.mpr hdelimiter
        rw [List.length_dropLast] at hlength
        omega
      simp [pieces_append_self hdelimiter, hshorter]
  | cons character text ih =>
      have hinside : delimiter <:+: (character :: text ++ delimiter).dropLast ↔
          delimiter <+: character :: text ++ delimiter ++ rest ∨
            delimiter <:+: (text ++ delimiter).dropLast := by
        rw [isPrefix_append_iff (List.cons_ne_nil character text), List.cons_append,
          List.dropLast_cons_of_ne_nil (by simp [hdelimiter]), List.infix_cons_iff]
      rw [hinside, not_or, and_assoc]
      by_cases hstarts : delimiter <+: character :: text ++ delimiter ++ rest
      · obtain ⟨found, hpieces⟩ := pieces_eq_nil_cons hdelimiter hstarts
        rw [hpieces]
        exact iff_of_false (by rintro ⟨⟩) fun hnone => hnone.1 hstarts
      · have hpieces : pieces delimiter (character :: text ++ delimiter ++ rest) =
            (pieces delimiter (text ++ delimiter ++ rest)).modifyHead (character :: ·) :=
          pieces_cons hstarts
        rw [hpieces, modifyHead_cons_eq_iff, ih, and_iff_right hstarts]

/-! ## All pieces -/

theorem pieces_ne_nil (text : List Char) : pieces delimiter text ≠ [] := by
  induction text with
  | nil => simp [pieces, piecesFrom]
  | cons character rest ih =>
      rw [pieces, piecesFrom]
      split
      · exact List.cons_ne_nil _ _
      · simpa [pieces] using ih

theorem intercalate_modifyHead {found : List (List Char)} (hfound : found ≠ [])
    (character : Char) :
    delimiter.intercalate (found.modifyHead (character :: ·)) =
      character :: delimiter.intercalate found := by
  obtain ⟨first, others, rfl⟩ := List.exists_cons_of_ne_nil hfound
  cases others <;> simp

/-- Joining the pieces of a text gives the text. -/
theorem intercalate_pieces (hdelimiter : delimiter ≠ []) (text : List Char) :
    delimiter.intercalate (pieces delimiter text) = text := by
  induction hlength : text.length using Nat.strong_induction_on generalizing text with
  | _ length ih =>
    subst hlength
    cases text with
    | nil => simp [pieces, piecesFrom]
    | cons character rest =>
        by_cases hstarts : delimiter <+: character :: rest
        · obtain ⟨others, hothers⟩ := hstarts
          have hshorter : others.length < (character :: rest).length := by
            have hpositive := List.length_pos_iff.mpr hdelimiter
            rw [← hothers, List.length_append]
            omega
          have hsome : pieces delimiter others ≠ [] := pieces_ne_nil others
          obtain ⟨piece, found, hfound⟩ := List.exists_cons_of_ne_nil hsome
          have hrest := ih _ hshorter others rfl
          rw [hfound] at hrest
          rw [← hothers, pieces_append_self hdelimiter, hfound, List.intercalate_cons_cons, hrest,
            List.nil_append]
        · rw [pieces_cons hstarts, intercalate_modifyHead (pieces_ne_nil rest),
            ih rest.length (Nat.lt_succ_self _) rest rfl]

/-- Joined texts are read back exactly if they are separable. -/
theorem pieces_intercalate_iff (hdelimiter : delimiter ≠ []) (texts : List (List Char)) :
    pieces delimiter (delimiter.intercalate texts) = texts ↔ Separable delimiter texts := by
  induction texts with
  | nil => simp [pieces, piecesFrom, Separable]
  | cons text rest ih =>
      cases rest with
      | nil => rw [List.intercalate_singleton, Separable, pieces_eq_singleton_iff hdelimiter]
      | cons next others =>
          rw [List.intercalate_cons_cons, Separable, pieces_append_eq_cons_iff hdelimiter, ih]

theorem split_intercalate_iff {delimiter : String} (hdelimiter : delimiter ≠ "")
    (texts : List String) :
    split delimiter (delimiter.intercalate texts) = texts ↔
      Separable delimiter.toList (texts.map String.toList) := by
  have hsome : delimiter.toList ≠ [] := by simpa using hdelimiter
  rw [← pieces_intercalate_iff hsome, split, String.toList_intercalate]
  generalize pieces delimiter.toList _ = found
  constructor
  · rintro rfl
    simp
  · rintro rfl
    simp

theorem split_ne_nil (delimiter text : String) : split delimiter text ≠ [] := by
  simpa [split] using pieces_ne_nil text.toList

theorem intercalate_split {delimiter : String} (hdelimiter : delimiter ≠ "") (text : String) :
    delimiter.intercalate (split delimiter text) = text := by
  have hsome : delimiter.toList ≠ [] := by simpa using hdelimiter
  rw [← String.toList_inj, String.toList_intercalate, split, List.map_map]
  simpa using intercalate_pieces hsome text.toList

/-! ## Delimiters of one character -/

/-- With a delimiter of one character, the separable lists are those whose texts do not contain
it. -/
theorem separable_singleton_iff {character : Char} {texts : List (List Char)} :
    Separable [character] texts ↔ texts ≠ [] ∧ ∀ text ∈ texts, character ∉ text := by
  induction texts with
  | nil => simp [Separable]
  | cons text rest ih =>
      cases rest with
      | nil => simp [Separable, List.singleton_infix_iff]
      | cons next others =>
          rw [Separable, ih, List.dropLast_concat, List.singleton_infix_iff, List.forall_mem_cons]
          simp

end GridSource.Delimited
