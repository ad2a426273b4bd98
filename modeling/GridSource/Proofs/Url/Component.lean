import GridSource.Proofs.Url.Percent

/-!
# Components of an address

A component is written with letters, digits, nine marks and upper-case escapes, so it holds
nothing that separates the parts of an address.  Every text has a component that decodes to
it, in which only the characters that must be are escaped.
-/

namespace GridSource.Percent

def componentMarks : List Char := ['-', '_', '.', '!', '~', '*', '\'', '(', ')']

/-- The characters that stand for themselves in a component. -/
def IsComponentCharacter (character : Char) : Prop :=
  'A' ≤ character ∧ character ≤ 'Z' ∨ 'a' ≤ character ∧ character ≤ 'z' ∨
    '0' ≤ character ∧ character ≤ '9' ∨ character ∈ componentMarks

instance : DecidablePred IsComponentCharacter := fun _ => inferInstanceAs (Decidable (_ ∨ _))

theorem isAlphanum_iff (character : Char) :
    character.isAlphanum = true ↔
      ('A' ≤ character ∧ character ≤ 'Z' ∨ 'a' ≤ character ∧ character ≤ 'z') ∨
        '0' ≤ character ∧ character ≤ '9' := by
  have hupper : character.isUpper = true ↔ 'A' ≤ character ∧ character ≤ 'Z' :=
    decide_eq_true_iff
  have hlower : character.isLower = true ↔ 'a' ≤ character ∧ character ≤ 'z' :=
    Bool.and_eq_true_iff.trans (and_congr decide_eq_true_iff decide_eq_true_iff)
  have hdigit : character.isDigit = true ↔ '0' ≤ character ∧ character ≤ '9' :=
    Bool.and_eq_true_iff.trans (and_congr decide_eq_true_iff decide_eq_true_iff)
  have hsplit : character.isAlphanum =
      (character.isUpper || character.isLower || character.isDigit) := rfl
  rw [hsplit, Bool.or_eq_true, Bool.or_eq_true, hupper, hlower, hdigit]

def escapeDigits : List Char :=
  ['0', '1', '2', '3', '4', '5', '6', '7', '8', '9', 'A', 'B', 'C', 'D', 'E', 'F']

/-- The escape of a byte. -/
def escape (byte : UInt8) : List Char :=
  ['%', escapeDigits.getD (byte.toNat / 16) '0', escapeDigits.getD (byte.toNat % 16) '0']

/-- The component of a text: one escape for each byte of a character that cannot stand for
itself. -/
def component (content : String) : String :=
  String.ofList (content.toList.flatMap fun character =>
    if IsComponentCharacter character then [character]
    else (String.utf8EncodeChar character).flatMap escape)

/-- How a component is written. -/
inductive IsComponent : List Char → Prop where
  | nil : IsComponent []
  | plain {character : Char} {rest : List Char} (hcharacter : IsComponentCharacter character)
      (hrest : IsComponent rest) : IsComponent (character :: rest)
  | escaped {high low : Char} {rest : List Char} (hhigh : high ∈ escapeDigits)
      (hlow : low ∈ escapeDigits) (hrest : IsComponent rest) :
      IsComponent ('%' :: high :: low :: rest)

theorem encodeByte_eq_escape (byte : UInt8) : encodeByte byte = escape byte := by
  have hdigit : ∀ value < 16, upperHexDigit value = escapeDigits.getD value '0' := by decide
  have hbyte : byte.toNat < 256 := byte.toNat_lt
  rw [encodeByte, escape, hdigit _ (by omega), hdigit _ (by omega)]

/-- Percent encoding whose safe characters are those of a component. -/
theorem encode_eq_component {safe : Char → Bool}
    (hsafe : ∀ character, safe character = true ↔ IsComponentCharacter character)
    (content : String) : encode safe content = component content := by
  have hcharacter : ∀ character, encodeChar safe character =
      if IsComponentCharacter character then [character]
      else (String.utf8EncodeChar character).flatMap escape := by
    intro character
    rw [encodeChar, toList_toUTF8_singleton, ← funext encodeByte_eq_escape]
    exact if_congr (hsafe character) rfl rfl
  rw [encode, component, funext hcharacter]

@[simp]
theorem decode?_component (content : String) : decode? (component content) = some content := by
  have hencode : encode (fun character => decide (IsComponentCharacter character)) content =
      component content := encode_eq_component (fun character => decide_eq_true_iff) content
  rw [← hencode]
  exact decode?_encode (by decide) content

theorem component_injective : Function.Injective component := by
  intro left right heq
  have hleft := decode?_component left
  rw [heq, decode?_component] at hleft
  exact (Option.some.inj hleft).symm

namespace IsComponent

theorem append {first second : List Char} (hfirst : IsComponent first)
    (hsecond : IsComponent second) : IsComponent (first ++ second) := by
  induction hfirst with
  | nil => exact hsecond
  | plain hcharacter _ ih => exact .plain hcharacter ih
  | escaped hhigh hlow _ ih => exact .escaped hhigh hlow ih

theorem flatMap_escape (bytes : List UInt8) : IsComponent (bytes.flatMap escape) := by
  have hdigit : ∀ value < 16, escapeDigits.getD value '0' ∈ escapeDigits := by decide
  induction bytes with
  | nil => exact .nil
  | cons byte bytes ih =>
      have hbyte : byte.toNat < 256 := byte.toNat_lt
      exact .escaped (hdigit _ (by omega)) (hdigit _ (by omega)) ih

/-- The characters of a component. -/
theorem forall_mem {characters : List Char} (hcomponent : IsComponent characters) :
    ∀ character ∈ characters, IsComponentCharacter character ∨ character = '%' := by
  have hdigits : ∀ digit ∈ escapeDigits, IsComponentCharacter digit :=
    List.forall_iff_forall_mem.mp (by decide)
  induction hcomponent with
  | nil => simp
  | plain hcharacter _ ih => simpa [hcharacter] using ih
  | escaped hhigh hlow _ ih => simpa [hdigits _ hhigh, hdigits _ hlow] using ih

/-- Nothing that separates the parts of an address occurs in a component. -/
theorem not_mem {characters : List Char} (hcomponent : IsComponent characters) {other : Char}
    (hother : ¬ IsComponentCharacter other) (hpercent : other ≠ '%') : other ∉ characters :=
  fun hmem => (hcomponent.forall_mem other hmem).elim hother hpercent

end IsComponent

theorem isComponent_component (content : String) : IsComponent (component content).toList := by
  rw [component, String.toList_ofList]
  induction content.toList with
  | nil => exact .nil
  | cons character rest ih =>
      rw [List.flatMap_cons]
      split
      · next hcharacter => exact .plain hcharacter ih
      · exact (IsComponent.flatMap_escape _).append ih

end GridSource.Percent
