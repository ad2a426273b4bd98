import GridSource.Value
import GridSource.Decimal.Integer
import GridSource.Decimal.Notation
import GridSource.Text.Quoted

/-!
# Displayed values

`Value.quoted` is the form in which a value appears inside another one or in a
report: texts stand between quotes.  `Value.display` differs from it only for a
text, which is shown as it is, and for a foreign value, whose label loses its
angle brackets.  Neither has a text for a value with an integer in it that has
more digits than an integer may have.
-/

namespace GridSource.Value

mutual

/-- Whether every integer in a value has a text. -/
def isPrintable : Value → Bool
  | .int number => hasText number
  | .list items | .tuple items => arePrintable items
  | .object members => membersPrintable members
  | _ => true

def arePrintable : List Value → Bool
  | [] => true
  | item :: rest => isPrintable item && arePrintable rest

def membersPrintable : List (Value × Value) → Bool
  | [] => true
  | (key, value) :: rest => isPrintable key && isPrintable value && membersPrintable rest

end

mutual

/-- The form of a value inside another one, however long its integers are. -/
def quotedForm : Value → String
  | .null => "None"
  | .bool true => "True"
  | .bool false => "False"
  | .int number => toString number
  | .float number => writeFloat .plain number
  | .text content => GridSource.quoted content
  | .list items => "[" ++ ", ".intercalate (quotedForms items) ++ "]"
  | .tuple [item] => "(" ++ quotedForm item ++ ",)"
  | .tuple items => "(" ++ ", ".intercalate (quotedForms items) ++ ")"
  | .object members => "\x7b" ++ ", ".intercalate (memberForms members) ++ "\x7d"
  | .foreign label => "<" ++ label ++ ">"

def quotedForms : List Value → List String
  | [] => []
  | item :: rest => quotedForm item :: quotedForms rest

def memberForms : List (Value × Value) → List String
  | [] => []
  | (key, value) :: rest => (quotedForm key ++ ": " ++ quotedForm value) :: memberForms rest

end

/-- The form of a value by itself, however long its integers are. -/
def plainForm : Value → String
  | .text content => content
  | .foreign label => label
  | value => value.quotedForm

/-- A form of a value, if every integer in it has a text. -/
def printed (value : Value) (form : String) : Except Misuse String :=
  if value.isPrintable then .ok form else .error tooManyDigits

def quoted (value : Value) : Except Misuse String := value.printed value.quotedForm

def display (value : Value) : Except Misuse String := value.printed value.plainForm

@[simp]
theorem display_text (content : String) : (text content).display = .ok content := rfl

@[simp]
theorem display_eq_ok_iff {value : Value} {shown : String} :
    value.display = .ok shown ↔ value.isPrintable = true ∧ value.plainForm = shown := by
  rw [display, printed]
  cases value.isPrintable <;> simp

@[simp]
theorem display_eq_error_iff {value : Value} {cause : Misuse} :
    value.display = .error cause ↔ value.isPrintable = false ∧ tooManyDigits = cause := by
  rw [display, printed]
  cases value.isPrintable <;> simp

@[simp]
theorem quoted_eq_error_iff {value : Value} {cause : Misuse} :
    value.quoted = .error cause ↔ value.isPrintable = false ∧ tooManyDigits = cause := by
  rw [quoted, printed]
  cases value.isPrintable <;> simp

end GridSource.Value
