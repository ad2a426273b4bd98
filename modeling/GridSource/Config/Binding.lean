import GridSource.Config.Settings
import GridSource.Decimal.Numeral

/-!
# Binding settings

A schema names the settings of a section and the kind of each.  Binding looks
every setting up and reads a text as a value of the kind it is meant to have; a
value that is no text is taken as it is.
-/

namespace GridSource

inductive SettingKind where
  | integer
  | decimal
  | flag
  | other
deriving Repr, DecidableEq

structure SettingField where
  name : String
  kind : SettingKind
  /-- The value when nothing is configured; a field without one is required. -/
  fallback : Option Value

structure Schema where
  name : String
  /-- The section of the settings; a schema without one cannot be bound. -/
  root : Option String
  fields : List SettingField

namespace Schema

/-- The texts that mean yes. -/
def yesWords : List String := ["true", "1", "yes"]

def coerceText (kind : SettingKind) (content : String) : Except Misuse Value :=
  match kind with
  | .integer => (Numeral.integer? content).map .int
  | .decimal => (Numeral.float? content).map .float
  | .flag => .ok (.bool (yesWords.contains content.toLower))
  | .other => .ok (.text content)

def coerce (kind : SettingKind) : Value → Except Misuse Value
  | .text content => coerceText kind content
  | value => .ok value

/-- The value of a field, if anything is configured for it. -/
def fieldValue (settings : Settings) (environment : Environment) (root : String)
    (field : SettingField) : Except Misuse (Option Value) := do
  let found ← (settings.get? environment (root ++ "." ++ field.name)).mapError
    Placeholder.Failure.misuse
  match found with
  | some value => (coerce field.kind value).map some
  | none => return Members.named? (settings.sectionAt root) field.name

def withFallback (field : SettingField) (value : Option Value) : Except Misuse (String × Value) :=
  match value <|> field.fallback with
  | some chosen => .ok (field.name, chosen)
  | none => .error .wrongArgument

/-- The fields of a schema with their values. -/
def bind (schema : Schema) (settings : Settings) (environment : Environment) :
    Except Misuse (List (String × Value)) :=
  match schema.root with
  | none =>
      .error (.unacceptable (some (schema.name ++ " is not decorated with @config_properties")))
  | some root => do
      let found ← schema.fields.mapM (fieldValue settings environment root)
      (schema.fields.zip found).mapM fun (field, value) => withFallback field value

end Schema

end GridSource
