import GridSource.Config.Placeholder
import GridSource.Text.UpperCase

/-!
# Settings

Settings answer a dotted key with the first of three: the environment variable
that overrides the key, the configured value, the default of the caller.  A
configured text has its placeholders replaced.
-/

namespace GridSource

structure Settings where
  tree : Value
  sources : List String

namespace Settings

/-- Settings from a tree; anything that counts as false is the empty tree. -/
def ofValue (tree : Value) : Settings :=
  { tree := if tree.truthy then tree else .object [], sources := [] }

/-- The part of a key that every key of the library begins with. -/
def libraryRoot : String := "crudstore."

def withoutRoot (key : String) : String :=
  if key.startsWith libraryRoot then String.ofList (key.toList.drop libraryRoot.length) else key

/-- The environment variable that overrides a key. -/
def variableName (key : String) : String :=
  "CRUDSTORE_" ++ String.ofList ((upperCase (withoutRoot key)).toList.map fun character =>
    if character = '.' ∨ character = '-' then '_' else character)

def source (settings : Settings) (environment : Environment) : Placeholder.Source :=
  { tree := settings.tree, environment }

/-- The configured value of a key, placeholders replaced. -/
def configured? (settings : Settings) (environment : Environment) (key : String) :
    Except Placeholder.Failure (Option Value) :=
  let source := settings.source environment
  match source.configured? key with
  | some (.text content) =>
      if Placeholder.isMarked content then
        (source.resolve content).map fun resolved => some (.text resolved)
      else .ok (some (.text content))
  | value => .ok value

/-- The value of a key: from the environment, else configured. -/
def get? (settings : Settings) (environment : Environment) (key : String) :
    Except Placeholder.Failure (Option Value) :=
  match environment.lookup (variableName key) with
  | some value => .ok (some (.text value))
  | none => settings.configured? environment key

def get (settings : Settings) (environment : Environment) (key : String) (fallback : Value) :
    Except Placeholder.Failure Value :=
  (settings.get? environment key).map (·.getD fallback)

def sectionAt (settings : Settings) (key : String) : Members :=
  Tree.sectionAt settings.tree key

end Settings

end GridSource
