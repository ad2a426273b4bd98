import GridSource.Config.Settings
import GridSource.Logging.Hierarchy
import GridSource.Logging.Line

/-!
# Logging set up from settings

The section `crudstore.logging` names the level of the root and of any other
logger, and the format of the lines.  Applying it puts one output in the place
of those that were there and sets the levels it names, the root's first.
-/

namespace GridSource

/-- What the settings ask for: names of levels, as they are given but in upper
case, and a format. -/
structure LoggingChoice where
  rootLevel : String
  moduleLevels : List (Value × String)
  format : LineFormat

namespace LoggingChoice

def levelKey : String := "crudstore.logging.level"

def formatKey : String := "crudstore.logging.format"

def levelName (value : Value) : Except Misuse String := value.display.map upperCase

/-- A logger and the name of its level. -/
def moduleLevel (entry : Value × Value) : Except Misuse (Value × String) :=
  (levelName entry.2).map fun level => (entry.1, level)

def ofSettings (settings : Settings) (environment : Environment) :
    Except Misuse LoggingChoice := do
  let levels := settings.sectionAt levelKey
  let root ← levelName ((Members.named? levels LoggerName.root).getD (.text "INFO"))
  let others ← (Members.erase levels (.text LoggerName.root)).mapM moduleLevel
  let format ← (settings.get environment formatKey (.text LineFormat.console.name)).mapError
    Placeholder.Failure.misuse
  let shown ← format.display
  return { rootLevel := root, moduleLevels := others, format := LineFormat.ofSetting shown }

end LoggingChoice

/-- The levels of all loggers and the outputs of the root. -/
structure Logging where
  levels : LoggerLevels
  outputs : List LineFormat

namespace Logging

/-- Before anything is configured. -/
def initial : Logging := { levels := .initial, outputs := [] }

/-- The logger a value names: any value that counts as false names the root. -/
def loggerName (value : Value) : Except Misuse String :=
  match value with
  | .text name => .ok (LoggerName.canonical name)
  | value => if value.truthy then .error .wrongArgument else .ok LoggerName.root

def setLevel (logging : Logging) (name : Value) (level : String) : Except Misuse Logging := do
  let name ← loggerName name
  let level ← LogLevel.ofSetting level
  return { logging with levels := logging.levels.set name level }

/-- Sets levels in order until one is refused. -/
def setLevels (logging : Logging) : List (Value × String) → Logging × Except Misuse Unit
  | [] => (logging, .ok ())
  | (name, level) :: rest =>
      match logging.setLevel name level with
      | .ok next => next.setLevels rest
      | .error cause => (logging, .error cause)

def apply (choice : LoggingChoice) (logging : Logging) : Logging × Except Misuse Unit :=
  { logging with outputs := [choice.format] }.setLevels
    ((.text LoggerName.root, choice.rootLevel) :: choice.moduleLevels)

/-- Reads the settings and applies them; nothing changes if they cannot be read. -/
def configure (settings : Settings) (environment : Environment) (logging : Logging) :
    Logging × Except Misuse LoggingChoice :=
  match LoggingChoice.ofSettings settings environment with
  | .error cause => (logging, .error cause)
  | .ok choice =>
      let (next, outcome) := logging.apply choice
      (next, outcome.map fun _ => choice)

/-- The lines of a record: one for each output, if its logger lets it pass. -/
def write (logging : Logging) (time : String) (record : LogRecord) : List String :=
  if logging.levels.enables record.logger record.level then
    logging.outputs.filterMap fun format => format.write? record time
  else []

end Logging

end GridSource
