import GridSource.Logging.Level

/-!
# Hierarchy of loggers

Loggers are named by dotted paths below one root logger.  A logger without a
level of its own takes that of the nearest logger above it that has one.
-/

namespace GridSource

namespace LoggerName

def root : String := "root"

/-- The empty name is the root's. -/
def canonical (name : String) : String := if name.isEmpty then root else name

/-- What stands before each dot of a reversed name, from the last dot to the
first.  The character before a dot belongs to the name above, so that it is no
dot itself. -/
def aboveReversed : List Char → List (List Char)
  | [] => []
  | '.' :: last :: others => (last :: others) :: aboveReversed others
  | _ :: others => aboveReversed others

/-- The names above a name, the nearest first, without the root. -/
def above (name : String) : List String :=
  (aboveReversed name.toList.reverse).map fun reversed => String.ofList reversed.reverse

end LoggerName

/-- The level of every logger's own. -/
abbrev LoggerLevels := String → LogLevel

namespace LoggerLevels

/-- Only the root has a level before anything is configured. -/
def initial : LoggerLevels := fun name => if name = LoggerName.root then .warning else .unset

def own (levels : LoggerLevels) (name : String) : LogLevel := levels (LoggerName.canonical name)

def set (levels : LoggerLevels) (name : String) (level : LogLevel) : LoggerLevels :=
  fun other => if other = LoggerName.canonical name then level else levels other

/-- The level that decides for a logger: its own or the nearest above it. -/
def effective (levels : LoggerLevels) (name : String) : LogLevel :=
  let path := LoggerName.canonical name :: (LoggerName.above name ++ [LoggerName.root])
  ((path.map levels).find? fun level => level ≠ .unset).getD .unset

def enables (levels : LoggerLevels) (name : String) (level : LogLevel) : Bool :=
  decide ((levels.effective name).number ≤ level.number)

end LoggerLevels

end GridSource
