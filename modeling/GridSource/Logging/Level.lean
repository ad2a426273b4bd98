import GridSource.Misuse
import GridSource.Text.UpperCase

/-!
# Log levels

A logger has a level of its own or none (`unset`).  A setting names a level in
any case; a text that names none asks for `info`.
-/

namespace GridSource

inductive LogLevel where
  | unset
  | debug
  | info
  | warning
  | error
  | critical
deriving Repr, DecidableEq, Inhabited

namespace LogLevel

def number : LogLevel → Nat
  | .unset => 0
  | .debug => 10
  | .info => 20
  | .warning => 30
  | .error => 40
  | .critical => 50

/-- The word for a level in a log line. -/
def keyword : LogLevel → String
  | .unset => "notset"
  | .debug => "debug"
  | .info => "info"
  | .warning => "warning"
  | .error => "error"
  | .critical => "critical"

/-- The standard names. -/
def ofName? : String → Option LogLevel
  | "NOTSET" => some .unset
  | "DEBUG" => some .debug
  | "INFO" => some .info
  | "WARN" | "WARNING" => some .warning
  | "ERROR" => some .error
  | "CRITICAL" | "FATAL" => some .critical
  | _ => none

/-- The level a setting asks for.  Two names belong to the layout of records and
are no levels, so that they are refused. -/
def ofSetting (content : String) : Except Misuse LogLevel :=
  match upperCase content with
  | "BASIC_FORMAT" => .error (.unacceptable none)
  | "_STYLES" => .error .wrongArgument
  | name => .ok ((ofName? name).getD .info)

end LogLevel

end GridSource
