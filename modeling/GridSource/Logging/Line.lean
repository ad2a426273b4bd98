import GridSource.Logging.Level
import GridSource.Json.Writer
import GridSource.Value.Display
import GridSource.Value.Members

/-!
# Log lines

A record becomes one line in one of three formats.  The JSON and the `logfmt`
line hold the fields of the record and after them its event, logger, level and
time; a field of one of these names keeps its place and loses its value.  The
console line begins with time, level, event and logger and ends with the other
fields by name.
-/

namespace GridSource

structure LogRecord where
  logger : String
  level : LogLevel
  /-- What happened; null if the record only has fields. -/
  event : Value
  fields : List (String × Value)

inductive LineFormat where
  | console
  | json
  | logfmt
deriving Repr, DecidableEq, Inhabited

namespace LogRecord

/-- Names that no field can have. -/
def reservedFields : List String := ["self", "event", "method_name"]

def create (logger : String) (level : LogLevel) (event : Value) (fields : List (String × Value)) :
    Except Misuse LogRecord :=
  if fields.any fun field => reservedFields.contains field.1 then .error .wrongArgument
  else .ok { logger, level, event, fields }

/-- Whether all values of a record have texts. -/
def isPrintable (record : LogRecord) : Bool :=
  record.event.isPrintable && record.fields.all fun field => field.2.isPrintable

/-- A record without fields. -/
def message (logger : String) (level : LogLevel) (content : String) : LogRecord :=
  { logger, level, event := .text content, fields := [] }

/-- Replaces the value of a present name or appends a new one. -/
def put : List (String × Value) → String → Value → List (String × Value)
  | [], name, value => [(name, value)]
  | (present, old) :: rest, name, value =>
      if present = name then (name, value) :: rest else (present, old) :: put rest name value

/-- All that a line shows of a record. -/
def entries (record : LogRecord) (time : String) : List (String × Value) :=
  let told := if record.event.isNull then record.fields else put record.fields "event" record.event
  let placed := put told "logger" (.text record.logger)
  let graded := put placed "level" (.text record.level.keyword)
  put graded "timestamp" (.text time)

end LogRecord

namespace LogLine

/-! ## Logfmt -/

def isDelimiting (character : Char) : Bool := [' ', '=', '"'].contains character

/-- A quoted text escapes its backslashes; line ends are escaped in every text. -/
def escapeWord (isQuoted : Bool) (character : Char) : List Char :=
  if character = '"' then ['\\', '"']
  else if character = '\n' then ['\\', 'n']
  else if character = '\\' && isQuoted then ['\\', '\\']
  else [character]

/-- A text stands between quotes if a blank, an equals sign or a quote is in it. -/
def writeWord (content : String) : String :=
  let characters := content.toList
  let isQuoted := characters.any isDelimiting
  let escaped := String.ofList (characters.flatMap (escapeWord isQuoted))
  if isQuoted then "\"" ++ escaped ++ "\"" else escaped

/-- Null is written as nothing, and true by the name alone. -/
def writePair (name : String) : Value → String
  | .null => name ++ "="
  | .bool true => name
  | .bool false => name ++ "=false"
  | value => name ++ "=" ++ writeWord value.plainForm

def isPlainName (name : String) : Bool := name.toList.all fun character => decide (' ' < character)

/-- There is no line if a name holds a blank or a control character. -/
def writePairs? (entries : List (String × Value)) : Option String :=
  if entries.all fun entry => isPlainName entry.1 then
    some (" ".intercalate (entries.map fun (name, value) => writePair name value))
  else none

/-! ## Console -/

def padded (width : Nat) (content : String) : String :=
  content ++ String.ofList (List.replicate (width - content.length) ' ')

def levelWidth : Nat := 9

def eventWidth : Nat := 30

def isBreaking (character : Char) : Bool :=
  [' ', '\t', '=', '\r', '\n', '"', '\''].contains character

/-- A text is shown plain unless it would not be read as one word. -/
def showValue : Value → String
  | .text content => if content.toList.any isBreaking then quoted content else content
  | value => value.quotedForm

def leadingNames : List String := ["timestamp", "level", "event", "logger"]

/-- The other fields by name. -/
def trailing (entries : List (String × Value)) : List (String × Value) :=
  (entries.filter fun entry => !leadingNames.contains entry.1).mergeSort
    fun left right => decide (left.1 ≤ right.1)

def trimRight (content : String) : String :=
  String.ofList ((content.toList.reverse.dropWhile (· == ' ')).reverse)

def writeConsole (record : LogRecord) (time : String) : String :=
  let event := if record.event.isNull then [] else [padded eventWidth record.event.plainForm]
  let leading := [time, "[" ++ padded levelWidth record.level.keyword ++ "]"] ++ event ++
    ["[" ++ record.logger ++ "]"]
  let fields := (trailing record.fields).map fun (name, value) => name ++ "=" ++ showValue value
  trimRight (" ".intercalate (leading ++ fields))

end LogLine

namespace LineFormat

def name : LineFormat → String
  | .console => "console"
  | .json => "json"
  | .logfmt => "logfmt"

/-- The format a setting names in any case; anything else asks for the console. -/
def ofSetting (content : String) : LineFormat :=
  match content.toLower with
  | "json" => .json
  | "logfmt" => .logfmt
  | _ => .console

/-- The line of a record, if it has one. -/
def write? (format : LineFormat) (record : LogRecord) (time : String) : Option String :=
  if record.isPrintable then
    match format with
    | .console => some (LogLine.writeConsole record time)
    | .json => (Json.write .logLine (.record (record.entries time))).toOption
    | .logfmt => LogLine.writePairs? (record.entries time)
  else none

end LineFormat

end GridSource
