import GridSource.Text.Quoted
import GridSource.Text.Similarity

/-!
# Commands

What the command line offers: the program itself and its two commands, each with
its options, and the texts that say how to call them.
-/

namespace GridSource.Cli

structure CommandOption where
  name : String
  /-- The word for its value; a flag has none. -/
  value : Option String
  description : String

def CommandOption.term (option : CommandOption) : String :=
  match option.value with
  | some word => option.name ++ " " ++ word
  | none => option.name

/-- How a command is called, and what its help says. -/
structure CommandForm where
  path : String
  arguments : String
  summary : String
  options : List CommandOption
  /-- The commands below it, each with a line about it. -/
  commands : List (String × String)
  /-- Whether options may stand after other arguments. -/
  interspersed : Bool

namespace CommandForm

def helpOption : CommandOption := ⟨"--help", none, "Show this message and exit."⟩

def versionOption : CommandOption := ⟨"--version", none, "Show the version and exit."⟩

def urlOption : CommandOption := ⟨"--url", some "TEXT", "Resource URL to prefix the query with."⟩

def joinOption : CommandOption := ⟨"--join", some "TEXT", "Relation to join (repeatable)."⟩

def paramsOption : CommandOption :=
  ⟨"--params", none, "Print decoded parameters instead of the query string."⟩

def program : CommandForm :=
  { path := "crudstore", arguments := "[OPTIONS] COMMAND [ARGS]..."
    summary := "crudstore — grid load options to REST query strings."
    options := [versionOption, helpOption]
    commands :=
      [ ("compile", "Compile load options (JSON, from SOURCE or stdin) to a query..."),
        ("operators", "Show the filter operator table.") ]
    interspersed := false }

def compile : CommandForm :=
  { path := "crudstore compile", arguments := "[OPTIONS] [SOURCE]"
    summary := "Compile load options (JSON, from SOURCE or stdin) to a query string."
    options := [urlOption, joinOption, paramsOption, helpOption]
    commands := [], interspersed := true }

def operators : CommandForm :=
  { path := "crudstore operators", arguments := "[OPTIONS]"
    summary := "Show the filter operator table."
    options := [helpOption], commands := [], interspersed := true }

def option? (form : CommandForm) (name : String) : Option CommandOption :=
  form.options.find? fun option => option.name == name

def usage (form : CommandForm) : String :=
  "Usage: " ++ form.path ++ " " ++ form.arguments ++ "\n"

/-- Terms and descriptions in two columns. -/
def rows (entries : List (String × String)) : String :=
  let width := entries.foldl (fun widest entry => max widest entry.1.length) 0
  String.join (entries.map fun (term, description) =>
    "  " ++ term ++ String.ofList (List.replicate (width + 2 - term.length) ' ') ++ description ++
      "\n")

def help (form : CommandForm) : String :=
  let commands := if form.commands.isEmpty then "" else "\nCommands:\n" ++ rows form.commands
  form.usage ++ "\n  " ++ form.summary ++ "\n\nOptions:\n" ++
    rows (form.options.map fun option => (option.term, option.description)) ++ commands

end CommandForm

def version : String := "0.1.0"

def versionLine : String := CommandForm.program.path ++ ", version " ++ version ++ "\n"

/-- Why a file cannot be read. -/
inductive FileFault where
  | absent
  | isDirectory
  | notDirectory
deriving Repr, DecidableEq, Inhabited

def FileFault.message : FileFault → String
  | .absent => "No such file or directory"
  | .isDirectory => "Is a directory"
  | .notDirectory => "Not a directory"

inductive UsageFault where
  | noCommand
  | unknownCommand (name : String)
  | unknownOption (name : String) (similar : List String)
  | needsArgument (option : String)
  | takesNoValue (option : String)
  | extraArguments (arguments : List String)
  | unreadable (source : String) (fault : FileFault)
  /-- The source holds no load options; the text says why. -/
  | badSource (reason : String)
deriving Repr, DecidableEq, Inhabited

namespace UsageFault

def suggestion : List String → String
  | [] => ""
  | [name] => " Did you mean " ++ name ++ "?"
  | names => " (Possible options: " ++ ", ".intercalate names ++ ")"

def message : UsageFault → String
  | .noCommand => "Missing command."
  | .unknownCommand name => "No such command " ++ quoted name ++ "."
  | .unknownOption name similar => "No such option: " ++ name ++ suggestion similar
  | .needsArgument option => "Option " ++ quoted option ++ " requires an argument."
  | .takesNoValue option => "Option " ++ quoted option ++ " does not take a value."
  | .extraArguments [single] => "Got unexpected extra argument (" ++ single ++ ")"
  | .extraArguments arguments =>
      "Got unexpected extra arguments (" ++ " ".intercalate arguments ++ ")"
  | .unreadable source fault =>
      "Invalid value for '[SOURCE]': '" ++ source ++ "': " ++ fault.message
  | .badSource reason => "Invalid value for SOURCE: " ++ reason

/-- A fault in the value of an option is told without the usage of the command. -/
def tellsUsage : UsageFault → Bool
  | .needsArgument _ | .takesNoValue _ => false
  | _ => true

/-- What is shown of a fault in calling a command. -/
def notice (form : CommandForm) (fault : UsageFault) : String :=
  let usage :=
    if fault.tellsUsage then
      form.usage ++ "Try '" ++ form.path ++ " --help' for help.\n\n"
    else ""
  usage ++ "Error: " ++ fault.message ++ "\n"

end UsageFault

end GridSource.Cli
