import GridSource.Cli.Command

/-!
# Arguments

The arguments of a command are read from left to right: options with their
values, and what is no option.  Two dashes end the options.  What the arguments
ask for is told apart from whether they are all needed.
-/

namespace GridSource.Cli

/-- The options that were given, in order, and the other arguments. -/
structure Given where
  options : List (String × String)
  others : List String
deriving Repr, DecidableEq, Inhabited

namespace Given

def addOption (given : Given) (name value : String) : Given :=
  { given with options := (name, value) :: given.options }

def addOther (given : Given) (argument : String) : Given :=
  { given with others := argument :: given.others }

def values (given : Given) (name : String) : List String :=
  given.options.filterMap fun option => if option.1 == name then some option.2 else none

def has (given : Given) (name : String) : Bool := given.options.any fun option => option.1 == name

end Given

/-- A single dash is an argument like any other. -/
def isOption (argument : String) : Bool :=
  argument.startsWith "-" && decide (1 < argument.length)

/-- An option and the value after its equals sign. -/
def splitOption (argument : String) : String × Option String :=
  let characters := argument.toList
  let name := characters.takeWhile (· != '=')
  match characters.drop name.length with
  | [] => (argument, none)
  | _ :: value => (String.ofList name, some (String.ofList value))

/-- An option nobody knows.  After one dash only the first letter is taken for
its name. -/
def unknownOption (form : CommandForm) (argument name : String) : UsageFault :=
  if argument.startsWith "--" then
    .unknownOption name (Similarity.suggestions name (form.options.map (·.name)))
  else .unknownOption (String.ofList (argument.toList.take 2)) []

/-- Reads the arguments of a command. -/
def Given.read (form : CommandForm) : List String → Except UsageFault Given
  | [] => .ok ⟨[], []⟩
  | argument :: rest =>
      if argument == "--" then .ok ⟨[], rest⟩
      else if isOption argument then
        let (name, attached) := splitOption argument
        match form.option? name with
        | none => .error (unknownOption form argument name)
        | some option =>
            match option.value, attached, rest with
            | some _, some value, rest => (Given.read form rest).map (·.addOption name value)
            | some _, none, value :: rest => (Given.read form rest).map (·.addOption name value)
            | some _, none, [] => .error (.needsArgument name)
            | none, some _, _ => .error (.takesNoValue name)
            | none, none, rest => (Given.read form rest).map (·.addOption name "")
      else if form.interspersed then (Given.read form rest).map (·.addOther argument)
      else .ok ⟨[], argument :: rest⟩

structure CompileArguments where
  source : String
  url : String
  joins : List String
  showsParameters : Bool
  extra : List String
deriving Repr, DecidableEq, Inhabited

/-- What a command line asks for. -/
inductive Invocation where
  | help (form : CommandForm)
  /-- Nothing is asked for, so the help is shown instead. -/
  | nothing
  | version
  | compile (arguments : CompileArguments)
  | operators (extra : List String)

/-- A fault and the command whose arguments have it. -/
abbrev MisusedCommand := CommandForm × UsageFault

namespace Invocation

/-- The source that stands for the standard input. -/
def standardSource : String := "-"

def ofCompile (given : Given) : Invocation :=
  if given.has CommandForm.helpOption.name then .help .compile
  else
    .compile
      { source := given.others.headD standardSource
        url := (given.values CommandForm.urlOption.name).getLastD ""
        joins := given.values CommandForm.joinOption.name
        showsParameters := given.has CommandForm.paramsOption.name
        extra := given.others.drop 1 }

def ofOperators (given : Given) : Invocation :=
  if given.has CommandForm.helpOption.name then .help .operators else .operators given.others

/-- The help or the version, whichever the program is asked for first. -/
def general? (given : Given) : Option Invocation :=
  match given.options with
  | [] => none
  | (name, _) :: _ =>
      some (if name == CommandForm.versionOption.name then .version else .help .program)

/-- A name that is no command; one that looks like an option is read as one. -/
def unknown (name : String) (rest : List String) : Except MisusedCommand Invocation :=
  let fault : MisusedCommand := (.program, .unknownCommand name)
  if name.startsWith "-" then
    match Given.read .program (name :: rest) with
    | .error optionFault => .error (.program, optionFault)
    | .ok given =>
        match general? given with
        | some invocation => .ok invocation
        | none => .error fault
  else .error fault

def ofCommand : List String → Except MisusedCommand Invocation
  | [] => .error (.program, .noCommand)
  | "compile" :: rest =>
      ((Given.read .compile rest).map ofCompile).mapError fun fault => (.compile, fault)
  | "operators" :: rest =>
      ((Given.read .operators rest).map ofOperators).mapError fun fault => (.operators, fault)
  | name :: rest => unknown name rest

def ofArguments (arguments : List String) : Except MisusedCommand Invocation :=
  if arguments.isEmpty then .ok .nothing
  else
    match Given.read .program arguments with
    | .error fault => .error (.program, fault)
    | .ok given =>
        match general? given with
        | some invocation => .ok invocation
        | none => ofCommand given.others

end Invocation

end GridSource.Cli
