import GridSource.Cli.Arguments
import GridSource.Cli.Markup
import GridSource.Cli.Table
import GridSource.Cli.Wrap
import GridSource.Config.Directory
import GridSource.Json.Reader
import GridSource.Query.Assembly
import GridSource.Text.LineBreak

/-!
# Running a command

A command line is run against the files it can read and the standard input.  It
prints a text or a table, or it is refused: with status 2 if it is called
wrongly, and with status 1 if the load options do not compile.
-/

namespace GridSource.Cli

/-- Why a command stops without a message of its own. -/
inductive Crash where
  | misuse (cause : Misuse)
  | markup (fault : Markup.Fault)

inductive Answer where
  | text (content : String)
  | table (table : Table)
  /-- The command is called wrongly. -/
  | misused (notice : String)
  /-- The load options do not compile. -/
  | refused (notice : String)
  | crashed (cause : Crash)

def Answer.status : Answer → Nat
  | .text _ | .table _ => 0
  | .misused _ => 2
  | .refused _ | .crashed _ => 1

/-- What is written to the standard output. -/
def Answer.output : Answer → String
  | .text content => content
  | .table content => content.draw
  | .misused _ | .refused _ | .crashed _ => ""

/-- What is written to the standard error. -/
def Answer.notice : Answer → String
  | .misused notice | .refused notice => notice
  | .text _ | .table _ | .crashed _ => ""

/-- The surroundings of a command: its files, its standard input, and the console,
which shows a text in its own way. -/
structure Surroundings where
  readFile : String → Except FileFault String
  standardInput : String
  alphabet : Alphabet := .unicode
  console : String → Except Markup.Fault String := Markup.shown

namespace Surroundings

/-- Surroundings whose files are those of a directory. -/
def ofDirectory (directory : Directory) (standardInput : String)
    (alphabet : Alphabet := .unicode) : Surroundings :=
  { standardInput
    alphabet
    readFile := fun source =>
      let path := FilePath.read source
      match directory.content? path with
      | some content => if source.endsWith "/" then .error .notDirectory else .ok content
      | none =>
          if source.isEmpty then .error .absent
          else if path.absolute then .error (if path.parts.isEmpty then .isDirectory else .absent)
          else if directory.hasInner path.parts then .error .isDirectory
          else if directory.any fun file => file.1.isPrefixOf path.parts then .error .notDirectory
          else .error .absent }

end Surroundings

/-- The columns of the console. -/
def consoleWidth : Nat := 80

def misused (form : CommandForm) (fault : UsageFault) : Answer := .misused (fault.notice form)

namespace Compile

/-- Reads load options from a document. -/
def readOptions (alphabet : Alphabet) (document : String) : Except Answer LoadOptions :=
  match Json.read (universalBreaks document.toList) alphabet with
  | .error problem =>
      if problem.fault = .tooManyDigits then .error (.crashed (.misuse (.unacceptable none)))
      else .error (misused .compile (.badSource ("invalid JSON: " ++ problem.message)))
  | .ok (.object members) => .ok (LoadOptions.ofMembers members)
  | .ok _ => .error (misused .compile (.badSource "load options must be a JSON object"))

def openSource (surroundings : Surroundings) (source : String) : Except Answer String :=
  if source == Invocation.standardSource then .ok surroundings.standardInput
  else
    (surroundings.readFile source).mapError fun fault =>
      misused .compile (.unreadable source fault)

def assembler (alphabet : Alphabet) (joins : List String) : Assembler :=
  { Assembler.default with join := .tuple (joins.map .text), alphabet }

/-- What is shown of load options that do not compile. -/
def failure (surroundings : Surroundings) (problem : CompileError) : Answer :=
  match problem.report? with
  | some report =>
      match surroundings.console ("[error]" ++ report.message ++ "[/error]") with
      | .ok shown => .refused (Wrap.wrap consoleWidth shown ++ "\n")
      | .error fault => .crashed (.markup fault)
  | none =>
      match problem with
      | .misuse cause => .crashed (.misuse cause)
      | _ => .crashed (.misuse .wrongArgument)

/-- The address of a resource with a query; either may be empty. -/
def address (url query : String) : String :=
  if url.isEmpty then query else if query.isEmpty then url else url ++ "?" ++ query

/-- The parameters of a query in a table, as the console shows them. -/
def parameterTable (surroundings : Surroundings) (query : String) :
    Except Markup.Fault Table := do
  let rows ← ((Form.decode? query).getD []).mapM fun (name, value) => do
    return [← surroundings.console name, ← surroundings.console value]
  return { title := none, header := ["Parameter", "Value"], rows }

/-- Writes a text to the standard output, which takes encoded texts only. -/
def write (alphabet : Alphabet) (content : String) : Answer :=
  if alphabet.encodes content then .text content else .crashed (.misuse .notEncodable)

def present (surroundings : Surroundings) (arguments : CompileArguments) (query : String) :
    Answer :=
  if arguments.showsParameters then
    match parameterTable surroundings query with
    | .ok table => .table table
    | .error fault => .crashed (.markup fault)
  else write surroundings.alphabet (address arguments.url query ++ "\n")

def run (surroundings : Surroundings) (arguments : CompileArguments) : Answer :=
  match (do
    let document ← openSource surroundings arguments.source
    if arguments.extra.isEmpty then readOptions surroundings.alphabet document
    else .error (misused .compile (.extraArguments arguments.extra))) with
  | .error answer => answer
  | .ok options =>
      match ((assembler surroundings.alphabet arguments.joins).query options).outcome with
      | .ok query => present surroundings arguments query
      | .error problem => failure surroundings problem

end Compile

/-- The operators and their tokens; a negated token that says less than the
complement is marked. -/
def operatorTable (table : OperatorTable) : Table :=
  { title := some "Filter operators"
    header := ["Operator", "Token", "Negated"]
    rows := table.pairs.map fun (name, pair) =>
      [name, pair.positive,
        pair.negated ++ if table.isLossy (.text name) true then " (approximate)" else ""] }

def Invocation.run (surroundings : Surroundings) : Invocation → Answer
  | .help form => .text form.help
  | .nothing => .misused CommandForm.program.help
  | .version => .text versionLine
  | .compile arguments => Compile.run surroundings arguments
  | .operators extra =>
      if extra.isEmpty then .table (operatorTable .search)
      else misused .operators (.extraArguments extra)

def run (surroundings : Surroundings) (arguments : List String) : Answer :=
  match Invocation.ofArguments arguments with
  | .ok invocation => invocation.run surroundings
  | .error (form, fault) => misused form fault

end GridSource.Cli
