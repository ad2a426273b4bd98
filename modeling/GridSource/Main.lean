import GridSource.Cli.Run

/-!
# The command line program

Reads the source a command asks for, runs the command and writes what it
answers.
-/

open GridSource

namespace GridSource.Cli

/-- The source a command line reads, if it reads one. -/
def sourceOf (arguments : List String) : Option String :=
  match Invocation.ofArguments arguments with
  | .ok (.compile given) => some given.source
  | _ => none

def fileFaultOf : IO.Error → FileFault
  | .inappropriateType .. => .isDirectory
  | _ => .absent

/-- The surroundings in which one source has been read. -/
def surroundingsOf (arguments : List String) : IO Surroundings := do
  match sourceOf arguments with
  | none => return { standardInput := "", readFile := fun _ => .error .absent }
  | some source =>
      if source == Invocation.standardSource then
        let content ← (← IO.getStdin).readToEnd
        return { standardInput := content, readFile := fun _ => .error .absent }
      else
        let outcome ← (IO.FS.readFile source).toBaseIO
        let content := outcome.mapError fileFaultOf
        return { standardInput := "", readFile := fun _ => content }

end GridSource.Cli

def main (arguments : List String) : IO UInt32 := do
  let answer := Cli.run (← Cli.surroundingsOf arguments) arguments
  (← IO.getStdout).putStr answer.output
  (← IO.getStderr).putStr answer.notice
  return answer.status.toUInt32
