import GridSource.Url.Form

/-!
# Directories

A directory is a list of files with their contents, each under a path of parts.
A path is read part by part from the directory: `.` and empty parts do not
count, and `..` leads back out of a directory that exists.
-/

namespace GridSource

/-- Files by their path from the directory. -/
abbrev Directory := List (List String × String)

/-- A path in normal form: absolute or not, and its parts. -/
structure FilePath where
  absolute : Bool
  parts : List String
deriving Repr, DecidableEq, Inhabited

namespace FilePath

def read (content : String) : FilePath :=
  { absolute := content.startsWith "/"
    parts := ((Form.splitAt '/' content.toList).map String.ofList).filter fun part =>
      part != "" && part != "." }

def write (path : FilePath) : String :=
  let joined := "/".intercalate path.parts
  if path.absolute then "/" ++ joined else if path.parts.isEmpty then "." else joined

/-- The last part. -/
def name (path : FilePath) : String := path.parts.getLastD ""

/-- The name of a file and its ending from the last dot on.  A dot at either end
of the name begins no ending. -/
def splitName (name : String) : String × String :=
  let characters := name.toList
  let after := (characters.reverse.takeWhile (· != '.')).length
  let before := characters.length - after - 1
  if after = 0 ∨ characters.length ≤ after + 1 then (name, "")
  else
    (String.ofList (characters.take before), String.ofList (characters.drop before))

def stem (path : FilePath) : String := (splitName path.name).1

def ending (path : FilePath) : String := (splitName path.name).2

/-- The file of another name beside this one. -/
def withName (path : FilePath) (name : String) : FilePath :=
  { path with parts := path.parts.dropLast ++ [name] }

end FilePath

namespace Directory

def ofFiles (files : List (String × String)) : Directory :=
  files.map fun (name, content) => ((FilePath.read name).parts, content)

/-- Whether a path leads to a directory that holds a file at some depth. -/
def hasInner (directory : Directory) (parts : List String) : Bool :=
  parts.isEmpty || directory.any fun file => parts.isPrefixOf file.1 && parts != file.1

/-- The parts without `..`; each of them must leave a directory that exists. -/
def resolve (directory : Directory) : List String → List String → Option (List String)
  | reached, [] => some reached
  | reached, part :: rest =>
      if part = ".." then
        if reached.isEmpty || !hasInner directory reached then none
        else resolve directory reached.dropLast rest
      else resolve directory (reached ++ [part]) rest

/-- The content of the file at a path. -/
def content? (directory : Directory) (path : FilePath) : Option String :=
  if path.absolute then none
  else
    match resolve directory [] path.parts with
    | some parts => List.lookup parts directory
    | none => none

end Directory

end GridSource
