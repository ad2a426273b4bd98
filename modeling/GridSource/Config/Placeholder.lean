import GridSource.Config.Environment
import GridSource.Config.Tree
import GridSource.Value.Display

/-!
# Placeholders

A text may hold placeholders: a dollar sign and a name between braces, with a
default after the first colon.  A placeholder stands for the environment
variable of its name, else for the configured value of that key, else for its
default.  Only configured values are resolved in turn, at most ten times over;
environment values and defaults stand as they are.
-/

namespace GridSource

namespace Placeholder

/-- A part of a text: a character that stands for itself, or what stands between
the braces of a placeholder. -/
inductive Segment where
  | character (value : Char)
  | placeholder (content : List Char)
deriving Repr, DecidableEq

def literal (characters : List Char) : List Segment := characters.map .character

def opening : List Char := ['$', '\x7b']

/-- The segments of a text.  The first argument holds what has been read of a
placeholder, last character first, while one is open.  Braces with nothing
between them, and braces that are never closed, stand for themselves. -/
def scan : Option (List Char) → List Char → List Segment
  | none, [] => []
  | some read, [] => literal (opening ++ read.reverse)
  | none, '$' :: '\x7b' :: rest => scan (some []) rest
  | none, character :: rest => .character character :: scan none rest
  | some [], '\x7d' :: rest => literal (opening ++ ['\x7d']) ++ scan none rest
  | some read, '\x7d' :: rest => .placeholder read.reverse :: scan none rest
  | some read, character :: rest => scan (some (character :: read)) rest

def segments (content : String) : List Segment := scan none content.toList

/-- Whether a text holds the start of a placeholder. -/
def marks : List Char → Bool
  | '$' :: '\x7b' :: _ => true
  | _ :: rest => marks rest
  | [] => false

def isMarked (content : String) : Bool := marks content.toList

/-- The name of a placeholder and its default. -/
def split (content : List Char) : String × Option String :=
  let name := content.takeWhile (· != ':')
  let after := content.dropWhile (· != ':')
  (String.ofList name, if after.isEmpty then none else some (String.ofList (after.drop 1)))

inductive Failure where
  | unresolved (content : String)
  | tooDeep (content : String)
  /-- A configured value has no text. -/
  | unwritable (cause : Misuse)
deriving Repr, DecidableEq

/-- The misuse that a failure is; the library words the first two itself. -/
def Failure.misuse : Failure → Misuse
  | .unresolved content =>
      .unacceptable (some ("Cannot resolve placeholder '$\x7b" ++ content ++ "\x7d'"))
  | .tooDeep content =>
      .unacceptable (some ("Placeholder recursion too deep in '" ++ content ++
        "'; check for circular references"))
  | .unwritable cause => cause

/-- Where names are looked up. -/
structure Source where
  tree : Value
  environment : Environment

/-- The configured value of a key; null counts as none. -/
def Source.configured? (source : Source) (key : String) : Option Value :=
  match Tree.lookup? source.tree key with
  | some .null | none => none
  | some value => some value

/-- The text of one segment, given how a configured text is resolved. -/
def Source.expand (source : Source) (resolve : String → Except Failure String) :
    Segment → Except Failure String
  | .character value => .ok (String.singleton value)
  | .placeholder content =>
      let (name, fallback) := split content
      match source.environment.lookup name with
      | some value => .ok value
      | none =>
          match source.configured? name with
          | some value => do
              let shown ← value.display.mapError .unwritable
              if isMarked shown then resolve shown else .ok shown
          | none =>
              match fallback with
              | some content => .ok content
              | none => .error (.unresolved (String.ofList content))

/-- How many times over a configured text may lead to another one. -/
def mostLevels : Nat := 11

/-- A text with its placeholders replaced, within a number of levels. -/
def Source.resolveWithin (source : Source) : Nat → String → Except Failure String
  | 0, content => .error (.tooDeep content)
  | levels + 1, content => do
      let parts ← (segments content).mapM (source.expand (source.resolveWithin levels))
      return String.join parts

def Source.resolve (source : Source) (content : String) : Except Failure String :=
  source.resolveWithin mostLevels content

end Placeholder

end GridSource
