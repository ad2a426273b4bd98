import GridSource.Toml.Scalar
import GridSource.Value.Members

/-!
# Documents

A document is a list of statements: a key with its value, the header of a table
or the header of an element of a list of tables.  A table is declared once, a
value is never replaced, and what is written as an inline table or a list is
closed to later statements.
-/

namespace GridSource.Toml

abbrev Path := List String

/-! ## Nests -/

/-- Changes the table at a path.  Missing tables are created, and a list of
tables stands for its last one. -/
def updateAt (throughLists : Bool) (change : Members → Except Fault Members) :
    Path → Members → Except Fault Members
  | [], table => change table
  | part :: rest, table =>
      match Members.named? table part with
      | none => do
          return Members.insert table (.text part)
            (.object (← updateAt throughLists change rest []))
      | some (.object inner) => do
          return Members.insert table (.text part)
            (.object (← updateAt throughLists change rest inner))
      | some (.list items) =>
          match items.getLast? with
          | some (.object inner) =>
              if throughLists then do
                let changed ← updateAt throughLists change rest inner
                return Members.insert table (.text part)
                  (.list (items.dropLast ++ [.object changed]))
              else malformed "cannot overwrite a value"
          | _ => malformed "cannot overwrite a value"
      | some _ => malformed "cannot overwrite a value"

def insertNew (name : String) (value : Value) (table : Members) : Except Fault Members :=
  if (Members.named? table name).isSome then malformed "cannot overwrite a value"
  else .ok (Members.insert table (.text name) value)

/-- One more table at the end of a list of tables. -/
def appendTable (name : String) (table : Members) : Except Fault Members :=
  match Members.named? table name with
  | none => .ok (Members.insert table (.text name) (.list [.object []]))
  | some (.list items) =>
      .ok (Members.insert table (.text name) (.list (items ++ [.object []])))
  | some _ => malformed "cannot overwrite a value"

/-! ## Marks -/

inductive MarkKind where
  /-- The table has a header, or is the inside of a dotted key. -/
  | declared
  /-- Everything at and below the path is closed. -/
  | closed
deriving Repr, DecidableEq

structure Mark where
  path : Path
  kind : MarkKind
deriving Repr, DecidableEq

def isDeclared (marks : List Mark) (path : Path) : Bool := marks.contains ⟨path, .declared⟩

def isClosed (marks : List Mark) (path : Path) : Bool :=
  !path.isEmpty &&
    marks.any fun mark => mark.kind == .closed && mark.path.isPrefixOf path

/-- Forgets every mark at and below a path. -/
def clearBelow (marks : List Mark) (path : Path) : List Mark :=
  marks.filter fun mark => !path.isPrefixOf mark.path

def isCollection : Value → Bool
  | .object _ | .list _ => true
  | _ => false

/-! ## Values -/

mutual

def value : Nat → List Char → Except Fault (Value × List Char)
  | 0, _ => malformed "the document is nested too deeply"
  | fuel + 1, characters =>
      match characters with
      | '[' :: rest => do
          let start ← skipFiller rest.length rest
          match start with
          | ']' :: after => return (.list [], after)
          | _ =>
              let (items, after) ← listItems fuel start
              return (.list items, after)
      | '\x7b' :: rest =>
          match skipBlanks rest with
          | '\x7d' :: after => .ok (.object [], after)
          | start => inlineMembers fuel [] [] start
      | _ =>
          match text? characters with
          | some found => do
              let (content, after) ← found
              return (.text (String.ofList content), after)
          | none => bareScalar characters

def listItems : Nat → List Char → Except Fault (List Value × List Char)
  | 0, _ => malformed "the document is nested too deeply"
  | fuel + 1, characters => do
      let (item, afterItem) ← value fuel characters
      match ← skipFiller afterItem.length afterItem with
      | ']' :: rest => return ([item], rest)
      | ',' :: rest =>
          match ← skipFiller rest.length rest with
          | ']' :: after => return ([item], after)
          | start =>
              let (others, last) ← listItems fuel start
              return (item :: others, last)
      | _ => malformed "unclosed list"

def keyAndValue : Nat → List Char → Except Fault (Path × Value × List Char)
  | 0, _ => malformed "the document is nested too deeply"
  | fuel + 1, characters => do
      let (path, afterKey) ← key characters.length characters
      match afterKey with
      | '=' :: rest =>
          let (found, after) ← value fuel (skipBlanks rest)
          return (path, found, after)
      | _ => malformed "expected '=' after a key"

def inlineMembers : Nat → Members → List Mark → List Char → Except Fault (Value × List Char)
  | 0, _, _, _ => malformed "the document is nested too deeply"
  | fuel + 1, table, marks, characters => do
      let (path, found, afterValue) ← keyAndValue fuel characters
      if isClosed marks path then malformed "cannot mutate an inline table"
      else
        let changed ← updateAt false (insertNew (path.getLastD "") found) path.dropLast table
        let closed := if isCollection found then ⟨path, .closed⟩ :: marks else marks
        match skipBlanks afterValue with
        | '\x7d' :: rest => return (.object changed, rest)
        | ',' :: rest => inlineMembers fuel changed closed (skipBlanks rest)
        | _ => malformed "unclosed inline table"

end

/-! ## Statements -/

structure State where
  tree : Members
  marks : List Mark
  /-- The insides of dotted keys, declared as soon as the next header comes. -/
  pending : List Mark
  /-- The table that keys belong to. -/
  header : Path

def State.start : State := { tree := [], marks := [], pending := [], header := [] }

/-- The insides of a dotted key. -/
def insides (header path : Path) : List Path :=
  (List.range path.length).tail.map fun count => header ++ path.take count

def keyStatement (state : State) (characters : List Char) : Except Fault (State × List Char) := do
  let (path, found, rest) ← keyAndValue (characters.length + 1) characters
  let inner := insides state.header path
  let parent := state.header ++ path.dropLast
  if inner.any (isDeclared state.marks) then malformed "cannot redefine a namespace"
  else if isClosed state.marks parent then malformed "cannot mutate an immutable namespace"
  else
    let tree ← updateAt true (insertNew (path.getLastD "") found) parent state.tree
    let marks :=
      if isCollection found then ⟨state.header ++ path, .closed⟩ :: state.marks else state.marks
    let pending := inner.map (⟨·, .declared⟩) ++ state.pending
    return ({ state with tree, marks, pending }, rest)

def finalize (state : State) : State :=
  { state with marks := state.pending ++ state.marks, pending := [] }

def tableHeader (state : State) (characters : List Char) : Except Fault (State × List Char) := do
  let (path, rest) ← key characters.length (skipBlanks characters)
  if isDeclared state.marks path || isClosed state.marks path then
    malformed "cannot declare a table twice"
  else
    let tree ← updateAt true .ok path state.tree
    match rest with
    | ']' :: after =>
        return ({ state with
          tree, marks := ⟨path, .declared⟩ :: state.marks, header := path }, after)
    | _ => malformed "expected ']' at the end of a header"

def listHeader (state : State) (characters : List Char) : Except Fault (State × List Char) := do
  let (path, rest) ← key characters.length (skipBlanks characters)
  if isClosed state.marks path then malformed "cannot mutate an immutable namespace"
  else
    let tree ← updateAt true (appendTable (path.getLastD "")) path.dropLast state.tree
    match rest with
    | ']' :: ']' :: after =>
        return ({ state with
          tree, marks := ⟨path, .declared⟩ :: clearBelow state.marks path, header := path }, after)
    | _ => malformed "expected ']]' at the end of a header"

def isKeyStart (character : Char) : Bool :=
  isBareKey character || character == '"' || character == '\''

/-- One statement, if the line holds any. -/
def statement (state : State) (characters : List Char) : Except Fault (State × List Char) :=
  match characters with
  | '[' :: '[' :: rest => listHeader (finalize state) rest
  | '[' :: rest => tableHeader (finalize state) rest
  | '#' :: _ => .ok (state, characters)
  | first :: _ =>
      if isKeyStart first then keyStatement state characters else malformed "invalid statement"
  | [] => .ok (state, [])

def lines : Nat → State → List Char → Except Fault State
  | 0, _, _ => malformed "the document does not end"
  | fuel + 1, state, characters =>
      match skipBlanks characters with
      | [] => .ok state
      | '\n' :: rest => lines fuel state rest
      | start => do
          let (next, afterStatement) ← statement state start
          match ← skipComment (skipBlanks afterStatement) with
          | [] => return next
          | '\n' :: rest => lines fuel next rest
          | _ => malformed "expected the end of the line"

/-- A carriage return before a line break does not count. -/
def normalBreaks : List Char → List Char
  | '\r' :: '\n' :: rest => '\n' :: normalBreaks rest
  | character :: rest => character :: normalBreaks rest
  | [] => []

def read (content : List Char) : Except Fault Value := do
  let characters := normalBreaks content
  let state ← lines (characters.length + 1) .start characters
  return .object state.tree

end GridSource.Toml
