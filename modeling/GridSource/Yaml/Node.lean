import GridSource.Yaml.Token

/-!
# Nodes

The tree a list of tokens describes.  An alias stands for a copy of the node
its anchor names, a missing node is an empty plain scalar, and a document is a
single node between optional marks.
-/

namespace GridSource.Yaml

inductive Node where
  /-- A scalar; without a tag, a plain one takes the tag its text resolves to. -/
  | scalar (tag : Option String) (content : String) (plain : Bool)
  | sequence (tag : Option String) (items : List Node)
  | mapping (tag : Option String) (pairs : List (Node × Node))
deriving Inhabited

namespace Node

def empty : Node := .scalar none "" true

/-- What a reader of tokens knows. -/
structure Progress where
  tokens : List Token
  anchors : List (String × Node)
  handles : List (String × String)

abbrev Reader := StateT Progress (Except Fault)

def peek : Reader Token := do return (← get).tokens.headD .streamEnd

def skip : Reader Unit := modify fun progress => { progress with tokens := progress.tokens.drop 1 }

def fail {α : Type} (reason : String) : Reader α := throw (.malformed reason)

/-- The handles every document knows. -/
def commonHandles : List (String × String) := [("!", "!"), ("!!", "tag:yaml.org,2002:")]

structure Marks where
  anchor : Option String
  tag : Option (Option String × String)

def readAnchor : Reader (Option String) := do
  match ← peek with
  | .anchor name => skip; return some name
  | _ => return none

def readTag : Reader (Option (Option String × String)) := do
  match ← peek with
  | .tag handle suffix => skip; return some (handle, suffix)
  | _ => return none

/-- An anchor and a tag in either order. -/
def readMarks : Reader Marks := do
  match ← readAnchor with
  | some name => return ⟨some name, ← readTag⟩
  | none =>
      let tag ← readTag
      if tag.isSome then return ⟨← readAnchor, tag⟩ else return ⟨none, none⟩

def expandTag : Option (Option String × String) → Reader (Option String)
  | none => return none
  | some (none, suffix) => return some suffix
  | some (some handle, suffix) => do
      match (← get).handles.lookup handle with
      | some expansion => return some (expansion ++ suffix)
      | none => fail "found an undefined tag handle"

/-- A tag that says nothing counts as none. -/
def properTag (tag : Option String) : Option String :=
  if tag = some "!" then none else tag

def scalarNode (tag : Option String) (content : String) (plain : Bool) : Node :=
  .scalar (properTag tag) content (if tag = some "!" then true else plain)

def declare (anchor : Option String) (node : Node) : Reader Unit :=
  match anchor with
  | none => return ()
  | some name =>
      modify fun progress => { progress with anchors := (name, node) :: progress.anchors }

def checkAnchor (anchor : Option String) : Reader Unit := do
  match anchor with
  | none => return ()
  | some name =>
      if ((← get).anchors.lookup name).isSome then fail "found a duplicate anchor"
      else return ()

def aliased (name : String) : Reader Node := do
  match (← get).anchors.lookup name with
  | some node => return node
  | none => fail "found an undefined alias"

def endsBlockEntry : Token → Bool
  | .blockEntry | .blockEnd => true
  | _ => false

def endsIndentlessEntry : Token → Bool
  | .blockEntry | .key | .value | .blockEnd => true
  | _ => false

def endsBlockPart : Token → Bool
  | .key | .value | .blockEnd => true
  | _ => false

def endsPairKey : Token → Bool
  | .value | .flowEntry | .flowSequenceEnd => true
  | _ => false

def endsPairValue : Token → Bool
  | .flowEntry | .flowSequenceEnd => true
  | _ => false

def endsFlowKey : Token → Bool
  | .value | .flowEntry | .flowMappingEnd => true
  | _ => false

def endsFlowValue : Token → Bool
  | .flowEntry | .flowMappingEnd => true
  | _ => false

/-- Where a node may stand: which collections it may be. -/
structure Place where
  block : Bool
  indentless : Bool

def inBlock : Place := ⟨true, false⟩
def inMapping : Place := ⟨true, true⟩
def inFlow : Place := ⟨false, false⟩

mutual

def read : Nat → Place → Reader Node
  | 0, _ => fail "the document is nested too deeply"
  | fuel + 1, place => do
      match ← peek with
      | .alias name => skip; aliased name
      | _ =>
          let marks ← readMarks
          let tag ← expandTag marks.tag
          checkAnchor marks.anchor
          let node ← readContent fuel place marks tag
          declare marks.anchor node
          return node

def readContent : Nat → Place → Marks → Option String → Reader Node
  | 0, _, _, _ => fail "the document is nested too deeply"
  | fuel + 1, place, marks, tag => do
      match ← peek with
      | .scalar content plain => skip; return scalarNode tag content (plain && tag.isNone)
      | .flowSequenceStart =>
          skip
          return .sequence (properTag tag) (← readFlowItems fuel true)
      | .flowMappingStart =>
          skip
          return .mapping (properTag tag) (← readFlowPairs fuel true)
      | .blockEntry =>
          if place.indentless then
            return .sequence (properTag tag) (← readIndentlessItems fuel)
          else readMissing marks tag
      | .blockSequenceStart =>
          if place.block then
            skip
            return .sequence (properTag tag) (← readBlockItems fuel)
          else readMissing marks tag
      | .blockMappingStart =>
          if place.block then
            skip
            return .mapping (properTag tag) (← readBlockPairs fuel)
          else readMissing marks tag
      | _ => readMissing marks tag

/-- An anchor or a tag may stand before nothing. -/
def readMissing (marks : Marks) (tag : Option String) : Reader Node :=
  if marks.anchor.isSome || tag.isSome then
    return scalarNode tag "" (tag.isNone)
  else fail "expected the content of a node"

def readUnless : Nat → (Token → Bool) → Place → Reader Node
  | 0, _, _ => fail "the document is nested too deeply"
  | fuel + 1, ends, place => do
      if ends (← peek) then return empty else read fuel place

def readBlockItems : Nat → Reader (List Node)
  | 0 => fail "the document is nested too deeply"
  | fuel + 1 => do
      match ← peek with
      | .blockEntry =>
          skip
          let item ← readUnless fuel endsBlockEntry inBlock
          return item :: (← readBlockItems fuel)
      | .blockEnd => skip; return []
      | _ => fail "expected the end of a block"

def readIndentlessItems : Nat → Reader (List Node)
  | 0 => fail "the document is nested too deeply"
  | fuel + 1 => do
      match ← peek with
      | .blockEntry =>
          skip
          let item ← readUnless fuel endsIndentlessEntry inBlock
          return item :: (← readIndentlessItems fuel)
      | _ => return []

/-- The part of a pair after an indicator, empty when the indicator is missing. -/
def readAfter : Nat → Token → (Token → Bool) → Place → Reader Node
  | 0, _, _, _ => fail "the document is nested too deeply"
  | fuel + 1, indicator, ends, place => do
      if (← peek) = indicator then
        skip
        readUnless fuel ends place
      else return empty

def readBlockPairs : Nat → Reader (List (Node × Node))
  | 0 => fail "the document is nested too deeply"
  | fuel + 1 => do
      match ← peek with
      | .key =>
          skip
          let key ← readUnless fuel endsBlockPart inMapping
          let value ← readAfter fuel .value endsBlockPart inMapping
          return (key, value) :: (← readBlockPairs fuel)
      | .value =>
          let value ← readAfter fuel .value endsBlockPart inMapping
          return (empty, value) :: (← readBlockPairs fuel)
      | .blockEnd => skip; return []
      | _ => fail "expected the end of a block"

/-- The separator before every item of a flow collection but the first. -/
def readSeparator (first : Bool) : Reader Unit := do
  if first then return ()
  else if (← peek) = .flowEntry then skip
  else fail "expected ',' or the end of the collection"

def readFlowItems : Nat → Bool → Reader (List Node)
  | 0, _ => fail "the document is nested too deeply"
  | fuel + 1, first => do
      if (← peek) = .flowSequenceEnd then
        skip
        return []
      readSeparator first
      match ← peek with
      | .key =>
          skip
          let key ← readUnless fuel endsPairKey inFlow
          let value ← readAfter fuel .value endsPairValue inFlow
          return .mapping none [(key, value)] :: (← readFlowItems fuel false)
      | .flowSequenceEnd => skip; return []
      | _ =>
          let item ← read fuel inFlow
          return item :: (← readFlowItems fuel false)

def readFlowPairs : Nat → Bool → Reader (List (Node × Node))
  | 0, _ => fail "the document is nested too deeply"
  | fuel + 1, first => do
      if (← peek) = .flowMappingEnd then
        skip
        return []
      readSeparator first
      match ← peek with
      | .key =>
          skip
          let key ← readUnless fuel endsFlowKey inFlow
          let value ← readAfter fuel .value endsFlowValue inFlow
          return (key, value) :: (← readFlowPairs fuel false)
      | .flowMappingEnd => skip; return []
      | _ =>
          let key ← read fuel inFlow
          return (key, empty) :: (← readFlowPairs fuel false)

end

/-! ## Documents -/

/-- The directives before a document, as handles. -/
def readDirectives : Nat → Bool → List (String × String) → Reader (List (String × String))
  | 0, _, handles => return handles
  | fuel + 1, versioned, handles => do
      match ← peek with
      | .versionDirective major =>
          if versioned then fail "found a duplicate version"
          else if major != 1 then fail "found an incompatible document"
          else
            skip
            readDirectives fuel true handles
      | .tagDirective handle expansion =>
          if (handles.lookup handle).isSome then fail "found a duplicate tag handle"
          else
            skip
            readDirectives fuel versioned ((handle, expansion) :: handles)
      | .otherDirective =>
          skip
          readDirectives fuel versioned handles
      | _ => return handles

def endsDocument : Token → Bool
  | .versionDirective _ | .tagDirective .. | .otherDirective | .documentStart | .documentEnd
  | .streamEnd => true
  | _ => false

def skipDocumentEnds : Nat → Reader Unit
  | 0 => return ()
  | fuel + 1 => do
      if (← peek) = .documentEnd then
        skip
        skipDocumentEnds fuel
      else return ()

/-- The node of a document that begins with directives or a mark. -/
def readExplicit (fuel : Nat) : Reader Node := do
  let handles ← readDirectives fuel false []
  if (← peek) = .documentStart then
    skip
    modify fun progress => { progress with handles := handles ++ commonHandles }
    if endsDocument (← peek) then return empty else read fuel inBlock
  else fail "expected the start of a document"

/-- The one document of a stream, if it has any. -/
def readStream (fuel : Nat) : Reader (Option Node) := do
  let first ← peek
  if first = .streamEnd then return none
  let node ←
    match first with
    | .versionDirective _ | .tagDirective .. | .otherDirective | .documentStart =>
        readExplicit fuel
    | _ => read fuel inBlock
  skipDocumentEnds fuel
  if (← peek) = .streamEnd then return some node
  else fail "expected a single document"

def ofTokens (tokens : List Token) : Except Fault (Option Node) :=
  let fuel := 6 * tokens.length + 10
  (readStream fuel).run' { tokens, anchors := [], handles := commonHandles }

end Node

end GridSource.Yaml
