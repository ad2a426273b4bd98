import GridSource.Config.Directory
import GridSource.Config.Settings
import GridSource.Text.LineBreak
import GridSource.Toml.Document
import GridSource.Yaml.Document

/-!
# Configuration layers

Settings are read from layers: the defaults of the library, a file, and the
overlays of the active profiles beside it.  A later layer is merged over the
earlier ones, and the names of the layers are kept.
-/

namespace GridSource

/-- Why a configuration file cannot be read. -/
inductive ConfigFault where
  | yaml (fault : Yaml.Fault)
  | toml (fault : Toml.Fault)
  | misuse (cause : Misuse)
deriving Repr, Inhabited

/-- What reads a YAML document, whose lines end in line feeds. -/
abbrev YamlReader := List Char → Except Yaml.Fault Value

namespace Settings

/-- The defaults of the library. -/
def defaultTree : Value :=
  .record [("crudstore", .record
    [ ("logging", .record
        [("format", .text "console"), ("level", .record [("root", .text "INFO")])]),
      ("store", .record
        [ ("key", .text "id"), ("timeout", .int 30), ("cache", .bool true),
          ("include_deleted", .bool false) ]) ])]

def defaultName : String := "crudstore-defaults.yaml (defaults)"

/-- The tree of a file; what counts as false is the empty tree. -/
def readFile (yaml : YamlReader) (path : FilePath) (content : String) :
    Except ConfigFault Value := do
  let tree ←
    if path.ending = ".toml" then (Toml.read content.toList).mapError .toml
    else (yaml (universalBreaks content.toList)).mapError .yaml
  return if tree.truthy then tree else .object []

structure Layers where
  tree : Value
  names : List String

/-- Merges a file over the layers so far. -/
def addFile (yaml : YamlReader) (layers : Layers) (path : FilePath) (content name : String) :
    Except ConfigFault Layers := do
  let tree ← readFile yaml path content
  let merged ← (Tree.mergeValues layers.tree tree).mapError .misuse
  return { tree := merged, names := layers.names ++ [name] }

/-- The overlay of a profile beside a file. -/
def overlayPath (path : FilePath) (profile : String) : Except ConfigFault FilePath :=
  let name := path.stem ++ "-" ++ profile ++ path.ending
  if name.contains '/' then .error (.misuse (.unacceptable none)) else .ok (path.withName name)

def addOverlay (yaml : YamlReader) (directory : Directory) (path : FilePath) (layers : Layers)
    (profile : String) : Except ConfigFault Layers := do
  let overlay ← overlayPath path profile
  match directory.content? overlay with
  | some content =>
      addFile yaml layers overlay content (overlay.write ++ " (profile: " ++ profile ++ ")")
  | none => return layers

/-- The layers below any file. -/
def baseLayers (withDefaults : Bool) : Layers :=
  if withDefaults then ⟨defaultTree, [defaultName]⟩ else ⟨.object [], []⟩

/-- Settings from a file and its overlays; a file that does not exist adds no
layer. -/
def ofFile (directory : Directory) (path : FilePath) (profiles : List String)
    (withDefaults : Bool) (yaml : YamlReader := Yaml.read) : Except ConfigFault Settings := do
  let base := baseLayers withDefaults
  match directory.content? path with
  | none => return { tree := base.tree, sources := base.names }
  | some content =>
      let first ← addFile yaml base path content path.write
      let layers ← profiles.foldlM (addOverlay yaml directory path) first
      return { tree := layers.tree, sources := layers.names }

end Settings

end GridSource
