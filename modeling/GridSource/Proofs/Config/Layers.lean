import GridSource.Config.Layers
import GridSource.Proofs.Config.Merge

/-!
# Layered settings

The layers of a file are the defaults, the file and the overlays that exist, in the order
of the profiles.  When each of them parses to a tree, the settings are the trees merged
one over the other, so at every key the last layer that touches it decides.
-/

namespace GridSource

/-! ## The overlay beside a file -/

/-- The parts of a path that is read from a text hold no separator. -/
theorem FilePath.separator_notMem_of_mem_parts {location part : String}
    (hpart : part ∈ (FilePath.read location).parts) : '/' ∉ part.toList := by
  obtain ⟨hpart, -⟩ := List.mem_filter.mp hpart
  obtain ⟨piece, hpiece, rfl⟩ := List.mem_map.mp hpart
  rw [String.toList_ofList]
  exact Form.not_mem_of_mem_splitAt hpiece

theorem FilePath.separator_notMem_name (location : String) :
    '/' ∉ (FilePath.read location).name.toList := by
  rw [name, List.getLastD_eq_getLast?]
  cases hlast : (FilePath.read location).parts.getLast? with
  | none => simp
  | some part => exact separator_notMem_of_mem_parts (List.mem_of_getLast? hlast)

/-- Both parts of a split name are made of its characters. -/
theorem FilePath.subset_of_splitName (name : String) :
    (splitName name).1.toList ⊆ name.toList ∧ (splitName name).2.toList ⊆ name.toList := by
  rw [splitName]
  split
  · simp
  · simp only [String.toList_ofList]
    exact ⟨List.take_subset _ _, List.drop_subset _ _⟩

namespace Settings

theorem overlayPath_eq {profile : String} (hprofile : '/' ∉ profile.toList) (location : String) :
    overlayPath (.read location) profile =
      .ok ((FilePath.read location).withName
        ((FilePath.read location).stem ++ "-" ++ profile ++ (FilePath.read location).ending)) := by
  obtain ⟨hstem, hending⟩ := FilePath.subset_of_splitName (FilePath.read location).name
  have hname := FilePath.separator_notMem_name location
  have hbefore : '/' ∉ (FilePath.read location).stem.toList := fun hmem => hname (hstem hmem)
  have hafter : '/' ∉ (FilePath.read location).ending.toList := fun hmem => hname (hending hmem)
  simp [overlayPath, hbefore, hafter, hprofile]

/-! ## Layers -/

/-- A layer: the name it is listed under and the tree it holds. -/
structure Layer where
  name : String
  tree : Value

/-- A file that is read for a layer. -/
structure LayerFile where
  name : String
  path : FilePath
  content : String

/-- The overlay of a profile beside a file, if there is one. -/
def overlayFile? (directory : Directory) (path : FilePath) (profile : String) :
    Option LayerFile :=
  let overlay := path.withName (path.stem ++ "-" ++ profile ++ path.ending)
  (directory.content? overlay).map fun content =>
    { name := overlay.write ++ " (profile: " ++ profile ++ ")", path := overlay, content }

/-- The file and the overlays that exist, in the order of the profiles. -/
def layerFiles (directory : Directory) (path : FilePath) (content : String)
    (profiles : List String) : List LayerFile :=
  { name := path.write, path, content } :: profiles.filterMap (overlayFile? directory path)

/-- The content of a file parses to the tree of a layer, which is an object of named
values. -/
structure LayerFile.Parses (yaml : YamlReader) (file : LayerFile) (layer : Layer) : Prop where
  name_eq : layer.name = file.name
  readFile_eq : readFile yaml file.path file.content = .ok layer.tree
  isObject : layer.tree.isObject = true
  isTree : layer.tree.IsTree

def defaultLayers (withDefaults : Bool) : List Layer :=
  if withDefaults then [{ name := defaultName, tree := defaultTree }] else []

/-- The settings are those of a list of layers, and at every key the last layer that
touches it decides. -/
structure Layered (settings : Settings) (layers : List Layer) : Prop where
  sources_eq : settings.sources = layers.map Layer.name
  merged : (layers.map Layer.tree).foldlM Tree.mergeValues (.object []) = .ok settings.tree
  found_iff (key : String) {value : Value} (hvalue : value.isObject = false) :
    Tree.lookup? settings.tree key = some value ↔
      ∃ tree, Tree.LastTouching (layers.map Layer.tree) (Tree.parts key) tree ∧
        Tree.lookup? tree key = some value
  missing_iff (key : String) :
    Tree.lookup? settings.tree key = none ↔
      (∀ layer ∈ layers, ¬ Tree.Touches layer.tree (Tree.parts key)) ∨
        ∃ tree, Tree.LastTouching (layers.map Layer.tree) (Tree.parts key) tree ∧
          Tree.Blocks tree (Tree.parts key)

/-! ## Adding layers -/

def Layers.over (layers : Layers) (layer : Layer) : Layers :=
  { tree := Tree.mergeValue (some layers.tree) layer.tree, names := layers.names ++ [layer.name] }

variable {yaml : YamlReader} {layers : Layers} {file : LayerFile} {layer : Layer}

theorem isObject_over (hlayer : layer.tree.isObject = true) :
    (layers.over layer).tree.isObject = true := by
  rw [Layers.over, Tree.isObject_mergeValue]
  exact hlayer

theorem addFile_eq (hlayers : layers.tree.isObject = true) (hfile : file.Parses yaml layer) :
    addFile yaml layers file.path file.content file.name = .ok (layers.over layer) := by
  rw [addFile, hfile.readFile_eq, Outcome.ok_bind, Tree.mergeValues_eq hlayers hfile.isObject,
    Layers.over, hfile.name_eq]
  rfl

/-- The overlays of the profiles are added one after the other; a profile without an
overlay adds nothing. -/
theorem foldlM_addOverlay {directory : Directory} {location : String} {profiles : List String}
    (hprofiles : ∀ profile ∈ profiles, '/' ∉ profile.toList) {overlays : List Layer}
    (hoverlays : List.Forall₂ (LayerFile.Parses yaml)
      (profiles.filterMap (overlayFile? directory (.read location))) overlays)
    (hlayers : layers.tree.isObject = true) :
    profiles.foldlM (addOverlay yaml directory (.read location)) layers =
      .ok (overlays.foldl Layers.over layers) := by
  induction profiles generalizing overlays layers with
  | nil =>
      obtain rfl := List.forall₂_nil_left_iff.mp hoverlays
      rfl
  | cons profile rest ih =>
      obtain ⟨hprofile, hrest⟩ := List.forall_mem_cons.mp hprofiles
      rw [List.foldlM_cons, addOverlay, overlayPath_eq hprofile, Outcome.ok_bind]
      rw [List.filterMap_cons, overlayFile?] at hoverlays
      cases hcontent : directory.content? ((FilePath.read location).withName
          ((FilePath.read location).stem ++ "-" ++ profile ++
            (FilePath.read location).ending)) with
      | none =>
          rw [hcontent] at hoverlays
          exact ih hrest hoverlays hlayers
      | some content =>
          rw [hcontent] at hoverlays
          obtain ⟨layer, others, hfile, hothers, rfl⟩ :=
            List.forall₂_cons_left_iff.mp hoverlays
          have hadded := addFile_eq hlayers hfile
          dsimp only at hadded ⊢
          rw [hadded, Outcome.ok_bind, List.foldl_cons]
          exact ih hrest hothers (isObject_over hfile.isObject)

theorem foldl_over (layers : Layers) (added : List Layer) :
    added.foldl Layers.over layers =
      { tree := Tree.overlaid layers.tree (added.map Layer.tree)
        names := layers.names ++ added.map Layer.name } := by
  induction added generalizing layers with
  | nil => simp [Tree.overlaid]
  | cons layer rest ih =>
      rw [List.foldl_cons, ih, Layers.over]
      simp [Tree.overlaid]

theorem baseLayers_eq (withDefaults : Bool) :
    baseLayers withDefaults =
      (defaultLayers withDefaults).foldl Layers.over { tree := .object [], names := [] } := by
  cases withDefaults <;> rfl

theorem layered_overlaid {layers : List Layer}
    (hlayers : ∀ layer ∈ layers, layer.tree.isObject = true ∧ layer.tree.IsTree) :
    Layered
      { tree := Tree.overlaid (.object []) (layers.map Layer.tree)
        sources := layers.map Layer.name } layers := by
  have hobjects : ∀ tree ∈ layers.map Layer.tree, tree.isObject = true :=
    List.forall_mem_map.mpr fun layer hlayer => (hlayers layer hlayer).1
  have htrees : ∀ tree ∈ layers.map Layer.tree, tree.IsTree :=
    List.forall_mem_map.mpr fun layer hlayer => (hlayers layer hlayer).2
  constructor
  case sources_eq => rfl
  case merged => exact Tree.foldlM_mergeValues rfl hobjects
  case found_iff =>
    intro key value hvalue
    exact Tree.find?_overlaid_eq_some_iff htrees (Tree.lookup?_empty key) hvalue
  case missing_iff =>
    intro key
    rw [Tree.lookup?, Tree.find?_overlaid_eq_none_iff htrees (Tree.lookup?_empty key),
      List.forall_mem_map]

theorem isTree_defaultTree : defaultTree.IsTree := by decide +kernel

/-- Every layer of a list of parsed files, and the layer of the defaults, holds an object
of named values. -/
theorem isTree_layers {files : List LayerFile} {layers : List Layer}
    (hlayers : List.Forall₂ (LayerFile.Parses yaml) files layers) (withDefaults : Bool) :
    ∀ layer ∈ defaultLayers withDefaults ++ layers,
      layer.tree.isObject = true ∧ layer.tree.IsTree := by
  intro layer hlayer
  rcases List.mem_append.mp hlayer with hdefault | hparsed
  · cases withDefaults with
    | false => contradiction
    | true =>
        obtain rfl := List.mem_singleton.mp hdefault
        exact ⟨rfl, isTree_defaultTree⟩
  · obtain ⟨index, hindex, rfl⟩ := List.getElem_of_mem hparsed
    have hparses := hlayers.get (hlayers.length_eq ▸ hindex) hindex
    exact ⟨hparses.isObject, hparses.isTree⟩

/-- The settings of a file that exists are those of its layers: the defaults if they are
asked for, the file, and each overlay that exists.  This holds whatever reads YAML. -/
theorem ofFile_layered {directory : Directory} {location content : String}
    (hfile : directory.content? (.read location) = some content) {profiles : List String}
    (hprofiles : ∀ profile ∈ profiles, '/' ∉ profile.toList) {layers : List Layer}
    (hlayers : List.Forall₂ (LayerFile.Parses yaml)
      (layerFiles directory (.read location) content profiles) layers) (withDefaults : Bool) :
    ∃ settings, ofFile directory (.read location) profiles withDefaults yaml = .ok settings ∧
      Layered settings (defaultLayers withDefaults ++ layers) := by
  refine ⟨_, ?_, layered_overlaid (isTree_layers hlayers withDefaults)⟩
  obtain ⟨first, overlays, hfirst, hoverlays, rfl⟩ := List.forall₂_cons_left_iff.mp hlayers
  have hbase : (baseLayers withDefaults).tree.isObject = true := by cases withDefaults <;> rfl
  have hadded := addFile_eq hbase hfirst
  have hobject : ((baseLayers withDefaults).over first).tree.isObject = true :=
    isObject_over hfirst.isObject
  have hrest := foldlM_addOverlay hprofiles hoverlays hobject
  have hfolded : overlays.foldl Layers.over ((baseLayers withDefaults).over first) =
      (defaultLayers withDefaults ++ first :: overlays).foldl Layers.over
        { tree := .object [], names := [] } := by
    rw [List.foldl_append, ← baseLayers_eq, List.foldl_cons]
  dsimp only at hadded
  rw [hfolded, foldl_over, List.nil_append] at hrest
  rw [ofFile, hfile]
  dsimp only
  rw [hadded, Outcome.ok_bind, hrest]
  rfl

/-! ## A file with two overlays -/

/-- Whether a file parses to an object of named values. -/
def LayerFile.holdsTree (yaml : YamlReader) (file : LayerFile) : Bool :=
  (readFile yaml file.path file.content).toOption.any fun tree => tree.isObject && tree.isTree

theorem exists_layers {files : List LayerFile}
    (hfiles : files.all (LayerFile.holdsTree yaml) = true) :
    ∃ layers, List.Forall₂ (LayerFile.Parses yaml) files layers := by
  induction files with
  | nil => exact ⟨[], .nil⟩
  | cons file rest ih =>
      rw [List.all_cons, Bool.and_eq_true] at hfiles
      obtain ⟨hfile, hrest⟩ := hfiles
      obtain ⟨others, hothers⟩ := ih hrest
      rw [LayerFile.holdsTree] at hfile
      cases hread : readFile yaml file.path file.content with
      | error fault => simp [hread, Except.toOption] at hfile
      | ok tree =>
          rw [hread, Except.toOption, Option.any_some, Bool.and_eq_true] at hfile
          obtain ⟨hobject, htree⟩ := hfile
          exact ⟨{ name := file.name, tree } :: others,
            .cons ⟨rfl, hread, hobject, Value.isTree_iff.mp htree⟩ hothers⟩

theorem map_name_of_parses {files : List LayerFile} {layers : List Layer}
    (hlayers : List.Forall₂ (LayerFile.Parses yaml) files layers) :
    layers.map Layer.name = files.map LayerFile.name := by
  induction hlayers with
  | nil => rfl
  | cons hfirst hrest ih => rw [List.map_cons, List.map_cons, hfirst.name_eq, ih]

def storeContent : String := "[store]\nkey = \"uid\"\ntimeout = \"5\"\n"

/-- A file, an overlay that changes one value of its section, and one that replaces the
section by a text. -/
def storeDirectory : Directory :=
  Directory.ofFiles
    [ ("app.toml", storeContent), ("app-prod.toml", "[store]\ntimeout = \"9\"\n"),
      ("app-off.toml", "store = \"none\"\n") ]

theorem ofFile_layered_store :
    ∃ layers settings,
      List.Forall₂ (LayerFile.Parses Yaml.read)
        (layerFiles storeDirectory (.read "app.toml") storeContent ["off", "absent", "prod"])
        layers ∧
      ofFile storeDirectory (.read "app.toml") ["off", "absent", "prod"] true = .ok settings ∧
      Layered settings (defaultLayers true ++ layers) ∧
      settings.sources =
        [ "crudstore-defaults.yaml (defaults)", "app.toml", "app-off.toml (profile: off)",
          "app-prod.toml (profile: prod)" ] := by
  obtain ⟨layers, hlayers⟩ : ∃ layers, List.Forall₂ (LayerFile.Parses Yaml.read)
      (layerFiles storeDirectory (.read "app.toml") storeContent ["off", "absent", "prod"])
      layers := exists_layers (by decide +kernel)
  have hfile : storeDirectory.content? (.read "app.toml") = some storeContent := by
    decide +kernel
  obtain ⟨settings, hsettings, hlayered⟩ :=
    ofFile_layered hfile (by decide +kernel) hlayers true
  have hnames : (layerFiles storeDirectory (.read "app.toml") storeContent
      ["off", "absent", "prod"]).map LayerFile.name =
      ["app.toml", "app-off.toml (profile: off)", "app-prod.toml (profile: prod)"] := by
    decide +kernel
  refine ⟨layers, settings, hlayers, hsettings, hlayered, ?_⟩
  rw [hlayered.sources_eq, List.map_append, map_name_of_parses hlayers, hnames]
  rfl

end Settings

end GridSource
