import GridSource.Config.Binding

/-!
# Store properties

The settings of a store.  Options that are no setting of a store are kept as
they are, for whoever wraps it.
-/

namespace GridSource

structure StoreProperties where
  url : Value
  key : Value
  timeout : Value
  headers : Value
  join : Value
  cache : Value
  includeDeleted : Value
  options : Value
deriving Inhabited

namespace StoreProperties

def default : StoreProperties :=
  { url := .text "", key := .text "id", timeout := .int 30, headers := .object []
    join := .list [], cache := .bool true, includeDeleted := .bool false
    options := .object [] }

/-- Changes the setting of a name; nothing when there is no such setting. -/
def set? (properties : StoreProperties) (name : String) (value : Value) :
    Option StoreProperties :=
  match name with
  | "url" => some { properties with url := value }
  | "key" => some { properties with key := value }
  | "timeout" => some { properties with timeout := value }
  | "headers" => some { properties with headers := value }
  | "join" => some { properties with join := value }
  | "cache" => some { properties with cache := value }
  | "include_deleted" => some { properties with includeDeleted := value }
  | "options" => some { properties with options := value }
  | _ => none

def entries (properties : StoreProperties) : List (String × Value) :=
  [ ("url", properties.url), ("key", properties.key), ("timeout", properties.timeout),
    ("headers", properties.headers), ("join", properties.join), ("cache", properties.cache),
    ("include_deleted", properties.includeDeleted), ("options", properties.options) ]

/-- Properties from values of settings; every name must be one of a setting. -/
def ofFields (fields : List (String × Value)) : Except Misuse StoreProperties :=
  fields.foldlM (fun properties (name, value) =>
    match properties.set? name value with
    | some changed => .ok changed
    | none => .error .wrongArgument) default

/-- Sorts one entry of an object of options: into its setting, or among the
options that are kept. -/
def sortEntry (properties : StoreProperties) (kept : Members) (key value : Value) :
    StoreProperties × Members :=
  match key with
  | .text "options" => (properties, kept)
  | .text "key" => (if value.truthy then { properties with key := value } else properties, kept)
  | .text name =>
      match properties.set? name value with
      | some changed => (changed, kept)
      | none => (properties, Members.insert kept key value)
  | _ => (properties, Members.insert kept key value)

def sortEntries (properties : StoreProperties) (kept : Members) :
    Members → StoreProperties × Members
  | [] => (properties, kept)
  | (key, value) :: rest =>
      let (changed, collected) := sortEntry properties kept key value
      sortEntries changed collected rest

/-- Properties from the address of a resource, or from an object of settings and
other options. -/
def ofOptions (options : Value) : Except Misuse StoreProperties :=
  match options with
  | .text address => .ok { default with url := .text address }
  | .object members => do
      let nested := (Members.named? members "options").getD .null
      let kept ← if nested.truthy then nested.toMembers else .ok []
      let (properties, collected) := sortEntries default kept members
      return { properties with options := .object collected }
  | _ => .error .lacksOperation

/-- The section of a configuration that describes a store. -/
def schema : Schema :=
  { name := "StoreProperties"
    root := some "crudstore.store"
    fields :=
      [ ⟨"url", .other, some default.url⟩, ⟨"key", .other, some default.key⟩,
        ⟨"timeout", .integer, some default.timeout⟩, ⟨"headers", .other, some default.headers⟩,
        ⟨"join", .other, some default.join⟩, ⟨"cache", .flag, some default.cache⟩,
        ⟨"include_deleted", .flag, some default.includeDeleted⟩,
        ⟨"options", .other, some default.options⟩ ] }

def ofSettings (settings : Settings) (environment : Environment) :
    Except Misuse StoreProperties := do
  ofFields (← schema.bind settings environment)

end StoreProperties

end GridSource
