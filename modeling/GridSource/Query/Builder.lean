import GridSource.Json.Writer
import GridSource.Query.Compile
import GridSource.Query.Sort
import GridSource.Text.Alphabet
import GridSource.Url.Form

/-!
# Query builder

The parameters of a request in the order in which they were first set.  Each
setter either changes one parameter, leaves the builder as it is when there is
nothing to set, or fails.
-/

namespace GridSource

/-- The names of the parameters and the delimiters inside their values. -/
structure QueryGrammar where
  relationDelimiter : String
  listDelimiter : String
  search : String
  fields : String
  sort : String
  limit : String
  offset : String
  page : String
  join : String
  cache : String
  includeDeleted : String
deriving Repr, DecidableEq, Inhabited

namespace QueryGrammar

def default : QueryGrammar :=
  { relationDelimiter := "||", listDelimiter := ",", search := "s", fields := "fields"
    sort := "sort", limit := "limit", offset := "offset", page := "page", join := "join"
    cache := "cache", includeDeleted := "include_deleted" }

/-- Changes the setting of a name. -/
def withSetting (grammar : QueryGrammar) (name value : String) : Except Misuse QueryGrammar :=
  match name with
  | "delim" => .ok { grammar with relationDelimiter := value }
  | "delim_str" => .ok { grammar with listDelimiter := value }
  | "search" => .ok { grammar with search := value }
  | "fields" => .ok { grammar with fields := value }
  | "sort" => .ok { grammar with sort := value }
  | "limit" => .ok { grammar with limit := value }
  | "offset" => .ok { grammar with offset := value }
  | "page" => .ok { grammar with page := value }
  | "join" => .ok { grammar with join := value }
  | "cache" => .ok { grammar with cache := value }
  | "include_deleted" => .ok { grammar with includeDeleted := value }
  | _ => .error .wrongArgument

def ofSettings (settings : List (String × Value)) : Except Misuse QueryGrammar :=
  settings.foldlM (fun grammar (name, value) => do
    grammar.withSetting name (← value.display)) default

end QueryGrammar

/-- Named parameters; a parameter may have several values. -/
abbrev Parameters := List (String × List String)

namespace Parameters

/-- Gives a parameter its values: in place when it is present, else at the end. -/
def set : Parameters → String → List String → Parameters
  | [], name, values => [(name, values)]
  | (present, old) :: rest, name, values =>
      if present = name then (present, values) :: rest
      else (present, old) :: set rest name values

/-- One pair per value. -/
def items (parameters : Parameters) : List (String × String) :=
  parameters.flatMap fun (name, values) => values.map fun value => (name, value)

end Parameters

structure QueryBuilder where
  grammar : QueryGrammar
  parameters : Parameters
deriving Repr, Inhabited

namespace QueryBuilder

def create (grammar : QueryGrammar) : QueryBuilder := ⟨grammar, []⟩

def set (builder : QueryBuilder) (name : String) (values : List String) : QueryBuilder :=
  { builder with parameters := Parameters.set builder.parameters name values }

def items (builder : QueryBuilder) : List (String × String) :=
  Parameters.items builder.parameters

/-- The form-encoded parameters. -/
def query (builder : QueryBuilder) : String := Form.encode builder.items

/-- Whether the names and values of the parameters have an encoding as bytes. -/
def isEncodable (builder : QueryBuilder) (alphabet : Alphabet) : Bool :=
  builder.items.all fun item => alphabet.encodes item.1 && alphabet.encodes item.2

/-- The query, if all of it can be encoded. -/
def encoded (builder : QueryBuilder) (alphabet : Alphabet) : Except Misuse String :=
  if builder.isEncodable alphabet then .ok builder.query else .error .notEncodable

def liftMisuse {α : Type} (outcome : Except Misuse α) : Except CompileError α :=
  outcome.mapError .misuse

/-- Sets the search tree; anything but an object is no tree. -/
def search (builder : QueryBuilder) (tree : Value) : Except CompileError QueryBuilder :=
  if tree.isObject then do
    let written ← liftMisuse (Json.write .search tree)
    return builder.set builder.grammar.search [written]
  else .ok builder

def selectedName : Value → Except CompileError String
  | .text name => if name.isEmpty then .error (.noSelectedField (.text name)) else .ok name
  | value => .error (.noSelectedField value)

/-- Selects fields: one name, or an iterable of names. -/
def select (builder : QueryBuilder) (fields : Value) : Except CompileError QueryBuilder :=
  if fields.truthy then do
    let chosen ←
      match fields with
      | .text name => Except.ok [Value.text name]
      | value => liftMisuse value.elements
    let names ← chosen.mapM selectedName
    return builder.set builder.grammar.fields
      [builder.grammar.listDelimiter.intercalate names]
  else .ok builder

/-- Sorts by the orders that are present. -/
def sortBy (builder : QueryBuilder) (orders : List (Option SortOrder)) : QueryBuilder :=
  let rendered := (orders.filterMap id).map (·.render builder.grammar.listDelimiter)
  if rendered.isEmpty then builder else builder.set builder.grammar.sort rendered

def textItem : Value → Except Misuse String
  | .text content => .ok content
  | _ => .error .wrongArgument

/-- A relation with the fields to select from it. -/
def relationWith (grammar : QueryGrammar) (name : String) (chosen : Value) :
    Except Misuse String := do
  let items ← chosen.elements
  let names ← items.mapM textItem
  return name ++ grammar.relationDelimiter ++ grammar.listDelimiter.intercalate names

def relation (grammar : QueryGrammar) (value : Value) : Except CompileError String :=
  match value with
  | .text name => .ok name
  | .object members =>
      match Members.named? members "field" with
      | some (.text name) =>
          match Members.named? members "select" with
          | some chosen =>
              if chosen.truthy then liftMisuse (relationWith grammar name chosen) else .ok name
          | none => .ok name
      | _ => .error (.noRelation value)
  | _ => .error (.noRelation value)

/-- Joins relations: names, or objects of a field and what to select from it. -/
def setJoin (builder : QueryBuilder) (relations : Value) : Except CompileError QueryBuilder :=
  if relations.truthy then do
    let items ← liftMisuse relations.elements
    let rendered ← items.mapM (relation builder.grammar)
    return builder.set builder.grammar.join rendered
  else .ok builder

/-- A float that is an integer counts as that integer. -/
def integral : Value → Value
  | .float number =>
      match (Binary64.ofFloat number).toInt? with
      | some whole => .int whole
      | none => .float number
  | value => value

def setCount (builder : QueryBuilder) (name : String) (value : Value) :
    Except CompileError QueryBuilder :=
  if value.isNull then .ok builder
  else
    match integral value with
    | .int number =>
        if number < 0 then .error (.noCount name (.int number))
        else do
          let written ← liftMisuse (integerText number)
          return builder.set name [written]
    | other => .error (.noCount name other)

def setLimit (builder : QueryBuilder) (value : Value) : Except CompileError QueryBuilder :=
  builder.setCount builder.grammar.limit value

def setOffset (builder : QueryBuilder) (value : Value) : Except CompileError QueryBuilder :=
  builder.setCount builder.grammar.offset value

def setPage (builder : QueryBuilder) (value : Value) : Except CompileError QueryBuilder :=
  builder.setCount builder.grammar.page value

/-- Asks the backend to pass over its cache. -/
def resetCache (builder : QueryBuilder) : QueryBuilder :=
  builder.set builder.grammar.cache ["0"]

/-- Asks for deleted records too. -/
def setIncludeDeleted (builder : QueryBuilder) (included : Bool) : QueryBuilder :=
  if included then builder.set builder.grammar.includeDeleted ["1"] else builder

end QueryBuilder

end GridSource
