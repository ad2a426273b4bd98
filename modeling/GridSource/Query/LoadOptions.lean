import GridSource.Query.Filter
import GridSource.Value.Members

/-!
# Load options

What a grid asks for when it loads a page.  Options come as an object whose
names are spelled in either of two ways; the last value that is not null counts
and unknown names are passed over.  The search box of the grid is one more
filter: the disjunction of one condition per field it searches.
-/

namespace GridSource

structure LoadOptions where
  filter : Value
  sort : Value
  skip : Value
  take : Value
  select : Value
  searchFields : Value
  searchOperation : Value
  searchValue : Value
  requireTotalCount : Value
deriving Inhabited

inductive LoadField where
  | filter
  | sort
  | skip
  | take
  | select
  | searchFields
  | searchOperation
  | searchValue
  | requireTotalCount
deriving Repr, DecidableEq, Inhabited

namespace LoadField

def all : List LoadField :=
  [.filter, .sort, .skip, .take, .select, .searchFields, .searchOperation, .searchValue,
    .requireTotalCount]

def name : LoadField → String
  | .filter => "filter"
  | .sort => "sort"
  | .skip => "skip"
  | .take => "take"
  | .select => "select"
  | .searchFields => "search_expr"
  | .searchOperation => "search_operation"
  | .searchValue => "search_value"
  | .requireTotalCount => "require_total_count"

/-- The other spelling of a name, where there is one. -/
def alias? : LoadField → Option String
  | .searchFields => some "searchExpr"
  | .searchOperation => some "searchOperation"
  | .searchValue => some "searchValue"
  | .requireTotalCount => some "requireTotalCount"
  | _ => none

def ofName? (name : String) : Option LoadField :=
  all.find? fun field => field.name == name

def ofSpelling? (spelling : String) : Option LoadField :=
  all.find? fun field => field.name == spelling || field.alias? == some spelling

end LoadField

namespace LoadOptions

/-- No options: the search box, if any, looks for a part of the text. -/
def default : LoadOptions :=
  { filter := .null, sort := .null, skip := .null, take := .null, select := .null
    searchFields := .null, searchOperation := .text "contains", searchValue := .null
    requireTotalCount := .bool false }

def get (options : LoadOptions) : LoadField → Value
  | .filter => options.filter
  | .sort => options.sort
  | .skip => options.skip
  | .take => options.take
  | .select => options.select
  | .searchFields => options.searchFields
  | .searchOperation => options.searchOperation
  | .searchValue => options.searchValue
  | .requireTotalCount => options.requireTotalCount

def set (options : LoadOptions) (field : LoadField) (value : Value) : LoadOptions :=
  match field with
  | .filter => { options with filter := value }
  | .sort => { options with sort := value }
  | .skip => { options with skip := value }
  | .take => { options with take := value }
  | .select => { options with select := value }
  | .searchFields => { options with searchFields := value }
  | .searchOperation => { options with searchOperation := value }
  | .searchValue => { options with searchValue := value }
  | .requireTotalCount => { options with requireTotalCount := value }

/-- One entry of an object of options. -/
def setEntry (options : LoadOptions) (entry : Value × Value) : LoadOptions :=
  match entry.1 with
  | .text spelling =>
      match LoadField.ofSpelling? spelling with
      | some field => if entry.2.isNull then options else options.set field entry.2
      | none => options
  | _ => options

def ofMembers (members : Members) : LoadOptions := members.foldl setEntry default

/-- Options from null or an object. -/
def ofValue : Value → Except Misuse LoadOptions
  | .null => .ok default
  | .object members => .ok (ofMembers members)
  | _ => .error .lacksOperation

/-- Options from values of their fields; every name must be one of a field. -/
def ofFields (fields : List (String × Value)) : Except Misuse LoadOptions :=
  fields.foldlM (fun options (name, value) =>
    match LoadField.ofName? name with
    | some field => .ok (options.set field value)
    | none => .error .wrongArgument) default

def withTake (options : LoadOptions) (take : Value) : LoadOptions := { options with take }

def entries (options : LoadOptions) : List (String × Value) :=
  LoadField.all.map fun field => (field.name, options.get field)

/-- A search box without a text searches nothing. -/
def searchActive (options : LoadOptions) : Bool :=
  !options.searchFields.isNull &&
    match options.searchValue with
    | .null => false
    | .text content => !content.isEmpty
    | _ => true

def searchCondition (options : LoadOptions) (field : Value) : Value :=
  .list [field, options.searchOperation, options.searchValue]

def searched (options : LoadOptions) : Except Misuse (List Value) :=
  match options.searchFields with
  | .text name => .ok [.text name]
  | value => value.elements

/-- The disjunction of filters, nested to the left. -/
def disjunction? : List Value → Option Value
  | [] => none
  | first :: rest =>
      some (rest.foldl (fun collected next => .list [collected, .text "or", next]) first)

/-- The filter of the search box. -/
def searchFilter? (options : LoadOptions) : Except Misuse (Option Value) :=
  if options.searchActive then do
    let fields ← options.searched
    return disjunction? (fields.map options.searchCondition)
  else .ok none

/-- The filter and the filter of the search box together. -/
def combinedFilter (options : LoadOptions) : Except Misuse Value := do
  match ← options.searchFilter? with
  | none => return options.filter
  | some search =>
      if options.filter.isNull then return search
      else return .list [options.filter, .text "and", search]

end LoadOptions

end GridSource
