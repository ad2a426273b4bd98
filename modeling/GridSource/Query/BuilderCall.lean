import GridSource.Query.Builder

/-!
# Calls on a builder

A builder in use is changed in place, one call after the other.  A call takes the effect of
its statements in their order: if it fails, the builder stays as the statements before the
failure have left it, and is used on.
-/

namespace GridSource

inductive QueryParameter where
  | search
  | fields
  | sort
  | limit
  | offset
  | page
  | join
  | cache
  | includeDeleted
deriving Repr, DecidableEq, Inhabited

namespace QueryParameter

def all : List QueryParameter :=
  [.search, .fields, .sort, .limit, .offset, .page, .join, .cache, .includeDeleted]

def name (grammar : QueryGrammar) : QueryParameter → String
  | .search => grammar.search
  | .fields => grammar.fields
  | .sort => grammar.sort
  | .limit => grammar.limit
  | .offset => grammar.offset
  | .page => grammar.page
  | .join => grammar.join
  | .cache => grammar.cache
  | .includeDeleted => grammar.includeDeleted

end QueryParameter

/-- What stands in a list of orders. -/
inductive SortEntry where
  | absent
  | order (order : SortOrder)
  /-- A value that is no order. -/
  | stray (value : Value)
deriving Inhabited

namespace SortEntry

def ofOption : Option SortOrder → SortEntry
  | none => .absent
  | some found => .order found

def ofValue : Value → SortEntry
  | .null => .absent
  | value => .stray value

/-- The order as a parameter, if there is one; only an order can be rendered. -/
def render (delimiter : String) : SortEntry → Except Misuse (Option String)
  | .absent => .ok none
  | .order found => .ok (some (found.render delimiter))
  | .stray _ => .error .lacksOperation

end SortEntry

/-- What a builder is asked to sort by: a list of orders, or a value without any order. -/
inductive SortArgument where
  | entries (listed : List SortEntry)
  | value (given : Value)
deriving Inhabited

namespace SortArgument

def truthy : SortArgument → Bool
  | .entries listed => !listed.isEmpty
  | .value given => given.truthy

def elements : SortArgument → Except Misuse (List SortEntry)
  | .entries listed => .ok listed
  | .value given => given.elements.map fun items => items.map .ofValue

end SortArgument

/-- The parameters whose value is a number. -/
inductive CountParameter where
  | limit
  | offset
  | page
deriving Repr, DecidableEq, Inhabited

def CountParameter.parameter : CountParameter → QueryParameter
  | .limit => .limit
  | .offset => .offset
  | .page => .page

inductive BuilderCall where
  | search (tree : Value)
  | select (fields : Value)
  | sortBy (orders : SortArgument)
  | setJoin (relations : Value)
  | setCount (count : CountParameter) (value : Value)
  | resetCache
  | setIncludeDeleted (included : Value)
deriving Inhabited

/-- Statements on a builder; what they have changed outlasts a failure. -/
abbrev BuilderAction := ExceptT CompileError (StateM QueryBuilder)

namespace BuilderAction

open QueryBuilder (liftMisuse selectedName relation integral)

def assign (parameter : QueryParameter) (values : List String) : BuilderAction Unit :=
  modify fun builder => builder.set (parameter.name builder.grammar) values

def search (tree : Value) : BuilderAction Unit := do
  if tree.isObject then
    let written ← liftMisuse (Json.write .search tree)
    assign .search [written]

def select (fields : Value) : BuilderAction Unit := do
  if fields.truthy then
    let chosen ←
      match fields with
      | .text name => pure [Value.text name]
      | value => liftMisuse value.elements
    let names ← (chosen.mapM selectedName : Except CompileError (List String))
    let delimiter := (← get).grammar.listDelimiter
    assign .fields [delimiter.intercalate names]

def sortBy (orders : SortArgument) : BuilderAction Unit := do
  if orders.truthy then
    let entries ← liftMisuse orders.elements
    let delimiter := (← get).grammar.listDelimiter
    let rendered ← liftMisuse (entries.mapM (·.render delimiter))
    unless (rendered.filterMap id).isEmpty do
      assign .sort (rendered.filterMap id)

def setJoin (relations : Value) : BuilderAction Unit := do
  if relations.truthy then
    let items ← liftMisuse relations.elements
    let grammar := (← get).grammar
    let rendered ← (items.mapM (relation grammar) : Except CompileError (List String))
    assign .join rendered

def setCount (parameter : QueryParameter) (value : Value) : BuilderAction Unit := do
  unless value.isNull do
    let name := parameter.name (← get).grammar
    match integral value with
    | .int number =>
        if number < 0 then throw (.noCount name (.int number))
        let written ← liftMisuse (integerText number)
        assign parameter [written]
    | other => throw (.noCount name other)

def setIncludeDeleted (included : Value) : BuilderAction Unit := do
  if included.truthy then
    assign .includeDeleted ["1"]

end BuilderAction

namespace BuilderCall

def parameter : BuilderCall → QueryParameter
  | .search _ => .search
  | .select _ => .fields
  | .sortBy _ => .sort
  | .setJoin _ => .join
  | .setCount count _ => count.parameter
  | .resetCache => .cache
  | .setIncludeDeleted _ => .includeDeleted

def action : BuilderCall → BuilderAction Unit
  | .search tree => .search tree
  | .select fields => .select fields
  | .sortBy orders => .sortBy orders
  | .setJoin relations => .setJoin relations
  | .setCount count value => .setCount count.parameter value
  | .resetCache => .assign .cache ["0"]
  | .setIncludeDeleted included => .setIncludeDeleted included

end BuilderCall

namespace QueryBuilder

/-- How a call ends. -/
def outcome (builder : QueryBuilder) (call : BuilderCall) : Except CompileError Unit :=
  (call.action.run builder).1

/-- The builder after a call, however it ends. -/
def after (builder : QueryBuilder) (call : BuilderCall) : QueryBuilder :=
  (call.action.run builder).2

def afterAll (builder : QueryBuilder) (calls : List BuilderCall) : QueryBuilder :=
  calls.foldl after builder

end QueryBuilder

end GridSource
