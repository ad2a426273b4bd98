import GridSource.Query.Builder
import GridSource.Query.LoadOptions

/-!
# Assembling a query

Load options become the parameters of one request, always in the same order:
search tree, fields, sort, offset and limit from the options, then the
relations, deleted records and cache of the store.
-/

namespace GridSource

structure Assembler where
  table : OperatorTable
  grammar : QueryGrammar
  join : Value
  cache : Bool
  includeDeleted : Bool
  /-- The alphabet of the texts that are given. -/
  alphabet : Alphabet := .unicode
deriving Inhabited

namespace Assembler

def default : Assembler :=
  { table := .search, grammar := .default, join := .tuple [], cache := true
    includeDeleted := false }

def sortBy (builder : QueryBuilder) (sort : Value) : QueryBuilder :=
  match SortOrder.listOfValue sort with
  | some orders => builder.sortBy orders
  | none => builder

/-- The parameters that come from the options, without the search tree. -/
def addPage (options : LoadOptions) (builder : QueryBuilder) :
    Except CompileError QueryBuilder := do
  let selected ← builder.select options.select
  let skipped ← (sortBy selected options.sort).setOffset options.skip
  skipped.setLimit options.take

/-- The parameters that come from the store. -/
def addSettings (assembler : Assembler) (builder : QueryBuilder) :
    Except CompileError QueryBuilder := do
  let relations ← QueryBuilder.liftMisuse assembler.join.elements
  let joined ← builder.setJoin (.list relations)
  let included := joined.setIncludeDeleted assembler.includeDeleted
  return if assembler.cache then included else included.resetCache

/-- The search tree of the options. -/
def searchTree (assembler : Assembler) (options : LoadOptions) : Compiled Value := do
  let filter ← Compiled.ofExcept (QueryBuilder.liftMisuse options.combinedFilter)
  Filter.compileValue assembler.table false filter

def builder (assembler : Assembler) (options : LoadOptions) : Compiled QueryBuilder := do
  let tree ← assembler.searchTree options
  Compiled.ofExcept do
    let searched ← (QueryBuilder.create assembler.grammar).search tree
    let paged ← addPage options searched
    assembler.addSettings paged

def query (assembler : Assembler) (options : LoadOptions) : Compiled String := do
  let built ← assembler.builder options
  Compiled.ofExcept (QueryBuilder.liftMisuse (built.encoded assembler.alphabet))

end Assembler

end GridSource
