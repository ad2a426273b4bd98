import GridSource.Query.BuilderCall
import GridSource.Proofs.Decimal.Binary64
import GridSource.Proofs.Query.Fragments

/-!
# What a call on a builder does

A call works out values for one parameter without touching the builder and then, at its
end, sets them.  So it has one of three effects: the parameter gets the values that the
argument stands for, the argument asks for nothing, or the call fails; and only in the
first case is the builder another one.
-/

namespace GridSource

namespace QueryBuilder

variable {builder : QueryBuilder} {parameter : QueryParameter}

/-! ## Calls that work out values -/

/-- How a call ends that sets a parameter to what can be worked out. -/
def settle (builder : QueryBuilder) (parameter : QueryParameter) :
    Except CompileError (List String) → Except CompileError Unit × QueryBuilder
  | .ok values => (.ok (), builder.setAll (parameter.name builder.grammar) values)
  | .error failure => (.error failure, builder)

/-- The orders of an argument, rendered. -/
def ordersOf (delimiter : String) (orders : SortArgument) : Except CompileError (List String) :=
  if orders.truthy then do
    let entries ← liftMisuse orders.elements
    let rendered ← liftMisuse (entries.mapM (·.render delimiter))
    return rendered.filterMap id
  else .ok []

/-- The relations of an argument, rendered. -/
def relationsOf (grammar : QueryGrammar) (relations : Value) :
    Except CompileError (List String) :=
  if relations.truthy then do
    let items ← liftMisuse relations.elements
    items.mapM (relation grammar)
  else .ok []

end QueryBuilder

namespace BuilderAction

open QueryBuilder (settle liftMisuse selectedName relation integral searchOf fieldsOf countOf
  ordersOf relationsOf)

variable {builder : QueryBuilder} {parameter : QueryParameter}

theorem run_assign {values : List String} (hvalues : values ≠ []) :
    (assign parameter values).run builder = builder.settle parameter (.ok values) := by
  rw [settle, QueryBuilder.setAll_of_ne_nil _ _ hvalues]
  rfl

/-- What is worked out first leaves the builder alone. -/
theorem run_bind {α : Type} {outcome : Except CompileError α} {next : α → BuilderAction Unit}
    {later : α → Except CompileError (List String)}
    (hnext : ∀ value, outcome = .ok value →
      (next value).run builder = builder.settle parameter (later value)) :
    (liftM outcome >>= next).run builder = builder.settle parameter (outcome >>= later) := by
  cases outcome with
  | error failure => rfl
  | ok value => exact hnext value rfl

theorem run_get (next : QueryBuilder → BuilderAction Unit) :
    (get >>= next).run builder = (next builder).run builder := rfl

theorem run_search (tree : Value) :
    (search tree).run builder = builder.settle .search (searchOf tree) := by
  rw [search, searchOf, map_eq_pure_bind]
  split
  · exact run_bind fun written _ => run_assign (List.cons_ne_nil _ _)
  · rfl

theorem run_select (fields : Value) :
    (select fields).run builder =
      builder.settle .fields (fieldsOf builder.grammar.listDelimiter fields) := by
  have hnames (chosen : List Value) :
      (do
        let names ← (chosen.mapM selectedName : Except CompileError (List String))
        let delimiter := (← get).grammar.listDelimiter
        assign .fields [delimiter.intercalate names] : BuilderAction Unit).run builder =
      builder.settle .fields (do
        let names ← chosen.mapM selectedName
        return [builder.grammar.listDelimiter.intercalate names]) :=
    run_bind fun names _ => run_assign (List.cons_ne_nil _ _)
  rw [select, fieldsOf]
  split
  · cases fields with
    | text name => exact hnames _
    | _ => exact run_bind fun chosen _ => hnames chosen
  · rfl

theorem run_sortBy (orders : SortArgument) :
    (sortBy orders).run builder =
      builder.settle .sort (ordersOf builder.grammar.listDelimiter orders) := by
  rw [sortBy, ordersOf]
  split
  · refine run_bind fun entries _ => ?_
    rw [run_get]
    refine run_bind fun rendered _ => ?_
    by_cases hnone : rendered.filterMap id = []
    · rw [hnone]
      rfl
    · rw [if_neg (by simpa using hnone)]
      exact run_assign hnone
  · rfl

theorem run_setJoin (relations : Value) :
    (setJoin relations).run builder =
      builder.settle .join (relationsOf builder.grammar relations) := by
  rw [setJoin, relationsOf]
  split
  · next htruthy =>
      refine run_bind fun items hitems => ?_
      rw [run_get, ← bind_pure (items.mapM (relation builder.grammar))]
      refine run_bind fun rendered hrendered => run_assign ?_
      rintro rfl
      cases Outcome.mapM_eq_ok_iff.mp hrendered
      rw [QueryBuilder.liftMisuse_eq_ok_iff, QueryBuilder.elements_eq_ok_iff] at hitems
      rw [QueryBuilder.truthy_of_elements? hitems] at htruthy
      contradiction
  · rfl

theorem run_setCount (value : Value) :
    (setCount parameter value).run builder =
      builder.settle parameter (countOf (parameter.name builder.grammar) value) := by
  rw [setCount, countOf]
  by_cases hnull : value.isNull = true
  · rw [if_pos hnull, if_pos hnull]
    rfl
  · rw [if_neg hnull, if_neg hnull, run_get]
    cases integral value with
    | int number =>
        dsimp only
        split
        · rfl
        · rw [map_eq_pure_bind]
          exact run_bind fun written _ => run_assign (List.cons_ne_nil _ _)
    | _ => rfl

end BuilderAction

namespace BuilderCall

open QueryBuilder (settle searchOf fieldsOf countOf ordersOf relationsOf)

/-- The values that a call works out for its parameter. -/
def values (grammar : QueryGrammar) : BuilderCall → Except CompileError (List String)
  | .search tree => searchOf tree
  | .select fields => fieldsOf grammar.listDelimiter fields
  | .sortBy orders => ordersOf grammar.listDelimiter orders
  | .setJoin relations => relationsOf grammar relations
  | .setCount count value => countOf (count.parameter.name grammar) value
  | .resetCache => .ok ["0"]
  | .setIncludeDeleted included => .ok (if included.truthy then ["1"] else [])

/-- A call changes nothing before it has worked out its values. -/
theorem run_action (call : BuilderCall) (builder : QueryBuilder) :
    call.action.run builder =
      builder.settle call.parameter (call.values builder.grammar) := by
  cases call with
  | search tree => exact BuilderAction.run_search tree
  | select fields => exact BuilderAction.run_select fields
  | sortBy orders => exact BuilderAction.run_sortBy orders
  | setJoin relations => exact BuilderAction.run_setJoin relations
  | setCount count value => exact BuilderAction.run_setCount value
  | resetCache => rfl
  | setIncludeDeleted included =>
      rw [action, BuilderAction.setIncludeDeleted, values]
      split <;> rfl

end BuilderCall

end GridSource
