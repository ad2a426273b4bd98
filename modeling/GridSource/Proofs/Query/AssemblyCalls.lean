import GridSource.Proofs.Query.CallSequences

/-!
# Assembling by calls

The assembler makes a query by calling a fresh builder: for the search tree, the selection,
the sort orders, the page and the settings of the store, in this order.  The builder it
leaves is what this sequence of calls leaves, so every parameter of an assembled query has
values of its own kind only.
-/

namespace GridSource

namespace QueryBuilder

variable {builder result : QueryBuilder}

/-- A setter that sets what the call works out makes the builder that the call leaves. -/
theorem after_of_setter {call : BuilderCall}
    (hresult : builder.setAll (call.parameter.name builder.grammar) <$>
      call.values builder.grammar = .ok result) : builder.after call = result := by
  obtain ⟨values, hvalues, rfl⟩ := Outcome.map_eq_ok_iff.mp hresult
  exact after_of_values hvalues

theorem after_search {tree : Value} (hresult : builder.search tree = .ok result) :
    builder.after (.search tree) = result := by
  rw [search_eq] at hresult
  exact after_of_setter hresult

theorem after_select {fields : Value} (hresult : builder.select fields = .ok result) :
    builder.after (.select fields) = result := by
  rw [select_eq] at hresult
  exact after_of_setter hresult

theorem after_setCount (count : CountParameter) {value : Value}
    (hresult : builder.setCount (count.parameter.name builder.grammar) value = .ok result) :
    builder.after (.setCount count value) = result := by
  rw [setCount_eq] at hresult
  exact after_of_setter hresult

theorem after_setJoin {relations : List Value}
    (hresult : builder.setJoin (.list relations) = .ok result) :
    builder.after (.setJoin (.list relations)) = result := by
  have hvalues : relationsOf builder.grammar (.list relations) =
      relations.mapM (relation builder.grammar) := by
    cases relations <;> rfl
  rw [setJoin_eq, ← hvalues] at hresult
  exact after_of_setter hresult

end QueryBuilder

namespace Assembler

/-- What a sort option asks a builder to sort by. -/
def sortArgument (sort : Value) : SortArgument :=
  if sort.truthy then
    .entries (((sortDescriptors sort).map SortOrder.ofDescriptor?).map .ofOption)
  else .value .null

theorem ordersOf_sortArgument (delimiter : String) (sort : Value) :
    QueryBuilder.ordersOf delimiter (sortArgument sort) = .ok (sortValues delimiter sort) := by
  rw [sortArgument, sortValues]
  split
  · rw [BuilderCall.ordersOf_eq_ok rfl, List.filterMap_map, List.map_filterMap]
    simp only [Function.comp_apply, id_eq, QueryBuilder.map_render_ofDescriptor?]
  · rfl

/-- The calls that assemble a query with a search tree. -/
def calls (assembler : Assembler) (options : LoadOptions) (tree : Value)
    (relations : List Value) : List BuilderCall :=
  [ .search tree,
    .select options.select,
    .sortBy (sortArgument options.sort),
    .setCount .offset options.skip,
    .setCount .limit options.take,
    .setJoin (.list relations),
    .setIncludeDeleted (.bool assembler.includeDeleted) ] ++
    if assembler.cache then [] else [.resetCache]

/-- An assembled builder is a fresh one after the calls that assemble it. -/
theorem builder_eq_afterAll {assembler : Assembler} {options : LoadOptions}
    {built : QueryBuilder} (hbuilt : (assembler.builder options).outcome = .ok built) :
    ∃ tree relations, (assembler.searchTree options).outcome = .ok tree ∧
      assembler.join.elements? = some relations ∧
      built = (QueryBuilder.create assembler.grammar).afterAll
        (assembler.calls options tree relations) := by
  rw [builder, Compiled.outcome_bind_eq_ok_iff] at hbuilt
  obtain ⟨tree, htree, hbuilt⟩ := hbuilt
  obtain ⟨searched, hsearched, hbuilt⟩ := Outcome.bind_eq_ok_iff.mp hbuilt
  obtain ⟨paged, hpaged, hbuilt⟩ := Outcome.bind_eq_ok_iff.mp hbuilt
  rw [addPage] at hpaged
  obtain ⟨selected, hselected, hpaged⟩ := Outcome.bind_eq_ok_iff.mp hpaged
  obtain ⟨skipped, hskipped, hpaged⟩ := Outcome.bind_eq_ok_iff.mp hpaged
  rw [addSettings] at hbuilt
  obtain ⟨relations, hrelations, hbuilt⟩ := Outcome.bind_eq_ok_iff.mp hbuilt
  obtain ⟨joined, hjoined, hbuilt⟩ := Outcome.bind_eq_ok_iff.mp hbuilt
  obtain rfl := Except.ok.inj hbuilt
  rw [QueryBuilder.liftMisuse_eq_ok_iff, QueryBuilder.elements_eq_ok_iff] at hrelations
  refine ⟨tree, relations, htree, hrelations, ?_⟩
  have hsort : selected.after (.sortBy (sortArgument options.sort)) =
      sortBy selected options.sort := by
    have hvalues : (BuilderCall.sortBy (sortArgument options.sort)).values selected.grammar =
        .ok (sortValues selected.grammar.listDelimiter options.sort) := ordersOf_sortArgument _ _
    rw [QueryBuilder.after_of_values hvalues, QueryBuilder.sortBy_eq]
    rfl
  rw [QueryBuilder.afterAll, calls, List.foldl_append]
  simp only [List.foldl_cons, List.foldl_nil]
  rw [QueryBuilder.after_search hsearched, QueryBuilder.after_select hselected, hsort,
    QueryBuilder.after_setCount .offset hskipped, QueryBuilder.after_setCount .limit hpaged,
    QueryBuilder.after_setJoin hjoined]
  cases assembler.includeDeleted <;> cases assembler.cache <;> rfl

/-- Where the parameters have names of their own, an assembled builder lists values of their
own kinds. -/
theorem accepts_builder {assembler : Assembler} {options : LoadOptions} {built : QueryBuilder}
    (hnames : (QueryParameter.all.map (·.name assembler.grammar)).Nodup)
    (hbuilt : (assembler.builder options).outcome = .ok built) :
    ∀ setting ∈ built.parameters, ∃ parameter : QueryParameter,
      setting.1 = parameter.name assembler.grammar ∧
        parameter.Accepts assembler.grammar setting.2 := by
  obtain ⟨tree, relations, -, -, rfl⟩ := builder_eq_afterAll hbuilt
  exact QueryBuilder.accepts_afterAll hnames _

end Assembler

end GridSource
