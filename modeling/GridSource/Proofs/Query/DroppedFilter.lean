import GridSource.Proofs.Query.Parameters
import GridSource.Proofs.Query.SearchBox
import GridSource.Proofs.Url.Form

/-!
# Dropped filters and the search box

A filter that compiles to no object leaves nothing in a query of its own.  Next to
a search box it does not vanish: both are compiled as one conjunction, which holds
the remains of the filter beside the search tree of the box.  The main statement
says exactly when such a filter may be left out without a change of the query: when
it is null, or when the box searches no field.
-/

namespace GridSource

variable {assembler : Assembler} {options : LoadOptions}

/-! ## The search tree in a query -/

namespace QueryBuilder

/-- A name that comes first and only once has the first of its values. -/
theorem lookup_flatMap_settings {name : String} {rest : List (String × List String)}
    (values : List String) (hname : name ∉ rest.map Prod.fst) :
    (((name, values) :: rest).flatMap fun setting =>
      setting.2.map fun value => (setting.1, value)).lookup name = values.head? := by
  have hrest : (rest.flatMap fun setting =>
      setting.2.map fun value => (setting.1, value)).lookup name = none := by
    apply List.lookup_eq_none_iff.mpr
    intro item hitem
    obtain ⟨setting, hsetting, hitem⟩ := List.mem_flatMap.mp hitem
    obtain ⟨value, -, rfl⟩ := List.mem_map.mp hitem
    have hne : name ≠ setting.1 := fun heq => hname (heq ▸ List.mem_map_of_mem hsetting)
    simpa using hne
  rw [List.flatMap_cons, List.lookup_append, hrest, Option.or_none]
  cases values with
  | nil => rfl
  | cons value others => simp

end QueryBuilder

namespace Assembler

/-- The search tree can be read back from the query. -/
theorem lookup_search_query {query : String} (hgrammar : assembler.grammar = .default)
    (hquery : (assembler.query options).outcome = .ok query) :
    ∃ tree items, (assembler.searchTree options).outcome = .ok tree ∧
      (tree.isObject = true → ∃ text, Json.write .search tree = .ok text) ∧
      Form.decode? query = some items ∧
      items.lookup "s" = QueryBuilder.searchText? tree := by
  obtain ⟨built, hbuilt, -, rfl⟩ := query_eq_ok_iff.mp hquery
  obtain ⟨tree, fields, offset, limit, join, htree, hwritten, -, -, -, -, rfl⟩ :=
    builder_eq_settings hbuilt
  refine ⟨tree, _, htree, hwritten, Form.decode?_encode _, ?_⟩
  rw [QueryBuilder.items_foldl_setAll]
  · rw [QueryBuilder.items_create, List.nil_append, settings, hgrammar]
    rw [show QueryGrammar.default.search = "s" from rfl, QueryBuilder.lookup_flatMap_settings]
    · cases QueryBuilder.searchText? tree <;> rfl
    · simp only [List.map_cons, List.map_nil]
      decide
  · rw [settings, hgrammar]
    simp only [List.map_cons, List.map_nil]
    decide
  · intro setting _ hmem
    contradiction

end Assembler

/-! ## Trees inside trees -/

namespace Json

variable {style : JsonStyle} {written : String}

/-- The value of a single member is shorter in writing than the object. -/
theorem length_lt_of_write_singleton {name : String} {part : Value}
    (hwritten : write style (.object [(.text name, part)]) = .ok written) :
    ∃ inner, write style part = .ok inner ∧ inner.length < written.length := by
  rw [write] at hwritten
  obtain ⟨texts, htexts, hwritten⟩ := Outcome.bind_eq_ok_iff.mp hwritten
  rw [writeMembers, memberName, Outcome.ok_bind] at htexts
  obtain ⟨inner, hinner, htexts⟩ := Outcome.bind_eq_ok_iff.mp htexts
  obtain rfl := Except.ok.inj htexts
  obtain rfl := Except.ok.inj hwritten
  refine ⟨inner, hinner, ?_⟩
  rw [String.intercalate_singleton]
  simp only [String.length_append, show "\x7b".length = 1 from rfl]
  omega

/-- The second item of a pair is shorter in writing than the pair. -/
theorem length_lt_of_write_pair {first part : Value}
    (hwritten : write style (.list [first, part]) = .ok written) :
    ∃ inner, write style part = .ok inner ∧ inner.length < written.length := by
  rw [write] at hwritten
  obtain ⟨texts, htexts, hwritten⟩ := Outcome.bind_eq_ok_iff.mp hwritten
  rw [writeItems, writeItems] at htexts
  obtain ⟨outer, -, htexts⟩ := Outcome.bind_eq_ok_iff.mp htexts
  obtain ⟨others, hothers, htexts⟩ := Outcome.bind_eq_ok_iff.mp htexts
  obtain ⟨inner, hinner, hothers⟩ := Outcome.bind_eq_ok_iff.mp hothers
  obtain rfl := Except.ok.inj hothers
  obtain rfl := Except.ok.inj htexts
  obtain rfl := Except.ok.inj hwritten
  refine ⟨inner, hinner, ?_⟩
  rw [String.intercalate_cons_cons, String.intercalate_singleton]
  simp only [String.length_append, show "[".length = 1 from rfl]
  omega

end Json

namespace Filter

/-- The right part of a connective or of a comparison stands last in the tree of the
whole. -/
inductive Encloses : Value → Value → Prop where
  | connective (token : String) (first part : Value) :
      Encloses (.object [(.text token, .list [first, part])]) part
  | comparison (field token : String) (part : Value) :
      Encloses (.object [(.text field, .object [(.text token, part)])]) part

theorem Encloses.isObject {whole part : Value} (hencloses : Encloses whole part) :
    whole.isObject = true := by
  cases hencloses <;> rfl

/-- A tree is longer in writing than the tree of its right part. -/
theorem Encloses.length_lt {style : JsonStyle} {whole part : Value} {written : String}
    (hencloses : Encloses whole part) (hwritten : Json.write style whole = .ok written) :
    ∃ inner, Json.write style part = .ok inner ∧ inner.length < written.length := by
  cases hencloses with
  | connective token first part =>
      obtain ⟨middle, hmiddle, hshorter⟩ := Json.length_lt_of_write_singleton hwritten
      obtain ⟨inner, hinner, hshortest⟩ := Json.length_lt_of_write_pair hmiddle
      exact ⟨inner, hinner, hshortest.trans hshorter⟩
  | comparison field token part =>
      obtain ⟨middle, hmiddle, hshorter⟩ := Json.length_lt_of_write_singleton hwritten
      obtain ⟨inner, hinner, hshortest⟩ := Json.length_lt_of_write_singleton hmiddle
      exact ⟨inner, hinner, hshortest.trans hshorter⟩

/-- Whatever a triple is read as, its last element compiles inside its tree. -/
theorem compileValue_triple_encloses {table : OperatorTable} {negated : Bool}
    {left operator right whole : Value}
    (hwhole : (compileValue table negated (.list [left, operator, right])).outcome = .ok whole) :
    ∃ part, (compileValue table negated right).outcome = .ok part ∧ Encloses whole part := by
  rw [compileValue, ofValue, ofItems] at hwhole
  split at hwhole
  · next filter hread =>
      have hright : ∀ operand, ofValue table.connectives right = .ok operand →
          compileValue table negated right = operand.compile table negated := by
        intro operand hoperand
        rw [compileValue, hoperand]
      split at hread
      · obtain ⟨first, -, hread⟩ := Outcome.bind_eq_ok_iff.mp hread
        obtain ⟨operand, hoperand, hread⟩ := Outcome.bind_eq_ok_iff.mp hread
        obtain rfl := Except.ok.inj hread
        obtain ⟨pair, tree, part, -, -, hpart, rfl⟩ := compile_connective_ok_iff.mp hwhole
        exact ⟨part, (hright operand hoperand).symm ▸ hpart, .connective _ _ _⟩
      · obtain ⟨name, -, hread⟩ := Outcome.bind_eq_ok_iff.mp hread
        obtain ⟨operand, hoperand, hread⟩ := Outcome.bind_eq_ok_iff.mp hread
        obtain rfl := Except.ok.inj hread
        obtain ⟨pair, part, -, -, hpart, rfl⟩ := compile_comparison_ok_iff.mp hwhole
        exact ⟨part, (hright operand hoperand).symm ▸ hpart, .comparison _ _ _⟩
  · contradiction

/-- A connective compiles to one member of the trees of its sides. -/
theorem compileValue_connective_of_ok {table : OperatorTable} {negated : Bool}
    {left operator right first second : Value} {pair : TokenPair}
    (hoperator : isConnective table.connectives operator = true)
    (hpair : table.lookup? operator = some pair)
    (hleft : (compileValue table negated left).outcome = .ok first)
    (hright : (compileValue table negated right).outcome = .ok second) :
    (compileValue table negated (.list [left, operator, right])).outcome =
      .ok (.object [(.text (pair.pick negated), .list [first, second])]) := by
  rw [compileValue] at hleft hright
  rw [compileValue, ofValue, ofItems, if_pos hoperator]
  cases hreadLeft : ofValue table.connectives left with
  | error value => simp [hreadLeft, Compiled.fail] at hleft
  | ok leftFilter =>
      cases hreadRight : ofValue table.connectives right with
      | error value => simp [hreadRight, Compiled.fail] at hright
      | ok rightFilter =>
          rw [hreadLeft] at hleft
          rw [hreadRight] at hright
          exact congrArg Compiled.outcome (compile_connective_of_ok hpair hleft hright)

end Filter

/-! ## Options with and without their filter -/

namespace LoadOptions

def withoutFilter (options : LoadOptions) : LoadOptions := { options with filter := .null }

theorem withoutFilter_of_null (hfilter : options.filter = .null) :
    options.withoutFilter = options := by
  rw [withoutFilter, ← hfilter]

/-- A search box in use that searches no field asks for nothing; every other one has a
filter of its own. -/
theorem searchFilter?_of_searchActive {found : Option Value}
    (hactive : options.searchActive = true) (hfound : options.searchFilter? = .ok found) :
    options.searched = .ok [] ∧ found = none ∨
      options.searched ≠ .ok [] ∧ ∃ search, found = some search := by
  rw [searchFilter?, if_pos hactive] at hfound
  obtain ⟨fields, hsearched, hfound⟩ := Outcome.bind_eq_ok_iff.mp hfound
  obtain rfl := Except.ok.inj hfound
  cases fields with
  | nil => exact .inl ⟨hsearched, rfl⟩
  | cons first rest => exact .inr ⟨by simp [hsearched], _, rfl⟩

end LoadOptions

namespace Assembler

/-- A query for the filter alone assembles and has no search tree. -/
def Drops (assembler : Assembler) (filter : Value) : Prop :=
  ∃ query items, (assembler.query { LoadOptions.default with filter }).outcome = .ok query ∧
    Form.decode? query = some items ∧ items.lookup "s" = none

theorem outcome_searchTree {combined : Value} (hcombined : options.combinedFilter = .ok combined) :
    (assembler.searchTree options).outcome =
      (Filter.compileValue assembler.table false combined).outcome := by
  rw [searchTree, Compiled.outcome_bind, hcombined]
  rfl

theorem searchFilter?_of_searchTree {tree : Value}
    (htree : (assembler.searchTree options).outcome = .ok tree) :
    ∃ found, options.searchFilter? = .ok found := by
  rw [searchTree, Compiled.outcome_bind_eq_ok_iff] at htree
  obtain ⟨combined, hcombined, -⟩ := htree
  have hoptions : options.combinedFilter = .ok combined := Outcome.mapError_eq_ok_iff.mp hcombined
  rw [LoadOptions.combinedFilter] at hoptions
  obtain ⟨found, hfound, -⟩ := Outcome.bind_eq_ok_iff.mp hoptions
  exact ⟨found, hfound⟩

/-- With a search box, the filter that is compiled is a conjunction or the box alone. -/
theorem outcome_searchTree_of_search {search : Value} (hfilter : options.filter ≠ .null)
    (hsearch : options.searchFilter? = .ok (some search)) :
    (assembler.searchTree options).outcome =
        (Filter.compileValue assembler.table false
          (.list [options.filter, .text "and", search])).outcome ∧
      (assembler.searchTree options.withoutFilter).outcome =
        (Filter.compileValue assembler.table false search).outcome := by
  have hnull : options.filter.isNull = false := by
    cases hvalue : options.filter with
    | null => exact absurd hvalue hfilter
    | _ => rfl
  have hboth : options.combinedFilter = .ok (.list [options.filter, .text "and", search]) := by
    rw [LoadOptions.combinedFilter_of_some hsearch, hnull, if_neg Bool.false_ne_true]
  have halone : options.withoutFilter.combinedFilter = .ok search :=
    LoadOptions.combinedFilter_of_some hsearch
  exact ⟨outcome_searchTree hboth, outcome_searchTree halone⟩

theorem Drops.compileValue {filter : Value} (hgrammar : assembler.grammar = .default)
    (hdrops : assembler.Drops filter) :
    ∃ tree, (Filter.compileValue assembler.table false filter).outcome = .ok tree ∧
      tree.isObject = false := by
  obtain ⟨query, items, hquery, hitems, hlookup⟩ := hdrops
  obtain ⟨tree, others, htree, hwritten, hothers, hsearch⟩ := lookup_search_query hgrammar hquery
  obtain rfl := Option.some.inj (hothers.symm.trans hitems)
  rw [outcome_searchTree (LoadOptions.combinedFilter_of_none rfl)] at htree
  refine ⟨tree, htree, ?_⟩
  by_contra hobject
  rw [Bool.not_eq_false] at hobject
  obtain ⟨text, htext⟩ := hwritten hobject
  rw [hlookup, QueryBuilder.searchText?, if_pos hobject, htext] at hsearch
  contradiction

/-- Without a search tree the query holds only the page and the settings. -/
theorem builder_outcome_of_no_tree {tree : Value}
    (htree : (assembler.searchTree options).outcome = .ok tree) (hobject : tree.isObject = false) :
    (assembler.builder options).outcome =
      (addPage options (QueryBuilder.create assembler.grammar)).bind assembler.addSettings := by
  have hsearch : (QueryBuilder.create assembler.grammar).search tree =
      .ok (QueryBuilder.create assembler.grammar) := by
    rw [QueryBuilder.search, hobject, if_neg Bool.false_ne_true]
  rw [builder, Compiled.outcome_bind, htree]
  change (QueryBuilder.create assembler.grammar).search tree >>= _ = _
  rw [hsearch]
  rfl

/-- A dropped filter is no part of a query whose search box searches no field. -/
theorem query_outcome_of_no_search (hgrammar : assembler.grammar = .default)
    (hdrops : assembler.Drops options.filter) (hsearch : options.searchFilter? = .ok none) :
    (assembler.query options).outcome = (assembler.query options.withoutFilter).outcome := by
  obtain ⟨tree, htree, hobject⟩ := hdrops.compileValue hgrammar
  have hwith : (assembler.searchTree options).outcome = .ok tree := by
    rw [outcome_searchTree (LoadOptions.combinedFilter_of_none hsearch), htree]
  have hwithout : (assembler.searchTree options.withoutFilter).outcome = .ok .null := by
    have hsame : options.withoutFilter.searchFilter? = .ok none := hsearch
    rw [outcome_searchTree (LoadOptions.combinedFilter_of_none hsame)]
    rfl
  rw [outcome_query, outcome_query, builder_outcome_of_no_tree hwith hobject,
    builder_outcome_of_no_tree hwithout rfl]
  rfl

/-- A filter that is not null stays in the query beside the search box. -/
theorem query_outcome_ne_of_search {search : Value} (hgrammar : assembler.grammar = .default)
    (hfilter : options.filter ≠ .null) (hsearch : options.searchFilter? = .ok (some search))
    (hassembles : ∃ query, (assembler.query options.withoutFilter).outcome = .ok query) :
    (assembler.query options).outcome ≠ (assembler.query options.withoutFilter).outcome := by
  intro hequal
  obtain ⟨query, hwithout⟩ := hassembles
  have hwith := hequal.trans hwithout
  obtain ⟨whole, items, hwhole, hwritten, hitems, hlookup⟩ := lookup_search_query hgrammar hwith
  obtain ⟨part, others, hpart, -, hothers, hsame⟩ := lookup_search_query hgrammar hwithout
  obtain rfl := Option.some.inj (hothers.symm.trans hitems)
  obtain ⟨hboth, halone⟩ := @outcome_searchTree_of_search assembler _ _ hfilter hsearch
  rw [hboth] at hwhole
  rw [halone] at hpart
  obtain ⟨inner, hinner, hencloses⟩ := Filter.compileValue_triple_encloses hwhole
  obtain rfl : inner = part := Except.ok.inj (hinner.symm.trans hpart)
  -- The text of the conjunction would have to be the text of its right part.
  obtain ⟨text, htext⟩ := hwritten hencloses.isObject
  obtain ⟨shorter, hshorter, hlength⟩ := hencloses.length_lt htext
  have htexts : some text = QueryBuilder.searchText? inner := by
    rw [← hsame, hlookup, QueryBuilder.searchText?, if_pos hencloses.isObject, htext]
    rfl
  rw [QueryBuilder.searchText?, hshorter] at htexts
  split at htexts
  · obtain rfl := Option.some.inj htexts
    exact absurd hlength (lt_irrefl _)
  · contradiction

/-- Take load options with a search box in use and a filter that alone leaves no search
tree.  If their query assembles without the filter, it is the same with the filter
exactly when the filter is null or the box searches no field.  Otherwise the tree of
the query is the conjunction of what the filter compiles to and the tree of the box. -/
theorem query_eq_without_filter_iff (hgrammar : assembler.grammar = .default)
    (hactive : options.searchActive = true) (hdrops : assembler.Drops options.filter)
    (hassembles : ∃ query, (assembler.query options.withoutFilter).outcome = .ok query) :
    ((assembler.query options).outcome = (assembler.query options.withoutFilter).outcome ↔
        options.filter = .null ∨ options.searched = .ok []) ∧
      ∀ tree part pair, options.filter ≠ .null → options.searched ≠ .ok [] →
        Filter.isConnective assembler.table.connectives (.text "and") = true →
        assembler.table.lookup? (.text "and") = some pair →
        (Filter.compileValue assembler.table false options.filter).outcome = .ok tree →
        (assembler.searchTree options.withoutFilter).outcome = .ok part →
        (assembler.searchTree options).outcome =
          .ok (.object [(.text pair.positive, .list [tree, part])]) := by
  constructor
  · obtain ⟨query, hquery⟩ := hassembles
    obtain ⟨part, -, hpart, -⟩ := lookup_search_query hgrammar hquery
    obtain ⟨found, hfound⟩ := searchFilter?_of_searchTree hpart
    constructor
    · intro hsame
      by_contra hkept
      rw [not_or] at hkept
      rcases LoadOptions.searchFilter?_of_searchActive hactive hfound with
        ⟨hsearched, -⟩ | ⟨-, search, rfl⟩
      · exact hkept.2 hsearched
      · exact query_outcome_ne_of_search hgrammar hkept.1 hfound ⟨query, hquery⟩ hsame
    · rintro (hfilter | hsearched)
      · rw [LoadOptions.withoutFilter_of_null hfilter]
      · rcases LoadOptions.searchFilter?_of_searchActive hactive hfound with
          ⟨-, rfl⟩ | ⟨hsome, -⟩
        · exact query_outcome_of_no_search hgrammar hdrops hfound
        · exact absurd hsearched hsome
  · intro tree part pair hfilter hsearched hand hpair htree hpart
    obtain ⟨found, hfound⟩ := searchFilter?_of_searchTree hpart
    rcases LoadOptions.searchFilter?_of_searchActive hactive hfound with
      ⟨hnone, -⟩ | ⟨-, search, rfl⟩
    · exact absurd hnone hsearched
    · obtain ⟨hboth, halone⟩ := outcome_searchTree_of_search hfilter hfound
      rw [halone] at hpart
      rw [hboth]
      exact Filter.compileValue_connective_of_ok hand hpair htree hpart

theorem query_of_items (halphabet : assembler.alphabet = .unicode)
    {items : List (String × String)}
    (hitems : (assembler.builder options).outcome.toOption.map QueryBuilder.items = some items) :
    (assembler.query options).outcome = .ok (Form.encode items) := by
  cases hbuilt : (assembler.builder options).outcome with
  | error failure => simp [hbuilt, Except.toOption] at hitems
  | ok built =>
      have hsame : built.items = items := by
        simpa [hbuilt, Except.toOption] using hitems
      refine query_eq_ok_iff.mpr ⟨built, hbuilt, ?_, hsame ▸ rfl⟩
      rw [halphabet, built.isEncodable_unicode]

/-- A filter whose query is empty is dropped. -/
theorem Drops.of_no_items (halphabet : assembler.alphabet = .unicode) {filter : Value}
    (hitems : (assembler.builder { LoadOptions.default with filter }).outcome.toOption.map
      QueryBuilder.items = some []) : assembler.Drops filter :=
  ⟨_, [], query_of_items halphabet hitems, Form.decode?_encode [], rfl⟩

/-- A negated number for a filter, and a box that looks for `x` in two fields. -/
def scalarFilterBox : LoadOptions :=
  { LoadOptions.default with
    filter := .list [.text "!", .tuple [.int 42]]
    take := .int 5
    searchFields := .list [.text "first", .text "last"]
    searchValue := .text "x" }

def scalarFilterBoxTree : Value :=
  .record [("$or", .list [.record [("first", .record [("$cont", .text "x")])],
    .record [("last", .record [("$cont", .text "x")])]])]

def scalarFilterBoxText : String :=
  "\x7b\"$or\":[\x7b\"first\":\x7b\"$cont\":\"x\"\x7d\x7d," ++
    "\x7b\"last\":\x7b\"$cont\":\"x\"\x7d\x7d]\x7d"

theorem query_eq_without_filter_iff_scalar :
    (Assembler.default.query scalarFilterBox.withoutFilter).outcome =
        .ok (Form.encode [("s", scalarFilterBoxText), ("limit", "5")]) ∧
      (Assembler.default.query scalarFilterBox).outcome ≠
        (Assembler.default.query scalarFilterBox.withoutFilter).outcome ∧
      (Assembler.default.searchTree scalarFilterBox).outcome =
        .ok (.object [(.text "$and", .list [.int 42, scalarFilterBoxTree])]) := by
  have hwithout : (Assembler.default.query scalarFilterBox.withoutFilter).outcome =
      .ok (Form.encode [("s", scalarFilterBoxText), ("limit", "5")]) :=
    query_of_items rfl (by decide +kernel)
  obtain ⟨hsame, htree⟩ := @query_eq_without_filter_iff .default scalarFilterBox rfl rfl
    (.of_no_items rfl (by decide +kernel)) ⟨_, hwithout⟩
  refine ⟨hwithout, fun hequal => ?_, ?_⟩
  · rcases hsame.mp hequal with hnull | hnone
    · cases hnull
    · cases hnone
  · exact htree (.int 42) scalarFilterBoxTree ⟨"$and", "$or"⟩ (by simp [scalarFilterBox])
      (by simp [scalarFilterBox, LoadOptions.searched, Value.elements, Value.elements?])
      rfl rfl rfl rfl

/-- An empty filter, and a box that looks for `x` in the name. -/
def emptyFilterBox : LoadOptions :=
  { LoadOptions.default with
    filter := .list [], searchFields := .text "name", searchValue := .text "x" }

/-- A filter that is dropped alone changes the query beside a search box. -/
theorem query_ne_without_empty_filter :
    emptyFilterBox.searchActive = true ∧ Assembler.default.Drops emptyFilterBox.filter ∧
      (Assembler.default.query emptyFilterBox).outcome = .ok (Form.encode
        [("s", "\x7b\"$and\":[null,\x7b\"name\":\x7b\"$cont\":\"x\"\x7d\x7d]\x7d")]) ∧
      (Assembler.default.query emptyFilterBox.withoutFilter).outcome = .ok (Form.encode
        [("s", "\x7b\"name\":\x7b\"$cont\":\"x\"\x7d\x7d")]) ∧
      (Assembler.default.query emptyFilterBox).outcome ≠
        (Assembler.default.query emptyFilterBox.withoutFilter).outcome := by
  have hwith : (Assembler.default.query emptyFilterBox).outcome = .ok (Form.encode
      [("s", "\x7b\"$and\":[null,\x7b\"name\":\x7b\"$cont\":\"x\"\x7d\x7d]\x7d")]) :=
    query_of_items rfl (by decide +kernel)
  have hwithout : (Assembler.default.query emptyFilterBox.withoutFilter).outcome =
      .ok (Form.encode [("s", "\x7b\"name\":\x7b\"$cont\":\"x\"\x7d\x7d")]) :=
    query_of_items rfl (by decide +kernel)
  refine ⟨rfl, .of_no_items rfl (by decide +kernel), hwith, hwithout, ?_⟩
  rw [hwith, hwithout]
  intro hequal
  have hdecoded := congrArg Form.decode? (Except.ok.inj hequal)
  rw [Form.decode?_encode, Form.decode?_encode] at hdecoded
  exact absurd hdecoded (by decide)

end Assembler

end GridSource
