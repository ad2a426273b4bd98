import GridSource.Proofs.Filter.Failure
import GridSource.Proofs.Json.Encodable
import GridSource.Proofs.Query.Composition
import GridSource.Proofs.Query.DroppedFilter

/-!
# Search boxes and the words of a table

A filter and a search box are joined by a fixed word, but it is the operator table that says
which words are connectives and which tokens they have.  The main result says for which tables
filter and box compile to the conjunction of their trees: for those that have the word both
among their connectives and among their operators.  Under every other table the query fails,
whatever the filter and the box are.
-/

namespace GridSource

namespace OperatorTable

variable {table : OperatorTable}

theorem exists_lookup?_of_mem_names {name : String} (hname : name ∈ table.names) :
    ∃ pair, table.lookup? (.text name) = some pair := by
  rw [← Option.isSome_iff_exists, isSome_lookup?]
  simpa [hasKey] using hname

theorem mem_names_of_lookup? {name : String} {pair : TokenPair}
    (hpair : table.lookup? (.text name) = some pair) : name ∈ table.names := by
  have hkey := isSome_lookup? table (.text name)
  rw [hpair] at hkey
  simpa [hasKey] using hkey.symm

end OperatorTable

namespace LoadOptions

/-- The search box compares one field with a value by an operator of the table that is no
connective. -/
structure SearchesField (table : OperatorTable) (options : LoadOptions) : Prop where
  field : ∃ name, options.searched = .ok [.text name]
  operation : ∃ operator, options.searchOperation = .text operator ∧
    operator ∈ table.names ∧ operator ∉ table.connectives
  value : options.searchValue.isSequence = false
  present : options.searchValue ≠ .null ∧ options.searchValue ≠ .text ""

def withoutSearch (options : LoadOptions) : LoadOptions := { options with searchFields := .null }

variable {table : OperatorTable} {options : LoadOptions}

theorem SearchesField.searchFilter? (hbox : options.SearchesField table) :
    ∃ name operator, operator ∈ table.names ∧ operator ∉ table.connectives ∧
      options.searchFilter? =
        .ok (some (.list [.text name, .text operator, options.searchValue])) := by
  obtain ⟨name, hname⟩ := hbox.field
  obtain ⟨operator, hoperator, hknown, hcomparison⟩ := hbox.operation
  have hactive : options.searchActive = true := by
    by_contra hinactive
    rw [Bool.not_eq_true, searchActive_eq_false_iff] at hinactive
    rcases hinactive with hnull | hnull | hempty
    · rw [searched, hnull] at hname
      contradiction
    · exact hbox.present.1 hnull
    · exact hbox.present.2 hempty
  refine ⟨name, operator, hknown, hcomparison, ?_⟩
  rw [LoadOptions.searchFilter?, if_pos hactive, hname, Outcome.ok_bind,
    List.map_singleton, searchCondition, hoperator]
  rfl

end LoadOptions

namespace Filter

variable {table : OperatorTable} {negated : Bool} {raw left right : Value}

/-- A comparison of a field with a value that is no sequence compiles under any table that has
its operator. -/
theorem exists_compileValue_comparison (negated : Bool) (name : String) {operator : String}
    {wanted : Value}
    (hknown : operator ∈ table.names) (hcomparison : operator ∉ table.connectives)
    (hwanted : wanted.isSequence = false) :
    ∃ token, (compileValue table negated (.list [.text name, .text operator, wanted])).outcome =
      .ok (.object [(.text name, .object [(.text token, wanted)])]) := by
  obtain ⟨pair, hpair⟩ := OperatorTable.exists_lookup?_of_mem_names hknown
  have hread : ofValue table.connectives (.list [.text name, .text operator, wanted]) =
      .ok (.comparison (.text name) (.text operator) (.terminal wanted)) := by
    have hoperator : isConnective table.connectives (.text operator) = false := by
      simpa [isConnective] using hcomparison
    rw [ofValue, ofItems, hoperator,
      ofValue_of_no_sequence (Value.isSequence_eq_false_iff.mp hwanted)]
    rfl
  refine ⟨pair.pick negated, ?_⟩
  rw [compileValue, hread]
  exact congrArg Compiled.outcome (compile_comparison_of_ok hpair rfl)

/-- What compiles to an object is a sequence or an object. -/
theorem namesNoField_of_compileValue {tree : Value} (hobject : tree.isObject = true)
    (htree : (compileValue table negated raw).outcome = .ok tree) : namesNoField raw = true := by
  by_contra hfield
  rw [namesNoField, Bool.or_eq_true, not_or, Bool.not_eq_true,
    Value.isSequence_eq_false_iff] at hfield
  rw [compileValue, ofValue_of_no_sequence hfield.1] at htree
  obtain rfl : raw = tree := Except.ok.inj htree
  exact hfield.2 hobject

/-- A triple whose word is no connective is a comparison, and needs a field name. -/
theorem compileValue_triple_of_nameless {word : String} (hword : word ∉ table.connectives)
    (hleft : namesNoField left = true) :
    (compileValue table negated (.list [left, .text word, right])).outcome =
      .error (.noFieldName left) := by
  have hoperator : isConnective table.connectives (.text word) = false := by
    simpa [isConnective] using hword
  rw [compileValue, ofValue, ofItems, hoperator, fieldName_of_nameless hleft]
  rfl

/-- A connective without tokens fails once its sides are read. -/
theorem compileValue_triple_of_unknown {word : String} {first second : Value}
    (hword : word ∈ table.connectives) (hunknown : word ∉ table.names)
    (hleft : (compileValue table negated left).outcome = .ok first)
    (hright : (compileValue table negated right).outcome = .ok second) :
    (compileValue table negated (.list [left, .text word, right])).outcome =
      .error (.unknownOperator (.text word)) := by
  have hoperator : isConnective table.connectives (.text word) = true := by
    simpa [isConnective] using hword
  have hkey : table.hasKey (.text word) = false := by
    simpa [OperatorTable.hasKey] using hunknown
  rw [compileValue] at hleft hright ⊢
  rw [ofValue, ofItems, if_pos hoperator]
  cases hreadLeft : ofValue table.connectives left with
  | error value => simp [hreadLeft, Compiled.fail] at hleft
  | ok leftFilter =>
      cases hreadRight : ofValue table.connectives right with
      | error value => simp [hreadRight, Compiled.fail] at hright
      | ok rightFilter =>
          change ((connective (.text word) leftFilter rightFilter).compile table negated).outcome
            = _
          rw [outcome_compile_connective, OperatorTable.resolve_of_not_hasKey negated hkey]
          rfl

/-- How a conjunction that is spelled with `and` compiles under a table. -/
inductive ConjunctionOutcome (table : OperatorTable) (left first second : Value) :
    Except CompileError Value → Prop where
  | compiled (pair : TokenPair) (hword : "and" ∈ table.connectives)
      (hpair : table.lookup? (.text "and") = some pair) :
      ConjunctionOutcome table left first second
        (.ok (.object [(.text pair.positive, .list [first, second])]))
  | nameless (hword : "and" ∉ table.connectives) :
      ConjunctionOutcome table left first second (.error (.noFieldName left))
  | unknown (hword : "and" ∈ table.connectives) (hunknown : "and" ∉ table.names) :
      ConjunctionOutcome table left first second (.error (.unknownOperator (.text "and")))

namespace ConjunctionOutcome

variable {first second : Value} {outcome : Except CompileError Value}

theorem eq_ok_iff (houtcome : ConjunctionOutcome table left first second outcome)
    {token : String} :
    outcome = .ok (.object [(.text token, .list [first, second])]) ↔
      "and" ∈ table.connectives ∧
        ∃ pair, table.lookup? (.text "and") = some pair ∧ pair.positive = token := by
  cases houtcome with
  | compiled pair hword hpair => simp [hword, hpair]
  | nameless hword => exact iff_of_false (by simp) fun hwords => hword hwords.1
  | unknown hword hunknown =>
      refine iff_of_false (by simp) ?_
      rintro ⟨-, pair, hpair, -⟩
      exact hunknown (OperatorTable.mem_names_of_lookup? hpair)

theorem eq_noFieldName (houtcome : ConjunctionOutcome table left first second outcome)
    (hother : "and" ∉ table.connectives) : outcome = .error (.noFieldName left) := by
  cases houtcome with
  | compiled pair hword hpair => exact absurd hword hother
  | nameless hword => rfl
  | unknown hword hunknown => exact absurd hword hother

theorem eq_unknownOperator (houtcome : ConjunctionOutcome table left first second outcome)
    (hconnective : "and" ∈ table.connectives) (hother : "and" ∉ table.names) :
    outcome = .error (.unknownOperator (.text "and")) := by
  cases houtcome with
  | compiled pair hword hpair => exact absurd (OperatorTable.mem_names_of_lookup? hpair) hother
  | nameless hword => exact absurd hconnective hword
  | unknown hword hunknown => rfl

end ConjunctionOutcome

theorem compileValue_conjunction_outcome {first second : Value}
    (hobject : first.isObject = true)
    (hleft : (compileValue table false left).outcome = .ok first)
    (hright : (compileValue table false right).outcome = .ok second) :
    ConjunctionOutcome table left first second
      (compileValue table false (.list [left, .text "and", right])).outcome := by
  by_cases hword : "and" ∈ table.connectives
  · by_cases hknown : "and" ∈ table.names
    · obtain ⟨pair, hpair⟩ := OperatorTable.exists_lookup?_of_mem_names hknown
      rw [compileValue_connective_of_ok (by simpa [isConnective] using hword) hpair hleft hright]
      exact .compiled pair hword hpair
    · rw [compileValue_triple_of_unknown hword hknown hleft hright]
      exact .unknown hword hknown
  · rw [compileValue_triple_of_nameless hword (namesNoField_of_compileValue hobject hleft)]
    exact .nameless hword

end Filter

/-! ## Writing a conjunction -/

namespace Json

/-- A conjunction can be written if both of its sides can, and encoded if its token can be
encoded too. -/
theorem exists_write_conjunction (alphabet : Alphabet) (token : String) {first second : Value}
    {left right : String} (hfirst : write .search first = .ok left)
    (hsecond : write .search second = .ok right) :
    ∃ text, write .search (.object [(.text token, .list [first, second])]) = .ok text ∧
      alphabet.encodes text =
        (alphabet.encodes token && (alphabet.encodes left && alphabet.encodes right)) := by
  have hopen := alphabet.encodes_of_ascii "\x7b" rfl
  have hclose := alphabet.encodes_of_ascii "\x7d" rfl
  have hbegin := alphabet.encodes_of_ascii "[" rfl
  have hend := alphabet.encodes_of_ascii "]" rfl
  have hcolon := alphabet.encodes_of_ascii ":" rfl
  have hcomma := alphabet.encodes_of_ascii "," rfl
  have hitems : writeItems .search [first, second] = .ok [left, right] := by
    rw [writeItems, writeItems, writeItems, hfirst, hsecond]
    rfl
  have hlist : write .search (.list [first, second]) =
      .ok ("[" ++ (left ++ "," ++ right) ++ "]") := by
    rw [write, hitems]
    rfl
  refine ⟨"\x7b" ++ (writeText false token ++ ":" ++ ("[" ++ (left ++ "," ++ right) ++ "]")) ++
    "\x7d", ?_, ?_⟩
  · rw [write, writeMembers, hlist, writeMembers]
    rfl
  · simp [hopen, hclose, hbegin, hend, hcolon, hcomma]

end Json

namespace QueryBuilder

/-! ## The first parameter -/

/-- The values of the first setting either stay where they are, before parameters that do not
depend on them, or are replaced by those of a later setting of the name. -/
theorem exists_parameters_of_first (grammar : QueryGrammar) (name : String)
    (rest : List (String × List String)) :
    (∃ last : Parameters, ∀ value,
      (assembled grammar ((name, [value]) :: rest)).parameters = (name, [value]) :: last) ∨
    ∃ parameters : Parameters, ∀ value,
      (assembled grammar ((name, [value]) :: rest)).parameters = parameters := by
  induction rest using List.reverseRecOn with
  | nil => exact .inl ⟨[], fun _ => rfl⟩
  | append_singleton rest setting ih =>
      have hstep (value : String) :
          assembled grammar ((name, [value]) :: (rest ++ [setting])) =
            (assembled grammar ((name, [value]) :: rest)).setAll setting.1 setting.2 := by
        rw [assembled, ← List.cons_append, List.foldl_append]
        rfl
      simp only [hstep, setAll]
      split
      · exact ih
      · rcases ih with ⟨last, hlast⟩ | ⟨parameters, hparameters⟩
        · simp only [set, hlast, Parameters.set]
          split
          · exact .inr ⟨_, fun _ => rfl⟩
          · exact .inl ⟨_, fun _ => rfl⟩
        · simp only [set, hparameters]
          exact .inr ⟨_, fun _ => rfl⟩

/-- A first setting can be encoded with the others if each of two values can be, and can be
encoded itself if they can. -/
theorem isEncodable_of_first {grammar : QueryGrammar} {alphabet : Alphabet} {name : String}
    {rest : List (String × List String)} {left right value : String}
    (hleft : (assembled grammar ((name, [left]) :: rest)).isEncodable alphabet = true)
    (hright : (assembled grammar ((name, [right]) :: rest)).isEncodable alphabet = true)
    (hvalue : alphabet.encodes left = true → alphabet.encodes right = true →
      alphabet.encodes value = true) :
    (assembled grammar ((name, [value]) :: rest)).isEncodable alphabet = true := by
  simp only [isEncodable, items] at hleft hright ⊢
  rcases exists_parameters_of_first grammar name rest with ⟨last, hlast⟩ | ⟨parameters, hsame⟩
  · simp only [hlast, Parameters.items, List.flatMap_cons, List.map_cons, List.map_nil,
      List.all_append, List.all_cons, List.all_nil, Bool.and_true, Bool.and_eq_true]
      at hleft hright ⊢
    exact ⟨⟨hleft.1.1, hvalue hleft.1.2 hright.1.2⟩, hleft.2⟩
  · rw [hsame] at hleft ⊢
    exact hleft

end QueryBuilder

namespace Assembler

variable {assembler : Assembler} {options : LoadOptions}

/-- What the fragments behind the filter set. -/
def laterSettings (assembler : Assembler) (options : LoadOptions) :
    Except CompileError (List (List (String × List String))) :=
  [.select, .sort, .skip, .take, .settings].mapM (assembler.settingsOf options)

/-- A query whose search tree is an object sets this first. -/
theorem outcome_query_of_tree {tree : Value}
    (htree : (assembler.searchTree options).outcome = .ok tree) (hobject : tree.isObject = true) :
    (assembler.query options).outcome =
      QueryBuilder.liftMisuse (Json.write .search tree) >>= fun text =>
        assembler.laterSettings options >>= fun later =>
          assembler.encodedSettings ((assembler.grammar.search, [text]) :: later.flatten) := by
  rw [outcome_query_eq_mapM, QueryFragment.all, List.mapM_cons, settingsOf, htree,
    Outcome.ok_bind, QueryBuilder.searchOf, if_pos hobject, laterSettings]
  cases Json.write .search tree with
  | error cause => rfl
  | ok text =>
      change ((List.mapM _ _ >>= fun later => pure (_ :: later)) >>= _) = _
      simp only [bind_assoc, pure_bind]
      rfl

theorem outcome_query_of_searchTree {failure : CompileError}
    (hfailure : (assembler.searchTree options).outcome = .error failure) :
    (assembler.query options).outcome = .error failure := by
  rw [query, Compiled.outcome_bind, builder, Compiled.outcome_bind, hfailure]
  rfl

/-- The query of a search tree is assembled when the tree can be written, the later settings can
be worked out, and all of it can be encoded. -/
theorem exists_query_of_tree_iff {tree : Value}
    (htree : (assembler.searchTree options).outcome = .ok tree) (hobject : tree.isObject = true) :
    (∃ query, (assembler.query options).outcome = .ok query) ↔
      ∃ text later, Json.write .search tree = .ok text ∧
        assembler.laterSettings options = .ok later ∧
        (QueryBuilder.assembled assembler.grammar
          ((assembler.grammar.search, [text]) :: later.flatten)).isEncodable assembler.alphabet =
            true := by
  simp only [outcome_query_of_tree htree hobject, Outcome.bind_eq_ok_iff,
    QueryBuilder.liftMisuse_eq_ok_iff, encodedSettings_eq_ok_iff]
  constructor
  · rintro ⟨query, text, htext, later, hlater, hencodes, -⟩
    exact ⟨text, later, htext, hlater, hencodes⟩
  · rintro ⟨text, later, htext, hlater, hencodes⟩
    exact ⟨_, text, htext, later, hlater, hencodes, rfl⟩

/-- Where filter and box make a query each, they make one together if their conjunction
compiles and its token can be encoded. -/
theorem exists_query_of_searchTree {token : String} {tree part : Value}
    (hboth : (assembler.searchTree options).outcome =
      .ok (.object [(.text token, .list [tree, part])]))
    (htree : (assembler.searchTree options.withoutSearch).outcome = .ok tree)
    (hpart : (assembler.searchTree options.withoutFilter).outcome = .ok part)
    (hobjects : tree.isObject = true ∧ part.isObject = true)
    (htoken : assembler.alphabet.encodes token = true)
    (hfilter : ∃ query, (assembler.query options.withoutSearch).outcome = .ok query)
    (hbox : ∃ query, (assembler.query options.withoutFilter).outcome = .ok query) :
    ∃ query, (assembler.query options).outcome = .ok query := by
  obtain ⟨left, later, hleft, hlater, hencodesLeft⟩ :=
    (exists_query_of_tree_iff htree hobjects.1).mp hfilter
  obtain ⟨right, others, hright, hothers, hencodesRight⟩ :=
    (exists_query_of_tree_iff hpart hobjects.2).mp hbox
  -- Neither the filter nor the box has a part in the later settings.
  obtain rfl : later = others := Except.ok.inj (hlater.symm.trans hothers)
  obtain ⟨text, htext, hencodes⟩ :=
    Json.exists_write_conjunction assembler.alphabet token hleft hright
  refine (exists_query_of_tree_iff hboth rfl).mpr ⟨text, later, htext, hlater, ?_⟩
  refine QueryBuilder.isEncodable_of_first hencodesLeft hencodesRight fun hfirst hsecond => ?_
  rw [hencodes, htoken, hfirst, hsecond]
  rfl

/-- Take a filter that compiles to an object and a search box that compares one field by an
operator of the table.  Their combination compiles to a conjunction of the two trees exactly if
`and` is both a connective and an operator of the table, with the token of this operator, and
then their query is assembled wherever the two are by themselves and the token can be encoded.
Otherwise it fails at the filter, which is taken for a field name, or at the word. -/
theorem searchTree_combined_iff {tree : Value} (hbox : options.SearchesField assembler.table)
    (htree : (Filter.compileValue assembler.table false options.filter).outcome = .ok tree)
    (hobject : tree.isObject = true) :
    ∃ part, (assembler.searchTree options.withoutFilter).outcome = .ok part ∧
      (∀ token, (assembler.searchTree options).outcome =
          .ok (.object [(.text token, .list [tree, part])]) ↔
        "and" ∈ assembler.table.connectives ∧
          ∃ pair, assembler.table.lookup? (.text "and") = some pair ∧ pair.positive = token) ∧
      ((∃ query, (assembler.query options.withoutSearch).outcome = .ok query) →
        (∃ query, (assembler.query options.withoutFilter).outcome = .ok query) →
        (∀ pair, assembler.table.lookup? (.text "and") = some pair →
          assembler.alphabet.encodes pair.positive = true) →
        ((∃ query, (assembler.query options).outcome = .ok query) ↔
          "and" ∈ assembler.table.connectives ∧ "and" ∈ assembler.table.names)) ∧
      ("and" ∉ assembler.table.connectives →
        (assembler.query options).outcome = .error (.noFieldName options.filter)) ∧
      ("and" ∈ assembler.table.connectives → "and" ∉ assembler.table.names →
        (assembler.query options).outcome = .error (.unknownOperator (.text "and"))) := by
  obtain ⟨name, operator, hknown, hcomparison, hsearch⟩ := hbox.searchFilter?
  obtain ⟨token, hpart⟩ :=
    Filter.exists_compileValue_comparison false name hknown hcomparison hbox.value
  have hfilter : options.filter ≠ .null := by
    intro hnull
    rw [hnull] at htree
    obtain rfl := Except.ok.inj htree
    contradiction
  obtain ⟨hboth, halone⟩ := @outcome_searchTree_of_search assembler _ _ hfilter hsearch
  rw [hpart] at halone
  have hfilterAlone : (assembler.searchTree options.withoutSearch).outcome = .ok tree := by
    have hinactive : options.withoutSearch.searchFilter? = .ok none := rfl
    rw [outcome_searchTree (LoadOptions.combinedFilter_of_none hinactive)]
    exact htree
  have houtcome := Filter.compileValue_conjunction_outcome hobject htree hpart
  rw [← hboth] at houtcome
  have hnameless (hother : "and" ∉ assembler.table.connectives) :
      (assembler.query options).outcome = .error (.noFieldName options.filter) :=
    outcome_query_of_searchTree (houtcome.eq_noFieldName hother)
  have hunknown (hword : "and" ∈ assembler.table.connectives)
      (hother : "and" ∉ assembler.table.names) :
      (assembler.query options).outcome = .error (.unknownOperator (.text "and")) :=
    outcome_query_of_searchTree (houtcome.eq_unknownOperator hword hother)
  refine ⟨_, halone, fun _ => houtcome.eq_ok_iff, fun hfirst hsecond htoken => ⟨?_, ?_⟩, hnameless,
    hunknown⟩
  · rintro ⟨query, hquery⟩
    have hword : "and" ∈ assembler.table.connectives := by
      by_contra hother
      rw [hnameless hother] at hquery
      contradiction
    refine ⟨hword, ?_⟩
    by_contra hother
    rw [hunknown hword hother] at hquery
    contradiction
  · rintro ⟨hword, hknown⟩
    obtain ⟨pair, hpair⟩ := OperatorTable.exists_lookup?_of_mem_names hknown
    have hcombined := houtcome.eq_ok_iff.mpr ⟨hword, pair, hpair, rfl⟩
    exact exists_query_of_searchTree hcombined hfilterAlone halone ⟨hobject, rfl⟩
      (htoken pair hpair) hfirst hsecond

/-- The age is `1`, and the name is `x` by the search box. -/
def ageSearch (operator : String) : LoadOptions :=
  { LoadOptions.default with
    filter := .tuple [.text "age", .text operator, .int 1]
    searchFields := .text "name"
    searchOperation := .text operator
    searchValue := .text "x" }

/-- An assembler whose table has one comparison and one connective. -/
def ofWords (connective comparison : String) : Assembler :=
  { Assembler.default with
    table :=
      { pairs := [(connective, ⟨"$and", "$or"⟩), (comparison, ⟨"eq", "neq"⟩)]
        connectives := [connective]
        lossy := [] } }

theorem searchTree_combined_iff_is :
    (ageSearch "is").SearchesField (ofWords "and" "is").table ∧
      (Filter.compileValue (ofWords "and" "is").table false (ageSearch "is").filter).outcome =
        .ok (.record [("age", .record [("eq", .int 1)])]) ∧
      ((ofWords "and" "is").searchTree (ageSearch "is").withoutFilter).outcome =
        .ok (.record [("name", .record [("eq", .text "x")])]) ∧
      ((ofWords "and" "is").searchTree (ageSearch "is")).outcome =
        .ok (.record [("$and", .list [.record [("age", .record [("eq", .int 1)])],
          .record [("name", .record [("eq", .text "x")])]])]) ∧
      ∃ query, ((ofWords "and" "is").query (ageSearch "is")).outcome = .ok query := by
  have hbox : (ageSearch "is").SearchesField (ofWords "and" "is").table :=
    { field := ⟨_, rfl⟩
      operation := ⟨_, rfl, by decide, by decide⟩
      value := rfl
      present := by simp [ageSearch] }
  have htree : (Filter.compileValue (ofWords "and" "is").table false
      (ageSearch "is").filter).outcome = .ok (.record [("age", .record [("eq", .int 1)])]) := rfl
  obtain ⟨part, hpart, hboth, hquery, -⟩ := searchTree_combined_iff hbox htree rfl
  obtain rfl := Except.ok.inj hpart
  refine ⟨hbox, htree, rfl, (hboth "$and").mpr ⟨by decide, ⟨"$and", "$or"⟩, rfl, rfl⟩, ?_⟩
  exact (hquery ⟨_, rfl⟩ ⟨_, rfl⟩ fun pair _ => Alphabet.encodes_unicode _).mpr (by decide)

/-- Under a table that calls its conjunction `&&`, filter and box compile by themselves, and
their combination is reported as a comparison without a field name. -/
theorem query_combined_ampersands :
    (ageSearch "==").SearchesField (ofWords "&&" "==").table ∧
      (Filter.compileValue (ofWords "&&" "==").table false (ageSearch "==").filter).outcome =
        .ok (.record [("age", .record [("eq", .int 1)])]) ∧
      ((ofWords "&&" "==").searchTree (ageSearch "==").withoutFilter).outcome =
        .ok (.record [("name", .record [("eq", .text "x")])]) ∧
      ((ofWords "&&" "==").query (ageSearch "==")).outcome =
        .error (.noFieldName (ageSearch "==").filter) := by
  have hbox : (ageSearch "==").SearchesField (ofWords "&&" "==").table :=
    { field := ⟨_, rfl⟩
      operation := ⟨_, rfl, by decide, by decide⟩
      value := rfl
      present := by simp [ageSearch] }
  exact ⟨hbox, rfl, rfl, rfl⟩

end Assembler

end GridSource
