import GridSource.Proofs.Filter.Failure
import GridSource.Proofs.Query.Fragments
import GridSource.Proofs.Query.Writable

/-!
# Failures that are not reported

What is wrong with load options is reported as an unknown operator or an invalid query,
with exceptions: a search box whose fields, or a selection whose names, are a value without
elements, and an integer too long to be written.  Each of them stops the assembler where it
is met, if nothing before it fails.  At the end a parameter that holds half of a surrogate pair
cannot be encoded.
-/

namespace GridSource

namespace CompileError

/-- The failure is a report on the query: an unknown operator or an invalid value. -/
def IsReported (failure : CompileError) : Prop :=
  ∃ report, failure.report? = some report ∧
    (report.family = .unknownOperator ∨ report.family = .invalidQuery)

theorem not_isReported_misuse (cause : Misuse) : ¬ IsReported (.misuse cause) := by
  rintro ⟨report, hreport, -⟩
  contradiction

end CompileError

namespace QueryBuilder

/-! ## Failures of the settings -/

variable {failure : CompileError} {cause : Misuse}

@[simp]
theorem liftMisuse_eq_error_iff {α : Type} {outcome : Except Misuse α} :
    liftMisuse outcome = .error failure ↔
      ∃ cause, outcome = .error cause ∧ .misuse cause = failure :=
  Outcome.mapError_eq_error_iff

@[simp]
theorem elements_eq_error_iff {value : Value} :
    value.elements = .error cause ↔ value.elements? = none ∧ .notIterable = cause := by
  rw [Value.elements]
  cases value.elements? <;> simp

theorem searchOf_eq_error_iff {tree : Value} :
    searchOf tree = .error failure ↔
      tree.isObject = true ∧ ∃ cause, Json.write .search tree = .error cause ∧
        .misuse cause = failure := by
  rw [searchOf]
  split
  · next hobject =>
      rw [← liftMisuse_eq_error_iff, and_iff_right hobject]
      exact Outcome.map_eq_error_iff
  · next hobject => simp [hobject]

theorem isReported_of_selectedName {value : Value}
    (hfailure : selectedName value = .error failure) : failure.IsReported := by
  have hreported : CompileError.IsReported (.noSelectedField value) := ⟨_, rfl, .inr rfl⟩
  cases value with
  | text name =>
      rw [selectedName] at hfailure
      split at hfailure
      · obtain rfl := Except.error.inj hfailure
        exact hreported
      · contradiction
  | _ =>
      obtain rfl := Except.error.inj hfailure
      exact hreported

theorem chosenOf_eq_error_iff {fields : Value} :
    chosenOf fields = .error failure ↔
      fields.elements? = none ∧ .misuse .notIterable = failure := by
  have hlift : liftMisuse fields.elements = .error failure ↔
      fields.elements? = none ∧ .misuse .notIterable = failure := by
    rw [liftMisuse_eq_error_iff]
    simp [elements_eq_error_iff, and_assoc]
  cases fields with
  | text name => simp [chosenOf, Value.elements?]
  | _ => exact hlift

/-- A selection fails over one of its names, or because it has no elements. -/
theorem fieldsOf_cases {delimiter : String} {fields : Value}
    (hfailure : fieldsOf delimiter fields = .error failure) :
    failure.IsReported ∨
      fields.truthy = true ∧ fields.elements? = none ∧ .misuse .notIterable = failure := by
  rw [fieldsOf] at hfailure
  split at hfailure
  · next htruthy =>
      rcases Outcome.bind_eq_error_iff.mp hfailure with hchosen | ⟨chosen, -, hfailure⟩
      · exact .inr ⟨htruthy, chosenOf_eq_error_iff.mp hchosen⟩
      · rcases Outcome.bind_eq_error_iff.mp hfailure with hnames | ⟨names, -, hdone⟩
        · obtain ⟨value, -, hvalue⟩ := Outcome.exists_of_mapM_eq_error hnames
          exact .inl (isReported_of_selectedName hvalue)
        · contradiction
  · contradiction

theorem fieldsOf_of_not_iterable {fields : Value} (htruthy : fields.truthy = true)
    (hfields : fields.elements? = none) (delimiter : String) :
    fieldsOf delimiter fields = .error (.misuse .notIterable) := by
  rw [fieldsOf, if_pos htruthy, chosenOf_eq_error_iff.mpr ⟨hfields, rfl⟩]
  rfl

/-- The value is a count, with too many digits to be written. -/
def IsLongCount (value : Value) : Prop :=
  ∃ number, integral value = .int number ∧ 0 ≤ number ∧
    mostIntegerDigits < decimalLength number.natAbs

theorem countOf_cases {name : String} {value : Value}
    (hfailure : countOf name value = .error failure) :
    failure.IsReported ∨ IsLongCount value ∧ .misuse tooManyDigits = failure := by
  rw [countOf] at hfailure
  split at hfailure
  · contradiction
  · split at hfailure
    · next number hnumber =>
        split at hfailure
        · obtain rfl := Except.error.inj hfailure
          exact .inl ⟨_, rfl, .inr rfl⟩
        · next hnegative =>
            obtain ⟨cause, hcause, rfl⟩ :=
              liftMisuse_eq_error_iff.mp (Outcome.map_eq_error_iff.mp hfailure)
            rw [integerText] at hcause
            split at hcause
            · contradiction
            · next hlong =>
                obtain rfl := Except.error.inj hcause
                rw [hasText, decide_eq_true_eq, Nat.not_le] at hlong
                exact .inr ⟨⟨number, hnumber, by omega, hlong⟩, rfl⟩
    · obtain rfl := Except.error.inj hfailure
      exact .inl ⟨_, rfl, .inr rfl⟩

theorem countOf_of_isLongCount {value : Value} (hvalue : IsLongCount value) (name : String) :
    countOf name value = .error (.misuse tooManyDigits) := by
  obtain ⟨number, hnumber, hnonnegative, hlong⟩ := hvalue
  have hnull : value.isNull = false := by
    cases value with
    | null => contradiction
    | _ => rfl
  have hnegative : ¬ number < 0 := by omega
  have htext : hasText number = false := decide_eq_false (Nat.not_le_of_lt hlong)
  simp only [countOf, hnull, Bool.false_eq_true, if_false, hnumber, hnegative]
  rw [integerText, htext]
  rfl

end QueryBuilder

/-! ## Failures of the search tree -/

namespace Filter

/-- The first left-hand side without a name, or else the first unknown operator, is an integer
too long for a text. -/
def StopsAtNumber (table : OperatorTable) (raw : Value) : Prop :=
  StopsAtField table.connectives raw ∨
    (comparedFields table.connectives raw).find? isUnnamed = none ∧ StopsAtOperator table raw

theorem compileValue_cases {table : OperatorTable} {raw : Value} {negated : Bool}
    {failure : CompileError}
    (hfailure : (compileValue table negated raw).outcome = .error failure) :
    failure.IsReported ∨ StopsAtNumber table raw ∧ .misuse tooManyDigits = failure := by
  rw [Compiled.outcome_eq_error_iff, compileValue_failure?_eq] at hfailure
  rcases fault?_cases hfailure with ⟨left, rfl⟩ | ⟨operator, rfl⟩ | rfl
  · exact .inl ⟨_, rfl, .inr rfl⟩
  · obtain ⟨-, -, hprintable⟩ := fault?_eq_unknownOperator_iff.mp hfailure
    obtain ⟨report, hreport⟩ := exists_report_iff.mpr hprintable
    exact .inl ⟨report, report?_unknownOperator_iff.mpr hreport,
      .inl (unknownOperator_eq_ok hreport).1⟩
  · exact .inr ⟨exists_fault?_eq_misuse_iff.mp ⟨_, hfailure⟩, rfl⟩

theorem compileValue_of_stopsAtNumber {table : OperatorTable} {raw : Value}
    (hstops : StopsAtNumber table raw) (negated : Bool) :
    (compileValue table negated raw).outcome = .error (.misuse tooManyDigits) := by
  obtain ⟨cause, hfault⟩ := exists_fault?_eq_misuse_iff.mpr hstops
  rw [Compiled.outcome_eq_error_iff, compileValue_failure?_eq, hfault]
  rcases fault?_cases hfault with ⟨left, hsame⟩ | ⟨operator, hsame⟩ | hsame
  · contradiction
  · contradiction
  · rw [hsame]

theorem isPrintable_of_reachable {connectives : List String} {root node : Value}
    (hroot : root.isPrintable = true) (hnode : Reachable connectives root node) :
    node.isPrintable = true := by
  induction hnode with
  | refl => exact hroot
  | tail _ hpart ih =>
      obtain ⟨items, hitems, hmem⟩ := mem_items_of_mem_parts hpart
      exact Value.isHereditary_isPrintable.element ih (Value.elements?_of_sequence? hitems) hmem

theorem isPrintable_of_comparedField? {connectives : List String} {node left : Value}
    (hnode : node.isPrintable = true) (hleft : comparedField? connectives node = some left) :
    left.isPrintable = true := by
  rw [comparedField?] at hleft
  split at hleft
  · next first operator right hitems =>
      split at hleft
      · contradiction
      · obtain rfl := Option.some.inj hleft
        exact Value.isHereditary_isPrintable.element hnode (Value.elements?_of_sequence? hitems)
          List.mem_cons_self
  · contradiction

theorem isPrintable_of_operator? {node operator : Value} (hnode : node.isPrintable = true)
    (hoperator : operator? node = some operator) : operator.isPrintable = true := by
  rw [operator?] at hoperator
  split at hoperator
  · split at hoperator
    · contradiction
    · obtain rfl := Option.some.inj hoperator
      rfl
  · next left middle right hitems =>
      obtain rfl := Option.some.inj hoperator
      exact Value.isHereditary_isPrintable.element hnode (Value.elements?_of_sequence? hitems)
        (List.mem_cons_of_mem left List.mem_cons_self)
  · contradiction

/-- A filter in which every integer has a text stops at no integer. -/
theorem not_stopsAtNumber {table : OperatorTable} {raw : Value}
    (hraw : raw.isPrintable = true) : ¬ StopsAtNumber table raw := by
  rintro (⟨left, hfirst, hscalar⟩ | ⟨-, operator, hfirst, htextless⟩)
  · obtain ⟨node, hnode, hleft⟩ := List.mem_filterMap.mp (List.mem_of_find?_eq_some hfirst)
    have hprintable := isPrintable_of_comparedField?
      (isPrintable_of_reachable hraw ((mem_visited_iff _).mp hnode)) hleft
    have hunnamed := List.find?_some hfirst
    simp [isUnnamed, hscalar, hprintable] at hunnamed
  · obtain ⟨node, hnode, hoperator⟩ := List.mem_filterMap.mp (List.mem_of_find?_eq_some hfirst)
    rw [isPrintable_of_operator? (isPrintable_of_reachable hraw ((mem_visited_iff _).mp hnode))
      hoperator] at htextless
    contradiction

end Filter

namespace LoadOptions

variable {options : LoadOptions} {cause : Misuse}

/-- The search box looks for something in what has no elements. -/
def SearchesNothing (options : LoadOptions) : Prop :=
  options.searchActive = true ∧ options.searchFields.elements? = none

theorem searched_eq_error_iff :
    options.searched = .error cause ↔
      options.searchFields.elements? = none ∧ .notIterable = cause := by
  rw [searched, ← QueryBuilder.elements_eq_error_iff]
  cases options.searchFields with
  | text name => simp [Value.elements, Value.elements?]
  | _ => rfl

theorem combinedFilter_eq_error_iff :
    options.combinedFilter = .error cause ↔ options.SearchesNothing ∧ .notIterable = cause := by
  have hsearch : options.searchFilter? = .error cause ↔
      options.SearchesNothing ∧ .notIterable = cause := by
    rw [searchFilter?, SearchesNothing]
    split
    · next hactive =>
        rw [and_iff_right hactive, ← searched_eq_error_iff]
        cases options.searched <;> simp [bind, Except.bind, pure, Except.pure]
    · next hactive => simp [hactive]
  rw [combinedFilter, Outcome.bind_eq_error_iff, hsearch, or_iff_left]
  rintro ⟨found, -, hdone⟩
  cases found with
  | none => contradiction
  | some search =>
      dsimp only at hdone
      split at hdone <;> contradiction

end LoadOptions

namespace Assembler

variable {assembler : Assembler} {options : LoadOptions} {failure : CompileError}

/-- The filter and the search box together name a field or an operator by an integer too long
for a text, and nothing before it fails. -/
def MeetsLongNumber (assembler : Assembler) (options : LoadOptions) : Prop :=
  ∃ filter, options.combinedFilter = .ok filter ∧ Filter.StopsAtNumber assembler.table filter

theorem searchTree_cases (hfailure : (assembler.searchTree options).outcome = .error failure) :
    failure.IsReported ∨ options.SearchesNothing ∧ .misuse .notIterable = failure ∨
      assembler.MeetsLongNumber options ∧ .misuse tooManyDigits = failure := by
  rw [searchTree, Compiled.outcome_bind] at hfailure
  rcases Outcome.bind_eq_error_iff.mp hfailure with hcombined | ⟨filter, hcombined, hcompiled⟩
  · obtain ⟨cause, hcause, rfl⟩ := QueryBuilder.liftMisuse_eq_error_iff.mp hcombined
    obtain ⟨hsearches, rfl⟩ := LoadOptions.combinedFilter_eq_error_iff.mp hcause
    exact .inr (.inl ⟨hsearches, rfl⟩)
  · rw [Compiled.ofExcept, QueryBuilder.liftMisuse_eq_ok_iff] at hcombined
    refine (Filter.compileValue_cases hcompiled).imp_right ?_
    rintro ⟨hstops, rfl⟩
    exact .inr ⟨⟨filter, hcombined, hstops⟩, rfl⟩

theorem searchTree_of_searchesNothing (hsearches : options.SearchesNothing) :
    (assembler.searchTree options).outcome = .error (.misuse .notIterable) := by
  have hcombined : options.combinedFilter = .error .notIterable :=
    LoadOptions.combinedFilter_eq_error_iff.mpr ⟨hsearches, rfl⟩
  rw [searchTree, hcombined]
  rfl

theorem searchTree_of_meetsLongNumber (hmeets : assembler.MeetsLongNumber options) :
    (assembler.searchTree options).outcome = .error (.misuse tooManyDigits) := by
  obtain ⟨filter, hcombined, hstops⟩ := hmeets
  rw [searchTree, Compiled.outcome_bind, hcombined]
  exact Filter.compileValue_of_stopsAtNumber hstops false

/-! ## What escapes -/

/-- What stops an assembler without a report, and with which cause.  Everything that the
assembler does before succeeds. -/
inductive Escapes (assembler : Assembler) (options : LoadOptions) : Misuse → Prop where
  | searchFields (hsearches : options.SearchesNothing) : Escapes assembler options .notIterable
  | number (hmeets : assembler.MeetsLongNumber options) : Escapes assembler options tooManyDigits
  /-- The search tree holds an integer too long to be written, or a key of no name. -/
  | tree {tree : Value} {cause : Misuse}
      (htree : (assembler.searchTree options).outcome = .ok tree)
      (hobject : tree.isObject = true) (hwrite : Json.write .search tree = .error cause) :
      Escapes assembler options cause
  /-- The selection has no elements: it is a number other than zero, or true. -/
  | select {tree : Value} {search : List String}
      (htree : (assembler.searchTree options).outcome = .ok tree)
      (hsearch : QueryBuilder.searchOf tree = .ok search)
      (htruthy : options.select.truthy = true) (hselect : options.select.elements? = none) :
      Escapes assembler options .notIterable
  | skip {tree : Value} {search fields : List String}
      (htree : (assembler.searchTree options).outcome = .ok tree)
      (hsearch : QueryBuilder.searchOf tree = .ok search)
      (hselect : QueryBuilder.fieldsOf assembler.grammar.listDelimiter options.select = .ok fields)
      (hskip : QueryBuilder.IsLongCount options.skip) :
      Escapes assembler options tooManyDigits
  | take {before : List (String × List String)}
      (hbefore : assembler.settingsBefore options = .ok before)
      (htake : QueryBuilder.IsLongCount options.take) :
      Escapes assembler options tooManyDigits
  /-- The query is built, but a parameter holds half of a pair. -/
  | half {built : QueryBuilder} (hbuilt : (assembler.builder options).outcome = .ok built)
      (hhalf : built.isEncodable assembler.alphabet = false) :
      Escapes assembler options .notEncodable

theorem settingsBefore_cases (hfailure : assembler.settingsBefore options = .error failure) :
    failure.IsReported ∨ ∃ cause, .misuse cause = failure ∧ assembler.Escapes options cause := by
  rcases Outcome.bind_eq_error_iff.mp hfailure with htree | ⟨tree, htree, hfailure⟩
  · refine (searchTree_cases htree).imp_right ?_
    rintro (⟨hsearches, rfl⟩ | ⟨hmeets, rfl⟩)
    · exact ⟨_, rfl, .searchFields hsearches⟩
    · exact ⟨_, rfl, .number hmeets⟩
  rcases Outcome.bind_eq_error_iff.mp hfailure with hsearch | ⟨search, hsearch, hfailure⟩
  · obtain ⟨hobject, cause, hwrite, rfl⟩ := QueryBuilder.searchOf_eq_error_iff.mp hsearch
    exact .inr ⟨cause, rfl, .tree htree hobject hwrite⟩
  rcases Outcome.bind_eq_error_iff.mp hfailure with hselect | ⟨fields, hselect, hfailure⟩
  · refine (QueryBuilder.fieldsOf_cases hselect).imp_right ?_
    rintro ⟨htruthy, hnone, rfl⟩
    exact ⟨_, rfl, .select htree hsearch htruthy hnone⟩
  rcases Outcome.bind_eq_error_iff.mp hfailure with hskip | ⟨offset, hskip, hfailure⟩
  · refine (QueryBuilder.countOf_cases hskip).imp_right ?_
    rintro ⟨hlong, rfl⟩
    exact ⟨_, rfl, .skip htree hsearch hselect hlong⟩
  · contradiction

/-- Relations that are given by their names are always joined. -/
theorem exists_settingsAfter {names : List String}
    (hjoin : assembler.join = .tuple (names.map .text)) :
    ∃ after, assembler.settingsAfter = .ok after := by
  have hrelations : (names.map Value.text).mapM (QueryBuilder.relation assembler.grammar) =
      .ok names := by
    rw [Outcome.mapM_eq_ok_iff, List.forall₂_map_left_iff, List.forall₂_same]
    exact fun _ _ => rfl
  rw [settingsAfter, hjoin]
  change ∃ after, ((names.map Value.text).mapM (QueryBuilder.relation assembler.grammar) >>= _) =
    Except.ok after
  rw [hrelations]
  exact ⟨_, rfl⟩

theorem query_eq_error_iff :
    (assembler.query options).outcome = .error failure ↔
      (assembler.builder options).outcome = .error failure ∨
        ∃ built, (assembler.builder options).outcome = .ok built ∧
          built.isEncodable assembler.alphabet = false ∧ .misuse .notEncodable = failure := by
  simp only [outcome_query, Outcome.bind_eq_error_iff, QueryBuilder.liftMisuse_eq_error_iff,
    QueryBuilder.encoded_eq_error_iff]
  simp

/-- Every failure is reported, or is one that escapes. -/
theorem query_cases {names : List String} (hjoin : assembler.join = .tuple (names.map .text))
    (hfailure : (assembler.query options).outcome = .error failure) :
    failure.IsReported ∨ ∃ cause, .misuse cause = failure ∧ assembler.Escapes options cause := by
  rcases query_eq_error_iff.mp hfailure with hfailure | ⟨built, hbuilt, hhalf, rfl⟩
  swap
  · exact .inr ⟨_, rfl, .half hbuilt hhalf⟩
  rw [outcome_builder] at hfailure
  rcases Outcome.bind_eq_error_iff.mp hfailure with hbefore | ⟨before, hbefore, hfailure⟩
  · exact settingsBefore_cases hbefore
  rcases Outcome.bind_eq_error_iff.mp hfailure with htake | ⟨limit, htake, hfailure⟩
  · refine (QueryBuilder.countOf_cases htake).imp_right ?_
    rintro ⟨hlong, rfl⟩
    exact ⟨_, rfl, .take hbefore hlong⟩
  · obtain ⟨after, hafter⟩ := exists_settingsAfter hjoin
    rw [hafter] at hfailure
    contradiction

theorem Escapes.outcome_query {cause : Misuse} (hescapes : assembler.Escapes options cause) :
    (assembler.query options).outcome = .error (.misuse cause) := by
  rw [query_eq_error_iff]
  cases hescapes with
  | searchFields hsearches =>
      left
      simp [outcome_builder, settingsBefore, searchTree_of_searchesNothing hsearches]
  | number hmeets =>
      left
      simp [outcome_builder, settingsBefore, searchTree_of_meetsLongNumber hmeets]
  | tree htree hobject hwrite =>
      left
      have hsearch := QueryBuilder.searchOf_eq_error_iff.mpr ⟨hobject, _, hwrite, rfl⟩
      simp [outcome_builder, settingsBefore, htree, hsearch]
  | select htree hsearch htruthy hselect =>
      left
      simp [outcome_builder, settingsBefore, htree, hsearch,
        QueryBuilder.fieldsOf_of_not_iterable htruthy hselect]
  | skip htree hsearch hselect hskip =>
      left
      simp [outcome_builder, settingsBefore, htree, hsearch, hselect,
        QueryBuilder.countOf_of_isLongCount hskip]
  | take hbefore htake =>
      left
      simp [outcome_builder, hbefore, QueryBuilder.countOf_of_isLongCount htake]
  | half hbuilt hhalf => exact .inr ⟨_, hbuilt, hhalf, rfl⟩

/-- A failure without a report is exactly one that escapes. -/
theorem query_eq_misuse_iff {names : List String}
    (hjoin : assembler.join = .tuple (names.map .text)) {cause : Misuse} :
    (assembler.query options).outcome = .error (.misuse cause) ↔
      assembler.Escapes options cause := by
  refine ⟨fun hfailure => ?_, Escapes.outcome_query⟩
  rcases query_cases hjoin hfailure with hreported | ⟨other, hsame, hescapes⟩
  · exact absurd hreported (CompileError.not_isReported_misuse cause)
  · obtain rfl := CompileError.misuse.inj hsame
    exact hescapes

end Assembler

/-! ## Options that can be written -/

namespace LoadOptions

variable {options : LoadOptions}

theorem isPrintable_of_disjunction {filters : List Value} {filter : Value}
    (hfilters : ∀ part ∈ filters, part.isPrintable = true)
    (hfilter : disjunction? filters = some filter) : filter.isPrintable = true := by
  cases filters with
  | nil => simp [disjunction?] at hfilter
  | cons first rest =>
      obtain rfl := Option.some.inj hfilter
      obtain ⟨hfirst, hrest⟩ := List.forall_mem_cons.mp hfilters
      clear hfilter hfilters
      induction rest generalizing first with
      | nil => exact hfirst
      | cons next rest ih =>
          obtain ⟨hnext, hrest⟩ := List.forall_mem_cons.mp hrest
          exact ih _ (by simp [Value.isPrintable, hfirst, hnext]) hrest

theorem isPrintable_searchFilter (hoptions : ∀ field, (options.get field).isPrintable = true)
    {filter : Value} (hfilter : options.searchFilter? = .ok (some filter)) :
    filter.isPrintable = true := by
  rw [searchFilter?] at hfilter
  split at hfilter
  · obtain ⟨fields, hsearched, hfilter⟩ := Outcome.bind_eq_ok_iff.mp hfilter
    have hfields := holds_of_searched Value.isHereditary_isPrintable (hoptions .searchFields)
      hsearched
    have hconditions : ∀ condition ∈ fields.map options.searchCondition,
        condition.isPrintable = true := by
      intro condition hcondition
      obtain ⟨field, hfield, rfl⟩ := List.mem_map.mp hcondition
      have hoperation := hoptions .searchOperation
      have hvalue := hoptions .searchValue
      simp only [get] at hoperation hvalue
      simp [searchCondition, Value.isPrintable, hfields field hfield, hoperation, hvalue]
    exact isPrintable_of_disjunction hconditions (Except.ok.inj hfilter)
  · simp at hfilter

theorem isPrintable_combinedFilter (hoptions : ∀ field, (options.get field).isPrintable = true)
    {filter : Value} (hfilter : options.combinedFilter = .ok filter) :
    filter.isPrintable = true := by
  rw [combinedFilter] at hfilter
  obtain ⟨found, hfound, hfilter⟩ := Outcome.bind_eq_ok_iff.mp hfilter
  cases found with
  | none =>
      obtain rfl := Except.ok.inj hfilter
      exact hoptions .filter
  | some search =>
      have hsearch := isPrintable_searchFilter hoptions hfound
      dsimp only at hfilter
      split at hfilter
      · obtain rfl := Except.ok.inj hfilter
        exact hsearch
      · obtain rfl := Except.ok.inj hfilter
        have hown := hoptions .filter
        rw [get] at hown
        simp [Value.isPrintable, hown, hsearch]

end LoadOptions

namespace Assembler

variable {assembler : Assembler} {options : LoadOptions}

/-- The fields of a search box that is active have no elements, or the filter compiles and
the selection has none. -/
def MeetsNoElements (assembler : Assembler) (options : LoadOptions) : Prop :=
  options.SearchesNothing ∨ (∃ tree, (assembler.searchTree options).outcome = .ok tree) ∧
    options.select.truthy = true ∧ options.select.elements? = none

theorem not_isLongCount {value : Value} (hvalue : value.IsWritable) :
    ¬ QueryBuilder.IsLongCount value := by
  rintro ⟨number, hnumber, -, hlong⟩
  have hshort := hvalue.decimalLength_le hnumber
  omega

/-- The query is built, but a parameter of it has no encoding. -/
def MeetsHalf (assembler : Assembler) (options : LoadOptions) : Prop :=
  ∃ built, (assembler.builder options).outcome = .ok built ∧
    built.isEncodable assembler.alphabet = false

/-- When the options can be written, only a value without elements escapes, and half of a
surrogate pair. -/
theorem escapes_iff_of_isWritable (hoptions : ∀ field, (options.get field).IsWritable)
    {cause : Misuse} :
    assembler.Escapes options cause ↔
      cause = .notIterable ∧ assembler.MeetsNoElements options ∨
        cause = .notEncodable ∧ assembler.MeetsHalf options := by
  have hwritten : ∀ tree, (assembler.searchTree options).outcome = .ok tree →
      tree.IsWritable := fun tree htree =>
    holds_searchTree Value.isHereditary_isWritable (hoptions .filter) (hoptions .searchFields)
      (hoptions .searchValue) htree
  constructor
  · intro hescapes
    cases hescapes with
    | searchFields hsearches => exact .inl ⟨rfl, .inl hsearches⟩
    | number hmeets =>
        obtain ⟨filter, hfilter, hstops⟩ := hmeets
        have hprintable := LoadOptions.isPrintable_combinedFilter
          (fun field => (hoptions field).isPrintable) hfilter
        exact absurd hstops (Filter.not_stopsAtNumber hprintable)
    | @tree tree _ htree hobject hwrite =>
        obtain ⟨written, hwrite'⟩ := hwritten tree htree
        rw [hwrite'] at hwrite
        contradiction
    | select htree hsearch htruthy hselect =>
        exact .inl ⟨rfl, .inr ⟨⟨_, htree⟩, htruthy, hselect⟩⟩
    | skip htree hsearch hselect hskip => exact absurd hskip (not_isLongCount (hoptions .skip))
    | take hbefore htake => exact absurd htake (not_isLongCount (hoptions .take))
    | half hbuilt hhalf => exact .inr ⟨rfl, _, hbuilt, hhalf⟩
  · rintro (⟨rfl, hsearches | ⟨⟨tree, htree⟩, htruthy, hselect⟩⟩ | ⟨rfl, built, hbuilt, hhalf⟩)
    · exact .searchFields hsearches
    · cases hsearch : QueryBuilder.searchOf tree with
      | ok search => exact .select htree hsearch htruthy hselect
      | error failure =>
          obtain ⟨-, cause, hwrite, -⟩ := QueryBuilder.searchOf_eq_error_iff.mp hsearch
          obtain ⟨written, hwrite'⟩ := hwritten tree htree
          rw [hwrite'] at hwrite
          contradiction
    · exact .half hbuilt hhalf

end Assembler

end GridSource
