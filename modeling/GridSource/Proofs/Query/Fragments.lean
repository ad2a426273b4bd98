import GridSource.Proofs.Query.Parameters

/-!
# Fragments of a query

A setter that may fail first works out the values of its parameter, from its argument
alone, and then gives the parameter these values.  So assembling a query is working out one
list of settings: those before the limit, the limit and those after it.  The limit stands
between what the others list, whatever it is.
-/

namespace GridSource

namespace Parameters

/-! ## Parameters of one name -/

theorem set_append_of_mem {before : Parameters} {name : String}
    (hname : name ∈ before.map Prod.fst) (after : Parameters) (values : List String) :
    set (before ++ after) name values = set before name values ++ after := by
  induction before with
  | nil => contradiction
  | cons parameter rest ih =>
      rw [List.cons_append, set, set]
      by_cases hsame : parameter.1 = name
      · rw [if_pos hsame, if_pos hsame, List.cons_append]
      · rw [List.map_cons, List.mem_cons] at hname
        rw [if_neg hsame, if_neg hsame, ih (hname.resolve_left (Ne.symm hsame)),
          List.cons_append]

theorem set_append_of_not_mem {before : Parameters} {name : String}
    (hname : name ∉ before.map Prod.fst) (after : Parameters) (values : List String) :
    set (before ++ after) name values = before ++ set after name values := by
  induction before with
  | nil => rfl
  | cons parameter rest ih =>
      rw [List.map_cons, List.mem_cons, not_or] at hname
      rw [List.cons_append, set, if_neg (Ne.symm hname.1), ih hname.2, List.cons_append]

theorem names_set_of_mem {parameters : Parameters} {name : String} {values : List String}
    (hname : name ∈ parameters.map Prod.fst) :
    (set parameters name values).map Prod.fst = parameters.map Prod.fst := by
  induction parameters with
  | nil => contradiction
  | cons parameter rest ih =>
      rw [set]
      split
      · rfl
      · next hother =>
          rw [List.map_cons, List.mem_cons] at hname
          rw [List.map_cons, List.map_cons, ih (hname.resolve_left (Ne.symm hother))]

end Parameters

namespace QueryBuilder

variable (builder : QueryBuilder)

/-! ## What a setter sets -/

/-- The value of the search parameter for a tree. -/
def searchOf (tree : Value) : Except CompileError (List String) :=
  if tree.isObject then (fun text => [text]) <$> liftMisuse (Json.write .search tree)
  else .ok []

/-- The names a selection lists: one name, or the elements of the selection. -/
def chosenOf : Value → Except CompileError (List Value)
  | .text name => .ok [.text name]
  | fields => liftMisuse fields.elements

def fieldsOf (delimiter : String) (fields : Value) : Except CompileError (List String) :=
  if fields.truthy then do
    let chosen ← chosenOf fields
    let names ← chosen.mapM selectedName
    return [delimiter.intercalate names]
  else .ok []

def countOf (name : String) (value : Value) : Except CompileError (List String) :=
  if value.isNull then .ok []
  else
    match integral value with
    | .int number =>
        if number < 0 then .error (.noCount name (.int number))
        else (fun text => [text]) <$> liftMisuse (integerText number)
    | other => .error (.noCount name other)

theorem search_eq (tree : Value) :
    builder.search tree = builder.setAll builder.grammar.search <$> searchOf tree := by
  rw [search, searchOf]
  split
  · cases Json.write .search tree <;> rfl
  · rfl

theorem select_eq (fields : Value) :
    builder.select fields = builder.setAll builder.grammar.fields <$>
      fieldsOf builder.grammar.listDelimiter fields := by
  rw [fieldsOf]
  by_cases htruthy : fields.truthy = true
  · have hselect : builder.select fields = do
        let names ← chosenOf fields >>= List.mapM selectedName
        return builder.set builder.grammar.fields
          [builder.grammar.listDelimiter.intercalate names] := by
      rw [select, if_pos htruthy]
      cases fields with
      | text name => rfl
      | _ => simp only [chosenOf, bind_assoc]
    rw [if_pos htruthy, hselect, ← bind_assoc]
    cases chosenOf fields >>= List.mapM selectedName <;> rfl
  · rw [if_neg htruthy, select, if_neg htruthy]
    rfl

theorem setCount_eq (name : String) (value : Value) :
    builder.setCount name value = builder.setAll name <$> countOf name value := by
  rw [setCount, countOf]
  by_cases hnull : value.isNull = true
  · rw [if_pos hnull, if_pos hnull]
    rfl
  · rw [if_neg hnull, if_neg hnull]
    cases integral value with
    | int number =>
        dsimp only
        split
        · rfl
        · cases integerText number <;> rfl
    | _ => rfl

theorem setJoin_eq (relations : List Value) :
    builder.setJoin (.list relations) =
      builder.setAll builder.grammar.join <$> relations.mapM (relation builder.grammar) := by
  cases relations with
  | nil => rfl
  | cons first rest =>
      have htruthy : (Value.list (first :: rest)).truthy = true := rfl
      rw [setJoin, if_pos htruthy]
      change ((first :: rest).mapM (relation builder.grammar) >>= fun values =>
        pure (builder.set builder.grammar.join values)) = _
      cases hvalues : (first :: rest).mapM (relation builder.grammar) with
      | error failure => rfl
      | ok values =>
          have hsome : values ≠ [] := by
            rintro rfl
            cases Outcome.mapM_eq_ok_iff.mp hvalues
          rw [Outcome.ok_bind, ← builder.setAll_of_ne_nil builder.grammar.join hsome]
          rfl

/-! ## Settings in their order -/

/-- The builder that takes settings one by one. -/
def assembled (grammar : QueryGrammar) (settings : List (String × List String)) : QueryBuilder :=
  settings.foldl (fun collected setting => collected.setAll setting.1 setting.2)
    (create grammar)

/-- Settings under names of their own list their values in the order of the settings. -/
theorem items_assembled (grammar : QueryGrammar) {settings : List (String × List String)}
    (hdistinct : (settings.map Prod.fst).Nodup) :
    (assembled grammar settings).items = settings.flatMap fun setting =>
      setting.2.map fun value => (setting.1, value) := by
  rw [assembled, items_foldl_setAll settings _ hdistinct fun _ _ hmem => List.not_mem_nil hmem,
    items_create, List.nil_append]

/-- A builder has two lists of parameters and, between them, parameters of one name. -/
def Encloses (name : String) (first last between : Parameters) (builder : QueryBuilder) : Prop :=
  (∀ parameter ∈ between, parameter.1 = name) ∧ builder.parameters = first ++ between ++ last

variable {name : String}

/-- Setting another name changes the lists around, in the same way whatever is between
them. -/
theorem exists_setAll_encloses {other : String} (hother : other ≠ name) (first last : Parameters)
    (values : List String) :
    ∃ first' last' : Parameters, first'.map Prod.fst = first.map Prod.fst ∧
      (∀ present ∈ last'.map Prod.fst, present ∈ last.map Prod.fst ∨ present = other) ∧
      ∀ between builder, Encloses name first last between builder →
        Encloses name first' last' between (builder.setAll other values) := by
  by_cases hvalues : values = []
  · refine ⟨first, last, rfl, fun _ => .inl, fun between builder hencloses => ?_⟩
    rw [hvalues, setAll_nil]
    exact hencloses
  by_cases hfirst : other ∈ first.map Prod.fst
  · refine ⟨first.set other values, last, Parameters.names_set_of_mem hfirst, fun _ => .inl, ?_⟩
    rintro between builder ⟨hbetween, hbuilder⟩
    refine ⟨hbetween, ?_⟩
    rw [setAll_of_ne_nil builder other hvalues, set, hbuilder, List.append_assoc,
      Parameters.set_append_of_mem hfirst, List.append_assoc]
  · refine ⟨first, last.set other values, rfl, fun _ => Parameters.mem_names_set, ?_⟩
    rintro between builder ⟨hbetween, hbuilder⟩
    have hnone : other ∉ between.map Prod.fst := by
      intro hmem
      obtain ⟨parameter, hparameter, rfl⟩ := List.mem_map.mp hmem
      exact hother (hbetween parameter hparameter)
    refine ⟨hbetween, ?_⟩
    rw [setAll_of_ne_nil builder other hvalues, set, hbuilder, List.append_assoc,
      Parameters.set_append_of_not_mem hfirst, Parameters.set_append_of_not_mem hnone,
      List.append_assoc]

theorem exists_foldl_encloses (settings : List (String × List String))
    (hsettings : name ∉ settings.map Prod.fst) (first last : Parameters) :
    ∃ first' last' : Parameters, first'.map Prod.fst = first.map Prod.fst ∧
      (∀ present ∈ last'.map Prod.fst,
        present ∈ last.map Prod.fst ∨ present ∈ settings.map Prod.fst) ∧
      ∀ between builder, Encloses name first last between builder →
        Encloses name first' last' between
          (settings.foldl (fun collected setting => collected.setAll setting.1 setting.2)
            builder) := by
  induction settings generalizing first last with
  | nil => exact ⟨first, last, rfl, fun _ => .inl, fun _ _ hencloses => hencloses⟩
  | cons setting rest ih =>
      rw [List.map_cons, List.mem_cons, not_or] at hsettings
      obtain ⟨first', last', hfirst', hlast', hstep⟩ :=
        exists_setAll_encloses (Ne.symm hsettings.1) first last setting.2
      obtain ⟨first'', last'', hfirst'', hlast'', hfold⟩ := ih hsettings.2 first' last'
      refine ⟨first'', last'', hfirst''.trans hfirst', fun present hpresent => ?_,
        fun between builder hencloses => hfold between _ (hstep between builder hencloses)⟩
      rw [List.map_cons, List.mem_cons]
      rcases hlast'' present hpresent with hpresent | hpresent
      · exact (hlast' present hpresent).imp_right .inl
      · exact .inr (.inr hpresent)

theorem mem_names_foldl (settings : List (String × List String)) {builder : QueryBuilder}
    {present : String}
    (hpresent : present ∈ (settings.foldl
      (fun collected setting => collected.setAll setting.1 setting.2) builder).names) :
    present ∈ builder.names ∨ present ∈ settings.map Prod.fst := by
  induction settings generalizing builder with
  | nil => exact .inl hpresent
  | cons setting rest ih =>
      rw [List.map_cons, List.mem_cons]
      rcases ih hpresent with hset | hrest
      · exact (mem_names_setAll hset).imp_right .inl
      · exact .inr (.inr hrest)

theorem mem_names_assembled {grammar : QueryGrammar} {settings : List (String × List String)}
    {present : String} (hpresent : present ∈ (assembled grammar settings).names) :
    present ∈ settings.map Prod.fst := by
  rcases mem_names_foldl settings hpresent with hcreated | hset
  · contradiction
  · exact hset

/-- The parameter that a setting adds under a name that is not present. -/
theorem encloses_setAll {builder : QueryBuilder} (hname : name ∉ builder.names)
    (values : List String) :
    Encloses name builder.parameters [] (if values.isEmpty then [] else [(name, values)])
      (builder.setAll name values) := by
  rw [Encloses, setAll]
  split
  · simp
  · rw [set, Parameters.set_of_not_mem hname]
    simp

theorem names_of_mem_items {parameters : Parameters} {item : String × String}
    (hitem : item ∈ parameters.items) : item.1 ∈ parameters.map Prod.fst := by
  obtain ⟨parameter, hparameter, hitem⟩ := List.mem_flatMap.mp hitem
  obtain ⟨value, -, rfl⟩ := List.mem_map.mp hitem
  exact List.mem_map_of_mem hparameter

/-- A setting whose name is its own stands between what the settings before and after it
list, whatever its values are. -/
theorem exists_items_around (grammar : QueryGrammar) {before after : List (String × List String)}
    (hbefore : name ∉ before.map Prod.fst) (hafter : name ∉ after.map Prod.fst) :
    ∃ first last : List (String × String),
      (∀ item ∈ first, item.1 ∈ before.map Prod.fst) ∧
      (∀ item ∈ last, item.1 ∈ after.map Prod.fst) ∧
      ∀ values, (assembled grammar (before ++ (name, values) :: after)).items =
        first ++ values.map (fun value => (name, value)) ++ last := by
  obtain ⟨first, last, hfirst, hlast, hfold⟩ :=
    exists_foldl_encloses after hafter (assembled grammar before).parameters []
  refine ⟨Parameters.items first, Parameters.items last, fun item hitem => ?_,
    fun item hitem => ?_, fun values => ?_⟩
  · have hmem := names_of_mem_items hitem
    rw [hfirst] at hmem
    exact mem_names_assembled hmem
  · exact (hlast item.1 (names_of_mem_items hitem)).resolve_left List.not_mem_nil
  · have hnew : name ∉ (assembled grammar before).names := fun hmem =>
      hbefore (mem_names_assembled hmem)
    obtain ⟨-, hparameters⟩ := hfold _ _ (encloses_setAll hnew values)
    rw [assembled, List.foldl_append, List.foldl_cons, ← assembled, items, hparameters]
    cases values <;> simp [Parameters.items]

end QueryBuilder

namespace Assembler

variable (assembler : Assembler) (options : LoadOptions)

/-- The settings before the limit. -/
def settingsBefore : Except CompileError (List (String × List String)) := do
  let tree ← (assembler.searchTree options).outcome
  let search ← QueryBuilder.searchOf tree
  let fields ← QueryBuilder.fieldsOf assembler.grammar.listDelimiter options.select
  let offset ← QueryBuilder.countOf assembler.grammar.offset options.skip
  return [ (assembler.grammar.search, search), (assembler.grammar.fields, fields),
    (assembler.grammar.sort, sortValues assembler.grammar.listDelimiter options.sort),
    (assembler.grammar.offset, offset) ]

/-- The settings after the limit, which do not depend on the options. -/
def settingsAfter : Except CompileError (List (String × List String)) := do
  let relations ← QueryBuilder.liftMisuse assembler.join.elements
  let join ← relations.mapM (QueryBuilder.relation assembler.grammar)
  return [ (assembler.grammar.join, join),
    (assembler.grammar.includeDeleted, if assembler.includeDeleted then ["1"] else []),
    (assembler.grammar.cache, if assembler.cache then [] else ["0"]) ]

variable {assembler options} in
theorem names_settingsBefore {before : List (String × List String)}
    (hbefore : assembler.settingsBefore options = .ok before) :
    before.map Prod.fst = [assembler.grammar.search, assembler.grammar.fields,
      assembler.grammar.sort, assembler.grammar.offset] := by
  obtain ⟨tree, -, hbefore⟩ := Outcome.bind_eq_ok_iff.mp hbefore
  obtain ⟨search, -, hbefore⟩ := Outcome.bind_eq_ok_iff.mp hbefore
  obtain ⟨fields, -, hbefore⟩ := Outcome.bind_eq_ok_iff.mp hbefore
  obtain ⟨offset, -, hbefore⟩ := Outcome.bind_eq_ok_iff.mp hbefore
  obtain rfl := Except.ok.inj hbefore
  rfl

variable {assembler} in
theorem names_settingsAfter {after : List (String × List String)}
    (hafter : assembler.settingsAfter = .ok after) :
    after.map Prod.fst =
      [assembler.grammar.join, assembler.grammar.includeDeleted, assembler.grammar.cache] := by
  obtain ⟨relations, -, hafter⟩ := Outcome.bind_eq_ok_iff.mp hafter
  obtain ⟨join, -, hafter⟩ := Outcome.bind_eq_ok_iff.mp hafter
  obtain rfl := Except.ok.inj hafter
  rfl

/-- A query is assembled exactly when its settings can be worked out, and fails with the
first of them that cannot. -/
theorem outcome_builder :
    (assembler.builder options).outcome = do
      let before ← assembler.settingsBefore options
      let limit ← QueryBuilder.countOf assembler.grammar.limit options.take
      let after ← assembler.settingsAfter
      return QueryBuilder.assembled assembler.grammar
        (before ++ (assembler.grammar.limit, limit) :: after) := by
  rw [builder, Compiled.outcome_bind]
  change ((assembler.searchTree options).outcome >>= fun tree =>
    (QueryBuilder.create assembler.grammar).search tree >>= fun searched =>
      addPage options searched >>= assembler.addSettings) = _
  simp only [settingsBefore, settingsAfter, addPage, addSettings, QueryBuilder.search_eq,
    QueryBuilder.select_eq, QueryBuilder.setOffset, QueryBuilder.setLimit,
    QueryBuilder.setCount_eq, QueryBuilder.setJoin_eq, QueryBuilder.sortBy_eq,
    QueryBuilder.setIncludeDeleted_eq, QueryBuilder.resetCache_eq,
    QueryBuilder.grammar_setAll, QueryBuilder.grammar_create, map_eq_pure_bind, bind_assoc,
    pure_bind]
  rfl

end Assembler

end GridSource
