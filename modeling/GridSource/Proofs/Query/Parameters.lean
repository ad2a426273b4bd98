import GridSource.Proofs.Filter.Steps
import GridSource.Proofs.Json.Scalars
import GridSource.Proofs.Outcome
import GridSource.Query.Assembly

/-!
# The parameters of a builder

Every setter of a builder comes down to one step: one parameter gets a list of
values, and nothing changes when there are none.  The relations below say which
values an argument of a setter stands for.  Steps on distinct parameters list
their values in the order of the steps.
-/

namespace GridSource

namespace Parameters

theorem set_of_not_mem {parameters : Parameters} {name : String}
    (hname : name ∉ parameters.map Prod.fst) (values : List String) :
    set parameters name values = parameters ++ [(name, values)] := by
  induction parameters with
  | nil => rfl
  | cons parameter rest ih =>
      simp only [List.map_cons, List.mem_cons, not_or] at hname
      rw [set, if_neg (Ne.symm hname.1), ih hname.2, List.cons_append]

theorem mem_names_set {parameters : Parameters} {name other : String} {values : List String}
    (hother : other ∈ (set parameters name values).map Prod.fst) :
    other ∈ parameters.map Prod.fst ∨ other = name := by
  induction parameters with
  | nil => exact .inr (List.mem_singleton.mp hother)
  | cons parameter rest ih =>
      rw [set] at hother
      split at hother
      · exact .inl hother
      · rcases List.mem_cons.mp hother with hfirst | hrest
        · exact .inl (List.mem_cons.mpr (.inl hfirst))
        · exact (ih hrest).imp_left (List.mem_cons_of_mem _)

end Parameters

namespace QueryBuilder

/-- Gives a parameter its values, if there are any. -/
def setAll (builder : QueryBuilder) (name : String) (values : List String) : QueryBuilder :=
  if values.isEmpty then builder else builder.set name values

/-- The names of the parameters that are present. -/
def names (builder : QueryBuilder) : List String := builder.parameters.map Prod.fst

@[simp]
theorem grammar_create (grammar : QueryGrammar) : (create grammar).grammar = grammar := rfl

@[simp]
theorem items_create (grammar : QueryGrammar) : (create grammar).items = [] := rfl

@[simp]
theorem grammar_setAll (builder : QueryBuilder) (name : String) (values : List String) :
    (builder.setAll name values).grammar = builder.grammar := by
  rw [setAll]
  split <;> rfl

@[simp]
theorem setAll_nil (builder : QueryBuilder) (name : String) : builder.setAll name [] = builder :=
  rfl

theorem setAll_of_ne_nil (builder : QueryBuilder) (name : String) {values : List String}
    (hvalues : values ≠ []) : builder.setAll name values = builder.set name values := by
  rw [setAll, if_neg (by simpa using hvalues)]

theorem items_setAll {builder : QueryBuilder} {name : String} (hname : name ∉ builder.names)
    (values : List String) :
    (builder.setAll name values).items =
      builder.items ++ values.map fun value => (name, value) := by
  by_cases hvalues : values = []
  · simp [hvalues]
  · rw [setAll_of_ne_nil builder name hvalues, items, set, Parameters.set_of_not_mem hname, items]
    simp [Parameters.items]

theorem mem_names_setAll {builder : QueryBuilder} {name other : String} {values : List String}
    (hother : other ∈ (builder.setAll name values).names) :
    other ∈ builder.names ∨ other = name := by
  by_cases hvalues : values = []
  · subst hvalues
    exact .inl hother
  · rw [setAll_of_ne_nil builder name hvalues] at hother
    exact Parameters.mem_names_set hother

/-- Steps on distinct parameters list their values in the order of the steps. -/
theorem items_foldl_setAll (settings : List (String × List String)) (builder : QueryBuilder)
    (hdistinct : (settings.map Prod.fst).Nodup)
    (hnew : ∀ setting ∈ settings, setting.1 ∉ builder.names) :
    (settings.foldl (fun collected setting => collected.setAll setting.1 setting.2) builder).items =
      builder.items ++ settings.flatMap fun setting =>
        setting.2.map fun value => (setting.1, value) := by
  induction settings generalizing builder with
  | nil => simp
  | cons setting rest ih =>
      rw [List.map_cons, List.nodup_cons] at hdistinct
      have hsetting := hnew setting List.mem_cons_self
      have hrest : ∀ other ∈ rest,
          other.1 ∉ (builder.setAll setting.1 setting.2).names := by
        intro other hother hmem
        rcases mem_names_setAll hmem with hpresent | hsame
        · exact hnew other (List.mem_cons_of_mem _ hother) hpresent
        · exact hdistinct.1 (hsame ▸ List.mem_map_of_mem hother)
      rw [List.foldl_cons, ih _ hdistinct.2 hrest, items_setAll hsetting, List.flatMap_cons,
        List.append_assoc]

end QueryBuilder

/-! ## What a setter is given -/

/-- A selection is one name or lists names. -/
inductive SelectValues (delimiter : String) : Value → List String → Prop where
  | absent {fields : Value} (hfields : fields.truthy = false) : SelectValues delimiter fields []
  | name {name : String} (hname : name ≠ "") : SelectValues delimiter (.text name) [name]
  | names {fields : Value} {names : List String} (hfields : ∀ name, fields ≠ .text name)
      (hnames : fields.elements? = some (names.map .text)) (hsome : names ≠ []) :
      SelectValues delimiter fields [delimiter.intercalate names]

/-- What one descriptor sorts by; a descriptor that is neither a name nor an object
with a name sorts by nothing. -/
def sortText? (delimiter : String) : Value → Option String
  | .text name => some (name ++ delimiter ++ "ASC")
  | .object members =>
      match Members.named? members "selector" with
      | some (.text name) =>
          if name = "" then none
          else if ((Members.named? members "desc").getD .null).truthy then
            some (name ++ delimiter ++ "DESC")
          else some (name ++ delimiter ++ "ASC")
      | _ => none
  | _ => none

/-- A sort option is one descriptor or a sequence of them. -/
def sortDescriptors : Value → List Value
  | .list descriptors | .tuple descriptors => descriptors
  | descriptor => [descriptor]

/-- One value for each valid descriptor of a sort option. -/
def sortValues (delimiter : String) (sort : Value) : List String :=
  if sort.truthy then (sortDescriptors sort).filterMap (sortText? delimiter) else []

/-- A count is null or an integer from zero on. -/
inductive CountValues : Value → List String → Prop where
  | absent : CountValues .null []
  | count {value : Value} {number : Int} (hvalue : QueryBuilder.integral value = .int number)
      (hnumber : 0 ≤ number) : CountValues value [toString number]

/-- A relation to join is a name, or an object of a name and what to select. -/
inductive RelationText (relationDelimiter listDelimiter : String) : Value → String → Prop where
  | name (name : String) : RelationText relationDelimiter listDelimiter (.text name) name
  | whole {members : Members} {name : String}
      (hname : Members.named? members "field" = some (.text name))
      (hselect : ∀ chosen, Members.named? members "select" = some chosen →
        chosen.truthy = false) :
      RelationText relationDelimiter listDelimiter (.object members) name
  | part {members : Members} {name : String} {chosen : Value} {names : List String}
      (hname : Members.named? members "field" = some (.text name))
      (hselect : Members.named? members "select" = some chosen)
      (hchosen : chosen.truthy = true)
      (hnames : chosen.elements? = some (names.map .text)) :
      RelationText relationDelimiter listDelimiter (.object members)
        (name ++ relationDelimiter ++ listDelimiter.intercalate names)

/-- One value for each relation of a setting. -/
def JoinValues (relationDelimiter listDelimiter : String) (join : Value)
    (values : List String) : Prop :=
  ∃ relations, join.elements? = some relations ∧
    List.Forall₂ (RelationText relationDelimiter listDelimiter) relations values

namespace QueryBuilder

@[simp]
theorem liftMisuse_eq_ok_iff {α : Type} {outcome : Except Misuse α} {result : α} :
    liftMisuse outcome = .ok result ↔ outcome = .ok result :=
  Outcome.mapError_eq_ok_iff

theorem encoded_eq_ok_iff {builder : QueryBuilder} {alphabet : Alphabet} {query : String} :
    builder.encoded alphabet = .ok query ↔
      builder.isEncodable alphabet = true ∧ builder.query = query := by
  rw [encoded]
  cases builder.isEncodable alphabet <;> simp

theorem encoded_eq_error_iff {builder : QueryBuilder} {alphabet : Alphabet} {cause : Misuse} :
    builder.encoded alphabet = .error cause ↔
      builder.isEncodable alphabet = false ∧ .notEncodable = cause := by
  rw [encoded]
  cases builder.isEncodable alphabet <;> simp

@[simp]
theorem isEncodable_unicode (builder : QueryBuilder) : builder.isEncodable .unicode = true := by
  simp [isEncodable]

@[simp]
theorem elements_eq_ok_iff {value : Value} {items : List Value} :
    value.elements = .ok items ↔ value.elements? = some items := by
  rw [Value.elements]
  cases value.elements? <;> simp

theorem eq_map_text_of_forall₂ {items : List Value} {names : List String}
    (hitems : List.Forall₂ (fun item name => item = .text name) items names) :
    items = names.map .text := by
  rw [← List.forall₂_eq_eq_eq, List.forall₂_map_right_iff]
  exact hitems

@[simp]
theorem selectedName_eq_ok_iff {value : Value} {name : String} :
    selectedName value = .ok name ↔ value = .text name ∧ name ≠ "" := by
  cases value with
  | text content =>
      rw [selectedName]
      split
      · next hempty =>
          rw [String.isEmpty_iff] at hempty
          subst hempty
          simp only [reduceCtorEq, Value.text.injEq, false_iff, not_and, not_not]
          exact Eq.symm
      · next hsome =>
          rw [String.isEmpty_iff] at hsome
          simp only [Except.ok.injEq, Value.text.injEq]
          exact ⟨fun h => ⟨h, h ▸ hsome⟩, And.left⟩
  | _ => simp [selectedName]

@[simp]
theorem textItem_eq_ok_iff {value : Value} {name : String} :
    textItem value = .ok name ↔ value = .text name := by
  cases value <;> simp [textItem]

theorem mapM_selectedName {chosen : List Value} {names : List String}
    (hnames : chosen.mapM selectedName = .ok names) : chosen = names.map .text := by
  have hitems := Outcome.mapM_eq_ok_iff.mp hnames
  simp only [selectedName_eq_ok_iff] at hitems
  exact eq_map_text_of_forall₂ (hitems.imp fun _ _ h => h.1)

/-- A value without elements counts as false. -/
theorem truthy_of_elements? {value : Value} (hvalue : value.elements? = some []) :
    value.truthy = false := by
  cases value with
  | list items | tuple items =>
      obtain rfl := Option.some.inj hvalue
      rfl
  | text content =>
      simp only [Value.elements?, Option.some.injEq, List.map_eq_nil_iff,
        String.toList_eq_nil_iff] at hvalue
      subst hvalue
      rfl
  | object members =>
      simp only [Value.elements?, Option.some.injEq, List.map_eq_nil_iff] at hvalue
      subst hvalue
      rfl
  | _ => contradiction

theorem select_eq_ok {builder result : QueryBuilder} {fields : Value}
    (hresult : builder.select fields = .ok result) :
    ∃ values, SelectValues builder.grammar.listDelimiter fields values ∧
      result = builder.setAll builder.grammar.fields values := by
  rw [select] at hresult
  split at hresult
  · next htruthy =>
      split at hresult
      · next name =>
          obtain ⟨chosen, hchosen, hresult⟩ := Outcome.bind_eq_ok_iff.mp hresult
          obtain ⟨names, hnames, hresult⟩ := Outcome.bind_eq_ok_iff.mp hresult
          obtain rfl := Except.ok.inj hresult
          obtain rfl := Except.ok.inj hchosen
          have htexts : names.map Value.text = [.text name] := (mapM_selectedName hnames).symm
          obtain ⟨other, rfl, hother⟩ := List.map_eq_singleton_iff.mp htexts
          obtain rfl := Value.text.inj hother
          rw [String.intercalate_singleton]
          refine ⟨[other], .name ?_, rfl⟩
          rintro rfl
          exact absurd htruthy (by decide)
      · next hnot =>
          obtain ⟨chosen, hchosen, hresult⟩ := Outcome.bind_eq_ok_iff.mp hresult
          obtain ⟨names, hnames, hresult⟩ := Outcome.bind_eq_ok_iff.mp hresult
          obtain rfl := Except.ok.inj hresult
          rw [liftMisuse_eq_ok_iff, elements_eq_ok_iff, mapM_selectedName hnames] at hchosen
          refine ⟨_, .names (fun name h => hnot name h) hchosen ?_, rfl⟩
          rintro rfl
          rw [truthy_of_elements? hchosen] at htruthy
          contradiction
  · next hfalsy =>
      obtain rfl := Except.ok.inj hresult
      exact ⟨[], .absent (by simpa using hfalsy), rfl⟩

@[simp]
theorem map_render_ofDescriptor? (delimiter : String) (descriptor : Value) :
    (SortOrder.ofDescriptor? descriptor).map (·.render delimiter) =
      sortText? delimiter descriptor := by
  cases descriptor with
  | object members =>
      rw [SortOrder.ofDescriptor?, sortText?]
      cases Members.named? members "selector" with
      | none => rfl
      | some selector =>
          cases selector with
          | text name =>
              by_cases hempty : name = ""
              · simp [hempty]
              · simp only [String.isEmpty_iff, hempty, if_false, Option.map_some,
                  SortOrder.selected]
                cases Members.named? members "desc" with
                | none => rfl
                | some flag =>
                    simp only [Option.getD_some]
                    split <;> rfl
          | _ => rfl
  | _ => rfl

theorem listOfValue_eq (sort : Value) :
    SortOrder.listOfValue sort =
      if sort.truthy then some ((sortDescriptors sort).map SortOrder.ofDescriptor?) else none := by
  cases sort <;> rfl

theorem sortBy_eq (builder : QueryBuilder) (sort : Value) :
    Assembler.sortBy builder sort =
      builder.setAll builder.grammar.sort (sortValues builder.grammar.listDelimiter sort) := by
  rw [Assembler.sortBy, listOfValue_eq, sortValues]
  by_cases htruthy : sort.truthy = true
  · rw [if_pos htruthy, if_pos htruthy]
    change builder.setAll builder.grammar.sort
      ((((sortDescriptors sort).map SortOrder.ofDescriptor?).filterMap id).map
        (·.render builder.grammar.listDelimiter)) = _
    rw [List.filterMap_map, List.map_filterMap]
    simp only [Function.comp_apply, id_eq, map_render_ofDescriptor?]
  · rw [if_neg htruthy, if_neg htruthy, setAll_nil]

theorem setCount_eq_ok {builder result : QueryBuilder} {name : String} {value : Value}
    (hresult : builder.setCount name value = .ok result) :
    ∃ values, CountValues value values ∧ result = builder.setAll name values := by
  rw [setCount] at hresult
  by_cases hnull : value.isNull = true
  · rw [if_pos hnull] at hresult
    obtain rfl := Except.ok.inj hresult
    refine ⟨[], ?_, rfl⟩
    cases value with
    | null => exact .absent
    | _ => contradiction
  · rw [if_neg hnull] at hresult
    split at hresult
    · next number hnumber =>
        split at hresult
        · contradiction
        · next hpositive =>
            obtain ⟨text, htext, hresult⟩ := Outcome.bind_eq_ok_iff.mp hresult
            obtain rfl := Except.ok.inj hresult
            rw [liftMisuse_eq_ok_iff, integerText_eq_ok_iff] at htext
            obtain ⟨-, rfl⟩ := htext
            exact ⟨[toString number], .count hnumber (by omega), rfl⟩
    · contradiction

theorem relation_eq_ok {grammar : QueryGrammar} {value : Value} {text : String}
    (htext : relation grammar value = .ok text) :
    RelationText grammar.relationDelimiter grammar.listDelimiter value text := by
  cases value with
  | text name =>
      obtain rfl := Except.ok.inj htext
      exact .name name
  | object members =>
      rw [relation] at htext
      split at htext
      · next name hname =>
          split at htext
          · next chosen hselect =>
              split at htext
              · next hchosen =>
                  rw [liftMisuse_eq_ok_iff, relationWith] at htext
                  obtain ⟨items, hitems, htext⟩ := Outcome.bind_eq_ok_iff.mp htext
                  obtain ⟨names, hnames, htext⟩ := Outcome.bind_eq_ok_iff.mp htext
                  obtain rfl := Except.ok.inj htext
                  have hforall := Outcome.mapM_eq_ok_iff.mp hnames
                  simp only [textItem_eq_ok_iff] at hforall
                  rw [elements_eq_ok_iff, eq_map_text_of_forall₂ hforall] at hitems
                  exact .part hname hselect hchosen hitems
              · next hchosen =>
                  obtain rfl := Except.ok.inj htext
                  refine .whole hname fun other hother => ?_
                  obtain rfl := Option.some.inj (hselect.symm.trans hother)
                  simpa using hchosen
          · next hselect =>
              obtain rfl := Except.ok.inj htext
              exact .whole hname fun other hother => by simp [hselect] at hother
      · contradiction
  | _ => contradiction

/-- What a relation stands for is what it is rendered to. -/
theorem relation_of_relationText {grammar : QueryGrammar} {value : Value} {text : String}
    (htext : RelationText grammar.relationDelimiter grammar.listDelimiter value text) :
    relation grammar value = .ok text := by
  cases htext with
  | name => rfl
  | whole hname hselect =>
      rw [relation, hname]
      dsimp only
      split
      · next chosen hchosen => rw [hselect chosen hchosen, if_neg Bool.false_ne_true]
      · rfl
  | @part members name chosen names hname hselect hchosen hnames =>
      have hitems : chosen.elements = .ok (names.map .text) := elements_eq_ok_iff.mpr hnames
      have htexts : (names.map Value.text).mapM textItem = .ok names := by
        rw [Outcome.mapM_eq_ok_iff, List.forall₂_map_left_iff, List.forall₂_same]
        exact fun _ _ => rfl
      rw [relation, hname]
      dsimp only
      rw [hselect]
      dsimp only
      rw [if_pos hchosen, relationWith, hitems, Outcome.ok_bind, htexts]
      rfl

theorem setJoin_eq_ok {builder result : QueryBuilder} {relations : List Value}
    (hresult : builder.setJoin (.list relations) = .ok result) :
    ∃ values, List.Forall₂ (RelationText builder.grammar.relationDelimiter
        builder.grammar.listDelimiter) relations values ∧
      result = builder.setAll builder.grammar.join values := by
  rw [setJoin] at hresult
  split at hresult
  · next htruthy =>
      obtain ⟨items, hitems, hresult⟩ := Outcome.bind_eq_ok_iff.mp hresult
      obtain ⟨values, hvalues, hresult⟩ := Outcome.bind_eq_ok_iff.mp hresult
      obtain rfl := Except.ok.inj hresult
      rw [liftMisuse_eq_ok_iff, elements_eq_ok_iff] at hitems
      obtain rfl := Option.some.inj hitems
      have htexts := (Outcome.mapM_eq_ok_iff.mp hvalues).imp fun _ _ h => relation_eq_ok h
      refine ⟨values, htexts, ?_⟩
      rw [setAll_of_ne_nil]
      rintro rfl
      cases htexts
      contradiction
  · next hfalsy =>
      obtain rfl := Except.ok.inj hresult
      refine ⟨[], ?_, rfl⟩
      cases relations with
      | nil => exact .nil
      | cons first rest => exact absurd rfl hfalsy

theorem setIncludeDeleted_eq (builder : QueryBuilder) (included : Bool) :
    builder.setIncludeDeleted included =
      builder.setAll builder.grammar.includeDeleted (if included then ["1"] else []) := by
  cases included <;> rfl

theorem resetCache_eq (builder : QueryBuilder) (cache : Bool) :
    (if cache then builder else builder.resetCache) =
      builder.setAll builder.grammar.cache (if cache then [] else ["0"]) := by
  cases cache <;> rfl

/-- The text of a search tree; what is no object has none. -/
def searchText? (tree : Value) : Option String :=
  if tree.isObject then (Json.write .search tree).toOption else none

theorem search_eq_ok_iff {builder result : QueryBuilder} {tree : Value} :
    builder.search tree = .ok result ↔
      (tree.isObject = true → ∃ text, Json.write .search tree = .ok text) ∧
        result = builder.setAll builder.grammar.search (searchText? tree).toList := by
  rw [search, searchText?]
  cases hobject : tree.isObject with
  | false =>
      rw [if_neg Bool.false_ne_true, if_neg Bool.false_ne_true]
      simp [eq_comm]
  | true =>
      rw [if_pos rfl, if_pos rfl]
      cases Json.write .search tree with
      | error cause => simp [liftMisuse, Except.mapError, bind, Except.bind]
      | ok text =>
          simp only [Except.ok.injEq, exists_eq', implies_true, true_and]
          exact ⟨fun h => (Except.ok.inj h).symm, fun h => h ▸ rfl⟩

end QueryBuilder

/-! ## An assembled builder -/

namespace Assembler

/-- The parameters of an assembled builder in their order, each with its values. -/
def settings (assembler : Assembler) (tree : Value) (sort : Value)
    (fields offset limit join : List String) : List (String × List String) :=
  [ (assembler.grammar.search, (QueryBuilder.searchText? tree).toList),
    (assembler.grammar.fields, fields),
    (assembler.grammar.sort, sortValues assembler.grammar.listDelimiter sort),
    (assembler.grammar.offset, offset),
    (assembler.grammar.limit, limit),
    (assembler.grammar.join, join),
    (assembler.grammar.includeDeleted, if assembler.includeDeleted then ["1"] else []),
    (assembler.grammar.cache, if assembler.cache then [] else ["0"]) ]

/-- A builder that assembles has gone through the settings one by one. -/
theorem builder_eq_settings {assembler : Assembler} {options : LoadOptions}
    {built : QueryBuilder} (hbuilt : (assembler.builder options).outcome = .ok built) :
    ∃ tree fields offset limit join,
      (assembler.searchTree options).outcome = .ok tree ∧
      (tree.isObject = true → ∃ text, Json.write .search tree = .ok text) ∧
      SelectValues assembler.grammar.listDelimiter options.select fields ∧
      CountValues options.skip offset ∧
      CountValues options.take limit ∧
      JoinValues assembler.grammar.relationDelimiter assembler.grammar.listDelimiter
        assembler.join join ∧
      built = (assembler.settings tree options.sort fields offset limit join).foldl
        (fun collected setting => collected.setAll setting.1 setting.2)
        (QueryBuilder.create assembler.grammar) := by
  rw [builder, Compiled.outcome_bind_eq_ok_iff] at hbuilt
  obtain ⟨tree, htree, hbuilt⟩ := hbuilt
  obtain ⟨searched, hsearched, hbuilt⟩ := Outcome.bind_eq_ok_iff.mp hbuilt
  obtain ⟨paged, hpaged, hbuilt⟩ := Outcome.bind_eq_ok_iff.mp hbuilt
  rw [addPage] at hpaged
  obtain ⟨selected, hselected, hpaged⟩ := Outcome.bind_eq_ok_iff.mp hpaged
  obtain ⟨skipped, hskipped, hpaged⟩ := Outcome.bind_eq_ok_iff.mp hpaged
  rw [addSettings] at hbuilt
  obtain ⟨relations, hrelations, hbuilt⟩ := Outcome.bind_eq_ok_iff.mp hbuilt
  obtain ⟨joined, hjoined, hbuilt⟩ := Outcome.bind_eq_ok_iff.mp hbuilt
  obtain rfl := Except.ok.inj hbuilt
  obtain ⟨hwritten, rfl⟩ := QueryBuilder.search_eq_ok_iff.mp hsearched
  obtain ⟨fields, hselect, rfl⟩ := QueryBuilder.select_eq_ok hselected
  obtain ⟨offset, hoffset, rfl⟩ := QueryBuilder.setCount_eq_ok hskipped
  obtain ⟨limit, hlimit, rfl⟩ := QueryBuilder.setCount_eq_ok hpaged
  obtain ⟨join, hjoin, rfl⟩ := QueryBuilder.setJoin_eq_ok hjoined
  rw [QueryBuilder.liftMisuse_eq_ok_iff, QueryBuilder.elements_eq_ok_iff] at hrelations
  refine ⟨tree, fields, offset, limit, join, htree, hwritten, ?_, hoffset, hlimit,
    ⟨relations, hrelations, ?_⟩, ?_⟩
  · simpa using hselect
  · simpa [QueryBuilder.sortBy_eq] using hjoin
  · simp only [settings, QueryBuilder.resetCache_eq, QueryBuilder.setIncludeDeleted_eq,
      QueryBuilder.sortBy_eq, QueryBuilder.grammar_setAll, List.foldl_cons, List.foldl_nil]
    rfl

/-- A query is the text of its builder, if this can be encoded. -/
theorem outcome_query (assembler : Assembler) (options : LoadOptions) :
    (assembler.query options).outcome =
      (assembler.builder options).outcome >>= fun built =>
        QueryBuilder.liftMisuse (built.encoded assembler.alphabet) := by
  rw [query, Compiled.outcome_bind]
  rfl

theorem query_eq_ok_iff {assembler : Assembler} {options : LoadOptions} {query : String} :
    (assembler.query options).outcome = .ok query ↔
      ∃ built, (assembler.builder options).outcome = .ok built ∧
        built.isEncodable assembler.alphabet = true ∧ built.query = query := by
  simp only [outcome_query, Outcome.bind_eq_ok_iff,
    QueryBuilder.liftMisuse_eq_ok_iff, QueryBuilder.encoded_eq_ok_iff]

end Assembler

end GridSource
