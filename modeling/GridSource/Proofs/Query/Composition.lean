import GridSource.Proofs.Query.Unreported
import GridSource.Proofs.Url.Query
import Mathlib.Data.List.Nodup

/-!
# A query from the queries of its fragments

Load options fall into five fragments, and the settings of the store are a sixth.  Each of
them has a query of its own.  The query of the whole is made of theirs, in a fixed order.  It
fails with the first of them that fails before it is encoded, or else, when one of them cannot
be encoded, with this.
-/

namespace GridSource

namespace Form

/-- A query is written list by list; an empty list leaves no trace. -/
theorem encode_flatten (lists : List (List (String × String))) :
    encode lists.flatten = "&".intercalate ((lists.map encode).filter (· ≠ "")) := by
  induction lists with
  | nil => rfl
  | cons pairs rest ih =>
      rw [List.flatten_cons, List.map_cons, List.filter_cons]
      by_cases hpairs : pairs = []
      · subst hpairs
        exact ih
      · have hwritten : encode pairs ≠ "" := encode_eq_empty_iff.not.mpr hpairs
        rw [if_pos (by simpa using hwritten)]
        by_cases hrest : rest.flatten = []
        · rw [hrest, List.append_nil]
          rw [hrest] at ih
          have hnone : (rest.map encode).filter (· ≠ "") = [] := by
            rw [List.filter_eq_nil_iff]
            intro written hmem
            obtain ⟨list, hlist, rfl⟩ := List.mem_map.mp hmem
            rw [List.flatten_eq_nil_iff.mp hrest list hlist]
            decide
          rw [hnone, String.intercalate_singleton]
        · have hsome : (rest.map encode).filter (· ≠ "") ≠ [] := by
            intro hnone
            rw [hnone] at ih
            exact hrest (encode_eq_empty_iff.mp ih)
          rw [String.intercalate_cons_of_ne_nil hsome, ← ih, encode, List.map_append,
            String.intercalate_append_of_ne_nil (by simpa using hpairs) (by simpa using hrest)]
          rfl

end Form

namespace Json

/-! ## Writing is not encoding -/

theorem integerText_ne_notEncodable (number : Int) :
    integerText number ≠ .error .notEncodable := by
  rw [integerText]
  split <;> simp [tooManyDigits]

theorem writeNumber_ne_notEncodable (style : JsonStyle) (number : Float) :
    writeNumber style number ≠ .error .notEncodable := by
  rw [writeNumber]
  split <;> simp

theorem memberName_ne_notEncodable (style : JsonStyle) (key : Value) :
    memberName style key ≠ .error .notEncodable := by
  cases key with
  | int number => exact integerText_ne_notEncodable number
  | float number => exact writeNumber_ne_notEncodable style number
  | _ => simp [memberName]

mutual

/-- A value that cannot be written fails before it could be encoded. -/
theorem write_ne_notEncodable (style : JsonStyle) (value : Value) :
    write style value ≠ .error .notEncodable := by
  match value with
  | .null | .bool _ | .text _ => simp [write]
  | .int number => exact integerText_ne_notEncodable number
  | .float number => exact writeNumber_ne_notEncodable style number
  | .list items | .tuple items =>
      rw [write]
      exact Outcome.bind_ne_error (writeItems_ne_notEncodable style items) (by simp)
  | .object members =>
      rw [write]
      exact Outcome.bind_ne_error (writeMembers_ne_notEncodable style members) (by simp)
  | .foreign label =>
      rw [write, writeForeign]
      split <;> simp

theorem writeItems_ne_notEncodable (style : JsonStyle) (items : List Value) :
    writeItems style items ≠ .error .notEncodable := by
  match items with
  | [] => simp [writeItems]
  | item :: rest =>
      rw [writeItems]
      refine Outcome.bind_ne_error (write_ne_notEncodable style item) fun _ => ?_
      exact Outcome.bind_ne_error (writeItems_ne_notEncodable style rest) (by simp)

theorem writeMembers_ne_notEncodable (style : JsonStyle) (members : Members) :
    writeMembers style members ≠ .error .notEncodable := by
  match members with
  | [] => simp [writeMembers]
  | (key, value) :: rest =>
      rw [writeMembers]
      refine Outcome.bind_ne_error (memberName_ne_notEncodable style key) fun _ => ?_
      refine Outcome.bind_ne_error (write_ne_notEncodable style value) fun _ => ?_
      exact Outcome.bind_ne_error (writeMembers_ne_notEncodable style rest) (by simp)

end

end Json

/-! ## Fragments -/

/-- What a query is made of: five fragments of the load options and the settings of the
store. -/
inductive QueryFragment where
  | filter
  | select
  | sort
  | skip
  | take
  | settings
deriving Repr, DecidableEq

namespace QueryFragment

/-- The fragments in the order of their parameters. -/
def all : List QueryFragment := [.filter, .select, .sort, .skip, .take, .settings]

/-- The parameters that belong to a fragment. -/
def names (grammar : QueryGrammar) : QueryFragment → List String
  | .filter => [grammar.search]
  | .select => [grammar.fields]
  | .sort => [grammar.sort]
  | .skip => [grammar.offset]
  | .take => [grammar.limit]
  | .settings => [grammar.join, grammar.includeDeleted, grammar.cache]

/-- The options that have one fragment only; the search box belongs to the filter. -/
def part (options : LoadOptions) : QueryFragment → LoadOptions
  | .filter =>
      { LoadOptions.default with
        filter := options.filter
        searchFields := options.searchFields
        searchOperation := options.searchOperation
        searchValue := options.searchValue }
  | .select => { LoadOptions.default with select := options.select }
  | .sort => { LoadOptions.default with sort := options.sort }
  | .skip => { LoadOptions.default with skip := options.skip }
  | .take => { LoadOptions.default with take := options.take }
  | .settings => LoadOptions.default

end QueryFragment

namespace QueryBuilder

/-- Parameters that are set to nothing leave the builder as it is. -/
theorem foldl_setAll_nil (names : List String) (builder : QueryBuilder) :
    (names.map fun name => (name, ([] : List String))).foldl
      (fun collected setting => collected.setAll setting.1 setting.2) builder = builder := by
  induction names with
  | nil => rfl
  | cons name rest ih => exact ih

theorem searchOf_ne_notEncodable (tree : Value) :
    searchOf tree ≠ .error (.misuse .notEncodable) := by
  rw [ne_eq, searchOf_eq_error_iff]
  rintro ⟨-, cause, hwrite, hsame⟩
  obtain rfl := CompileError.misuse.inj hsame
  exact Json.write_ne_notEncodable .search tree hwrite

theorem fieldsOf_ne_notEncodable (delimiter : String) (fields : Value) :
    fieldsOf delimiter fields ≠ .error (.misuse .notEncodable) := by
  intro hfailure
  rcases fieldsOf_cases hfailure with hreported | ⟨-, -, hsame⟩
  · exact CompileError.not_isReported_misuse _ hreported
  · simp at hsame

theorem countOf_ne_notEncodable (name : String) (value : Value) :
    countOf name value ≠ .error (.misuse .notEncodable) := by
  intro hfailure
  rcases countOf_cases hfailure with hreported | ⟨-, hsame⟩
  · exact CompileError.not_isReported_misuse _ hreported
  · simp [tooManyDigits] at hsame

theorem relationWith_ne_notEncodable (grammar : QueryGrammar) (name : String) (chosen : Value) :
    relationWith grammar name chosen ≠ .error .notEncodable := by
  refine Outcome.bind_ne_error ?_ fun items => Outcome.bind_ne_error ?_ (by simp)
  · simp [elements_eq_error_iff]
  · exact Outcome.mapM_ne_error fun item _ => by cases item <;> simp [textItem]

theorem relation_ne_notEncodable (grammar : QueryGrammar) (value : Value) :
    relation grammar value ≠ .error (.misuse .notEncodable) := by
  unfold relation
  split
  · simp
  · split
    · split
      · split
        · simp [liftMisuse_eq_error_iff, relationWith_ne_notEncodable]
        · simp
      · simp
    · simp
  · simp

end QueryBuilder

namespace Assembler

/-- The same assembler for a store that joins nothing, uses its cache and leaves deleted
records out. -/
def withoutSettings (assembler : Assembler) : Assembler :=
  { assembler with join := .tuple [], cache := true, includeDeleted := false }

/-- The assembler that a fragment has by itself. -/
def onlyFor (assembler : Assembler) (fragment : QueryFragment) : Assembler :=
  if fragment = .settings then assembler else assembler.withoutSettings

/-- The query of one fragment by itself. -/
def alone (assembler : Assembler) (options : LoadOptions) (fragment : QueryFragment) :
    Compiled String :=
  (assembler.onlyFor fragment).query (fragment.part options)

/-- What a fragment sets. -/
def settingsOf (assembler : Assembler) (options : LoadOptions) :
    QueryFragment → Except CompileError (List (String × List String))
  | .filter => do
      let tree ← (assembler.searchTree options).outcome
      let search ← QueryBuilder.searchOf tree
      return [(assembler.grammar.search, search)]
  | .select => do
      let fields ← QueryBuilder.fieldsOf assembler.grammar.listDelimiter options.select
      return [(assembler.grammar.fields, fields)]
  | .sort =>
      .ok [(assembler.grammar.sort, sortValues assembler.grammar.listDelimiter options.sort)]
  | .skip => do
      let offset ← QueryBuilder.countOf assembler.grammar.offset options.skip
      return [(assembler.grammar.offset, offset)]
  | .take => do
      let limit ← QueryBuilder.countOf assembler.grammar.limit options.take
      return [(assembler.grammar.limit, limit)]
  | .settings => assembler.settingsAfter

theorem searchTree_ne_notEncodable (assembler : Assembler) (options : LoadOptions) :
    (assembler.searchTree options).outcome ≠ .error (.misuse .notEncodable) := by
  intro hfailure
  rcases searchTree_cases hfailure with hreported | ⟨-, hsame⟩ | ⟨-, hsame⟩
  · exact CompileError.not_isReported_misuse _ hreported
  · simp at hsame
  · simp [tooManyDigits] at hsame

variable {assembler : Assembler} {options : LoadOptions}

/-- The query of some settings, if it can be encoded. -/
def encodedSettings (assembler : Assembler) (settings : List (String × List String)) :
    Except CompileError String :=
  QueryBuilder.liftMisuse
    ((QueryBuilder.assembled assembler.grammar settings).encoded assembler.alphabet)

/-- A query sets what its fragments set, one after the other, and is encoded at the end. -/
theorem outcome_query_eq_mapM (assembler : Assembler) (options : LoadOptions) :
    (assembler.query options).outcome =
      QueryFragment.all.mapM (assembler.settingsOf options) >>= fun settings =>
        assembler.encodedSettings settings.flatten := by
  rw [outcome_query, outcome_builder]
  simp only [encodedSettings, QueryFragment.all, settingsOf, settingsBefore, List.mapM_cons,
    List.mapM_nil, bind_assoc, pure_bind, Outcome.ok_bind, List.flatten_cons,
    List.flatten_nil, List.cons_append, List.nil_append, List.append_nil]

theorem names_settingsOf {fragment : QueryFragment} {settings : List (String × List String)}
    (hsettings : assembler.settingsOf options fragment = .ok settings) :
    settings.map Prod.fst = fragment.names assembler.grammar := by
  cases fragment with
  | filter =>
      obtain ⟨tree, -, hsettings⟩ := Outcome.bind_eq_ok_iff.mp hsettings
      obtain ⟨search, -, hsettings⟩ := Outcome.bind_eq_ok_iff.mp hsettings
      obtain rfl := Except.ok.inj hsettings
      rfl
  | select | skip | take =>
      obtain ⟨values, -, hsettings⟩ := Outcome.bind_eq_ok_iff.mp hsettings
      obtain rfl := Except.ok.inj hsettings
      rfl
  | sort =>
      obtain rfl := Except.ok.inj hsettings
      rfl
  | settings => exact names_settingsAfter hsettings

/-- Nothing is encoded while the settings are worked out. -/
theorem settingsOf_ne_notEncodable (fragment : QueryFragment) :
    assembler.settingsOf options fragment ≠ .error (.misuse .notEncodable) := by
  cases fragment with
  | filter =>
      exact Outcome.bind_ne_error (searchTree_ne_notEncodable assembler options) fun tree =>
        Outcome.bind_ne_error (QueryBuilder.searchOf_ne_notEncodable tree) (by simp)
  | select => exact Outcome.bind_ne_error (QueryBuilder.fieldsOf_ne_notEncodable _ _) (by simp)
  | sort => simp [settingsOf]
  | skip | take =>
      exact Outcome.bind_ne_error (QueryBuilder.countOf_ne_notEncodable _ _) (by simp)
  | settings =>
      refine Outcome.bind_ne_error ?_ fun relations => Outcome.bind_ne_error ?_ (by simp)
      · simp [QueryBuilder.liftMisuse_eq_error_iff, QueryBuilder.elements_eq_error_iff]
      · exact Outcome.mapM_ne_error fun value _ => QueryBuilder.relation_ne_notEncodable _ value

theorem encodedSettings_eq_ok_iff {settings : List (String × List String)} {query : String} :
    assembler.encodedSettings settings = .ok query ↔
      (QueryBuilder.assembled assembler.grammar settings).isEncodable assembler.alphabet = true ∧
        (QueryBuilder.assembled assembler.grammar settings).query = query := by
  rw [encodedSettings, QueryBuilder.liftMisuse_eq_ok_iff, QueryBuilder.encoded_eq_ok_iff]

theorem encodedSettings_eq_error_iff {settings : List (String × List String)}
    {failure : CompileError} :
    assembler.encodedSettings settings = .error failure ↔
      (QueryBuilder.assembled assembler.grammar settings).isEncodable assembler.alphabet = false ∧
        .misuse .notEncodable = failure := by
  simp only [encodedSettings, QueryBuilder.liftMisuse_eq_error_iff,
    QueryBuilder.encoded_eq_error_iff]
  simp

/-! ## A fragment by itself -/

variable {fragment other : QueryFragment}

/-- The other fragments set their parameters to nothing. -/
theorem settingsOf_other (hother : other ≠ fragment) :
    (assembler.onlyFor fragment).settingsOf (fragment.part options) other =
      .ok ((other.names assembler.grammar).map fun name => (name, [])) := by
  cases fragment <;> cases other <;> first | contradiction | rfl

theorem settingsOf_onlyFor (fragment : QueryFragment) :
    (assembler.onlyFor fragment).settingsOf (fragment.part options) fragment =
      assembler.settingsOf options fragment := by
  cases fragment <;> rfl

theorem outcome_alone (assembler : Assembler) (options : LoadOptions) (fragment : QueryFragment) :
    (assembler.alone options fragment).outcome =
      assembler.settingsOf options fragment >>= assembler.encodedSettings := by
  have hgrammar : (assembler.onlyFor fragment).grammar = assembler.grammar := by
    cases fragment <;> rfl
  have halphabet : (assembler.onlyFor fragment).alphabet = assembler.alphabet := by
    cases fragment <;> rfl
  have hencoded : assembler.encodedSettings = fun settings => QueryBuilder.liftMisuse
      ((QueryBuilder.assembled assembler.grammar settings).encoded assembler.alphabet) := rfl
  rw [alone, outcome_query_eq_mapM, hencoded]
  cases fragment <;>
    simp (disch := decide) only [QueryFragment.all, List.mapM_cons, List.mapM_nil,
      settingsOf_other, settingsOf_onlyFor, Outcome.ok_bind, bind_assoc, pure_bind,
      encodedSettings, hgrammar, halphabet, QueryBuilder.assembled, List.flatten_cons,
      List.flatten_nil, List.append_nil, List.foldl_append, QueryBuilder.foldl_setAll_nil]

theorem alone_eq_ok_iff {query : String} :
    (assembler.alone options fragment).outcome = .ok query ↔
      ∃ settings, assembler.settingsOf options fragment = .ok settings ∧
        (QueryBuilder.assembled assembler.grammar settings).isEncodable assembler.alphabet =
          true ∧
        (QueryBuilder.assembled assembler.grammar settings).query = query := by
  simp only [outcome_alone, Outcome.bind_eq_ok_iff, encodedSettings_eq_ok_iff]

theorem alone_eq_notEncodable_iff :
    (assembler.alone options fragment).outcome = .error (.misuse .notEncodable) ↔
      ∃ settings, assembler.settingsOf options fragment = .ok settings ∧
        (QueryBuilder.assembled assembler.grammar settings).isEncodable assembler.alphabet =
          false := by
  simp [outcome_alone, Outcome.bind_eq_error_iff, encodedSettings_eq_error_iff,
    settingsOf_ne_notEncodable]

/-- A fragment fails by itself before its query is encoded, or because this has no encoding. -/
theorem settingsOf_of_alone {failure : CompileError}
    (hfailure : (assembler.alone options fragment).outcome = .error failure)
    (hearly : failure ≠ .misuse .notEncodable) :
    assembler.settingsOf options fragment = .error failure := by
  rw [outcome_alone, Outcome.bind_eq_error_iff] at hfailure
  refine hfailure.resolve_right ?_
  rintro ⟨settings, -, hencoded⟩
  exact hearly (encodedSettings_eq_error_iff.mp hencoded).2.symm

/-- A fragment has a query by itself, or has one that cannot be encoded. -/
def Settles (assembler : Assembler) (options : LoadOptions) (fragment : QueryFragment) : Prop :=
  (∃ query, (assembler.alone options fragment).outcome = .ok query) ∨
    (assembler.alone options fragment).outcome = .error (.misuse .notEncodable)

theorem settles_iff :
    assembler.Settles options fragment ↔
      ∃ settings, assembler.settingsOf options fragment = .ok settings := by
  simp only [Settles, alone_eq_ok_iff, alone_eq_notEncodable_iff]
  constructor
  · rintro (⟨_, settings, hsettings, -⟩ | ⟨settings, hsettings, -⟩) <;> exact ⟨settings, hsettings⟩
  · rintro ⟨settings, hsettings⟩
    cases hencodes : (QueryBuilder.assembled assembler.grammar settings).isEncodable
        assembler.alphabet with
    | true => exact .inl ⟨_, settings, hsettings, hencodes, rfl⟩
    | false => exact .inr ⟨settings, hsettings, hencodes⟩

/-! ## The whole -/

variable {settings : QueryFragment → List (String × List String)}

theorem nodup_names (hdistinct : (QueryFragment.all.flatMap (·.names assembler.grammar)).Nodup)
    (fragment : QueryFragment) : (fragment.names assembler.grammar).Nodup := by
  have hmem : fragment ∈ QueryFragment.all := by cases fragment <;> decide
  obtain ⟨before, after, hall⟩ := List.append_of_mem hmem
  rw [hall, List.flatMap_append, List.flatMap_cons] at hdistinct
  exact (List.nodup_append.mp (List.nodup_append.mp hdistinct).2.1).1

/-- Where the parameters have names of their own, what the fragments list is listed fragment
by fragment. -/
theorem items_assembled_all
    (hdistinct : (QueryFragment.all.flatMap (·.names assembler.grammar)).Nodup)
    (hsettings : ∀ fragment, assembler.settingsOf options fragment = .ok (settings fragment)) :
    (QueryBuilder.assembled assembler.grammar (QueryFragment.all.flatMap settings)).items =
      QueryFragment.all.flatMap fun fragment =>
        (QueryBuilder.assembled assembler.grammar (settings fragment)).items := by
  have hnames : (QueryFragment.all.flatMap settings).map Prod.fst =
      QueryFragment.all.flatMap (·.names assembler.grammar) := by
    rw [List.map_flatMap]
    exact congrArg (QueryFragment.all.flatMap ·)
      (funext fun fragment => names_settingsOf (hsettings fragment))
  rw [QueryBuilder.items_assembled assembler.grammar (hnames ▸ hdistinct), List.flatMap_assoc]
  refine congrArg (QueryFragment.all.flatMap ·) (funext fun fragment => ?_)
  have hown := nodup_names hdistinct fragment
  rw [← names_settingsOf (hsettings fragment)] at hown
  rw [QueryBuilder.items_assembled assembler.grammar hown]

theorem query_assembled (hdistinct : (QueryFragment.all.flatMap (·.names assembler.grammar)).Nodup)
    (hsettings : ∀ fragment, assembler.settingsOf options fragment = .ok (settings fragment)) :
    (QueryBuilder.assembled assembler.grammar (QueryFragment.all.flatMap settings)).query =
      "&".intercalate ((QueryFragment.all.map fun fragment =>
        (QueryBuilder.assembled assembler.grammar (settings fragment)).query).filter (· ≠ "")) := by
  rw [QueryBuilder.query, items_assembled_all hdistinct hsettings, List.flatMap_def,
    Form.encode_flatten, List.map_map]
  rfl

/-- The whole can be encoded exactly when each fragment can. -/
theorem isEncodable_assembled
    (hdistinct : (QueryFragment.all.flatMap (·.names assembler.grammar)).Nodup)
    (hsettings : ∀ fragment, assembler.settingsOf options fragment = .ok (settings fragment))
    (alphabet : Alphabet) :
    (QueryBuilder.assembled assembler.grammar (QueryFragment.all.flatMap settings)).isEncodable
        alphabet = QueryFragment.all.all fun fragment =>
      (QueryBuilder.assembled assembler.grammar (settings fragment)).isEncodable alphabet := by
  rw [QueryBuilder.isEncodable, items_assembled_all hdistinct hsettings, List.all_flatMap]
  rfl

theorem mapM_settingsOf
    (hsettings : ∀ fragment, assembler.settingsOf options fragment = .ok (settings fragment)) :
    (assembler.query options).outcome =
      assembler.encodedSettings (QueryFragment.all.flatMap settings) := by
  have hall : QueryFragment.all.mapM (assembler.settingsOf options) =
      .ok (QueryFragment.all.map settings) := by
    rw [Outcome.mapM_eq_ok_iff, List.forall₂_map_right_iff, List.forall₂_same]
    exact fun fragment _ => hsettings fragment
  rw [outcome_query_eq_mapM, hall, Outcome.ok_bind, ← List.flatMap_def]

theorem QueryFragment.mem_all (fragment : QueryFragment) : fragment ∈ QueryFragment.all := by
  cases fragment <;> decide

/-- Where the parameters have names of their own, a query is made of the non-empty queries of
its fragments in their order, and each of these lists values of parameters of its fragment
only.  It fails with the first of its fragments that fails, where those that cannot be encoded
are passed over, and it cannot be encoded when nothing else is wrong but one of its fragments
cannot. -/
theorem query_composes
    (hdistinct : (QueryFragment.all.flatMap (·.names assembler.grammar)).Nodup) :
    (∀ queries : QueryFragment → String,
      (∀ fragment, (assembler.alone options fragment).outcome = .ok (queries fragment)) →
        (assembler.query options).outcome =
          .ok ("&".intercalate ((QueryFragment.all.map queries).filter (· ≠ ""))) ∧
        ∀ fragment, ∃ settings : List (String × List String),
          settings.map Prod.fst = fragment.names assembler.grammar ∧
          Form.decode? (queries fragment) = some (settings.flatMap fun setting =>
            setting.2.map fun value => (setting.1, value))) ∧
    (∀ before fragment after failure, QueryFragment.all = before ++ fragment :: after →
      (∀ earlier ∈ before, assembler.Settles options earlier) →
      (assembler.alone options fragment).outcome = .error failure →
      failure ≠ .misuse .notEncodable →
      (assembler.query options).outcome = .error failure) ∧
    ((∀ fragment, assembler.Settles options fragment) →
      (∃ fragment, (assembler.alone options fragment).outcome = .error (.misuse .notEncodable)) →
      (assembler.query options).outcome = .error (.misuse .notEncodable)) := by
  refine ⟨?_, ?_, ?_⟩
  · intro queries hqueries
    simp only [alone_eq_ok_iff] at hqueries
    choose settings hsettings hencodes hquery using hqueries
    have hencodesAll : (QueryBuilder.assembled assembler.grammar
        (QueryFragment.all.flatMap settings)).isEncodable assembler.alphabet = true := by
      rw [isEncodable_assembled hdistinct hsettings, List.all_eq_true]
      exact fun fragment _ => hencodes fragment
    constructor
    · rw [mapM_settingsOf hsettings, encodedSettings_eq_ok_iff, query_assembled hdistinct hsettings]
      exact ⟨hencodesAll, by simp only [hquery]⟩
    · intro fragment
      refine ⟨settings fragment, names_settingsOf (hsettings fragment), ?_⟩
      have hown := nodup_names hdistinct fragment
      rw [← names_settingsOf (hsettings fragment)] at hown
      rw [← hquery fragment, QueryBuilder.query, Form.decode?_encode,
        QueryBuilder.items_assembled assembler.grammar hown]
  · intro before fragment after failure hall hbefore hfailure hearly
    have hearlier : ∀ earlier ∈ before, ∃ settings,
        assembler.settingsOf options earlier = .ok settings :=
      fun earlier hmem => settles_iff.mp (hbefore earlier hmem)
    rw [outcome_query_eq_mapM, hall,
      Outcome.mapM_eq_error hearlier (settingsOf_of_alone hfailure hearly)]
    rfl
  · rintro hsettles ⟨fragment, hhalf⟩
    simp only [settles_iff] at hsettles
    choose settings hsettings using hsettles
    rw [mapM_settingsOf hsettings, encodedSettings_eq_error_iff,
      isEncodable_assembled hdistinct hsettings, List.all_eq_false]
    refine ⟨⟨fragment, QueryFragment.mem_all fragment, ?_⟩, rfl⟩
    obtain ⟨own, hown, hencodes⟩ := alone_eq_notEncodable_iff.mp hhalf
    obtain rfl := Except.ok.inj (hown.symm.trans (hsettings fragment))
    rw [hencodes]
    exact Bool.false_ne_true

/-- A store that joins its lines and shows deleted records. -/
def ordersAssembler : Assembler :=
  { Assembler.default with join := .tuple [.text "lines"], includeDeleted := true }

/-- Some records after the first forty. -/
def laterOrders (take : Value) : LoadOptions :=
  { LoadOptions.default with sort := .text "name", skip := .int 40, take }

/-- The queries of the fragments of `laterOrders`, without a limit. -/
def laterQueries : QueryFragment → String
  | .sort => "sort=name%2CASC"
  | .skip => "offset=40"
  | .settings => "join=lines&include_deleted=1"
  | _ => ""

theorem query_composes_orders :
    (QueryFragment.all.flatMap (·.names ordersAssembler.grammar)).Nodup ∧
      (∀ fragment, (ordersAssembler.alone (laterOrders .null) fragment).outcome =
        .ok (laterQueries fragment)) ∧
      (ordersAssembler.query (laterOrders .null)).outcome =
        .ok "sort=name%2CASC&offset=40&join=lines&include_deleted=1" ∧
      (ordersAssembler.query (laterOrders (.int (-1)))).outcome =
        .error (.noCount "limit" (.int (-1))) := by
  have hdistinct : (QueryFragment.all.flatMap (·.names ordersAssembler.grammar)).Nodup := by decide
  have hqueries : ∀ fragment, (ordersAssembler.alone (laterOrders .null) fragment).outcome =
      .ok (laterQueries fragment) := by
    have hsort : Form.encode [("sort", "name,ASC")] = "sort=name%2CASC" := by decide +kernel
    intro fragment
    cases fragment with
    | sort => exact congrArg Except.ok hsort
    | _ => rfl
  refine ⟨hdistinct, hqueries, ?_, ?_⟩
  · have hjoined : "&".intercalate ((QueryFragment.all.map laterQueries).filter (· ≠ "")) =
        "sort=name%2CASC&offset=40&join=lines&include_deleted=1" := by decide +kernel
    rw [((query_composes hdistinct).1 laterQueries hqueries).1, hjoined]
  · refine (query_composes hdistinct).2.1 [.filter, .select, .sort, .skip] .take [.settings] _
      rfl ?_ rfl (by simp)
    simp only [List.forall_mem_cons]
    exact ⟨.inl ⟨_, rfl⟩, .inl ⟨_, rfl⟩, .inl ⟨_, rfl⟩, .inl ⟨_, rfl⟩,
      fun _ hnone => absurd hnone List.not_mem_nil⟩

/-- An alphabet with one character set aside. -/
def oneHalf : Alphabet where
  halves := [(0xd800, '\ue000')]
  nodup := List.nodup_singleton _
  beyond_ascii := List.forall_mem_singleton.mpr (by decide)
  unprintable := List.forall_mem_singleton.mpr (by decide +kernel)

/-- A search for half of a pair, and a page of less than nothing. -/
def halfOrders : LoadOptions :=
  { LoadOptions.default with
    filter := .list [.text "name", .text "=", .text "\ue000"], take := .int (-1) }

/-- The filter cannot be encoded, but the limit behind it fails first. -/
theorem query_of_half :
    (({ ordersAssembler with alphabet := oneHalf } : Assembler).alone halfOrders
        .filter).outcome = .error (.misuse .notEncodable) ∧
      (({ ordersAssembler with alphabet := oneHalf } : Assembler).query halfOrders).outcome =
        .error (.noCount "limit" (.int (-1))) :=
  ⟨alone_eq_notEncodable_iff.mpr ⟨_, rfl, rfl⟩, rfl⟩

end Assembler

end GridSource
