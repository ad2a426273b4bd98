import GridSource.Proofs.Json.Encodable
import GridSource.Proofs.Query.DroppedFilter
import GridSource.Proofs.Query.Writable
import GridSource.Proofs.Store.Listings
import GridSource.Proofs.Store.Requests
import GridSource.Proofs.Store.TotalCount

/-!
# Looking a record up by its key

The key is the operand of an equality, and an operand is read as a filter.  A key that is no
sequence stands for itself there and is asked for as it is, if it can be written and encoded.
A sequence is compiled, and no filter compiles to a sequence, so what is asked for is never
the key.
-/

namespace GridSource

namespace Value

theorem sequence?_asArrays_of_none {value : Value} (hvalue : value.sequence? = none) :
    value.asArrays.sequence? = none := by
  cases value with
  | list items | tuple items => contradiction
  | _ => rfl

end Value

namespace Filter

/-! ## A filter as an operand -/

variable {table : OperatorTable} {negated : Bool} {raw tree : Value}

theorem compileValue_of_no_sequence (hraw : raw.sequence? = none) :
    (compileValue table negated raw).outcome = .ok raw := by
  rw [compileValue, ofValue_of_no_sequence hraw]
  rfl

theorem Holds.sequence?_compile {filter : Filter}
    (hfilter : filter.Holds (·.sequence? = none))
    (htree : (filter.compile table negated).outcome = .ok tree) : tree.sequence? = none := by
  induction hfilter generalizing negated tree with
  | absent =>
      obtain rfl := Except.ok.inj htree
      rfl
  | terminal hvalue =>
      obtain rfl := Except.ok.inj htree
      exact hvalue
  | negation _ ih => exact ih htree
  | connective _ _ _ _ _ =>
      obtain ⟨pair, first, second, -, -, -, rfl⟩ := compile_connective_ok_iff.mp htree
      rfl
  | comparison _ _ _ _ =>
      obtain ⟨pair, inner, -, -, -, rfl⟩ := compile_comparison_ok_iff.mp htree
      rfl

/-- No filter compiles to a sequence. -/
theorem sequence?_of_compileValue (htree : (compileValue table negated raw).outcome = .ok tree) :
    tree.sequence? = none := by
  rw [compileValue] at htree
  cases hread : ofValue table.connectives raw with
  | error left =>
      rw [hread] at htree
      contradiction
  | ok filter =>
      rw [hread] at htree
      have hleaves : LeavesIn (·.sequence? = none) table.connectives raw :=
        fun leaf _ hleaf => hleaf
      exact (hleaves.ofValue hread).sequence?_compile htree

/-- An equality compiles to its field with what its operand compiles to. -/
theorem outcome_compileValue_equality (name : String) (operand : Value) :
    (compileValue .search false (.list [.text name, .text "=", operand])).outcome =
      (compileValue .search false operand).outcome.map fun inner =>
        .object [(.text name, .object [(.text "$eq", inner)])] := by
  have hread : ofValue OperatorTable.search.connectives (.list [.text name, .text "=", operand]) =
      (ofValue OperatorTable.search.connectives operand).map
        (.comparison (.text name) (.text "=")) := by
    rw [ofValue, ofItems]
    cases ofValue OperatorTable.search.connectives operand <;> rfl
  rw [compileValue, compileValue, hread]
  cases ofValue OperatorTable.search.connectives operand with
  | error left => rfl
  | ok filter =>
      change ((comparison (.text name) (.text "=") filter).compile .search false).outcome = _
      rw [outcome_compile_comparison]
      rfl

end Filter

/-! ## The settings of a store -/

namespace Assembler

/-- The parameters that a store adds to every query. -/
def storeItems (join : List String) (includeDeleted cache : Bool) : List (String × String) :=
  (join.map fun value => ("join", value)) ++
    (if includeDeleted then [("include_deleted", "1")] else []) ++
    (if cache then [] else [("cache", "0")])

theorem settingsAfter_eq_ok_iff {assembler : Assembler} (hgrammar : assembler.grammar = .default)
    {after : List (String × List String)} :
    assembler.settingsAfter = .ok after ↔
      ∃ join, JoinValues "||" "," assembler.join join ∧
        after = [("join", join),
          ("include_deleted", if assembler.includeDeleted then ["1"] else []),
          ("cache", if assembler.cache then [] else ["0"])] := by
  rw [settingsAfter, hgrammar]
  constructor
  · intro hafter
    obtain ⟨relations, hrelations, hafter⟩ := Outcome.bind_eq_ok_iff.mp hafter
    obtain ⟨join, hjoin, hafter⟩ := Outcome.bind_eq_ok_iff.mp hafter
    rw [QueryBuilder.liftMisuse_eq_ok_iff, QueryBuilder.elements_eq_ok_iff] at hrelations
    exact ⟨join, ⟨relations, hrelations, (Outcome.mapM_eq_ok_iff.mp hjoin).imp
      fun _ _ => QueryBuilder.relation_eq_ok⟩, (Except.ok.inj hafter).symm⟩
  · rintro ⟨join, ⟨relations, hrelations, hjoin⟩, rfl⟩
    have helements : QueryBuilder.liftMisuse assembler.join.elements = .ok relations := by
      simpa using hrelations
    have hrendered : relations.mapM (QueryBuilder.relation .default) = .ok join :=
      Outcome.mapM_eq_ok_iff.mpr (hjoin.imp fun _ _ => QueryBuilder.relation_of_relationText)
    rw [helements, Outcome.ok_bind, hrendered]
    rfl

end Assembler

namespace Store

variable {store : Store} {name : String} {key : Value} {request : Request}

/-- The search tree that asks for the records with one value in one field. -/
def keyTree (name : String) (wanted : Value) : Value :=
  .record [(name, .record [("$eq", wanted)])]

theorem settingsBefore_keyOptions (htable : store.assembler.table = .search)
    (hgrammar : store.assembler.grammar = .default) (hname : store.key = .text name) :
    store.assembler.settingsBefore (store.keyOptions key) = do
      let asked ← (Filter.compileValue .search false key).outcome
      let text ← QueryBuilder.liftMisuse (Json.write .search (keyTree name asked))
      return [("s", [text]), ("fields", []), ("sort", []), ("offset", [])] := by
  have htree : (store.assembler.searchTree (store.keyOptions key)).outcome =
      (Filter.compileValue .search false key).outcome.map (keyTree name) := by
    rw [Assembler.outcome_searchTree (LoadOptions.combinedFilter_of_none rfl), htable, keyOptions,
      hname, Filter.outcome_compileValue_equality]
    rfl
  rw [Assembler.settingsBefore, htree, hgrammar]
  cases (Filter.compileValue .search false key).outcome with
  | error failure => rfl
  | ok asked =>
      change QueryBuilder.searchOf (keyTree name asked) >>= _ = _
      have hobject : (keyTree name asked).isObject = true := rfl
      rw [QueryBuilder.searchOf, if_pos hobject, Outcome.ok_bind]
      cases Json.write .search (keyTree name asked) <;> rfl

/-- What is planned for a key: its compiled form, written, before the settings of the store,
if all of it can be encoded. -/
theorem plan_byKey_eq_ok_iff (htable : store.assembler.table = .search)
    (hgrammar : store.assembler.grammar = .default) (hname : store.key = .text name) :
    store.plan (.byKey key) = .ok request ↔
      ∃ asked text join, (Filter.compileValue .search false key).outcome = .ok asked ∧
        Json.write .search (keyTree name asked) = .ok text ∧
        JoinValues "||" "," store.assembler.join join ∧
        store.encodesItems (("s", text) ::
          Assembler.storeItems join store.assembler.includeDeleted store.assembler.cache) =
            true ∧
        request = store.listingOf (("s", text) ::
          Assembler.storeItems join store.assembler.includeDeleted store.assembler.cache) := by
  have hitems (text : String) (join : List String) :
      store.itemsAround [("s", [text]), ("fields", []), ("sort", []), ("offset", [])]
          [("join", join),
            ("include_deleted", if store.assembler.includeDeleted then ["1"] else []),
            ("cache", if store.assembler.cache then [] else ["0"])] [] =
        ("s", text) ::
          Assembler.storeItems join store.assembler.includeDeleted store.assembler.cache := by
    have hdistinct : ["s", "fields", "sort", "offset", "limit", "join", "include_deleted",
        "cache"].Nodup := by decide
    rw [itemsAround, hgrammar, QueryBuilder.items_assembled, Assembler.storeItems]
    · cases store.assembler.includeDeleted <;> cases store.assembler.cache <;> simp
    · exact hdistinct
  rw [plan, store.listing_of_limit rfl, Outcome.mapError_eq_ok_iff,
    settingsBefore_keyOptions htable hgrammar hname]
  constructor
  · intro hrequest
    obtain ⟨before, hbefore, hrequest⟩ := Outcome.bind_eq_ok_iff.mp hrequest
    obtain ⟨asked, hasked, hbefore⟩ := Outcome.bind_eq_ok_iff.mp hbefore
    obtain ⟨text, htext, hbefore⟩ := Outcome.bind_eq_ok_iff.mp hbefore
    obtain rfl := Except.ok.inj hbefore
    obtain ⟨after, hafter, hrequest⟩ := Outcome.bind_eq_ok_iff.mp hrequest
    obtain ⟨join, hjoin, rfl⟩ := (Assembler.settingsAfter_eq_ok_iff hgrammar).mp hafter
    rw [hitems, encodedListing_eq_ok_iff] at hrequest
    exact ⟨asked, text, join, hasked, QueryBuilder.liftMisuse_eq_ok_iff.mp htext, hjoin,
      hrequest.1, hrequest.2.symm⟩
  · rintro ⟨asked, text, join, hasked, htext, hjoin, hencodes, rfl⟩
    rw [hasked, Outcome.ok_bind, htext,
      (Assembler.settingsAfter_eq_ok_iff hgrammar).mpr ⟨join, hjoin, rfl⟩]
    change store.encodedListing (store.itemsAround _ _ _) = _
    rw [hitems, encodedListing_eq_ok_iff]
    exact ⟨hencodes, rfl⟩

/-- The parameters of a lookup can be encoded when its search tree and the relations can. -/
theorem encodesItems_lookup {text : String} {join : List String} (includeDeleted cache : Bool) :
    store.encodesItems (("s", text) :: Assembler.storeItems join includeDeleted cache) =
      (store.assembler.alphabet.encodes text && join.all store.assembler.alphabet.encodes) := by
  have hs := store.assembler.alphabet.encodes_of_ascii "s" rfl
  have hjoin := store.assembler.alphabet.encodes_of_ascii "join" rfl
  have hincluded := store.assembler.alphabet.encodes_of_ascii "include_deleted" rfl
  have hcache := store.assembler.alphabet.encodes_of_ascii "cache" rfl
  have hone := store.assembler.alphabet.encodes_of_ascii "1" rfl
  have hzero := store.assembler.alphabet.encodes_of_ascii "0" rfl
  cases includeDeleted <;> cases cache <;>
    simp [encodesItems, Assembler.storeItems, Function.comp_def, hs, hjoin, hincluded, hcache,
      hone, hzero]

/-- A search tree is written around what its value is written as, so it can be encoded when
the field and the value can. -/
theorem exists_write_keyTree_iff (alphabet : Alphabet) {name : String} {wanted : Value} :
    (∃ text, Json.write .search (keyTree name wanted) = .ok text ∧
        alphabet.encodes text = true) ↔
      alphabet.encodes name = true ∧ ∃ written, Json.write .search wanted = .ok written ∧
        alphabet.encodes written = true := by
  have hopen := alphabet.encodes_of_ascii "\x7b" rfl
  have hclose := alphabet.encodes_of_ascii "\x7d" rfl
  have hcolon := alphabet.encodes_of_ascii ":" rfl
  have heq := alphabet.encodes_of_ascii "$eq" rfl
  have htree : Json.write .search (keyTree name wanted) = (fun written =>
      "\x7b" ++ (Json.writeText false name ++ ":" ++
        ("\x7b" ++ (Json.writeText false "$eq" ++ ":" ++ written) ++ "\x7d")) ++ "\x7d") <$>
          Json.write .search wanted := by
    simp only [keyTree, Value.record, List.map_cons, List.map_nil, Json.write, Json.writeMembers,
      Json.memberName]
    cases Json.write .search wanted <;> rfl
  rw [htree]
  constructor
  · rintro ⟨text, htext, hencodes⟩
    obtain ⟨written, hwritten, rfl⟩ := Outcome.map_eq_ok_iff.mp htext
    simp only [Alphabet.encodes_append, Alphabet.encodes_writeText, hopen, hclose, hcolon, heq,
      Bool.true_and, Bool.and_true, Bool.and_eq_true] at hencodes
    exact ⟨hencodes.1, written, hwritten, hencodes.2⟩
  · rintro ⟨hname, written, hwritten, hencodes⟩
    refine ⟨_, Outcome.map_eq_ok_iff.mpr ⟨written, hwritten, rfl⟩, ?_⟩
    simp [hopen, hclose, hcolon, heq, hname, hencodes]

@[simp]
theorem asArrays_keyTree (name : String) (wanted : Value) :
    (keyTree name wanted).asArrays = keyTree name wanted.asArrays := rfl

end Store

/-! ## What a request asks for -/

/-- The request asks the resource at an address for the records with one value in one field,
and names nothing else but what the properties of its store do. -/
structure Request.Asks (request : Request) (properties : StoreProperties) (address name : String)
    (wanted : Value) : Prop where
  method_eq : request.method = "GET"
  body_eq : request.body = none
  exists_query : ∃ query text join, request.url = .text (address ++ "?" ++ query) ∧
    Form.decode? query = some (("s", text) ::
      Assembler.storeItems join properties.includeDeleted.truthy properties.cache.truthy) ∧
    JoinValues "||" "," properties.join join ∧
    Json.read text.toList = .ok (Store.keyTree name wanted)

/-- A request asks for one value. -/
theorem Request.Asks.unique {request : Request} {properties : StoreProperties}
    {address name : String} {first second : Value}
    (hfirst : request.Asks properties address name first)
    (hsecond : request.Asks properties address name second) : first = second := by
  obtain ⟨query, text, join, hurl, hitems, -, hread⟩ := hfirst.exists_query
  obtain ⟨query', text', join', hurl', hitems', -, hread'⟩ := hsecond.exists_query
  rw [hurl, Value.text.injEq, String.append_right_inj] at hurl'
  subst hurl'
  rw [hitems, Option.some.injEq, List.cons.injEq, Prod.mk.injEq] at hitems'
  obtain ⟨⟨-, rfl⟩, -⟩ := hitems'
  rw [hread] at hread'
  simpa [Store.keyTree, Value.record] using hread'

namespace Store

/-- The field that a store looks its keys up in. -/
def keyField (configured : String) : String := if configured = "" then "id" else configured

variable {store : Store} {address configured : String} {key : Value} {request : Request}

theorem key_of_configured (hname : store.properties.key = .text configured) :
    store.key = .text (keyField configured) := by
  rw [Store.key, hname, Value.truthy, keyField]
  by_cases hempty : configured = ""
  · subst hempty
    rfl
  · have hsome : configured.isEmpty = false := by simpa using hempty
    rw [hsome, Bool.not_false, if_pos rfl, if_neg hempty]

theorem assembler_of_assemblerOf {properties : StoreProperties} {assembler : Assembler}
    {alphabet : Alphabet} (hassembler : assemblerOf properties alphabet = .ok assembler) :
    ∃ relations, properties.join.elements? = some relations ∧
      assembler = { Assembler.default with
        join := .tuple relations
        cache := properties.cache.truthy
        includeDeleted := properties.includeDeleted.truthy
        alphabet } := by
  rw [assemblerOf] at hassembler
  obtain ⟨relations, hrelations, hassembler⟩ := Outcome.bind_eq_ok_iff.mp hassembler
  exact ⟨relations, QueryBuilder.elements_eq_ok_iff.mp hrelations,
    (Except.ok.inj hassembler).symm⟩

theorem url_listingOf (hurl : store.url = .text address) {items : List (String × String)}
    (hitems : items ≠ []) :
    (store.listingOf items).url = .text (address ++ "?" ++ Form.encode items) := by
  have hquery : (Form.encode items).isEmpty = false := by
    rw [Bool.eq_false_iff, ne_eq, String.isEmpty_iff, Form.encode_eq_empty_iff]
    exact hitems
  rw [listingOf, listingUrl, hquery, if_neg Bool.false_ne_true, hurl]
  rfl

/-- The store reads the relations of its properties once, which changes no join. -/
theorem joinValues_iff {properties : StoreProperties} {relations : List Value}
    {relationDelimiter listDelimiter : String} {join : List String}
    (hrelations : properties.join.elements? = some relations) :
    JoinValues relationDelimiter listDelimiter (.tuple relations) join ↔
      JoinValues relationDelimiter listDelimiter properties.join join := by
  have htuple : (Value.tuple relations).elements? = some relations := rfl
  rw [JoinValues, JoinValues, htuple, hrelations]

section

variable {alphabet : Alphabet}
  (hassembler : assemblerOf store.properties alphabet = .ok store.assembler)
  (hname : store.properties.key = .text configured)

include hassembler hname

/-- What is planned for a key by a store that has its assembler from its properties. -/
theorem plan_byKey_configured_iff :
    store.plan (.byKey key) = .ok request ↔
      ∃ asked text join, (Filter.compileValue .search false key).outcome = .ok asked ∧
        Json.write .search (keyTree (keyField configured) asked) = .ok text ∧
        JoinValues "||" "," store.properties.join join ∧
        (alphabet.encodes text && join.all alphabet.encodes) = true ∧
        request = store.listingOf (("s", text) ::
          Assembler.storeItems join store.properties.includeDeleted.truthy
            store.properties.cache.truthy) := by
  obtain ⟨relations, hrelations, hassembled⟩ := assembler_of_assemblerOf hassembler
  have htable : store.assembler.table = .search := by rw [hassembled]; rfl
  have hgrammar : store.assembler.grammar = .default := by rw [hassembled]; rfl
  have halphabet : store.assembler.alphabet = alphabet := by rw [hassembled]
  rw [plan_byKey_eq_ok_iff htable hgrammar (key_of_configured hname)]
  simp only [encodesItems_lookup, halphabet]
  simp only [hassembled, joinValues_iff hrelations]

/-- A key can be asked for when it compiles to what can be written and encoded, and the
field and the relations of the store can be encoded too. -/
theorem exists_plan_byKey_iff :
    (∃ request, store.plan (.byKey key) = .ok request) ↔
      ∃ asked, (Filter.compileValue .search false key).outcome = .ok asked ∧
        (∃ written, Json.write .search asked = .ok written ∧ alphabet.encodes written = true) ∧
        alphabet.encodes (keyField configured) = true ∧
        ∃ join, JoinValues "||" "," store.properties.join join ∧
          ∀ value ∈ join, alphabet.encodes value = true := by
  simp only [plan_byKey_configured_iff hassembler hname, Bool.and_eq_true, List.all_eq_true]
  constructor
  · rintro ⟨request, asked, text, join, hasked, htext, hjoin, ⟨hencodes, hvalues⟩, -⟩
    obtain ⟨hfield, hwritten⟩ := (exists_write_keyTree_iff alphabet).mp ⟨text, htext, hencodes⟩
    exact ⟨asked, hasked, hwritten, hfield, join, hjoin, hvalues⟩
  · rintro ⟨asked, hasked, hwritten, hfield, join, hjoin, hvalues⟩
    obtain ⟨text, htext, hencodes⟩ :=
      (exists_write_keyTree_iff alphabet).mpr ⟨hfield, hwritten⟩
    exact ⟨_, asked, text, join, hasked, htext, hjoin, ⟨hencodes, hvalues⟩, rfl⟩

/-- What is asked for is what the key compiles to. -/
theorem exists_asks_of_plan (hurl : store.url = .text address) (hkey : key.IsPlain)
    (hrequest : store.plan (.byKey key) = .ok request) :
    ∃ asked, (Filter.compileValue .search false key).outcome = .ok asked ∧
      request.Asks store.properties address (keyField configured) asked.asArrays := by
  obtain ⟨asked, text, join, hasked, htext, hjoin, -, rfl⟩ :=
    (plan_byKey_configured_iff hassembler hname).mp hrequest
  have hplain : asked.IsPlain :=
    (Filter.LeavesIn.of_holds Value.isHereditary_isPlain hkey).compileValue
      Value.isHereditary_isPlain hasked
  have htree : (keyTree (keyField configured) asked).IsPlain :=
    Value.isHereditary_isPlain.single _ (Value.isHereditary_isPlain.single "$eq" hplain)
  have hread : Json.read text.toList = .ok (keyTree (keyField configured) asked).asArrays :=
    Json.read_write htree htext
  rw [asArrays_keyTree] at hread
  exact ⟨asked, hasked, rfl, rfl, Form.encode _, text, join,
    url_listingOf hurl (List.cons_ne_nil _ _), Form.decode?_encode _, hjoin, hread⟩

end

end Store

namespace Session

variable {session : Session} {properties : StoreProperties} {address configured : String}
  {key : Value} {alphabet : Alphabet}

/-- A lookup asks for what its key compiles to.  It asks for the key itself exactly when that is
no sequence, all of it can be written and encoded, as can the key field, and the relations of
the store can be joined and encoded. -/
theorem run_byKey_asks_iff (hstart : start properties (some .plain) alphabet = .ok session)
    (hurl : properties.url = .text address) (hname : properties.key = .text configured)
    (hkey : key.IsPlain) (harrays : key.asArrays = key) :
    (∀ script request, (session.run (.byKey key) script).1.calls = [.plain request] →
      ∃ asked, (Filter.compileValue .search false key).outcome = .ok asked ∧
        request.Asks properties address (Store.keyField configured) asked.asArrays) ∧
    ((∃ request, request.Asks properties address (Store.keyField configured) key ∧
        ∀ script, (session.run (.byKey key) script).1.calls = [.plain request]) ↔
      key.isSequence = false ∧
        (∃ written, Json.write .search key = .ok written ∧ alphabet.encodes written = true) ∧
        alphabet.encodes (Store.keyField configured) = true ∧
        ∃ join, JoinValues "||" "," properties.join join ∧
          ∀ value ∈ join, alphabet.encodes value = true) := by
  obtain ⟨hclient, hopen, rfl, hassembler⟩ := start_given hstart
  have hcalls (script : Script) (request : Request) :
      (session.run (.byKey key) script).1.calls = [.plain request] ↔
        session.store.plan (.byKey key) = .ok request :=
    calls_run_plain_iff hclient hopen (.byKey key) script
  have hasks (request : Request) (hplan : session.store.plan (.byKey key) = .ok request) :=
    Store.exists_asks_of_plan hassembler hname hurl hkey hplan
  refine ⟨fun script request hsent => hasks request ((hcalls script request).mp hsent), ?_⟩
  have hplanned : (∃ request, session.store.plan (.byKey key) = .ok request) ↔ _ :=
    Store.exists_plan_byKey_iff hassembler hname
  constructor
  · rintro ⟨request, hwanted, hsent⟩
    have hplan := (hcalls ⟨[], .ok ⟨200, [], ""⟩⟩ request).mp (hsent _)
    obtain ⟨asked, hasked, hreached⟩ := hasks request hplan
    obtain ⟨tree, htree, hwritten, hjoin⟩ := hplanned.mp ⟨request, hplan⟩
    obtain rfl : asked = tree := Except.ok.inj (hasked.symm.trans htree)
    have hleaf := Filter.sequence?_of_compileValue hasked
    have hsame : asked.asArrays = key := hreached.unique hwanted
    have hnone : key.sequence? = none := hsame ▸ Value.sequence?_asArrays_of_none hleaf
    rw [Filter.compileValue_of_no_sequence hnone] at hasked
    obtain rfl := Except.ok.inj hasked
    exact ⟨Value.isSequence_eq_false_iff.mpr hnone, hwritten, hjoin⟩
  · rintro ⟨hleaf, hwritten, hjoin⟩
    have hnone := Value.isSequence_eq_false_iff.mp hleaf
    have hasked : (Filter.compileValue .search false key).outcome = .ok key :=
      Filter.compileValue_of_no_sequence hnone
    obtain ⟨request, hplan⟩ := hplanned.mpr ⟨key, hasked, hwritten, hjoin⟩
    obtain ⟨asked, hcompiled, hreached⟩ := hasks request hplan
    obtain rfl : key = asked := Except.ok.inj (hasked.symm.trans hcompiled)
    rw [harrays] at hreached
    exact ⟨request, hreached, fun script => (hcalls script request).mpr hplan⟩

/-- A key of two parts, with texts that look like a query and like a filter. -/
def tenantKey : Value :=
  .object (textMembers [("tenant", .text "a&s=[\"!\"]"), ("ids", .list [.text "!", .int 7])])

/-- A store that looks records up by another field, joins one relation and passes over its
cache. -/
def tenantProperties : StoreProperties :=
  { StoreProperties.default with
    url := .text "http://x/users"
    key := .text "uuid"
    join := .list [.text "profile"]
    cache := .bool false }

def tenantSession : Session :=
  { store :=
      { properties := tenantProperties
        assembler := { Assembler.default with join := .tuple [.text "profile"], cache := false } }
    client := .plain
    closed := false }

theorem run_byKey_asks_tenant :
    start tenantProperties (some .plain) = .ok tenantSession ∧ tenantKey.IsPlain ∧
      tenantKey.asArrays = tenantKey ∧
      ∃ request, request.Asks tenantProperties "http://x/users" "uuid" tenantKey ∧
        ∀ script, (tenantSession.run (.byKey tenantKey) script).1.calls = [.plain request] := by
  have hstart : start tenantProperties (some .plain) = .ok tenantSession := rfl
  have hids : (Value.list [.text "!", .int 7]).IsPlain :=
    .list (by simp [Value.IsPlain.text, Value.IsPlain.int])
  have hplain : tenantKey.IsPlain := by
    refine .object (by decide) ?_
    simp [hids, Value.IsPlain.text]
  have hjoin : JoinValues "||" "," tenantProperties.join ["profile"] :=
    ⟨[.text "profile"], rfl, .cons (.name "profile") .nil⟩
  have hencodes := Alphabet.encodes_unicode
  exact ⟨hstart, hplain, rfl, (run_byKey_asks_iff hstart rfl rfl hplain rfl).2.mpr
    ⟨rfl, ⟨_, rfl, hencodes _⟩, hencodes _, ["profile"], hjoin, fun value _ => hencodes value⟩⟩

/-- A list of one item asks for the item. -/
theorem run_byKey_unwraps :
    ∃ request, (∀ script, (userSession.run (.byKey (.list [.int 1])) script).1.calls =
        [.plain request]) ∧
      request.Asks userProperties "http://x/users" "id" (.int 1) ∧
      ¬ request.Asks userProperties "http://x/users" "id" (.list [.int 1]) := by
  have hasked : (Filter.compileValue .search false (.list [.int 1])).outcome = .ok (.int 1) := rfl
  have hassembler : Store.assemblerOf userProperties .unicode =
      .ok userSession.store.assembler := rfl
  have hplain : (Value.list [.int 1]).IsPlain := .list (by simp [Value.IsPlain.int])
  have hname : userSession.store.properties.key = .text "id" := rfl
  obtain ⟨request, hrequest⟩ := (Store.exists_plan_byKey_iff hassembler hname).mpr
    ⟨_, hasked, ⟨_, rfl, Alphabet.encodes_unicode _⟩, Alphabet.encodes_unicode _, [],
      ⟨[], rfl, .nil⟩, by simp⟩
  obtain ⟨asked, hcompiled, hasks⟩ :=
    Store.exists_asks_of_plan hassembler hname rfl hplain hrequest
  obtain rfl := Except.ok.inj (hasked.symm.trans hcompiled)
  refine ⟨request, fun script => (calls_run_plain_iff rfl rfl _ script).mpr hrequest, hasks, ?_⟩
  intro hwhole
  exact Value.noConfusion (hasks.unique hwhole)

end Session

end GridSource
