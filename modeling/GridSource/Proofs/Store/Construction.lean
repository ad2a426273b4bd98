import GridSource.Proofs.Store.Options
import GridSource.Proofs.Store.Properties
import GridSource.Proofs.Store.Requests

/-!
# Building a store from a section or from options

The same mapping of settings can be bound as the section of a configuration or be given as
options.  Both ways end at the same properties, but for a key field that is empty, which the
options replace by `id` at once and the store whenever it is asked.  Sessions over such stores
answer every run of steps in the same way.
-/

namespace GridSource

/-! ## Stores that cannot be told apart -/

namespace Store

/-- What the operations of a store look at. -/
structure Alike (first second : Store) : Prop where
  url_eq : first.url = second.url
  key_eq : first.key = second.key
  assembler_eq : first.assembler = second.assembler

variable {first second : Store}

theorem Alike.listing_eq (halike : first.Alike second) (options : LoadOptions) :
    first.listing options = second.listing options := by
  have hurl (query : String) : first.listingUrl query = second.listingUrl query := by
    rw [listingUrl, listingUrl, halike.url_eq]
  simp only [listing, halike.assembler_eq, hurl]

theorem Alike.plan_eq (halike : first.Alike second) (operation : Operation) :
    first.plan operation = second.plan operation := by
  have hrecord (key : Value) : first.recordUrl key = second.recordUrl key := by
    simp only [recordUrl, encodedKey, halike.url_eq, halike.assembler_eq]
  have hkey (key : Value) : first.keyOptions key = second.keyOptions key := by
    rw [keyOptions, keyOptions, halike.key_eq]
  cases operation <;> simp only [plan, halike.listing_eq, hrecord, hkey, halike.url_eq]

theorem Alike.finish_eq (halike : first.Alike second) (operation : Operation) (request : Request)
    (outcome : Outcome) :
    first.finish operation request outcome = second.finish operation request outcome := by
  have hbody : first.readBody operation = second.readBody operation := by
    funext body
    cases operation <;> simp only [readBody, readTotal, halike.url_eq]
  simp only [finish, hbody, halike.assembler_eq]

end Store

namespace Session

structure Alike (first second : Session) : Prop where
  store : first.store.Alike second.store
  client_eq : first.client = second.client
  closed_eq : first.closed = second.closed

variable {first second : Session}

theorem Alike.request_eq (halike : first.Alike second) (operation : Operation) :
    first.request operation = second.request operation := by
  rw [request, request, halike.store.plan_eq, halike.client_eq]

theorem Alike.run_eq (halike : first.Alike second) (operation : Operation) (script : Script) :
    first.run operation script = second.run operation script := by
  simp only [run, exchange, halike.store.plan_eq, halike.store.finish_eq, halike.client_eq,
    halike.closed_eq]

theorem Alike.close (halike : first.Alike second) : first.close.Alike second.close := by
  refine ⟨halike.store, halike.client_eq, ?_⟩
  simp only [Session.close, halike.client_eq, halike.closed_eq]

/-- One step has the same exchange, and leaves sessions behind that are alike. -/
theorem Alike.step (halike : first.Alike second) (script : Script) (action : SessionStep) :
    ∃ exchange left first' second', first.step script action = (exchange, first', left) ∧
      second.step script action = (exchange, second', left) ∧ first'.Alike second' := by
  cases action with
  | operate operation =>
      refine ⟨(first.run operation script).1, (first.run operation script).2, first, second, rfl,
        ?_, halike⟩
      rw [halike.run_eq]
      rfl
  | enter => exact ⟨silent, script, first, second, rfl, rfl, halike⟩
  | leave | close => exact ⟨silent, script, first.close, second.close, rfl, rfl, halike.close⟩

theorem Alike.exchanges_eq (halike : first.Alike second) (script : Script)
    (actions : List SessionStep) :
    (first.play script actions).exchanges = (second.play script actions).exchanges := by
  induction actions generalizing first second script with
  | nil => rfl
  | cons action actions ih =>
      obtain ⟨exchange, left, first', second', hfirst, hsecond, hnext⟩ := halike.step script action
      rw [play_cons hfirst, play_cons hsecond]
      exact congrArg (exchange :: ·) (ih hnext left)

end Session

/-! ## One mapping of settings -/

namespace StoreProperties

/-- The settings of a store and the values they are meant to have.  A text holds no
placeholder. -/
inductive IsSetting : String → Value → Prop where
  | url {content : String} (hunmarked : Placeholder.isMarked content = false) :
      IsSetting "url" (.text content)
  | key {content : String} (hunmarked : Placeholder.isMarked content = false) :
      IsSetting "key" (.text content)
  | timeout (seconds : Int) : IsSetting "timeout" (.int seconds)
  | headers (members : Members) : IsSetting "headers" (.object members)
  | join (relations : List Value) : IsSetting "join" (.list relations)
  | cache (flag : Bool) : IsSetting "cache" (.bool flag)
  | includeDeleted (flag : Bool) : IsSetting "include_deleted" (.bool flag)
  | options (members : Members) : IsSetting "options" (.object members)

/-- The properties that have some of their settings from a mapping. -/
def ofEntries (entries : List (String × Value)) : StoreProperties :=
  { url := (entries.lookup "url").getD default.url
    key := (entries.lookup "key").getD default.key
    timeout := (entries.lookup "timeout").getD default.timeout
    headers := (entries.lookup "headers").getD default.headers
    join := (entries.lookup "join").getD default.join
    cache := (entries.lookup "cache").getD default.cache
    includeDeleted := (entries.lookup "include_deleted").getD default.includeDeleted
    options := (entries.lookup "options").getD default.options }

/-- The settings whose only section is that of the store. -/
def sectionSettings (entries : List (String × Value)) : Settings :=
  .ofValue (.record [("crudstore", .record [("store", .record entries)])])

variable {entries : List (String × Value)} {environment : Environment}

theorem find?_sectionSettings (entries : List (String × Value)) (path : List String) :
    Tree.find? (sectionSettings entries).tree ("crudstore" :: "store" :: path) =
      Tree.find? (.record entries) path := by
  have htree : (sectionSettings entries).tree =
      .record [("crudstore", .record [("store", .record entries)])] := rfl
  simp only [htree, Tree.find?_cons, Value.field?_record, List.lookup_cons_self, Option.bind_some]

theorem sectionAt_sectionSettings (entries : List (String × Value)) :
    (sectionSettings entries).sectionAt "crudstore.store" =
      entries.map fun (name, value) => (.text name, value) := by
  have hparts : Tree.parts "crudstore.store" = ["crudstore", "store"] := by decide +kernel
  rw [Settings.sectionAt, Tree.sectionAt, Tree.lookup?, hparts, find?_sectionSettings]
  rfl

theorem named?_sectionSettings (entries : List (String × Value)) (name : String) :
    Members.named? ((sectionSettings entries).sectionAt "crudstore.store") name =
      entries.lookup name := by
  rw [sectionAt_sectionSettings]
  exact Members.named?_map_text entries name

theorem isSetting_of_lookup (hsettings : ∀ entry ∈ entries, IsSetting entry.1 entry.2)
    {name : String} {value : Value} (hvalue : entries.lookup name = some value) :
    IsSetting name value :=
  hsettings (name, value) (Members.mem_of_lookup hvalue)

/-- A setting that is a text is bound to it. -/
theorem IsSetting.of_text {field : SettingField} (hfield : field ∈ schema.fields)
    {content : String} (hsetting : IsSetting field.name (.text content)) :
    field.kind = .other ∧ Placeholder.isMarked content = false := by
  have hkinds : ∀ other ∈ schema.fields, other.name = "url" ∨ other.name = "key" →
      other.kind = .other := by
    simp [schema]
  generalize hname : field.name = name at hsetting
  cases hsetting with
  | url hunmarked => exact ⟨hkinds field hfield (.inl hname), hunmarked⟩
  | key hunmarked => exact ⟨hkinds field hfield (.inr hname), hunmarked⟩

theorem ofSettings_section (hsettings : ∀ entry ∈ entries, IsSetting entry.1 entry.2)
    (hvariables : ∀ field ∈ schema.fields,
      environment.lookup (Settings.variableName ("crudstore.store." ++ field.name)) = none) :
    ofSettings (sectionSettings entries) environment = .ok (ofEntries entries) := by
  have hbound : (ofEntries entries).entries = schema.fields.map fun field =>
      (field.name, (entries.lookup field.name).getD (field.fallback.getD .null)) := rfl
  rw [ofSettings_eq_ok_iff, hbound, List.forall₂_map_right_iff, List.forall₂_same]
  intro field hfield
  have hname := name_of_mem_schema hfield
  have hvariable := (key_of_setting field.name).symm ▸ hvariables field hfield
  have hfound : Schema.fieldValue (sectionSettings entries) environment "crudstore.store" field =
      .ok (entries.lookup field.name) := by
    by_cases htext : ∃ content, entries.lookup field.name = some (.text content)
    · obtain ⟨content, hvalue⟩ := htext
      obtain ⟨hkind, hunmarked⟩ := (isSetting_of_lookup hsettings hvalue).of_text hfield
      rw [Schema.fieldValue_of_text hname hvariable
          ((named?_sectionSettings entries field.name).trans hvalue),
        Placeholder.Source.resolve_of_unmarked _ hunmarked, hkind, hvalue]
      rfl
    · rw [← named?_sectionSettings] at htext ⊢
      exact Schema.fieldValue_of_not_text hname hvariable (not_exists.mp htext)
  obtain ⟨fallback, hfallback⟩ : ∃ fallback, field.fallback = some fallback := by
    simp only [schema, List.mem_cons, List.not_mem_nil, or_false] at hfield
    rcases hfield with rfl | rfl | rfl | rfl | rfl | rfl | rfl | rfl <;> exact ⟨_, rfl⟩
  refine ⟨rfl, _, hfound, ?_⟩
  rw [hfallback]
  cases entries.lookup field.name <;> rfl

/-! ## The mapping as options -/

/-- The same properties with `id` for a key field that is empty. -/
def withKeyField (properties : StoreProperties) : StoreProperties :=
  { properties with key := if properties.key.truthy then properties.key else default.key }

theorem IsSetting.value_of_name {name : String} {value : Value} (hsetting : IsSetting name value) :
    (name = "url" → ∃ content, value = .text content) ∧
      (name = "join" → ∃ relations, value = .list relations) ∧
      (name = "options" → ∃ members, value = .object members) := by
  cases hsetting <;> simp

theorem IsSetting.name_mem {name : String} {value : Value} (hsetting : IsSetting name value) :
    name ∈ settingNames := by
  rw [mem_settingNames_iff]
  cases hsetting <;> simp

theorem lookup_ofEntries {name : String} (hname : name ∈ settingNames)
    (entries : List (String × Value)) :
    (ofEntries entries).entries.lookup name =
      (entries.lookup name).or (default.entries.lookup name) := by
  rw [mem_settingNames_iff] at hname
  rcases hname with rfl | rfl | rfl | rfl | rfl | rfl | rfl | rfl <;> exact Option.or_some.symm

/-- The settings that the options take over are those of the mapping, but for an empty key
field. -/
theorem lookup_withKeyField {name : String} (hname : name ∈ settingNames)
    (hoptions : name ≠ "options") (entries : List (String × Value)) :
    (ofEntries entries).withKeyField.entries.lookup name =
      ((entries.lookup name).filter (accepts name)).or (default.entries.lookup name) := by
  have hset : (ofEntries entries).set? "key" (ofEntries entries).withKeyField.key =
      some (ofEntries entries).withKeyField := rfl
  rw [lookup_entries_set? hset]
  by_cases hkey : name = "key"
  · subst hkey
    rw [if_pos rfl, withKeyField, ofEntries]
    cases entries.lookup "key" with
    | none => rfl
    | some value =>
        have haccepts : accepts "key" value = value.truthy := rfl
        rw [Option.filter_some, haccepts, Option.getD_some]
        cases htruthy : value.truthy <;> rfl
  · rw [if_neg hkey, lookup_ofEntries hname]
    cases entries.lookup name with
    | none => rfl
    | some value => rw [Option.filter_some, accepts_of_ne hoptions hkey, if_pos rfl]

theorem exists_url (hsettings : ∀ entry ∈ entries, IsSetting entry.1 entry.2) :
    ∃ address, (ofEntries entries).url = .text address ∧
      (entries.lookup "url" = some (.text address) ∨
        entries.lookup "url" = none ∧ address = "") := by
  rw [ofEntries]
  cases hurl : entries.lookup "url" with
  | none => exact ⟨"", rfl, .inr ⟨rfl, rfl⟩⟩
  | some value =>
      obtain ⟨address, rfl⟩ := (isSetting_of_lookup hsettings hurl).value_of_name.1 rfl
      exact ⟨address, rfl, .inl rfl⟩

theorem exists_join (hsettings : ∀ entry ∈ entries, IsSetting entry.1 entry.2) :
    ∃ relations, (ofEntries entries).join = .list relations := by
  rw [ofEntries]
  cases hjoin : entries.lookup "join" with
  | none => exact ⟨[], rfl⟩
  | some value => exact (isSetting_of_lookup hsettings hjoin).value_of_name.2.1 rfl

/-- As options the settings make the same properties, but for an empty key field. -/
theorem ofOptions_record (hdistinct : (entries.map Prod.fst).Nodup)
    (hsettings : ∀ entry ∈ entries, IsSetting entry.1 entry.2) :
    ofOptions (.record entries) = .ok (ofEntries entries).withKeyField := by
  obtain ⟨nested, hnested, hoptions⟩ : ∃ nested, Nests (.record entries) nested ∧
      (ofEntries entries).options = .object nested := by
    have hfield := Value.field?_record entries "options"
    rw [ofEntries]
    cases hoptions : entries.lookup "options" with
    | none => exact ⟨[], .absent (hfield.trans hoptions), rfl⟩
    | some value =>
        obtain ⟨members, rfl⟩ := (isSetting_of_lookup hsettings hoptions).value_of_name.2.2 rfl
        exact ⟨members, .mapping (hfield.trans hoptions), rfl⟩
  have hother : otherMembers (entries.map fun (name, value) => (.text name, value)) = [] :=
    otherMembers_of_settings fun entry hentry => (hsettings entry hentry).name_mem
  obtain ⟨properties, hproperties, hkept, hvalues⟩ :=
    exists_ofOptions (Members.pairwise_map_text hdistinct) hnested
  rw [Value.record, hproperties]
  refine congrArg Except.ok (eq_of_lookup_entries fun name hname => ?_)
  by_cases hname' : name = "options"
  · subst hname'
    rw [hother] at hkept
    exact congrArg some (hkept.trans hoptions.symm)
  · rw [hvalues name hname hname', lookup_withKeyField hname hname', Members.named?_map_text]

end StoreProperties

namespace Session

/-- A session over a given client, its store from settings. -/
def configured (settings : Settings) (environment : Environment) (client : Client)
    (alphabet : Alphabet := .unicode) : Except Misuse Session := do
  start (← StoreProperties.ofSettings settings environment) (some client) alphabet

/-- A session over a given client, its store from options. -/
def created (options : Value) (client : Client) (alphabet : Alphabet := .unicode) :
    Except Misuse Session := do
  start (← StoreProperties.ofOptions options) (some client) alphabet

/-- What sessions have in common that no caller can tell apart. -/
structure Agrees (first second : Session) : Prop where
  url_eq : first.store.url = second.store.url
  key_eq : first.store.key = second.store.key
  options_eq : first.store.properties.options = second.store.properties.options
  request_eq (operation : Operation) : first.request operation = second.request operation
  exchanges_eq (script : Script) (actions : List SessionStep) :
    (first.play script actions).exchanges = (second.play script actions).exchanges

theorem start_of_no_url {properties : StoreProperties} (hurl : properties.url.truthy = false)
    (client : Client) (alphabet : Alphabet) :
    start properties (some client) alphabet =
      .error (.unacceptable (some Store.emptyUrlMessage)) := by
  have hchecked : Store.checkUrl properties =
      .error (.unacceptable (some Store.emptyUrlMessage)) := by
    rw [Store.checkUrl, hurl]
    rfl
  rw [start, hchecked]
  rfl

theorem start_of_url {properties : StoreProperties} (hurl : properties.url.truthy = true)
    {relations : List Value} (hjoin : properties.join = .list relations) (client : Client)
    (alphabet : Alphabet) :
    start properties (some client) alphabet =
      .ok { store :=
              { properties
                assembler := { Assembler.default with
                  join := .tuple relations
                  cache := properties.cache.truthy
                  includeDeleted := properties.includeDeleted.truthy
                  alphabet } }
            client
            closed := false } := by
  have hchecked : Store.checkUrl properties = .ok () := by
    rw [Store.checkUrl, hurl]
    rfl
  rw [start, Store.create, hchecked, Store.assemblerOf, hjoin]
  rfl

variable {entries : List (String × Value)}

theorem agrees_of_alike {first second : Session} (halike : first.Alike second)
    (hoptions : first.store.properties.options = second.store.properties.options) :
    first.Agrees second where
  url_eq := halike.store.url_eq
  key_eq := halike.store.key_eq
  options_eq := hoptions
  request_eq := halike.request_eq
  exchanges_eq := halike.exchanges_eq

/-- A store replaces a key field that is empty by itself. -/
theorem key_withKeyField (properties : StoreProperties) (first second : Assembler) :
    Store.key ⟨properties, first⟩ = Store.key ⟨properties.withKeyField, second⟩ := by
  rw [Store.key, Store.key, StoreProperties.withKeyField]
  cases htruthy : properties.key.truthy with
  | false => rfl
  | true => simp only [htruthy, if_true]

/-- The same settings are refused as a section and as options, when their address is absent or
empty, or they make sessions that agree. -/
theorem configured_agrees (hdistinct : (entries.map Prod.fst).Nodup)
    (hsettings : ∀ entry ∈ entries, StoreProperties.IsSetting entry.1 entry.2)
    {environment : Environment} (hvariables : ∀ field ∈ StoreProperties.schema.fields,
      environment.lookup (Settings.variableName ("crudstore.store." ++ field.name)) = none)
    (client : Client) (alphabet : Alphabet) :
    ((entries.lookup "url" = none ∨ entries.lookup "url" = some (.text "")) ∧
      configured (StoreProperties.sectionSettings entries) environment client alphabet =
        .error (.unacceptable (some Store.emptyUrlMessage)) ∧
      created (.record entries) client alphabet =
        .error (.unacceptable (some Store.emptyUrlMessage))) ∨
    ∃ address first second, address ≠ "" ∧ entries.lookup "url" = some (.text address) ∧
      configured (StoreProperties.sectionSettings entries) environment client alphabet =
        .ok first ∧
      created (.record entries) client alphabet = .ok second ∧ first.Agrees second := by
  have hconfigured :
      configured (StoreProperties.sectionSettings entries) environment client alphabet =
        start (StoreProperties.ofEntries entries) (some client) alphabet := by
    rw [configured, StoreProperties.ofSettings_section hsettings hvariables, Outcome.ok_bind]
  have hcreated : created (.record entries) client alphabet =
      start (StoreProperties.ofEntries entries).withKeyField (some client) alphabet := by
    rw [created, StoreProperties.ofOptions_record hdistinct hsettings, Outcome.ok_bind]
  obtain ⟨address, hurl, hgiven⟩ := StoreProperties.exists_url hsettings
  obtain ⟨relations, hjoin⟩ := StoreProperties.exists_join hsettings
  rw [hconfigured, hcreated]
  by_cases hempty : address = ""
  · subst hempty
    have hfalsy : (StoreProperties.ofEntries entries).url.truthy = false := by
      rw [hurl]
      rfl
    have hfalsy' : (StoreProperties.ofEntries entries).withKeyField.url.truthy = false := hfalsy
    refine .inl ⟨?_, start_of_no_url hfalsy client alphabet,
      start_of_no_url hfalsy' client alphabet⟩
    rcases hgiven with hgiven | ⟨hgiven, -⟩
    · exact .inr hgiven
    · exact .inl hgiven
  · have htruthy : (StoreProperties.ofEntries entries).url.truthy = true := by
      rw [hurl]
      simpa [Value.truthy] using hempty
    have htruthy' : (StoreProperties.ofEntries entries).withKeyField.url.truthy = true := htruthy
    have hjoin' : (StoreProperties.ofEntries entries).withKeyField.join = .list relations := hjoin
    have hlookup := hgiven.resolve_right fun hnone => hempty hnone.2
    refine .inr ⟨address, _, _, hempty, hlookup, start_of_url htruthy hjoin client alphabet,
      start_of_url htruthy' hjoin' client alphabet, agrees_of_alike ?_ rfl⟩
    exact ⟨⟨rfl, key_withKeyField _ _ _, rfl⟩, rfl, rfl⟩

/-- Some of the settings, with an empty key field and options to keep. -/
def orderEntries : List (String × Value) :=
  [ ("url", .text "http://x/orders"), ("key", .text ""), ("timeout", .int 5),
    ("join", .list [.text "lines"]), ("cache", .bool false),
    ("options", .object [(.text "pageSize", .int 20)]) ]

theorem configured_agrees_orders :
    (orderEntries.map Prod.fst).Nodup ∧
      (∀ entry ∈ orderEntries, StoreProperties.IsSetting entry.1 entry.2) ∧
      (∀ field ∈ StoreProperties.schema.fields,
        [("CRUDSTORE_URL", "http://y")].lookup
          (Settings.variableName ("crudstore.store." ++ field.name)) = none) ∧
      ∃ first second,
        configured (StoreProperties.sectionSettings orderEntries) [("CRUDSTORE_URL", "http://y")]
          .plain = .ok first ∧
        created (.record orderEntries) .plain = .ok second ∧ first.Agrees second := by
  have hdistinct : (orderEntries.map Prod.fst).Nodup := by decide
  have hsettings : ∀ entry ∈ orderEntries, StoreProperties.IsSetting entry.1 entry.2 := by
    simp only [orderEntries, List.forall_mem_cons]
    exact ⟨.url (by decide +kernel), .key rfl, .timeout 5, .join _, .cache false, .options _,
      fun _ hnone => nomatch hnone⟩
  have hvariables : ∀ field ∈ StoreProperties.schema.fields,
      [("CRUDSTORE_URL", "http://y")].lookup
        (Settings.variableName ("crudstore.store." ++ field.name)) = none := by decide +kernel
  refine ⟨hdistinct, hsettings, hvariables, ?_⟩
  rcases configured_agrees hdistinct hsettings hvariables .plain .unicode with
    ⟨hurl | hurl, -, -⟩ | ⟨address, first, second, -, -, hfirst, hsecond, hagrees⟩
  · simp [orderEntries] at hurl
  · simp [orderEntries] at hurl
  · exact ⟨first, second, hfirst, hsecond, hagrees⟩

end Session

end GridSource
