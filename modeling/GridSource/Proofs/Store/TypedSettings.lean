import GridSource.Proofs.Store.Construction

/-!
# Types of settings

Each setting of a store is declared with a type.  A text that overrides a setting is read as a
number or as a flag where one of these is declared, and taken as it is everywhere else.  So a
setting that is bound has its type unless it is declared as an object or a list and a variable
overrides it, and a store joins the characters of the text that overrides its relations.
-/

namespace GridSource

inductive SettingType where
  | text
  | integer
  | flag
  | object
  | list
deriving DecidableEq

namespace SettingType

/-- The values of a type.  A truth value counts as an integer too. -/
inductive Admits : SettingType → Value → Prop where
  | text (content : String) : Admits .text (.text content)
  | integer (number : Int) : Admits .integer (.int number)
  | truth (flag : Bool) : Admits .integer (.bool flag)
  | flag (flag : Bool) : Admits .flag (.bool flag)
  | object (members : Members) : Admits .object (.object members)
  | list (items : List Value) : Admits .list (.list items)

/-- How a text is read for a setting of a type. -/
def kind : SettingType → SettingKind
  | .integer => .integer
  | .flag => .flag
  | .text | .object | .list => .other

def IsContainer (type : SettingType) : Prop := type = .object ∨ type = .list

instance : DecidablePred IsContainer := fun _ => inferInstanceAs (Decidable (_ ∨ _))

/-- No text is read as a container. -/
theorem admits_coerceText_iff {type : SettingType} {content : String} {value : Value}
    (hread : Schema.coerceText type.kind content = .ok value) :
    type.Admits value ↔ ¬ type.IsContainer := by
  cases type with
  | text =>
      obtain rfl := Except.ok.inj hread
      exact iff_of_true (.text content) (by decide)
  | integer =>
      obtain ⟨number, -, rfl⟩ := Outcome.map_eq_ok_iff.mp hread
      exact iff_of_true (.integer number) (by decide)
  | flag =>
      obtain rfl := Except.ok.inj hread
      exact iff_of_true (.flag _) (by decide)
  | object | list =>
      obtain rfl := Except.ok.inj hread
      refine iff_of_false ?_ (by decide)
      rintro ⟨⟩

theorem Admits.kind_of_text {type : SettingType} {content : String}
    (hadmits : type.Admits (.text content)) : type = .text := by
  cases hadmits
  rfl

end SettingType

/-- A variable decides before the section. -/
theorem Schema.fieldValue_of_variable {settings : Settings} {environment : Environment}
    {root override : String} {field : SettingField}
    (hvariable : environment.lookup (Settings.variableName (root ++ "." ++ field.name)) =
      some override) :
    fieldValue settings environment root field = (coerceText field.kind override).map some := by
  rw [fieldValue, Settings.get?, hvariable]
  rfl

namespace StoreProperties

variable {settings : Settings} {environment : Environment} {properties : StoreProperties}

/-- The types that the settings are declared with. -/
def types : List (String × SettingType) :=
  [ ("url", .text), ("key", .text), ("timeout", .integer), ("headers", .object), ("join", .list),
    ("cache", .flag), ("include_deleted", .flag), ("options", .object) ]

def HasType (name : String) (value : Value) : Prop :=
  ∃ type, types.lookup name = some type ∧ type.Admits value

/-- The settings that are declared as objects or lists. -/
def containers : List String := ["headers", "join", "options"]

/-- A setting is read by its type, and its default is of it. -/
theorem exists_type_of_mem_schema {field : SettingField} (hfield : field ∈ schema.fields) :
    ∃ type fallback, types.lookup field.name = some type ∧ field.kind = type.kind ∧
      (type.IsContainer ↔ field.name ∈ containers) ∧ field.fallback = some fallback ∧
      type.Admits fallback := by
  simp only [schema, List.mem_cons, List.not_mem_nil, or_false] at hfield
  rcases hfield with rfl | rfl | rfl | rfl | rfl | rfl | rfl | rfl
  · exact ⟨.text, _, rfl, rfl, by decide, rfl, .text _⟩
  · exact ⟨.text, _, rfl, rfl, by decide, rfl, .text _⟩
  · exact ⟨.integer, _, rfl, rfl, by decide, rfl, .integer _⟩
  · exact ⟨.object, _, rfl, rfl, by decide, rfl, .object _⟩
  · exact ⟨.list, _, rfl, rfl, by decide, rfl, .list _⟩
  · exact ⟨.flag, _, rfl, rfl, by decide, rfl, .flag _⟩
  · exact ⟨.flag, _, rfl, rfl, by decide, rfl, .flag _⟩
  · exact ⟨.object, _, rfl, rfl, by decide, rfl, .object _⟩

/-- The values of the section that belong to settings have their types. -/
def IsTyped (settings : Settings) : Prop :=
  ∀ field ∈ schema.fields, ∀ value,
    Members.named? (settings.sectionAt "crudstore.store") field.name = some value →
      HasType field.name value

theorem hasType_iff {name : String} {type : SettingType} (htype : types.lookup name = some type)
    {value : Value} : HasType name value ↔ type.Admits value := by
  refine ⟨?_, fun hvalue => ⟨type, htype, hvalue⟩⟩
  rintro ⟨other, hother, hvalue⟩
  obtain rfl := Option.some.inj (htype.symm.trans hother)
  exact hvalue

section

variable {field : SettingField} (hfield : field ∈ schema.fields) {value : Value}
  (hbinds : Schema.Binds settings environment "crudstore.store" field value)

include hfield hbinds

/-- What a variable overrides has its type unless it is a container. -/
theorem Binds.of_variable {override : String}
    (hvariable : environment.lookup (Settings.variableName ("crudstore.store." ++ field.name)) =
      some override) :
    Schema.coerceText field.kind override = .ok value ∧
      (HasType field.name value ↔ field.name ∉ containers) := by
  obtain ⟨type, fallback, htype, hkind, hcontainer, -, -⟩ := exists_type_of_mem_schema hfield
  obtain ⟨found, hfound, hchosen⟩ := hbinds
  rw [← key_of_setting] at hvariable
  rw [Schema.fieldValue_of_variable hvariable] at hfound
  obtain ⟨read, hread, rfl⟩ := Outcome.map_eq_ok_iff.mp hfound
  obtain rfl : read = value := Option.some.inj hchosen
  refine ⟨hread, ?_⟩
  rw [hkind] at hread
  rw [hasType_iff htype, SettingType.admits_coerceText_iff hread, hcontainer]

/-- What no variable overrides has its type where the section has. -/
theorem Binds.of_no_variable (htyped : IsTyped settings)
    (hvariable : environment.lookup (Settings.variableName ("crudstore.store." ++ field.name)) =
      none) :
    HasType field.name value := by
  obtain ⟨type, fallback, htype, hkind, -, hfallback, hdefault⟩ := exists_type_of_mem_schema hfield
  obtain ⟨found, hfound, hchosen⟩ := hbinds
  have hname := name_of_mem_schema hfield
  rw [← key_of_setting] at hvariable
  rw [hasType_iff htype]
  by_cases htext : ∃ content,
      Members.named? (settings.sectionAt "crudstore.store") field.name = some (.text content)
  · obtain ⟨content, hcontent⟩ := htext
    obtain rfl := ((hasType_iff htype).mp (htyped field hfield _ hcontent)).kind_of_text
    rw [Schema.fieldValue_of_text hname hvariable hcontent, hkind, Outcome.bind_eq_ok_iff] at hfound
    obtain ⟨resolved, -, hread⟩ := hfound
    obtain rfl := Except.ok.inj hread
    obtain rfl : .text resolved = value := Option.some.inj hchosen
    exact .text resolved
  · rw [Schema.fieldValue_of_not_text hname hvariable (not_exists.mp htext)] at hfound
    obtain rfl := Except.ok.inj hfound
    cases hfound : Members.named? (settings.sectionAt "crudstore.store") field.name with
    | some configured =>
        rw [hfound] at hchosen
        obtain rfl : configured = value := Option.some.inj hchosen
        exact (hasType_iff htype).mp (htyped field hfield _ hfound)
    | none =>
        rw [hfound, hfallback] at hchosen
        obtain rfl : fallback = value := Option.some.inj hchosen
        exact hdefault

end

/-- What a setting is bound to. -/
theorem lookup_hasType_iff (htyped : IsTyped settings)
    (hbound : ofSettings settings environment = .ok properties) {field : SettingField}
    (hfield : field ∈ schema.fields) :
    ∃ value, properties.entries.lookup field.name = some value ∧
      (HasType field.name value ↔ (field.name ∈ containers → environment.lookup
        (Settings.variableName ("crudstore.store." ++ field.name)) = none)) ∧
      ∀ override, environment.lookup
          (Settings.variableName ("crudstore.store." ++ field.name)) = some override →
        Schema.coerceText field.kind override = .ok value := by
  obtain ⟨value, hlookup, hbinds⟩ := lookup_of_ofSettings hbound hfield
  refine ⟨value, hlookup, ?_, fun override hvariable =>
    (Binds.of_variable hfield hbinds hvariable).1⟩
  cases hvariable : environment.lookup
    (Settings.variableName ("crudstore.store." ++ field.name)) with
  | none => exact iff_of_true (Binds.of_no_variable hfield hbinds htyped hvariable) fun _ => rfl
  | some override => simpa using (Binds.of_variable hfield hbinds hvariable).2

/-! ## The relations of a store -/

/-- A store whose address is not empty has the relations that its setting is a sequence of. -/
theorem create_of_elements {relations : List Value} (hurl : properties.url.truthy = true)
    (hjoin : properties.join.elements? = some relations) :
    ∃ store, Store.create properties = .ok store ∧ store.assembler.join = .tuple relations := by
  rw [Store.create, Store.checkUrl, if_pos hurl, Outcome.ok_bind, Store.assemblerOf,
    Value.elements, hjoin]
  exact ⟨_, rfl, rfl⟩

/-- The characters of a text, each as a relation. -/
def characters (content : String) : List Value :=
  content.toList.map fun character => .text (String.singleton character)

theorem join_hasType_iff (htyped : IsTyped settings)
    (hbound : ofSettings settings environment = .ok properties) :
    (HasType "join" properties.join ↔
      environment.lookup (Settings.variableName "crudstore.store.join") = none) ∧
    ∀ override, environment.lookup (Settings.variableName "crudstore.store.join") = some override →
      properties.join = .text override := by
  have hfield : (⟨"join", .other, some default.join⟩ : SettingField) ∈ schema.fields := by
    simp [schema]
  obtain ⟨value, hlookup, htype, hoverride⟩ := lookup_hasType_iff htyped hbound hfield
  obtain rfl : properties.join = value := Option.some.inj hlookup
  refine ⟨htype.trans ⟨fun hnone => hnone (by decide), fun hnone _ => hnone⟩, ?_⟩
  exact fun override hvariable => (Except.ok.inj (hoverride override hvariable)).symm

/-- Where the section is typed, a setting that is bound has its type unless it is an object or a
list and a variable overrides it.  What a variable overrides is what its text is read as.  A store
with an address joins the relations of its list, but the characters of a text that overrides it
one by one. -/
theorem ofSettings_hasType_iff (htyped : IsTyped settings)
    (hbound : ofSettings settings environment = .ok properties) :
    (∀ field ∈ schema.fields, ∃ value, properties.entries.lookup field.name = some value ∧
      (HasType field.name value ↔
        (field.name ∈ ["headers", "join", "options"] → environment.lookup
          (Settings.variableName ("crudstore.store." ++ field.name)) = none)) ∧
      ∀ override, environment.lookup
          (Settings.variableName ("crudstore.store." ++ field.name)) = some override →
        Schema.coerceText field.kind override = .ok value) ∧
    (properties.url.truthy = true →
      ∃ store, Store.create properties = .ok store ∧
        (environment.lookup (Settings.variableName "crudstore.store.join") = none →
          ∃ relations, properties.join = .list relations ∧
            store.assembler.join = .tuple relations) ∧
        ∀ override, environment.lookup (Settings.variableName "crudstore.store.join") =
            some override →
          properties.join = .text override ∧
            store.assembler.join = .tuple (characters override)) := by
  refine ⟨fun field hfield => lookup_hasType_iff htyped hbound hfield, fun hurl => ?_⟩
  obtain ⟨htype, hoverride⟩ := join_hasType_iff htyped hbound
  cases hvariable : environment.lookup (Settings.variableName "crudstore.store.join") with
  | none =>
      obtain ⟨relations, hrelations⟩ : ∃ relations, properties.join = .list relations := by
        have hlist := (hasType_iff rfl).mp (htype.mpr hvariable)
        generalize properties.join = join at hlist
        cases hlist with
        | list items => exact ⟨items, rfl⟩
      have helements : properties.join.elements? = some relations := by
        rw [hrelations]
        rfl
      obtain ⟨store, hstore, hjoined⟩ := create_of_elements hurl helements
      exact ⟨store, hstore, fun _ => ⟨relations, hrelations, hjoined⟩, nofun⟩
  | some override =>
      have htext := hoverride override hvariable
      have helements : properties.join.elements? = some (characters override) := by
        rw [htext]
        rfl
      obtain ⟨store, hstore, hjoined⟩ := create_of_elements hurl helements
      refine ⟨store, hstore, nofun, fun other hother => ?_⟩
      obtain rfl := Option.some.inj hother
      exact ⟨htext, hjoined⟩

/-! ## Two variables -/

theorem isTyped_sectionSettings {entries : List (String × Value)}
    (hentries : ∀ entry ∈ entries, HasType entry.1 entry.2) :
    IsTyped (sectionSettings entries) := by
  intro field hfield value hvalue
  rw [named?_sectionSettings] at hvalue
  exact hentries (field.name, value) (Members.mem_of_lookup hvalue)

theorem exists_of_url (hurl : (ofSettings settings environment).toOption.map
      (fun properties => properties.url.truthy) = some true) :
    ∃ properties, ofSettings settings environment = .ok properties ∧
      properties.url.truthy = true := by
  cases hbound : ofSettings settings environment with
  | error cause =>
      rw [hbound] at hurl
      cases hurl
  | ok properties =>
      rw [hbound] at hurl
      exact ⟨properties, rfl, Option.some.inj hurl⟩

def profileEntries : List (String × Value) :=
  [("url", .text "http://x/users"), ("join", .list [.text "profile"])]

theorem isTyped_profileEntries : IsTyped (sectionSettings profileEntries) := by
  refine isTyped_sectionSettings ?_
  simp only [profileEntries, List.forall_mem_cons]
  exact ⟨⟨.text, rfl, .text _⟩, ⟨.list, rfl, .list _⟩, fun _ hnone => nomatch hnone⟩

/-- A text that overrides a number is read as one, and the list stays a list. -/
theorem ofSettings_hasType_iff_timeout :
    IsTyped (sectionSettings profileEntries) ∧
      ∃ properties store, ofSettings (sectionSettings profileEntries)
          [("CRUDSTORE_STORE_TIMEOUT", "5")] = .ok properties ∧
        properties.timeout = .int 5 ∧ HasType "timeout" properties.timeout ∧
        Store.create properties = .ok store ∧
        ∃ relations, properties.join = .list relations ∧
          store.assembler.join = .tuple relations := by
  obtain ⟨properties, hbound, hurl⟩ : ∃ properties, ofSettings (sectionSettings profileEntries)
      [("CRUDSTORE_STORE_TIMEOUT", "5")] = .ok properties ∧ properties.url.truthy = true :=
    exists_of_url (by decide +kernel)
  obtain ⟨hvalues, hcreated⟩ := ofSettings_hasType_iff isTyped_profileEntries hbound
  have hfield : (⟨"timeout", .integer, some default.timeout⟩ : SettingField) ∈ schema.fields := by
    simp [schema]
  obtain ⟨timeout, hlookup, htype, hread⟩ := hvalues _ hfield
  obtain rfl : properties.timeout = timeout := Option.some.inj hlookup
  have hvariable : Settings.variableName "crudstore.store.timeout" = "CRUDSTORE_STORE_TIMEOUT" := by
    decide +kernel
  have hjoin : [("CRUDSTORE_STORE_TIMEOUT", "5")].lookup
      (Settings.variableName "crudstore.store.join") = none := by decide +kernel
  have hfive : Schema.coerceText .integer "5" = .ok properties.timeout := by
    refine hread "5" ?_
    change [("CRUDSTORE_STORE_TIMEOUT", "5")].lookup
      (Settings.variableName "crudstore.store.timeout") = some "5"
    rw [hvariable]
    rfl
  obtain ⟨store, hstore, hlist, -⟩ := hcreated hurl
  exact ⟨isTyped_profileEntries, properties, store, hbound, (Except.ok.inj hfive).symm,
    htype.mpr fun hname => absurd hname (by decide), hstore, hlist hjoin⟩

/-- A text that overrides the list of relations is bound as it is, and each of its characters is
joined. -/
theorem ofSettings_binds_join_text :
    IsTyped (sectionSettings profileEntries) ∧
      ∃ properties store, ofSettings (sectionSettings profileEntries)
          [("CRUDSTORE_STORE_JOIN", "profile")] = .ok properties ∧
        properties.join = .text "profile" ∧ ¬ HasType "join" properties.join ∧
        Store.create properties = .ok store ∧
        store.assembler.join = .tuple [.text "p", .text "r", .text "o", .text "f", .text "i",
          .text "l", .text "e"] := by
  obtain ⟨properties, hbound, hurl⟩ : ∃ properties, ofSettings (sectionSettings profileEntries)
      [("CRUDSTORE_STORE_JOIN", "profile")] = .ok properties ∧ properties.url.truthy = true :=
    exists_of_url (by decide +kernel)
  obtain ⟨htype, hoverride⟩ := join_hasType_iff isTyped_profileEntries hbound
  have hvariable : [("CRUDSTORE_STORE_JOIN", "profile")].lookup
      (Settings.variableName "crudstore.store.join") = some "profile" := by decide +kernel
  have htext := hoverride "profile" hvariable
  have helements : properties.join.elements? = some (characters "profile") := by
    rw [htext]
    rfl
  obtain ⟨store, hstore, hjoined⟩ := create_of_elements hurl helements
  refine ⟨isTyped_profileEntries, properties, store, hbound, htext, ?_, hstore, hjoined⟩
  rw [htype, hvariable]
  exact Option.some_ne_none _

end StoreProperties

end GridSource
