import GridSource.Proofs.Config.Merge
import GridSource.Proofs.Config.Placeholders
import GridSource.Store.Properties

/-!
# Properties of a store

The properties of a store are a record of eight named settings.  Bound from settings, each of
them has the value of its own field: the text that overrides it, else the configured value with
the placeholders of a text replaced, else its default.
-/

namespace GridSource

/-! ## Members of a section -/

namespace Tree

theorem parts_append {name : String} (hname : '.' ∉ name.toList) (root : String) :
    parts (root ++ "." ++ name) = parts root ++ [name] := by
  have hcharacters : (root ++ "." ++ name).toList = root.toList ++ '.' :: name.toList := by
    simp [String.toList_append]
  rw [parts, parts, hcharacters, Form.splitAt_eq_splitOn, Form.splitAt_eq_splitOn,
    List.splitOn_append_cons_self, List.splitOn_eq_singleton hname, List.map_append,
    List.map_singleton, String.ofList_toList]

theorem find?_concat (tree : Value) (path : List String) (name : String) :
    find? tree (path ++ [name]) = (find? tree path).bind (·.field? name) := by
  induction path generalizing tree with
  | nil =>
      rw [List.nil_append, find?_cons]
      exact Option.bind_fun_some _
  | cons part rest ih =>
      rw [List.cons_append, find?_cons, find?_cons]
      cases tree.field? part with
      | none => rfl
      | some inner => exact ih inner

/-- A key of a section leads to the member of its name. -/
theorem lookup?_member {name : String} (hname : '.' ∉ name.toList) (tree : Value) (root : String) :
    lookup? tree (root ++ "." ++ name) = Members.named? (sectionAt tree root) name := by
  rw [lookup?, parts_append hname, find?_concat, sectionAt, lookup?]
  cases find? tree (parts root) with
  | none => rfl
  | some inner => cases inner <;> rfl

end Tree

/-! ## Configured texts -/

/-- What settings answer a key whose configured value is a text. -/
theorem Settings.get?_of_text {settings : Settings} {environment : Environment}
    {key content : String} (hvariable : environment.lookup (variableName key) = none)
    (htext : Tree.lookup? settings.tree key = some (.text content)) :
    settings.get? environment key =
      ((settings.source environment).resolve content).map fun resolved =>
        some (.text resolved) := by
  have hconfigured : (settings.source environment).configured? key = some (.text content) := by
    rw [Placeholder.Source.configured?, source, htext]
  rw [get?, hvariable]
  simp only [configured?, hconfigured]
  cases hmarked : Placeholder.isMarked content with
  | false =>
      rw [(settings.source environment).resolve_of_unmarked hmarked]
      rfl
  | true => exact if_pos rfl

/-! ## The value of a field -/

namespace Schema

variable {settings : Settings} {environment : Environment} {root : String} {field : SettingField}

section

variable (hname : '.' ∉ field.name.toList)
  (hvariable : environment.lookup (Settings.variableName (root ++ "." ++ field.name)) = none)

include hname hvariable

/-- The placeholders of a configured text are replaced before it is read. -/
theorem fieldValue_of_text {content : String}
    (hvalue : Members.named? (settings.sectionAt root) field.name = some (.text content)) :
    fieldValue settings environment root field =
      (((settings.source environment).resolve content).mapError Placeholder.Failure.misuse) >>=
        fun resolved => (coerceText field.kind resolved).map some := by
  have hlookup : Tree.lookup? settings.tree (root ++ "." ++ field.name) = some (.text content) := by
    rw [Tree.lookup?_member hname, ← Settings.sectionAt, hvalue]
  rw [fieldValue, Settings.get?_of_text hvariable hlookup]
  cases (settings.source environment).resolve content <;> rfl

/-- A configured value that is no text is taken as it is, and so is that nothing is
configured. -/
theorem fieldValue_of_not_text
    (hvalue : ∀ content,
      Members.named? (settings.sectionAt root) field.name ≠ some (.text content)) :
    fieldValue settings environment root field =
      .ok (Members.named? (settings.sectionAt root) field.name) := by
  have hlookup := Tree.lookup?_member hname settings.tree root
  rw [← Settings.sectionAt] at hlookup
  rw [fieldValue, Settings.get?, hvariable]
  simp only [Settings.configured?, Placeholder.Source.configured?, Settings.source, hlookup]
  cases hfound : Members.named? (settings.sectionAt root) field.name with
  | none => rfl
  | some value =>
      cases value with
      | text content => exact absurd hfound (hvalue content)
      | _ => rfl

end

/-- The value that a field is bound to. -/
def Binds (settings : Settings) (environment : Environment) (root : String) (field : SettingField)
    (value : Value) : Prop :=
  ∃ found, fieldValue settings environment root field = .ok found ∧
    (found <|> field.fallback) = some value

theorem withFallback_eq_ok_iff {found : Option Value} {entry : String × Value} :
    withFallback field found = .ok entry ↔
      entry.1 = field.name ∧ (found <|> field.fallback) = some entry.2 := by
  obtain ⟨name, value⟩ := entry
  rw [withFallback]
  cases hchosen : found <|> field.fallback <;> simp [and_comm, eq_comm]

/-- Every field of a schema is bound by itself. -/
theorem bind_eq_ok_iff {schema : Schema} (hroot : schema.root = some root)
    {entries : List (String × Value)} :
    schema.bind settings environment = .ok entries ↔
      List.Forall₂ (fun field entry => entry.1 = field.name ∧
        Binds settings environment root field entry.2) schema.fields entries := by
  rw [bind, hroot]
  simp only [Outcome.bind_eq_ok_iff, Outcome.mapM_eq_ok_iff, withFallback_eq_ok_iff]
  generalize schema.fields = fields
  constructor
  · rintro ⟨found, hfound, hentries⟩
    induction hfound generalizing entries with
    | nil =>
        obtain rfl := List.forall₂_nil_left_iff.mp hentries
        exact .nil
    | cons hfirst hrest ih =>
        rw [List.zip_cons_cons, List.forall₂_cons_left_iff] at hentries
        obtain ⟨entry, others, ⟨hname, hvalue⟩, hothers, rfl⟩ := hentries
        exact .cons ⟨hname, _, hfirst, hvalue⟩ (ih hothers)
  · intro hentries
    induction hentries with
    | nil => exact ⟨[], .nil, .nil⟩
    | cons hfirst hrest ih =>
        obtain ⟨hname, value, hvalue, hchosen⟩ := hfirst
        obtain ⟨found, hfound, hothers⟩ := ih
        exact ⟨value :: found, .cons hvalue hfound, .cons ⟨hname, hchosen⟩ hothers⟩

end Schema

/-! ## The record of settings -/

namespace StoreProperties

@[simp]
theorem ofFields_entries (properties : StoreProperties) :
    ofFields properties.entries = .ok properties := rfl

theorem exists_entries : ∀ {entries : List (String × Value)},
    entries.map Prod.fst = schema.fields.map SettingField.name →
      ∃ properties : StoreProperties, properties.entries = entries
  | [(_, url), (_, key), (_, timeout), (_, headers), (_, join), (_, cache), (_, includeDeleted),
      (_, options)], rfl =>
    ⟨{ url, key, timeout, headers, join, cache, includeDeleted, options }, rfl⟩

theorem key_of_setting (name : String) :
    "crudstore.store" ++ "." ++ name = "crudstore.store." ++ name := by
  have hroot : "crudstore.store" ++ "." = "crudstore.store." := by decide
  rw [hroot]

theorem name_of_mem_schema {field : SettingField} (hfield : field ∈ schema.fields) :
    '.' ∉ field.name.toList := by
  have hnames : ∀ field ∈ schema.fields, '.' ∉ field.name.toList := by decide
  exact hnames field hfield

/-- Properties that are bound have in each setting what its field is bound to. -/
theorem ofSettings_eq_ok_iff {settings : Settings} {environment : Environment}
    {properties : StoreProperties} :
    ofSettings settings environment = .ok properties ↔
      List.Forall₂ (fun field entry => entry.1 = field.name ∧
        Schema.Binds settings environment "crudstore.store" field entry.2)
        schema.fields properties.entries := by
  rw [← Schema.bind_eq_ok_iff rfl, ofSettings, Outcome.bind_eq_ok_iff]
  constructor
  · rintro ⟨entries, hentries, hproperties⟩
    have hnames : List.Forall₂ (· = ·) (schema.fields.map SettingField.name)
        (entries.map Prod.fst) := by
      rw [List.forall₂_map_left_iff, List.forall₂_map_right_iff]
      exact ((Schema.bind_eq_ok_iff rfl).mp hentries).imp fun _ _ hbound => hbound.1.symm
    rw [List.forall₂_eq_eq_eq] at hnames
    obtain ⟨bound, rfl⟩ := exists_entries hnames.symm
    obtain rfl := Except.ok.inj ((ofFields_entries bound).symm.trans hproperties)
    exact hentries
  · intro hentries
    exact ⟨_, hentries, ofFields_entries properties⟩

/-- What is paired with the fields is found by their names. -/
theorem lookup_of_forall₂ {Bound : SettingField → Value → Prop} {fields : List SettingField}
    {entries : List (String × Value)} (hdistinct : (fields.map SettingField.name).Nodup)
    (hentries : List.Forall₂ (fun field entry => entry.1 = field.name ∧ Bound field entry.2)
      fields entries)
    {field : SettingField} (hfield : field ∈ fields) :
    ∃ bound, entries.lookup field.name = some bound ∧ Bound field bound := by
  induction hentries with
  | nil => contradiction
  | @cons first entry fields entries hfirst hrest ih =>
      obtain ⟨name, bound⟩ := entry
      obtain ⟨rfl, hbound⟩ := hfirst
      rw [List.map_cons, List.nodup_cons] at hdistinct
      rcases List.mem_cons.mp hfield with rfl | hlater
      · exact ⟨bound, List.lookup_cons_self, hbound⟩
      · have hother : field.name ≠ first.name := fun hsame =>
          hdistinct.1 (hsame ▸ List.mem_map_of_mem hlater)
        rw [List.lookup_cons, beq_false_of_ne hother]
        exact ih hdistinct.2 hlater

/-- Properties that are bound have a value for the name of each setting. -/
theorem lookup_of_ofSettings {settings : Settings} {environment : Environment}
    {properties : StoreProperties} (hbound : ofSettings settings environment = .ok properties)
    {field : SettingField} (hfield : field ∈ schema.fields) :
    ∃ bound, properties.entries.lookup field.name = some bound ∧
      Schema.Binds settings environment "crudstore.store" field bound :=
  lookup_of_forall₂ (by decide) (ofSettings_eq_ok_iff.mp hbound) hfield

end StoreProperties

end GridSource
