import GridSource.Proofs.Store.Construction

/-!
# Texts of a section in the properties of a store

Binding replaces the placeholders of a text that is itself a setting.  A setting that is no
text is taken as it is, so the texts inside it, however deep, keep their placeholders, and what
the section holds under another name is not bound at all.
-/

namespace GridSource

/-! ## Parts of a value -/

namespace Value

/-- What a value is made of: the items of a sequence, the keys and the values of an object. -/
def children : Value → List Value
  | .list items | .tuple items => items
  | .object members => members.flatMap fun member => [member.1, member.2]
  | _ => []

/-- The part of a value at a path of positions. -/
def part? (value : Value) : List Nat → Option Value
  | [] => some value
  | position :: path => value.children[position]?.bind (·.part? path)

/-- A value without children has no part but itself. -/
theorem part?_eq_some_iff {value : Value} (hleaf : value.children = []) {path : List Nat}
    {inner : Value} : value.part? path = some inner ↔ path = [] ∧ value = inner := by
  cases path with
  | nil => simp [part?]
  | cons position path => simp [part?, hleaf]

end Value

namespace StoreProperties

variable {settings : Settings} {environment : Environment} {properties : StoreProperties}

/-! ## Where a text of the section shows -/

/-- The key of a member of the section is the name of a setting. -/
def Names (field : SettingField) (key : Value) : Prop :=
  field ∈ schema.fields ∧ key = .text field.name

/-- Properties show a text in place of one of the section: a setting that is the text has the
value it is read as, and a setting that only holds it holds it at the same path. -/
def Shows (properties : StoreProperties) (key : Value) (path : List Nat) (shown : String) : Prop :=
  ∃ field bound, Names field key ∧ properties.entries.lookup field.name = some bound ∧
    if path = [] then Schema.coerceText field.kind shown = .ok bound
    else bound.part? path = some (.text shown)

section

variable (hbound : ofSettings settings environment = .ok properties) {field : SettingField}
  (hfield : field ∈ schema.fields)
  (hvariable : environment.lookup (Settings.variableName ("crudstore.store." ++ field.name)) = none)

include hbound hfield hvariable

/-- A text that is a setting has its placeholders replaced. -/
theorem lookup_of_text {content : String}
    (hvalue : Members.named? (settings.sectionAt "crudstore.store") field.name =
      some (.text content)) :
    ∃ replaced bound, (settings.source environment).resolve content = .ok replaced ∧
      properties.entries.lookup field.name = some bound ∧
      Schema.coerceText field.kind replaced = .ok bound := by
  obtain ⟨bound, hlookup, found, hfound, hchosen⟩ := lookup_of_ofSettings hbound hfield
  rw [← key_of_setting] at hvariable
  rw [Schema.fieldValue_of_text (name_of_mem_schema hfield) hvariable hvalue,
    Outcome.bind_eq_ok_iff] at hfound
  obtain ⟨replaced, hreplaced, hcoerced⟩ := hfound
  obtain ⟨read, hread, rfl⟩ := Outcome.map_eq_ok_iff.mp hcoerced
  obtain rfl : read = bound := Option.some.inj hchosen
  exact ⟨replaced, read, Outcome.mapError_eq_ok_iff.mp hreplaced, hlookup, hread⟩

/-- A setting that is no text is bound as it stands. -/
theorem lookup_of_not_text {value : Value} (htext : ∀ content, value ≠ .text content)
    (hvalue : Members.named? (settings.sectionAt "crudstore.store") field.name = some value) :
    properties.entries.lookup field.name = some value := by
  obtain ⟨bound, hlookup, found, hfound, hchosen⟩ := lookup_of_ofSettings hbound hfield
  rw [← key_of_setting] at hvariable
  have hother (content : String) :
      Members.named? (settings.sectionAt "crudstore.store") field.name ≠ some (.text content) := by
    rw [hvalue]
    exact fun hsame => htext content (Option.some.inj hsame)
  rw [Schema.fieldValue_of_not_text (name_of_mem_schema hfield) hvariable hother, hvalue] at hfound
  obtain rfl := Except.ok.inj hfound
  obtain rfl : value = bound := Option.some.inj hchosen
  exact hlookup

end

/-- A text of the section that no environment variable overrides shows, its placeholders
replaced, exactly if it belongs to a setting and either is that setting or has nothing to
replace.  A text inside a setting shows as it was configured. -/
theorem ofSettings_shows_replaced_iff (hbound : ofSettings settings environment = .ok properties)
    (hdistinct : ((settings.sectionAt "crudstore.store").map Prod.fst).Pairwise
      fun key other => key.sameKey other = false)
    {key value : Value} (hmember : (key, value) ∈ settings.sectionAt "crudstore.store")
    (hvariable : ∀ name, key = .text name →
      environment.lookup (Settings.variableName ("crudstore.store." ++ name)) = none)
    {path : List Nat} {content : String} (hpart : value.part? path = some (.text content)) :
    ((∃ replaced, (settings.source environment).resolve content = .ok replaced ∧
        properties.Shows key path replaced) ↔
      (∃ field, Names field key) ∧
        (path = [] ∨ (settings.source environment).resolve content = .ok content)) ∧
    ((∃ field, Names field key) → path ≠ [] → properties.Shows key path content) := by
  have hnamed {field : SettingField} (hkey : key = .text field.name) :
      Members.named? (settings.sectionAt "crudstore.store") field.name = some value := by
    subst hkey
    exact Members.named?_of_mem hdistinct hmember
  -- Below the root of its path a text stands in a value that is taken as it is.
  have hinside {field : SettingField} (hfield : Names field key) (hpath : path ≠ []) :
      properties.entries.lookup field.name = some value := by
    refine lookup_of_not_text hbound hfield.1 (hvariable _ hfield.2) ?_ (hnamed hfield.2)
    rintro whole rfl
    exact hpath ((Value.part?_eq_some_iff rfl).mp hpart).1
  have hkept : (∃ field, Names field key) → path ≠ [] → properties.Shows key path content := by
    rintro ⟨field, hfield⟩ hpath
    refine ⟨field, value, hfield, hinside hfield hpath, ?_⟩
    rw [if_neg hpath]
    exact hpart
  refine ⟨⟨?_, ?_⟩, hkept⟩
  · rintro ⟨replaced, hreplaced, field, bound, hfield, hlookup, hshown⟩
    refine ⟨⟨field, hfield⟩, or_iff_not_imp_left.mpr fun hpath => ?_⟩
    rw [if_neg hpath] at hshown
    obtain rfl : value = bound := Option.some.inj ((hinside hfield hpath).symm.trans hlookup)
    obtain rfl : content = replaced := Value.text.inj (Option.some.inj (hpart.symm.trans hshown))
    exact hreplaced
  · rintro ⟨⟨field, hfield⟩, hplace⟩
    by_cases hpath : path = []
    · subst hpath
      obtain rfl : value = .text content := Option.some.inj hpart
      obtain ⟨replaced, bound, hreplaced, hlookup, hread⟩ :=
        lookup_of_text hbound hfield.1 (hvariable _ hfield.2) (hnamed hfield.2)
      exact ⟨replaced, hreplaced, field, bound, hfield, hlookup, hread⟩
    · exact ⟨content, hplace.resolve_left hpath, hkept ⟨field, hfield⟩ hpath⟩

theorem pairwise_sectionSettings {entries : List (String × Value)}
    (hdistinct : (entries.map Prod.fst).Nodup) :
    (((sectionSettings entries).sectionAt "crudstore.store").map Prod.fst).Pairwise
      fun key other => key.sameKey other = false := by
  rw [sectionAt_sectionSettings]
  exact Members.pairwise_map_text hdistinct

/-- A header whose text holds a placeholder, next to an address without one. -/
def headerEntries : List (String × Value) :=
  [ ("url", .text "http://x/users"),
    ("headers", .record [("Authorization", .text "Bearer $\x7bTOKEN\x7d")]) ]

def headerProperties : StoreProperties :=
  { default with
    url := .text "http://x/users"
    headers := .record [("Authorization", .text "Bearer $\x7bTOKEN\x7d")] }

theorem ofSettings_headerEntries :
    ofSettings (sectionSettings headerEntries) [("TOKEN", "s3cret")] =
      .ok headerProperties := by
  have hvariables : ∀ field ∈ schema.fields, [("TOKEN", "s3cret")].lookup
      (Settings.variableName ("crudstore.store." ++ field.name)) = none := by decide +kernel
  have hsettings : ∀ entry ∈ headerEntries, IsSetting entry.1 entry.2 := by
    simp only [headerEntries, List.forall_mem_cons]
    exact ⟨.url (by decide +kernel), .headers _, fun _ hnone => nomatch hnone⟩
  rw [ofSettings_section hsettings hvariables]
  simp [ofEntries, headerEntries, headerProperties, List.lookup_cons]

theorem resolve_headerEntries :
    ((sectionSettings headerEntries).source [("TOKEN", "s3cret")]).resolve
      "Bearer $\x7bTOKEN\x7d" = .ok "Bearer s3cret" := by
  decide +kernel

/-- The header shows as it was configured, and not with its placeholder replaced. -/
theorem ofSettings_shows_replaced_iff_header :
    ofSettings (sectionSettings headerEntries) [("TOKEN", "s3cret")] =
        .ok headerProperties ∧
      headerProperties.Shows (.text "headers") [1] "Bearer $\x7bTOKEN\x7d" ∧
      ¬ ∃ replaced, ((sectionSettings headerEntries).source [("TOKEN", "s3cret")]).resolve
          "Bearer $\x7bTOKEN\x7d" = .ok replaced ∧
        headerProperties.Shows (.text "headers") [1] replaced := by
  have hmember :
      (Value.text "headers", .record [("Authorization", .text "Bearer $\x7bTOKEN\x7d")]) ∈
        (sectionSettings headerEntries).sectionAt "crudstore.store" := by
    rw [sectionAt_sectionSettings]
    exact List.mem_cons_of_mem _ List.mem_cons_self
  have hvariable (name : String) (hname : Value.text "headers" = .text name) :
      [("TOKEN", "s3cret")].lookup (Settings.variableName ("crudstore.store." ++ name)) = none := by
    obtain rfl := Value.text.inj hname
    decide +kernel
  have hpart : (Value.record [("Authorization", .text "Bearer $\x7bTOKEN\x7d")]).part? [1] =
      some (.text "Bearer $\x7bTOKEN\x7d") := rfl
  obtain ⟨hiff, hkept⟩ := ofSettings_shows_replaced_iff ofSettings_headerEntries
    (pairwise_sectionSettings (by decide)) hmember hvariable hpart
  have hheaders : ∃ field, Names field (.text "headers") :=
    ⟨⟨"headers", .other, some default.headers⟩, by simp [schema], rfl⟩
  refine ⟨ofSettings_headerEntries, hkept hheaders (by decide), ?_⟩
  rw [hiff, resolve_headerEntries]
  rintro ⟨-, hpath | hsame⟩
  · exact List.cons_ne_nil _ _ hpath
  · exact absurd (Except.ok.inj hsame) (by decide)

theorem lookup?_headerEntries :
    Tree.lookup? (sectionSettings headerEntries).tree "crudstore.store.headers.Authorization" =
      some (.text "Bearer $\x7bTOKEN\x7d") := by
  have hparts : Tree.parts "crudstore.store.headers.Authorization" =
      ["crudstore", "store", "headers", "Authorization"] := by decide +kernel
  rw [Tree.lookup?, hparts, find?_sectionSettings]
  simp [headerEntries, Tree.find?, List.lookup_cons]

theorem part?_headerProperties_ne {content : String} (hurl : content ≠ "http://x/users")
    (hkey : content ≠ "id") (hname : content ≠ "Authorization")
    (hheader : content ≠ "Bearer $\x7bTOKEN\x7d") :
    ∀ entry ∈ headerProperties.entries, ∀ path, entry.2.part? path ≠ some (.text content) := by
  have hleaf {value : Value} (hchildren : value.children = []) (hvalue : value ≠ .text content)
      (path : List Nat) : value.part? path ≠ some (.text content) := by
    rw [ne_eq, Value.part?_eq_some_iff hchildren]
    exact fun hpart => hvalue hpart.2
  have hheaders (path : List Nat) : headerProperties.headers.part? path ≠ some (.text content) := by
    rcases path with _ | ⟨_ | _ | position, path⟩
    · simp [Value.part?, headerProperties, Value.record]
    · exact hleaf rfl (by simpa using hname.symm) path
    · exact hleaf rfl (by simpa using hheader.symm) path
    · simp [Value.part?, Value.children, headerProperties, Value.record]
  simp only [StoreProperties.entries, List.forall_mem_cons]
  simp only [headerProperties, default] at hheaders ⊢
  exact ⟨hleaf rfl (by simpa using hurl.symm), hleaf rfl (by simpa using hkey.symm),
    hleaf rfl (by simp), hheaders, hleaf rfl (by simp), hleaf rfl (by simp), hleaf rfl (by simp),
    hleaf rfl (by simp), by simp⟩

/-- A header keeps its placeholder, although its key leads to the text it stands for.  No part of
the properties is that text. -/
theorem ofSettings_keeps_placeholder :
    ∃ properties, ofSettings (sectionSettings headerEntries) [("TOKEN", "s3cret")] =
        .ok properties ∧
      (sectionSettings headerEntries).get? [("TOKEN", "s3cret")]
        "crudstore.store.headers.Authorization" = .ok (some (.text "Bearer s3cret")) ∧
      properties.headers = .record [("Authorization", .text "Bearer $\x7bTOKEN\x7d")] ∧
      ∀ entry ∈ properties.entries, ∀ path,
        entry.2.part? path ≠ some (.text "Bearer s3cret") := by
  refine ⟨_, ofSettings_headerEntries, ?_, rfl,
    part?_headerProperties_ne (by decide) (by decide) (by decide) (by decide)⟩
  rw [Settings.get?_of_text (by decide +kernel) lookup?_headerEntries, resolve_headerEntries]
  rfl

end StoreProperties

end GridSource
