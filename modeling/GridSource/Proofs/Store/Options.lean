import GridSource.Proofs.Value.Members
import GridSource.Store.Properties
import Mathlib.Data.List.Nodup
import Mathlib.Tactic.SplitIfs

/-!
# Options of a store

A mapping of options is sorted entry by entry: the names of settings go to their fields, and all
else is kept.  The options that are nested in the mapping are where those that are kept begin.
No entry is lost or kept twice, so the properties of a store can be written as such a mapping and
read again, with the options nested in it or spread among the settings.
-/

namespace GridSource

namespace StoreProperties

/-! ## The names of settings -/

def settingNames : List String := schema.fields.map SettingField.name

/-- Whether a key is the name of a setting. -/
def isSettingName : Value → Bool
  | .text name => settingNames.contains name
  | _ => false

@[simp]
theorem isSettingName_text_iff {name : String} :
    isSettingName (.text name) = true ↔ name ∈ settingNames :=
  List.contains_iff_mem

theorem isSettingName_iff {key : Value} :
    isSettingName key = true ↔ ∃ name ∈ settingNames, key = .text name := by
  constructor
  · intro hkey
    cases key with
    | text name => exact ⟨name, isSettingName_text_iff.mp hkey, rfl⟩
    | _ => contradiction
  · rintro ⟨name, hname, rfl⟩
    exact isSettingName_text_iff.mpr hname

theorem mem_settingNames_iff {name : String} :
    name ∈ settingNames ↔ name = "url" ∨ name = "key" ∨ name = "timeout" ∨ name = "headers" ∨
      name = "join" ∨ name = "cache" ∨ name = "include_deleted" ∨ name = "options" := by
  simp [settingNames, schema]

variable {properties changed : StoreProperties} {name : String} {value : Value}

theorem set?_eq_none (hname : name ∉ settingNames) (properties : StoreProperties) (value : Value) :
    properties.set? name value = none := by
  simp only [mem_settingNames_iff, not_or] at hname
  unfold set?
  split
  case h_9 => rfl
  all_goals simp_all

theorem exists_set? (hname : name ∈ settingNames) (properties : StoreProperties) (value : Value) :
    ∃ changed, properties.set? name value = some changed := by
  rw [mem_settingNames_iff] at hname
  rcases hname with rfl | rfl | rfl | rfl | rfl | rfl | rfl | rfl <;> exact ⟨_, rfl⟩

theorem exists_lookup_entries (hname : name ∈ settingNames) (properties : StoreProperties) :
    ∃ value, properties.entries.lookup name = some value := by
  rw [mem_settingNames_iff] at hname
  rcases hname with rfl | rfl | rfl | rfl | rfl | rfl | rfl | rfl <;> exact ⟨_, rfl⟩

/-- The values of its settings make up the properties of a store. -/
theorem eq_of_lookup_entries
    (hvalues : ∀ name ∈ settingNames,
      properties.entries.lookup name = changed.entries.lookup name) :
    properties = changed := by
  have hvalue (name : String) (hname : name ∈ settingNames) {value other : Value}
      (hleft : properties.entries.lookup name = some value)
      (hright : changed.entries.lookup name = some other) : value = other := by
    rw [hvalues name hname, hright] at hleft
    exact (Option.some.inj hleft).symm
  rw [mk.injEq]
  exact ⟨hvalue "url" (by decide) rfl rfl, hvalue "key" (by decide) rfl rfl,
    hvalue "timeout" (by decide) rfl rfl, hvalue "headers" (by decide) rfl rfl,
    hvalue "join" (by decide) rfl rfl, hvalue "cache" (by decide) rfl rfl,
    hvalue "include_deleted" (by decide) rfl rfl, hvalue "options" (by decide) rfl rfl⟩

/-- Setting one name leaves every other setting as it was. -/
theorem lookup_entries_set? (hset : properties.set? name value = some changed) (other : String) :
    changed.entries.lookup other =
      if other = name then some value else properties.entries.lookup other := by
  unfold set? at hset
  split at hset
  case h_9 => contradiction
  all_goals
    obtain rfl := Option.some.inj hset
    simp only [StoreProperties.entries, List.lookup_cons]
    split_ifs with hother
    · subst hother
      rfl
    · simp only [beq_false_of_ne hother]

/-! ## Sorting entries -/

/-- What the options take over: not the nested options, and a key field only if there is one. -/
def accepts (name : String) (value : Value) : Bool :=
  name != "options" && (name != "key" || value.truthy)

theorem accepts_of_ne (hoptions : name ≠ "options") (hkey : name ≠ "key") (value : Value) :
    accepts name value = true := by
  rw [accepts, bne_iff_ne.mpr hoptions, bne_iff_ne.mpr hkey]
  rfl

theorem sortEntry_of_set? (hset : properties.set? name value = some changed)
    (hoptions : name ≠ "options") (hkey : name ≠ "key") (kept : Members) :
    sortEntry properties kept (.text name) value = (changed, kept) := by
  unfold sortEntry
  split
  · simp_all
  · simp_all
  · simp_all
  · simp_all

/-- A setting is taken over if it is accepted, and nothing else changes. -/
theorem sortEntry_setting (hname : name ∈ settingNames) (properties : StoreProperties)
    (kept : Members) (value : Value) :
    ∃ changed, sortEntry properties kept (.text name) value = (changed, kept) ∧
      ∀ other, changed.entries.lookup other =
        if other = name ∧ accepts name value = true then some value
        else properties.entries.lookup other := by
  obtain ⟨changed, hset⟩ := exists_set? hname properties value
  have hlookup := lookup_entries_set? hset
  by_cases hoptions : name = "options"
  · subst hoptions
    exact ⟨properties, rfl, fun other => by simp [accepts]⟩
  by_cases hkey : name = "key"
  · subst hkey
    obtain rfl := Option.some.inj hset
    refine ⟨if value.truthy then { properties with key := value } else properties, rfl,
      fun other => ?_⟩
    cases htruthy : value.truthy with
    | false => simp [accepts, htruthy]
    | true =>
        rw [if_pos rfl, hlookup]
        simp [accepts, htruthy]
  · refine ⟨changed, sortEntry_of_set? hset hoptions hkey kept, fun other => ?_⟩
    rw [hlookup]
    simp [accepts, hoptions, hkey]

/-- An entry that is no setting is kept. -/
theorem sortEntry_other {key : Value} (hkey : isSettingName key = false)
    (properties : StoreProperties) (kept : Members) (value : Value) :
    sortEntry properties kept key value = (properties, Members.insert kept key value) := by
  cases key with
  | text name =>
      have hname : name ∉ settingNames := by
        rw [← isSettingName_text_iff, hkey]
        exact Bool.false_ne_true
      have hset := set?_eq_none hname properties value
      rw [mem_settingNames_iff] at hname
      unfold sortEntry
      split
      · simp_all
      · simp_all
      · simp_all
      · simp_all
  | _ => rfl

/-- The members that are no settings. -/
def otherMembers (members : Members) : Members :=
  members.filter fun member => !isSettingName member.1

/-- Every setting has the value it had under its name, if that is accepted, and all other members
are inserted among those that are kept. -/
theorem sortEntries_eq {members : Members}
    (hdistinct : (members.map Prod.fst).Pairwise fun key other => key.sameKey other = false)
    (properties : StoreProperties) (kept : Members) :
    ∃ changed,
      sortEntries properties kept members = (changed, kept.insertAll (otherMembers members)) ∧
      ∀ name ∈ settingNames, changed.entries.lookup name =
        ((Members.named? members name).filter (accepts name)).or
          (properties.entries.lookup name) := by
  induction members generalizing properties kept with
  | nil => exact ⟨properties, rfl, fun _ _ => rfl⟩
  | cons member rest ih =>
      obtain ⟨key, value⟩ := member
      rw [List.map_cons, List.pairwise_cons] at hdistinct
      obtain ⟨hfirst, hdistinct⟩ := hdistinct
      cases hkey : isSettingName key with
      | true =>
          obtain ⟨name, hname, rfl⟩ := isSettingName_iff.mp hkey
          obtain ⟨next, hnext, hvalue⟩ := sortEntry_setting hname properties kept value
          obtain ⟨changed, hchanged, hrest⟩ := ih hdistinct next kept
          refine ⟨changed, ?_, fun other hother => ?_⟩
          · rw [sortEntries, hnext, otherMembers, List.filter_cons, hkey]
            exact hchanged
          · rw [hrest other hother, hvalue]
            by_cases hsame : other = name
            · subst hsame
              -- The key is distinct from those that follow, so no later entry changes it again.
              have hnone : Members.named? rest other = none := by
                rw [Members.named?_eq_none_iff]
                intro hlater
                exact Bool.eq_false_iff.mp (hfirst _ hlater) (Value.sameKey_text_iff.mpr rfl)
              rw [hnone, Members.named?_cons_text]
              cases haccepts : accepts other value <;> simp [haccepts, Option.filter]
            · have hne : Value.text name ≠ .text other := fun heq => hsame (Value.text.inj heq).symm
              rw [Members.named?_cons_of_ne hne, if_neg fun hand => hsame hand.1]
      | false =>
          obtain ⟨changed, hchanged, hrest⟩ :=
            ih hdistinct properties (Members.insert kept key value)
          refine ⟨changed, ?_, fun other hother => ?_⟩
          · rw [sortEntries, sortEntry_other hkey, otherMembers, List.filter_cons, hkey]
            exact hchanged
          · have hne : key ≠ .text other := by
              rintro rfl
              rw [isSettingName_text_iff.mpr hother] at hkey
              contradiction
            rw [Members.named?_cons_of_ne hne]
            exact hrest other hother

/-! ## Nested options -/

/-- The options that are nested in a mapping; null stands for none. -/
inductive Nests (options : Value) : Members → Prop where
  | absent (hnested : options.field? "options" = none) : Nests options []
  | null (hnested : options.field? "options" = some .null) : Nests options []
  | mapping {nested : Members} (hnested : options.field? "options" = some (.object nested)) :
      Nests options nested

/-- The nested options are where the options that are kept begin. -/
theorem ofOptions_object {members nested : Members} (hnested : Nests (.object members) nested) :
    ofOptions (.object members) =
      .ok { (sortEntries default nested members).1 with
        options := .object (sortEntries default nested members).2 } := by
  rw [ofOptions]
  cases hnested with
  | absent hnested | null hnested =>
      rw [Value.field?] at hnested
      rw [hnested]
      rfl
  | mapping hnested =>
      rw [Value.field?] at hnested
      rw [hnested]
      cases nested <;> rfl

/-- Properties from a mapping: the settings that are accepted, defaults for the rest, and the
other members among the nested options. -/
theorem exists_ofOptions {members nested : Members}
    (hdistinct : (members.map Prod.fst).Pairwise fun key other => key.sameKey other = false)
    (hnested : Nests (.object members) nested) :
    ∃ properties, ofOptions (.object members) = .ok properties ∧
      properties.options = .object (nested.insertAll (otherMembers members)) ∧
      ∀ name ∈ settingNames, name ≠ "options" → properties.entries.lookup name =
        ((Members.named? members name).filter (accepts name)).or
          (default.entries.lookup name) := by
  obtain ⟨changed, hchanged, hvalues⟩ := sortEntries_eq hdistinct default nested
  refine ⟨_, ofOptions_object hnested, ?_, fun name hname hoptions => ?_⟩
  · rw [hchanged]
  · rw [hchanged]
    have hset : changed.set? "options" (.object (nested.insertAll (otherMembers members))) =
        some { changed with options := .object (nested.insertAll (otherMembers members)) } := rfl
    rw [lookup_entries_set? hset, if_neg hoptions, hvalues name hname]

/-- A mapping that has the settings of a store and its options, nested or among the settings, is
read as the store's properties. -/
theorem ofOptions_eq_ok {members nested : Members}
    (hdistinct : (members.map Prod.fst).Pairwise fun key other => key.sameKey other = false)
    (hnested : Nests (.object members) nested) (hkey : properties.key.truthy = true)
    (hoptions : properties.options = .object (nested.insertAll (otherMembers members)))
    (hsettings : ∀ name ∈ settingNames, name ≠ "options" →
      Members.named? members name = properties.entries.lookup name) :
    ofOptions (.object members) = .ok properties := by
  obtain ⟨read, hread, hkept, hvalues⟩ := exists_ofOptions hdistinct hnested
  rw [hread]
  refine congrArg Except.ok (eq_of_lookup_entries fun name hname => ?_)
  by_cases hnested' : name = "options"
  · subst hnested'
    exact congrArg some (hkept.trans hoptions.symm)
  · obtain ⟨value, hvalue⟩ := exists_lookup_entries hname properties
    have haccepts : accepts name value = true := by
      by_cases hkeyed : name = "key"
      · subst hkeyed
        obtain rfl : properties.key = value := Option.some.inj hvalue
        exact hkey
      · exact accepts_of_ne hnested' hkeyed value
    rw [hvalues name hname hnested', hsettings name hname hnested', hvalue, Option.filter_some,
      if_pos haccepts, Option.some_or]

/-! ## No entry is lost -/

variable {entries : List (String × Value)} {nested : Members}

/-- Where the entries of a mapping and of the options nested in it are found in the properties of a
store and in the options that are kept. -/
structure Partitions (entries : List (String × Value)) (nested : Members)
    (properties : StoreProperties) (kept : Members) : Prop where
  options_eq : properties.options = .object kept
  distinct : (kept.map Prod.fst).Pairwise fun key other => key.sameKey other = false
  /-- A setting is in its own field, but for a key field that counts as false. -/
  given (name : String) (value : Value) (hentry : (name, value) ∈ entries)
    (hname : name ∈ settingNames) (hoptions : name ≠ "options") :
    properties.entries.lookup name =
      some (if name = "key" ∧ value.truthy = false then .text "id" else value)
  missing (name : String) (hname : name ∈ settingNames) (hoptions : name ≠ "options")
    (hmissing : name ∉ entries.map Prod.fst) :
    properties.entries.lookup name = default.entries.lookup name
  /-- The entries that are no settings are kept, and so are the nested ones that none of them
  replaces. -/
  mem_kept_iff (key value : Value) :
    (key, value) ∈ kept ↔
      (∃ name, key = .text name ∧ name ∉ settingNames ∧ (name, value) ∈ entries) ∨
        ((key, value) ∈ nested ∧
          ∀ name ∈ entries.map Prod.fst, name ∉ settingNames → key ≠ .text name)

theorem otherMembers_map_text (entries : List (String × Value)) :
    otherMembers (entries.map fun (name, value) => (.text name, value)) =
      (entries.filter fun entry => !settingNames.contains entry.1).map
        fun (name, value) => (.text name, value) := by
  rw [otherMembers, List.filter_map]
  rfl

theorem otherMembers_of_settings (hsettings : ∀ entry ∈ entries, entry.1 ∈ settingNames) :
    otherMembers (entries.map fun (name, value) => (.text name, value)) = [] := by
  rw [otherMembers_map_text, List.map_eq_nil_iff, List.filter_eq_nil_iff]
  intro entry hentry
  rw [List.contains_iff_mem.mpr (hsettings entry hentry)]
  exact Bool.false_ne_true

theorem mem_kept_iff (hnames : (entries.map Prod.fst).Nodup)
    (hdistinct : (nested.map Prod.fst).Pairwise fun key other => key.sameKey other = false)
    (key value : Value) :
    (key, value) ∈ nested.insertAll
        (otherMembers (entries.map fun (name, value) => (.text name, value))) ↔
      (∃ name, key = .text name ∧ name ∉ settingNames ∧ (name, value) ∈ entries) ∨
        ((key, value) ∈ nested ∧
          ∀ name ∈ entries.map Prod.fst, name ∉ settingNames → key ≠ .text name) := by
  have hothers : ((entries.filter fun entry => !settingNames.contains entry.1).map
      Prod.fst).Nodup := hnames.sublist (List.filter_sublist.map Prod.fst)
  have hentry (entry : String × Value) :
      entry ∈ entries.filter (fun entry => !settingNames.contains entry.1) ↔
        entry ∈ entries ∧ entry.1 ∉ settingNames := by
    rw [List.mem_filter, Bool.not_eq_true', ← Bool.not_eq_true, List.contains_iff_mem]
  rw [otherMembers_map_text, Members.mem_insertAll_iff hdistinct hothers]
  refine or_congr ?_ (and_congr_right' ?_)
  · rw [List.mem_map]
    constructor
    · rintro ⟨entry, hmem, hsame⟩
      obtain ⟨rfl, rfl⟩ := Prod.mk.inj hsame
      exact ⟨entry.1, rfl, ((hentry entry).mp hmem).2, ((hentry entry).mp hmem).1⟩
    · rintro ⟨name, rfl, hname, hmem⟩
      exact ⟨(name, value), (hentry _).mpr ⟨hmem, hname⟩, rfl⟩
  · rw [List.forall_mem_map, List.forall_mem_map]
    simp only [hentry, and_imp]

theorem exists_partition (hnames : (entries.map Prod.fst).Nodup)
    (hdistinct : (nested.map Prod.fst).Pairwise fun key other => key.sameKey other = false)
    (hnested : Nests (.record entries) nested) :
    ∃ properties kept, ofOptions (.record entries) = .ok properties ∧
      Partitions entries nested properties kept := by
  have hmembers := Members.pairwise_map_text hnames
  obtain ⟨properties, hproperties, hoptions, hvalues⟩ := exists_ofOptions hmembers hnested
  refine ⟨properties, nested.insertAll
    (otherMembers (entries.map fun (name, value) => (.text name, value))), hproperties, ?_⟩
  constructor
  case options_eq => exact hoptions
  case distinct => exact Members.pairwise_insertAll hdistinct _
  case mem_kept_iff => exact mem_kept_iff hnames hdistinct
  case given =>
    intro name value hentry hname hname'
    have hvalue : entries.lookup name = some value := Members.lookup_of_mem hnames hentry
    rw [hvalues name hname hname', Members.named?_map_text, hvalue, Option.filter_some]
    by_cases hkey : name = "key"
    · subst hkey
      have haccepts : accepts "key" value = value.truthy := rfl
      rw [haccepts]
      cases value.truthy <;> rfl
    · rw [accepts_of_ne hname' hkey, if_pos rfl, if_neg fun hand => hkey hand.1]
      rfl
  case missing =>
    intro name hname hname' hmissing
    rw [hvalues name hname hname', Members.named?_map_text,
      Members.lookup_eq_none_iff.mpr hmissing]
    rfl

/-! ## Writing properties as options -/

/-- The settings of a store but for the options that are kept. -/
def ownMembers (properties : StoreProperties) : Members :=
  (properties.entries.filter fun entry => entry.1 != "options").map
    fun (name, value) => (.text name, value)

theorem nodup_names_entries (properties : StoreProperties) :
    (properties.entries.map Prod.fst).Nodup := by
  have hnames : properties.entries.map Prod.fst = settingNames := rfl
  rw [hnames]
  decide

/-- In whatever order the settings are written, with the options nested in them, they are read as
the same properties. -/
theorem ofOptions_entries (hkey : properties.key.truthy = true) {kept : Members}
    (hoptions : properties.options = .object kept) (hentries : entries.Perm properties.entries) :
    ofOptions (.record entries) = .ok properties := by
  have hnames : (entries.map Prod.fst).Nodup :=
    (hentries.map Prod.fst).nodup_iff.mpr (nodup_names_entries properties)
  have hvalue {name : String} {value : Value}
      (hlookup : properties.entries.lookup name = some value) :
      Members.named? (entries.map fun (name, value) => (.text name, value)) name = some value := by
    rw [Members.named?_map_text]
    exact Members.lookup_of_mem hnames (hentries.mem_iff.mpr (Members.mem_of_lookup hlookup))
  have hnone : otherMembers (entries.map fun (name, value) => (.text name, value)) = [] :=
    otherMembers_of_settings fun _ hentry => List.mem_map_of_mem (hentries.mem_iff.mp hentry)
  have hnested : Nests (.record entries) kept := .mapping (hvalue (congrArg some hoptions))
  refine ofOptions_eq_ok (Members.pairwise_map_text hnames) hnested hkey ?_ fun name hname _ => ?_
  · rw [hnone]
    exact hoptions
  · obtain ⟨value, hlookup⟩ := exists_lookup_entries hname properties
    rw [hvalue hlookup, hlookup]

theorem setting_of_mem_ownMembers {member : Value × Value}
    (hmember : member ∈ properties.ownMembers) :
    isSettingName member.1 = true ∧ member.1 ≠ .text "options" := by
  obtain ⟨entry, hentry, rfl⟩ := List.mem_map.mp hmember
  obtain ⟨hentry, hname⟩ := List.mem_filter.mp hentry
  refine ⟨isSettingName_text_iff.mpr (List.mem_map_of_mem hentry), fun hsame => ?_⟩
  exact bne_iff_ne.mp hname (Value.text.inj hsame)

/-- Members that stand among settings in their own order are the other members. -/
theorem otherMembers_of_interleaved {own kept members : Members}
    (hown : ∀ member ∈ own, isSettingName member.1 = true)
    (hkept : ∀ member ∈ kept, isSettingName member.1 = false)
    (hmembers : members.Perm (own ++ kept)) (horder : kept.Sublist members) :
    otherMembers members = kept := by
  have hnone : otherMembers own = [] :=
    List.filter_eq_nil_iff.mpr fun member hmember => by simp [hown member hmember]
  have hall : otherMembers kept = kept :=
    List.filter_eq_self.mpr fun member hmember => by rw [hkept member hmember, Bool.not_false]
  have hperm : (otherMembers members).Perm kept := by
    have hfiltered : (otherMembers members).Perm (otherMembers own ++ otherMembers kept) := by
      rw [otherMembers, otherMembers, otherMembers, ← List.filter_append]
      exact hmembers.filter _
    rwa [hnone, hall, List.nil_append] at hfiltered
  have hsublist : kept.Sublist (otherMembers members) := by
    rw [← hall]
    exact horder.filter _
  exact (hsublist.eq_of_length hperm.length_eq.symm).symm

/-- The options may as well be spread among the settings, in any order that keeps their own. -/
theorem ofOptions_spread (hkey : properties.key.truthy = true) {kept members : Members}
    (hoptions : properties.options = .object kept)
    (hkept : ∀ member ∈ kept, isSettingName member.1 = false)
    (hdistinct : (members.map Prod.fst).Pairwise fun key other => key.sameKey other = false)
    (hmembers : members.Perm (properties.ownMembers ++ kept)) (horder : kept.Sublist members) :
    ofOptions (.object members) = .ok properties := by
  have hother : otherMembers members = kept :=
    otherMembers_of_interleaved (fun _ hmember => (setting_of_mem_ownMembers hmember).1) hkept
      hmembers horder
  have hnested : Members.named? members "options" = none := by
    rw [Members.named?_eq_none_iff, List.mem_map]
    rintro ⟨member, hmember, hname⟩
    rcases List.mem_append.mp (hmembers.mem_iff.mp hmember) with hsetting | hoption
    · exact (setting_of_mem_ownMembers hsetting).2 hname
    · have hkeyed := hkept member hoption
      rw [hname] at hkeyed
      contradiction
  refine ofOptions_eq_ok hdistinct (.absent hnested) hkey ?_ fun name hname hname' => ?_
  · have hinserted : Members.insertAll [] kept = [] ++ kept :=
      Members.insertAll_of_pairwise (hdistinct.sublist (horder.map Prod.fst))
    rw [hoptions, hother, hinserted, List.nil_append]
  · obtain ⟨value, hlookup⟩ := exists_lookup_entries hname properties
    have hentry : (name, value) ∈ properties.entries.filter fun entry => entry.1 != "options" :=
      List.mem_filter.mpr ⟨Members.mem_of_lookup hlookup, bne_iff_ne.mpr hname'⟩
    rw [hlookup]
    exact Members.named?_of_mem hdistinct
      (hmembers.mem_iff.mpr (List.mem_append_left _ (List.mem_map_of_mem hentry)))

/-- Properties are made of the entries of a mapping, whose keys are distinct, without loss.  The
mapping of the properties of a store that has a key field makes them again, with the options
nested in it or, when none of them has the name of a setting, spread among the settings. -/
theorem ofOptions_partitions :
    (∀ (entries : List (String × Value)) (nested : Members), (entries.map Prod.fst).Nodup →
      ((nested.map Prod.fst).Pairwise fun key other => key.sameKey other = false) →
      Nests (.record entries) nested →
      ∃ properties kept, ofOptions (.record entries) = .ok properties ∧
        Partitions entries nested properties kept) ∧
    ∀ (properties : StoreProperties) (kept : Members), properties.key.truthy = true →
      properties.options = .object kept →
      (∀ entries : List (String × Value), entries.Perm properties.entries →
        ofOptions (.record entries) = .ok properties) ∧
      ((∀ member ∈ kept, isSettingName member.1 = false) → ∀ members : Members,
        ((members.map Prod.fst).Pairwise fun key other => key.sameKey other = false) →
        members.Perm (properties.ownMembers ++ kept) → kept.Sublist members →
        ofOptions (.object members) = .ok properties) := by
  refine ⟨fun entries nested hnames hdistinct hnested =>
    exists_partition hnames hdistinct hnested, ?_⟩
  intro properties kept hkey hoptions
  refine ⟨fun entries hentries => ofOptions_entries hkey hoptions hentries, ?_⟩
  intro hkept members hdistinct hmembers horder
  exact ofOptions_spread hkey hoptions hkept hdistinct hmembers horder

/-- Options of which one is replaced, one has the name of a setting and one is under a number. -/
def nestedOptions : Members :=
  [(.text "pageSize", .int 5), (.text "url", .text "http://y"), (.int 1, .text "first")]

def mixedEntries : List (String × Value) :=
  [ ("pageSize", .int 20), ("key", .text ""), ("options", .object nestedOptions),
    ("url", .text "http://x/orders") ]

def pagedOptions : Members := [(.text "pageSize", .int 20), (.int 1, .text "first")]

def pagedProperties : StoreProperties :=
  { default with url := .text "http://x/orders", options := .object pagedOptions }

theorem ofOptions_partitions_mixed :
    (∃ properties kept, ofOptions (.record mixedEntries) = .ok properties ∧
      properties.options = .object kept ∧ properties.url = .text "http://x/orders" ∧
      properties.key = .text "id" ∧ properties.timeout = .int 30 ∧
      (.text "pageSize", .int 20) ∈ kept ∧ (.text "pageSize", .int 5) ∉ kept ∧
      (.text "url", .text "http://y") ∈ kept ∧ (.int 1, .text "first") ∈ kept) ∧
    ofOptions (.record pagedProperties.entries.reverse) = .ok pagedProperties ∧
    ofOptions (.object (pagedOptions ++ pagedProperties.ownMembers)) = .ok pagedProperties := by
  obtain ⟨hpartitions, hwritten⟩ := ofOptions_partitions
  constructor
  · have hnested : Nests (.record mixedEntries) nestedOptions := .mapping rfl
    obtain ⟨properties, kept, hread, hoptions, -, hgiven, hmissing, hkept⟩ :=
      hpartitions mixedEntries nestedOptions (by decide) (by decide +kernel) hnested
    have hurl := hgiven "url" (.text "http://x/orders") (by simp [mixedEntries]) (by decide)
      (by decide)
    have hkey := hgiven "key" (.text "") (by simp [mixedEntries]) (by decide) (by decide)
    have htimeout := hmissing "timeout" (by decide) (by decide) (by decide)
    refine ⟨properties, kept, hread, hoptions, Option.some.inj hurl, Option.some.inj hkey,
      Option.some.inj htimeout, ?_, ?_, ?_, ?_⟩
    · rw [hkept]
      exact .inl ⟨"pageSize", rfl, by decide, by simp [mixedEntries]⟩
    · rw [hkept]
      simp [mixedEntries, mem_settingNames_iff]
    · rw [hkept]
      exact .inr ⟨by simp [nestedOptions], by simp [mixedEntries, mem_settingNames_iff]⟩
    · rw [hkept]
      exact .inr ⟨by simp [nestedOptions], by simp⟩
  · have htruthy : pagedProperties.key.truthy = true := by decide +kernel
    obtain ⟨hordered, hspread⟩ := hwritten pagedProperties pagedOptions htruthy rfl
    refine ⟨hordered _ pagedProperties.entries.reverse_perm, ?_⟩
    exact hspread (by decide +kernel) _ (by decide +kernel) List.perm_append_comm
      (List.sublist_append_left _ _)

end StoreProperties

end GridSource
