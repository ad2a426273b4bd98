import GridSource.Proofs.Value.Members
import GridSource.Query.Assembly
import Mathlib.Data.List.Basic
import Mathlib.Tactic.Push

/-!
# Spellings and order of load options

An entry of the options counts for a field if its key is the field's name or its other spelling and
its value is not null.  Every field has the value of the last entry that counts for it.  So the
other entries never matter, the order of entries matters only between two spellings of one field,
and the options may be rewritten under the names of their fields.
-/

namespace GridSource

namespace LoadField

/-- The name of a field and, if there is one, its other spelling. -/
def spellings (field : LoadField) : List String := field.name :: field.alias?.toList

def isSpelled (field : LoadField) : Value → Bool
  | .text spelling => field.spellings.contains spelling
  | _ => false

/-- Whether an entry gives a field its value. -/
def counts (field : LoadField) (entry : Value × Value) : Bool :=
  field.isSpelled entry.1 && !entry.2.isNull

theorem exists_text_of_counts (field : LoadField) {entry : Value × Value}
    (hentry : field.counts entry = true) : ∃ spelling, entry.1 = .text spelling := by
  obtain ⟨key, value⟩ := entry
  rw [counts, Bool.and_eq_true] at hentry
  cases key with
  | text spelling => exact ⟨spelling, rfl⟩
  | _ => exact absurd hentry.1 Bool.false_ne_true

theorem mem_all (field : LoadField) : field ∈ all := by
  cases field <;> decide

/-- No spelling stands for two fields. -/
theorem ofSpelling?_eq_some_iff {field : LoadField} {spelling : String} :
    ofSpelling? spelling = some field ↔ spelling ∈ field.spellings := by
  constructor
  · intro hfield
    have hspelled := List.find?_some hfield
    rw [Bool.or_eq_true, beq_iff_eq, beq_iff_eq] at hspelled
    rw [spellings, List.mem_cons, Option.mem_toList]
    exact hspelled.imp_left Eq.symm
  · have hspellings : ∀ field ∈ all, ∀ spelling ∈ field.spellings,
        ofSpelling? spelling = some field := by decide
    exact hspellings field field.mem_all spelling

@[simp]
theorem ofSpelling?_name (field : LoadField) : ofSpelling? field.name = some field :=
  ofSpelling?_eq_some_iff.mpr List.mem_cons_self

@[simp]
theorem isSpelled_text_iff {field : LoadField} {spelling : String} :
    field.isSpelled (.text spelling) = true ↔ ofSpelling? spelling = some field := by
  rw [isSpelled, List.contains_iff_mem, ofSpelling?_eq_some_iff]

end LoadField

namespace LoadOptions

/-! ## The value of a field -/

theorem eq_of_get_eq {options other : LoadOptions}
    (hget : ∀ field, options.get field = other.get field) : options = other := by
  cases options
  cases other
  rw [mk.injEq]
  exact ⟨hget .filter, hget .sort, hget .skip, hget .take, hget .select, hget .searchFields,
    hget .searchOperation, hget .searchValue, hget .requireTotalCount⟩

theorem get_set (options : LoadOptions) (field other : LoadField) (value : Value) :
    (options.set field value).get other = if field = other then value else options.get other := by
  cases field <;> cases other <;> rfl

theorem setEntry_text (options : LoadOptions) (spelling : String) (value : Value) :
    options.setEntry (.text spelling, value) =
      (LoadField.ofSpelling? spelling).elim options fun field =>
        if value.isNull then options else options.set field value := by
  dsimp only [setEntry]
  cases LoadField.ofSpelling? spelling <;> rfl

/-- One entry gives the fields their values that it counts for. -/
theorem get_setEntry (options : LoadOptions) (entry : Value × Value) (field : LoadField) :
    (options.setEntry entry).get field =
      if field.counts entry then entry.2 else options.get field := by
  obtain ⟨key, value⟩ := entry
  cases key with
  | text spelling =>
      have hspelled : field.isSpelled (.text spelling) =
          decide (LoadField.ofSpelling? spelling = some field) := by
        rw [Bool.eq_iff_iff, LoadField.isSpelled_text_iff, decide_eq_true_iff]
      rw [LoadField.counts, hspelled, setEntry_text]
      cases LoadField.ofSpelling? spelling with
      | none => rfl
      | some other => cases hnull : value.isNull <;> simp [get_set]
  | _ => rfl

/-- The last entry that counts for a field gives it its value. -/
theorem get_ofMembers (members : Members) (field : LoadField) :
    (ofMembers members).get field =
      ((members.filter field.counts).getLast?.map Prod.snd).getD (default.get field) := by
  rw [ofMembers]
  generalize default = options
  induction members generalizing options with
  | nil => rfl
  | cons entry rest ih =>
      rw [List.foldl_cons, ih, get_setEntry, List.filter_cons]
      split
      · rw [List.getLast?_cons]
        cases (rest.filter field.counts).getLast? <;> rfl
      · rfl

/-- Whether an entry counts for any field. -/
def isCounted (entry : Value × Value) : Bool := LoadField.all.any (·.counts entry)

/-- The entries that count for no field do not matter. -/
theorem ofMembers_filter_isCounted (members : Members) :
    ofMembers (members.filter isCounted) = ofMembers members := by
  apply eq_of_get_eq
  intro field
  rw [get_ofMembers, get_ofMembers, List.filter_filter]
  congr 3
  apply List.filter_congr
  intro entry _
  rw [isCounted]
  cases hcounts : field.counts entry with
  | false => rfl
  | true =>
      rw [Bool.true_and, List.any_eq_true]
      exact ⟨field, field.mem_all, hcounts⟩

/-! ## The order of entries -/

/-- Lists of the same elements with different last ones have two elements in opposite order. -/
theorem exists_opposite_of_getLast?_ne {α : Type} {first second : List α}
    (hperm : first.Perm second) (hlast : first.getLast? ≠ second.getLast?) :
    ∃ one two, [one, two].Sublist first ∧ [two, one].Sublist second := by
  have hpair {items : List α} {one two : α} (hone : one ∈ items ++ [two]) (hne : one ≠ two) :
      [one, two].Sublist (items ++ [two]) := by
    have hbefore : one ∈ items := by simpa [hne] using hone
    exact (List.singleton_sublist.mpr hbefore).append (.refl [two])
  rcases List.eq_nil_or_concat' first with rfl | ⟨before, two, rfl⟩
  · rw [List.nil_perm.mp hperm] at hlast
    contradiction
  · rcases List.eq_nil_or_concat' second with rfl | ⟨earlier, one, rfl⟩
    · rw [List.perm_nil.mp hperm] at hlast
      contradiction
    · have hne : one ≠ two := by
        rintro rfl
        simp at hlast
      refine ⟨one, two, hpair ?_ hne, hpair ?_ hne.symm⟩
      · exact hperm.mem_iff.mpr (by simp)
      · exact hperm.mem_iff.mp (by simp)

/-- Where a permutation of options with distinct keys makes a difference, it has exchanged two
spellings of one field. -/
theorem exists_exchanged_of_ofMembers_ne {members other : Members}
    (hdistinct : (members.map Prod.fst).Pairwise fun key other => key.sameKey other = false)
    (hperm : members.Perm other) (hne : ofMembers members ≠ ofMembers other) :
    ∃ (field : LoadField) (one two : Value × Value), one.1 ≠ two.1 ∧ field.counts one = true ∧
      field.counts two = true ∧ [one, two].Sublist members ∧ [two, one].Sublist other := by
  obtain ⟨field, hlast⟩ : ∃ field : LoadField,
      (members.filter field.counts).getLast? ≠ (other.filter field.counts).getLast? := by
    by_contra hall
    push Not at hall
    apply hne
    apply eq_of_get_eq
    intro field
    rw [get_ofMembers, get_ofMembers, hall]
  obtain ⟨one, two, hfirst, hsecond⟩ :=
    exists_opposite_of_getLast?_ne (hperm.filter field.counts) hlast
  have hone : field.counts one = true :=
    List.of_mem_filter (hfirst.subset (by simp))
  have htwo : field.counts two = true :=
    List.of_mem_filter (hfirst.subset (by simp))
  have hbefore : [one, two].Sublist members := hfirst.trans List.filter_sublist
  refine ⟨field, one, two, ?_, hone, htwo, hbefore, hsecond.trans List.filter_sublist⟩
  have hkeys : one.1.sameKey two.1 = false := by
    simpa using hdistinct.sublist (hbefore.map Prod.fst)
  intro hsame
  obtain ⟨spelling, hspelling⟩ := field.exists_text_of_counts hone
  rw [← hsame, hspelling, Value.sameKey_text_iff.mpr rfl] at hkeys
  contradiction

/-! ## Options under the names of their fields -/

/-- A key under the name of the field that it spells. -/
def nameOf : Value → Value
  | .text spelling =>
      match LoadField.ofSpelling? spelling with
      | some field => .text field.name
      | none => .text spelling
  | key => key

def renamed (entry : Value × Value) : Value × Value := (nameOf entry.1, entry.2)

/-- The options under the names of their fields.  Nulls are left out, and a value takes the place of
an earlier one under the same name. -/
def inFieldNames (members : Members) : Members :=
  Members.insertAll [] ((members.filter (!·.2.isNull)).map renamed)

/-- The names that keys come to are spelled in one way. -/
theorem isSpelled_nameOf (field : LoadField) (key : Value) :
    field.isSpelled (nameOf key) = (nameOf key).sameKey (.text field.name) := by
  rw [Bool.eq_iff_iff, Value.sameKey_text_iff]
  constructor
  · intro hspelled
    cases key with
    | text spelling =>
        rw [nameOf] at hspelled ⊢
        split at hspelled
        · next named hnamed =>
            rw [LoadField.isSpelled_text_iff, LoadField.ofSpelling?_name] at hspelled
            rw [Option.some.inj hspelled]
        · next hnone =>
            rw [LoadField.isSpelled_text_iff, hnone] at hspelled
            contradiction
    | _ => contradiction
  · intro hname
    rw [hname, LoadField.isSpelled_text_iff, LoadField.ofSpelling?_name]

@[simp]
theorem isSpelled_nameOf_eq (field : LoadField) (key : Value) :
    field.isSpelled (nameOf key) = field.isSpelled key := by
  cases key with
  | text spelling =>
      rw [nameOf, Bool.eq_iff_iff]
      split
      · next named hnamed =>
          rw [LoadField.isSpelled_text_iff, LoadField.isSpelled_text_iff, hnamed,
            LoadField.ofSpelling?_name]
      · rfl
  | _ => rfl

theorem filter_counts_map_renamed (members : Members) (field : LoadField) :
    (members.map renamed).filter field.counts = (members.filter field.counts).map renamed := by
  rw [List.filter_map]
  congr 1
  apply List.filter_congr
  intro entry _
  rw [Function.comp_apply, renamed, LoadField.counts, LoadField.counts, isSpelled_nameOf_eq]

/-- Renaming the keys of the entries changes nothing. -/
theorem ofMembers_map_renamed (members : Members) :
    ofMembers (members.map renamed) = ofMembers members := by
  apply eq_of_get_eq
  intro field
  rw [get_ofMembers, get_ofMembers, filter_counts_map_renamed, List.getLast?_map, Option.map_map]
  rfl

@[simp]
theorem nameOf_nameOf (key : Value) : nameOf (nameOf key) = nameOf key := by
  cases key with
  | text spelling =>
      rw [nameOf]
      split
      · next named hnamed => rw [nameOf, LoadField.ofSpelling?_name]
      · next hnone => rw [nameOf, hnone]
  | _ => rfl

/-- What an object of options under the names of their fields is like. -/
structure IsInFieldNames (members : Members) : Prop where
  keys : ∀ entry ∈ members, nameOf entry.1 = entry.1
  values : ∀ entry ∈ members, entry.2.isNull = false
  distinct : (members.map Prod.fst).Pairwise fun key other => key.sameKey other = false

theorem IsInFieldNames.insert {members : Members} (hmembers : IsInFieldNames members)
    (key : Value) {value : Value} (hvalue : value.isNull = false) :
    IsInFieldNames (members.insert (nameOf key) value) where
  keys := Members.forall_keys_insert (fun name => nameOf name = name) hmembers.keys
    (nameOf_nameOf key) value
  values := by
    intro entry hentry
    rcases Members.mem_insert hentry with hearlier | hinserted
    · exact hmembers.values entry hearlier
    · rwa [hinserted]
  distinct := Members.pairwise_insert hmembers.distinct (nameOf key) value

theorem IsInFieldNames.insertAll {members : Members} (hmembers : IsInFieldNames members)
    {additions : Members} (hadditions : ∀ entry ∈ additions, entry.2.isNull = false) :
    IsInFieldNames (members.insertAll (additions.map renamed)) := by
  induction additions generalizing members with
  | nil => exact hmembers
  | cons entry rest ih =>
      obtain ⟨hentry, hrest⟩ := List.forall_mem_cons.mp hadditions
      exact ih (hmembers.insert entry.1 hentry) hrest

theorem isNull_of_mem_filter {members : Members} {entry : Value × Value}
    (hentry : entry ∈ members.filter (!·.2.isNull)) : entry.2.isNull = false := by
  simpa using List.of_mem_filter hentry

theorem isInFieldNames_inFieldNames (members : Members) :
    IsInFieldNames (inFieldNames members) := by
  apply IsInFieldNames.insertAll
  · exact ⟨by simp, by simp, .nil⟩
  · intro entry hentry
    exact isNull_of_mem_filter hentry

/-- Where no value is null, the entries that count for a field are those under its name. -/
theorem filter_counts_of_keys {members : Members}
    (hkeys : ∀ entry ∈ members, nameOf entry.1 = entry.1)
    (hvalues : ∀ entry ∈ members, entry.2.isNull = false) (field : LoadField) :
    members.filter field.counts = members.filter (·.1.sameKey (.text field.name)) := by
  apply List.filter_congr
  intro entry hentry
  have hspelled := isSpelled_nameOf field entry.1
  rw [hkeys entry hentry] at hspelled
  rw [LoadField.counts, hspelled, hvalues entry hentry, Bool.not_false, Bool.and_true]

/-- In an object under the names of the fields, a field has the value that stands under its name. -/
theorem IsInFieldNames.get_ofMembers {members : Members} (hmembers : IsInFieldNames members)
    (field : LoadField) :
    (ofMembers members).get field = (members.named? field.name).getD (default.get field) := by
  rw [LoadOptions.get_ofMembers, filter_counts_of_keys hmembers.keys hmembers.values,
    Members.named?_of_pairwise hmembers.distinct]

/-- Rewriting an object under the names of its fields changes nothing. -/
@[simp]
theorem ofMembers_inFieldNames (members : Members) :
    ofMembers (inFieldNames members) = ofMembers members := by
  apply eq_of_get_eq
  intro field
  have hkeys : ∀ entry ∈ (members.filter (!·.2.isNull)).map renamed,
      nameOf entry.1 = entry.1 := by
    rw [List.forall_mem_map]
    intro entry _
    exact nameOf_nameOf entry.1
  have hvalues : ∀ entry ∈ (members.filter (!·.2.isNull)).map renamed,
      entry.2.isNull = false := by
    rw [List.forall_mem_map]
    intro entry hentry
    have hvalue := isNull_of_mem_filter hentry
    exact hvalue
  have hnone : Members.named? [] field.name = none := rfl
  have hcounted : (members.filter (!·.2.isNull)).filter field.counts =
      members.filter field.counts := by
    rw [List.filter_filter]
    apply List.filter_congr
    intro entry _
    rw [LoadField.counts, Bool.and_assoc, Bool.and_self]
  calc (ofMembers (inFieldNames members)).get field
      = ((inFieldNames members).named? field.name).getD (default.get field) :=
        (isInFieldNames_inFieldNames members).get_ofMembers field
    _ = (ofMembers ((members.filter (!·.2.isNull)).map renamed)).get field := by
        rw [inFieldNames, Members.named?_insertAll, ← filter_counts_of_keys hkeys hvalues, hnone,
          Option.or_none, get_ofMembers]
    _ = (ofMembers members).get field := by
        rw [ofMembers_map_renamed, get_ofMembers, get_ofMembers, hcounted]

/-! ## The query of load options -/

/-- The query of a value that is given as load options. -/
def queryOf (assembler : Assembler) (given : Value) : Compiled String := do
  let options ← Compiled.ofExcept (QueryBuilder.liftMisuse (ofValue given))
  assembler.query options

/-- Every field has the last value that counts for it.  So entries that count for no field never
matter, the order of entries matters only between two spellings of one field, and an object of
options has the query, or the failure, that it has under the names of its fields. -/
theorem ofMembers_spelled (members : Members) :
    (∀ field : LoadField, (ofMembers members).get field =
      ((members.filter field.counts).getLast?.map Prod.snd).getD (default.get field)) ∧
    ofMembers (members.filter isCounted) = ofMembers members ∧
    (∀ other : Members,
      ((members.map Prod.fst).Pairwise fun key other => key.sameKey other = false) →
      members.Perm other → ofMembers members ≠ ofMembers other →
      ∃ (field : LoadField) (one two : Value × Value), one.1 ≠ two.1 ∧ field.counts one = true ∧
        field.counts two = true ∧ [one, two].Sublist members ∧ [two, one].Sublist other) ∧
    IsInFieldNames (inFieldNames members) ∧
    ∀ assembler : Assembler,
      queryOf assembler (.object (inFieldNames members)) = queryOf assembler (.object members) ∧
      queryOf assembler (.object (members.map renamed)) = queryOf assembler (.object members) := by
  refine ⟨get_ofMembers members, ofMembers_filter_isCounted members, ?_,
    isInFieldNames_inFieldNames members, ?_⟩
  · intro other hdistinct hperm hne
    exact exists_exchanged_of_ofMembers_ne hdistinct hperm hne
  · intro assembler
    constructor
    · rw [queryOf, ofValue, ofMembers_inFieldNames, queryOf, ofValue]
    · rw [queryOf, ofValue, ofMembers_map_renamed, queryOf, ofValue]

/-- Options that name the fields of the search box in both spellings. -/
def spelledTwice : Members :=
  [(.text "searchExpr", .text "name"), (.text "search_expr", .text "title")]

theorem ofMembers_spelled_reversed :
    ∃ (field : LoadField) (one two : Value × Value), one.1 ≠ two.1 ∧ field.counts one = true ∧
      field.counts two = true ∧ [one, two].Sublist spelledTwice ∧
      [two, one].Sublist spelledTwice.reverse := by
  have hdistinct : (spelledTwice.map Prod.fst).Pairwise
      fun key other => key.sameKey other = false := by
    apply List.pairwise_pair.mpr
    simp
  have hne : ofMembers spelledTwice ≠ ofMembers spelledTwice.reverse := by
    intro hsame
    have hfields : Value.text "title" = .text "name" := congrArg searchFields hsame
    simp at hfields
  exact (ofMembers_spelled spelledTwice).2.2.1 spelledTwice.reverse hdistinct
    spelledTwice.reverse_perm.symm hne

end LoadOptions

end GridSource
