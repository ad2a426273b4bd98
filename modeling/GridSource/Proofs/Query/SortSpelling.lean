import GridSource.Proofs.Filter.Spelling
import GridSource.Proofs.Query.DroppedFilter
import GridSource.Proofs.Query.Composition
import GridSource.Proofs.Value.Members
import Mathlib.Data.List.Nodup

/-!
# Spellings of a sort option

A bare name in a sort option sorts like an object with this name for its selector.  The one
exception is the empty name: an empty selector is no valid descriptor, but an empty name in a
list is one.  The main result says that names may be respelled as objects without any change of
the query exactly if no empty name of a list is, and that the sort parameters of a query are
those of the valid descriptors in their order.
-/

namespace GridSource

/-- The spellings of one descriptor: a name may be written as an object that selects it. -/
inductive RespellsDescriptor : Value → Value → Prop where
  | same (descriptor : Value) : RespellsDescriptor descriptor descriptor
  | selector (name : String) :
      RespellsDescriptor (.text name) (.record [("selector", .text name)])
  | ascending (name : String) :
      RespellsDescriptor (.text name)
        (.record [("selector", .text name), ("desc", .bool false)])

/-- The spellings of a sort option, a single descriptor or a sequence of them. -/
inductive RespellsSort : Value → Value → Prop where
  | single {descriptor other : Value} (hother : RespellsDescriptor descriptor other) :
      RespellsSort descriptor other
  | listed (kind : SequenceKind) {descriptors others : List Value}
      (hothers : List.Forall₂ RespellsDescriptor descriptors others) :
      RespellsSort (kind.of descriptors) (kind.of others)

/-- An empty name stays as it is. -/
def KeepsEmptyName (descriptor other : Value) : Prop := descriptor = .text "" → other = .text ""

/-- The empty names in a sequence of descriptors stay as they are. -/
def KeepsEmptyNames (sort other : Value) : Prop :=
  ∀ descriptors others, sort.sequence? = some descriptors → other.sequence? = some others →
    List.Forall₂ KeepsEmptyName descriptors others

/-! ## Descriptors -/

section Descriptors

variable (delimiter : String) {descriptor other : Value} {descriptors others : List Value}

/-- A name that is not empty sorts like an object that selects it; an empty one does not. -/
theorem sortText?_selector (name : String) {members : List (String × Value)}
    (hselector : members.lookup "selector" = some (.text name))
    (hdesc : ((members.lookup "desc").getD .null).truthy = false) :
    (KeepsEmptyName (.text name) (.record members) ∧
        sortText? delimiter (.record members) = sortText? delimiter (.text name)) ∨
      ¬ KeepsEmptyName (.text name) (.record members) ∧
        sortText? delimiter (.record members) = none ∧
        ∃ text, sortText? delimiter (.text name) = some text := by
  have hmembers (key : String) : Members.named? (members.map fun member =>
      (.text member.1, member.2)) key = members.lookup key := Value.field?_record members key
  have hrecord : sortText? delimiter (.record members) =
      if name = "" then none else some (name ++ delimiter ++ "ASC") := by
    rw [Value.record, sortText?, hmembers, hselector, hmembers, hdesc]
    rfl
  by_cases hname : name = ""
  · subst hname
    refine .inr ⟨fun hkeeps => ?_, hrecord, _, rfl⟩
    cases hkeeps rfl
  · exact .inl ⟨fun hempty => absurd (Value.text.inj hempty) hname,
      hrecord.trans (if_neg hname)⟩

theorem RespellsDescriptor.sortText?_eq (hother : RespellsDescriptor descriptor other) :
    (KeepsEmptyName descriptor other ∧
        sortText? delimiter other = sortText? delimiter descriptor) ∨
      ¬ KeepsEmptyName descriptor other ∧ sortText? delimiter other = none ∧
        ∃ text, sortText? delimiter descriptor = some text := by
  cases hother with
  | same => exact .inl ⟨id, rfl⟩
  | selector name => exact sortText?_selector delimiter name rfl rfl
  | ascending name => exact sortText?_selector delimiter name rfl rfl

/-- Respelled descriptors sort the same if the empty names among them stay; else they sort by
less. -/
theorem filterMap_sortText?_eq (hothers : List.Forall₂ RespellsDescriptor descriptors others) :
    (List.Forall₂ KeepsEmptyName descriptors others ∧
        others.filterMap (sortText? delimiter) = descriptors.filterMap (sortText? delimiter)) ∨
      ¬ List.Forall₂ KeepsEmptyName descriptors others ∧
        (others.filterMap (sortText? delimiter)).length <
          (descriptors.filterMap (sortText? delimiter)).length := by
  induction hothers with
  | nil => exact .inl ⟨.nil, rfl⟩
  | @cons descriptor other descriptors others hother _ ih =>
      rw [List.forall₂_cons]
      rcases hother.sortText?_eq delimiter with
        ⟨hkeeps, hsame⟩ | ⟨hdrops, hnone, text, htext⟩
      · rcases ih with ⟨hrest, hequal⟩ | ⟨hrest, hless⟩
        · refine .inl ⟨⟨hkeeps, hrest⟩, ?_⟩
          rw [List.filterMap_cons, hsame, hequal, List.filterMap_cons]
        · refine .inr ⟨fun hall => hrest hall.2, ?_⟩
          rw [List.filterMap_cons, hsame, List.filterMap_cons]
          cases sortText? delimiter descriptor with
          | none => exact hless
          | some text => simpa using hless
      · refine .inr ⟨fun hall => hdrops hall.1, ?_⟩
        rw [List.filterMap_cons, hnone, List.filterMap_cons, htext, List.length_cons]
        rcases ih with ⟨-, hequal⟩ | ⟨-, hless⟩
        · exact Nat.lt_succ_of_le (hequal ▸ le_rfl)
        · exact Nat.lt_succ_of_lt hless

end Descriptors

/-! ## Sort options -/

/-- The sort parameters of a sort option: one for each valid descriptor.  A single empty name
asks for no sort. -/
theorem sortValues_eq (delimiter : String) {sort : Value} (hsort : sort ≠ .text "") :
    sortValues delimiter sort = (sortDescriptors sort).filterMap (sortText? delimiter) := by
  rw [sortValues]
  split
  · rfl
  · next hfalsy =>
      cases sort with
      | list descriptors | tuple descriptors =>
          obtain rfl : descriptors = [] := by simpa [Value.truthy] using hfalsy
          rfl
      | text name =>
          rw [Value.truthy, Bool.not_eq_true, Bool.not_eq_false', String.isEmpty_iff] at hfalsy
          exact absurd (congrArg Value.text hfalsy) hsort
      | object members =>
          obtain rfl : members = [] := by simpa [Value.truthy] using hfalsy
          rfl
      | _ => rfl

@[simp]
theorem sortDescriptors_of (kind : SequenceKind) (descriptors : List Value) :
    sortDescriptors (kind.of descriptors) = descriptors := by
  cases kind <;> rfl

theorem sequence_ne_text (kind : SequenceKind) (items : List Value) (content : String) :
    kind.of items ≠ .text content := by
  cases kind <;> rintro ⟨⟩

theorem keepsEmptyNames_of_iff (kind : SequenceKind) {descriptors others : List Value} :
    KeepsEmptyNames (kind.of descriptors) (kind.of others) ↔
      List.Forall₂ KeepsEmptyName descriptors others := by
  constructor
  · intro hkeeps
    exact hkeeps _ _ (Filter.sequence?_of kind _) (Filter.sequence?_of kind _)
  · intro hkeeps found found' hfound hfound'
    obtain rfl := Option.some.inj ((Filter.sequence?_of kind _).symm.trans hfound)
    obtain rfl := Option.some.inj ((Filter.sequence?_of kind _).symm.trans hfound')
    exact hkeeps

theorem sortDescriptors_of_not_sequence {descriptor : Value}
    (hsingle : descriptor.isSequence = false) : sortDescriptors descriptor = [descriptor] := by
  cases descriptor with
  | list items | tuple items => contradiction
  | _ => rfl

/-- A single descriptor may always be respelled: an empty name or selector asks for nothing. -/
theorem RespellsDescriptor.sortValues_eq (delimiter : String) {descriptor other : Value}
    (hother : RespellsDescriptor descriptor other) :
    sortValues delimiter other = sortValues delimiter descriptor := by
  by_cases hempty : descriptor = .text ""
  · subst hempty
    cases hother <;> rfl
  · rcases hother.sortText?_eq delimiter with ⟨-, hsame⟩ | ⟨hdrops, -⟩
    · cases hother with
      | same => rfl
      | selector name | ascending name =>
          rw [GridSource.sortValues_eq delimiter (by rintro ⟨⟩), GridSource.sortValues_eq _ hempty,
            sortDescriptors_of_not_sequence rfl, sortDescriptors_of_not_sequence rfl,
            List.filterMap_cons, List.filterMap_cons, hsame]
    · exact absurd (fun hname => absurd hname hempty) hdrops

/-- A sort option may be respelled if the empty names of a list stay; else it sorts by less. -/
theorem RespellsSort.sortValues_eq (delimiter : String) {sort other : Value}
    (hother : RespellsSort sort other) :
    (KeepsEmptyNames sort other ∧ sortValues delimiter other = sortValues delimiter sort) ∨
      ¬ KeepsEmptyNames sort other ∧ sortValues delimiter other ≠ sortValues delimiter sort := by
  cases hother with
  | @single descriptor other hother =>
      refine .inl ⟨?_, hother.sortValues_eq delimiter⟩
      intro descriptors others hdescriptors hothers
      cases hother with
      | same =>
          obtain rfl := Option.some.inj (hdescriptors.symm.trans hothers)
          exact List.forall₂_same.mpr fun _ _ => id
      | selector | ascending => contradiction
  | @listed kind descriptors others hothers =>
      rw [keepsEmptyNames_of_iff, GridSource.sortValues_eq delimiter (sequence_ne_text kind _ _),
        GridSource.sortValues_eq delimiter (sequence_ne_text kind _ _), sortDescriptors_of,
        sortDescriptors_of]
      rcases filterMap_sortText?_eq delimiter hothers with hkeeps | ⟨hdrops, hless⟩
      · exact .inl hkeeps
      · exact .inr ⟨hdrops, fun hequal => absurd (congrArg List.length hequal) hless.ne⟩

namespace QueryBuilder

/-- A name that is set once lists its values. -/
theorem values_flatMap_settings {settings : List (String × List String)} {name : String}
    {values : List String} (hdistinct : (settings.map Prod.fst).Nodup)
    (hmem : (name, values) ∈ settings) :
    ((settings.flatMap fun setting => setting.2.map fun value => (setting.1, value)).filter
      (·.1 = name)).map Prod.snd = values := by
  have hnone {others : List (String × List String)} (hothers : name ∉ others.map Prod.fst) :
      (others.flatMap fun setting => setting.2.map fun value => (setting.1, value)).filter
        (·.1 = name) = [] := by
    rw [List.filter_eq_nil_iff]
    intro item hitem
    obtain ⟨setting, hsetting, hitem⟩ := List.mem_flatMap.mp hitem
    obtain ⟨value, -, rfl⟩ := List.mem_map.mp hitem
    have hother : setting.1 ≠ name := fun hsame => hothers (hsame ▸ List.mem_map_of_mem hsetting)
    simpa using hother
  obtain ⟨before, after, rfl⟩ := List.append_of_mem hmem
  rw [List.map_append, List.map_cons, List.nodup_middle, List.nodup_cons, List.mem_append,
    not_or] at hdistinct
  rw [List.flatMap_append, List.flatMap_cons, List.filter_append, List.filter_append,
    hnone hdistinct.1.1, hnone hdistinct.1.2, List.nil_append, List.append_nil]
  rw [List.filter_eq_self.mpr (by simp), List.map_map]
  exact List.map_id values

end QueryBuilder

namespace Assembler

variable {assembler : Assembler} {options : LoadOptions}

/-- A query depends on its sort option by the sort parameters alone. -/
theorem query_of_sortValues {other : Value}
    (hother : ∀ delimiter, sortValues delimiter other = sortValues delimiter options.sort) :
    assembler.query { options with sort := other } = assembler.query options := by
  have hsort (builder : QueryBuilder) : sortBy builder other = sortBy builder options.sort := by
    rw [QueryBuilder.sortBy_eq, QueryBuilder.sortBy_eq, hother]
  have hpage : addPage { options with sort := other } = addPage options := by
    funext builder
    simp only [addPage, hsort]
  simp only [query, builder, hpage]
  rfl

/-- The sort parameters of a query are those of its sort option. -/
theorem sort_of_query
    (hdistinct : (QueryFragment.all.flatMap (·.names assembler.grammar)).Nodup) {query : String}
    (hquery : (assembler.query options).outcome = .ok query) :
    ∃ items, Form.decode? query = some items ∧
      (items.filter (·.1 = assembler.grammar.sort)).map Prod.snd =
        sortValues assembler.grammar.listDelimiter options.sort := by
  obtain ⟨built, hbuilt, -, rfl⟩ := query_eq_ok_iff.mp hquery
  obtain ⟨tree, fields, offset, limit, join, -, -, -, -, -, -, rfl⟩ := builder_eq_settings hbuilt
  have hnames : ((assembler.settings tree options.sort fields offset limit join).map
      Prod.fst).Nodup := hdistinct
  refine ⟨_, Form.decode?_encode _, ?_⟩
  rw [← QueryBuilder.assembled, QueryBuilder.items_assembled assembler.grammar hnames]
  exact QueryBuilder.values_flatMap_settings hnames (by simp [settings])

/-- Whole runs are the same if the names of a sort option are respelled and the empty names of a
list stay.  Where the parameters have names of their own, a query that is assembled changes
otherwise.  Its sort parameters are those of the valid descriptors in their order, whether the
option is a list or a single one, except for an empty name that is alone. -/
theorem query_respelled_iff {other : Value} (hother : RespellsSort options.sort other) :
    (KeepsEmptyNames options.sort other →
      assembler.query { options with sort := other } = assembler.query options) ∧
    ((QueryFragment.all.flatMap (·.names assembler.grammar)).Nodup →
      ∀ query, (assembler.query options).outcome = .ok query →
        ((assembler.query { options with sort := other }).outcome = .ok query ↔
          KeepsEmptyNames options.sort other) ∧
        ∃ items, Form.decode? query = some items ∧
          (options.sort ≠ .text "" →
            (items.filter (·.1 = assembler.grammar.sort)).map Prod.snd =
              (sortDescriptors options.sort).filterMap
                (sortText? assembler.grammar.listDelimiter)) ∧
          (options.sort = .text "" →
            (items.filter (·.1 = assembler.grammar.sort)).map Prod.snd = [])) := by
  have hkept (hkeeps : KeepsEmptyNames options.sort other) :
      assembler.query { options with sort := other } = assembler.query options := by
    refine query_of_sortValues fun delimiter => ?_
    rcases hother.sortValues_eq delimiter with ⟨-, hsame⟩ | ⟨hdrops, -⟩
    · exact hsame
    · exact absurd hkeeps hdrops
  refine ⟨hkept, fun hdistinct query hquery => ?_⟩
  obtain ⟨items, hitems, hsort⟩ := sort_of_query hdistinct hquery
  refine ⟨⟨fun hrespelled => ?_, fun hkeeps => ?_⟩, items, hitems, fun hsome => ?_,
    fun hempty => ?_⟩
  · obtain ⟨found, hfound, hfoundSort⟩ := sort_of_query hdistinct hrespelled
    obtain rfl := Option.some.inj (hitems.symm.trans hfound)
    rcases hother.sortValues_eq assembler.grammar.listDelimiter with ⟨hkeeps, -⟩ | ⟨-, hdiffers⟩
    · exact hkeeps
    · exact absurd (hfoundSort.symm.trans hsort) hdiffers
  · rw [hkept hkeeps, hquery]
  · rw [hsort, GridSource.sortValues_eq _ hsome]
  · rw [hsort, hempty]
    rfl

/-- Names and objects, an entry that is neither, and an empty name. -/
def mixedSort : Value :=
  .list [.text "name", .record [("selector", .text "age"), ("desc", .bool true)], .int 7,
    .text "", .text "id"]

/-- The names of `mixedSort` as objects, with a choice for the empty one. -/
def mixedSelectors (empty : Value) : Value :=
  .list [.record [("selector", .text "name")],
    .record [("selector", .text "age"), ("desc", .bool true)], .int 7, empty,
    .record [("selector", .text "id"), ("desc", .bool false)]]

def sortedBy (sort : Value) : LoadOptions := { LoadOptions.default with sort }

theorem query_respelled_iff_mixed :
    (∀ empty, RespellsDescriptor (.text "") empty →
      RespellsSort (sortedBy mixedSort).sort (mixedSelectors empty)) ∧
      (QueryFragment.all.flatMap (·.names Assembler.default.grammar)).Nodup ∧
      (Assembler.default.query (sortedBy mixedSort)).outcome = .ok (Form.encode
        [("sort", "name,ASC"), ("sort", "age,DESC"), ("sort", ",ASC"), ("sort", "id,ASC")]) ∧
      Assembler.default.query (sortedBy (mixedSelectors (.text ""))) =
        Assembler.default.query (sortedBy mixedSort) ∧
      (Assembler.default.query
          (sortedBy (mixedSelectors (.record [("selector", .text "")])))).outcome ≠
        (Assembler.default.query (sortedBy mixedSort)).outcome := by
  have hother (empty : Value) (hempty : RespellsDescriptor (.text "") empty) :
      RespellsSort (sortedBy mixedSort).sort (mixedSelectors empty) :=
    .listed .list (.cons (.selector "name") (.cons (.same _) (.cons (.same _)
      (.cons hempty (.cons (.ascending "id") .nil)))))
  have hdistinct : (QueryFragment.all.flatMap (·.names Assembler.default.grammar)).Nodup := by
    decide
  have hquery : (Assembler.default.query (sortedBy mixedSort)).outcome = .ok (Form.encode
      [("sort", "name,ASC"), ("sort", "age,DESC"), ("sort", ",ASC"), ("sort", "id,ASC")]) :=
    query_of_items rfl (by decide +kernel)
  refine ⟨hother, hdistinct, hquery, ?_, fun hsame => ?_⟩
  · refine (query_respelled_iff (hother _ (.same _))).1 ?_
    refine (keepsEmptyNames_of_iff .list).mpr ?_
    simp [KeepsEmptyName]
  · -- The empty name is the fourth of the list, and it does not stay.
    have hkeeps := (((query_respelled_iff (hother _ (.selector ""))).2 hdistinct _ hquery).1).mp
      (hsame.trans hquery)
    have hnames := (keepsEmptyNames_of_iff .list).mp hkeeps
    simp only [List.forall₂_cons] at hnames
    cases hnames.2.2.2.1 rfl

/-- An empty name in a list is sorted by, but neither an object that selects it nor an empty
name that is alone. -/
theorem query_listed_empty_name :
    RespellsSort (.list [.text ""]) (.list [.record [("selector", .text "")]]) ∧
      (Assembler.default.query (sortedBy (.list [.text ""]))).outcome = .ok "sort=%2CASC" ∧
      (Assembler.default.query
        (sortedBy (.list [.record [("selector", .text "")]]))).outcome = .ok "" ∧
      (Assembler.default.query (sortedBy (.text ""))).outcome = .ok "" := by
  have hsort : Form.encode [("sort", ",ASC")] = "sort=%2CASC" := by decide +kernel
  exact ⟨.listed .list (.cons (.selector "") .nil), congrArg Except.ok hsort, rfl, rfl⟩

end Assembler

end GridSource
