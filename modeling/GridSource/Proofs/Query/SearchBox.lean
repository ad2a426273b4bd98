import GridSource.Proofs.Filter.Meaning
import GridSource.Proofs.Outcome
import GridSource.Query.LoadOptions

/-!
# What a search box selects

The search box of a grid becomes a raw disjunction, nested to the left, of one
comparison per field it searches, and the filter of the grid a conjunction with
it.  Both are raw conditions again, so a compiled search box selects what every
compiled condition selects: the records that the filter lets through and that
have the wanted value in one of the fields.  It has names if the filter has and
every searched field has a text.
-/

namespace GridSource

namespace Condition

/-- The comparison of one field of a search box. -/
def searched (comparator : Comparator) (wanted : Operand) (label : FieldLabel) : Condition :=
  .comparison .list label comparator wanted

/-- A condition or one of the fields; the earlier alternatives are innermost. -/
def orSearched (comparator : Comparator) (wanted : Operand) (collected : Condition)
    (labels : List FieldLabel) : Condition :=
  labels.foldl (fun found label => .disjunction .list found (searched comparator wanted label))
    collected

variable (comparator : Comparator) (wanted : Operand)

theorem holds_orSearched (meaning : TokenMeaning) (collected : Condition)
    (labels : List FieldLabel) :
    (orSearched comparator wanted collected labels).holds meaning =
      (collected.holds meaning ||
        labels.any fun label => comparator.holds meaning label.val.plainForm wanted.val) := by
  induction labels generalizing collected with
  | nil => exact (Bool.or_false _).symm
  | cons label labels ih =>
      rw [List.any_cons, ← Bool.or_assoc]
      exact ih (.disjunction .list collected (searched comparator wanted label))

theorem hasNames_orSearched (collected : Condition) (labels : List FieldLabel) :
    (orSearched comparator wanted collected labels).hasNames =
      (collected.hasNames && labels.all fun label => label.val.isPrintable) := by
  induction labels generalizing collected with
  | nil => exact (Bool.and_true _).symm
  | cons label labels ih =>
      rw [List.all_cons, ← Bool.and_assoc]
      exact ih (.disjunction .list collected (searched comparator wanted label))

/-- The raw form is what the loop over the fields builds. -/
theorem raw_orSearched (collected : Condition) (labels : List FieldLabel) :
    (orSearched comparator wanted collected labels).raw =
      (labels.map fun label => (searched comparator wanted label).raw).foldl
        (fun found next => .list [found, .text "or", next]) collected.raw := by
  induction labels generalizing collected with
  | nil => rfl
  | cons label labels ih =>
      rw [List.map_cons, List.foldl_cons]
      exact ih (.disjunction .list collected (searched comparator wanted label))

theorem approximates_compileValue (meaning : TokenMeaning) {condition : Condition}
    (hnames : condition.hasNames = true) :
    Approximates meaning (condition.holds meaning)
      (Filter.compileValue .search false condition.raw) := by
  rw [compileValue_raw, if_pos hnames, ← Bool.xor_false (condition.holds meaning)]
  exact approximates_compile meaning condition false

theorem compileValue_nameless {condition : Condition} (hnames : condition.hasNames = false) :
    Filter.compileValue .search false condition.raw =
      ⟨[], .error (.misuse tooManyDigits)⟩ := by
  rw [compileValue_raw, hnames]
  rfl

end Condition

/-- The fields a search box searches: one name, or a sequence of labels. -/
inductive SearchedFields : Value → List FieldLabel → Prop where
  | name (name : String) : SearchedFields (.text name) [⟨.text name, rfl, rfl⟩]
  | labels (kind : SequenceKind) {labels : List FieldLabel} (hlabels : labels ≠ []) :
      SearchedFields (kind.of (labels.map Subtype.val)) labels

theorem SearchedFields.ne_nil {fields : Value} {labels : List FieldLabel}
    (hfields : SearchedFields fields labels) : labels ≠ [] := by
  cases hfields with
  | name name => exact List.cons_ne_nil _ _
  | labels kind hlabels => exact hlabels

namespace LoadOptions

/-- The search box of the options is in use and compares some fields with a value. -/
structure Searches (options : LoadOptions) (labels : List FieldLabel) (comparator : Comparator)
    (wanted : Operand) : Prop where
  fields : SearchedFields options.searchFields labels
  operation : options.searchOperation = .text comparator.symbol
  value : options.searchValue = wanted.val
  present : wanted.val ≠ .null ∧ wanted.val ≠ .text ""

variable {options : LoadOptions} {labels : List FieldLabel} {comparator : Comparator}
variable {wanted : Operand}

theorem searchActive_eq_false_iff :
    options.searchActive = false ↔
      options.searchFields = .null ∨ options.searchValue = .null ∨
        options.searchValue = .text "" := by
  have hfields : options.searchFields.isNull = true ↔ options.searchFields = .null := by
    cases options.searchFields <;> simp [Value.isNull]
  rw [searchActive, Bool.and_eq_false_iff, Bool.not_eq_false', hfields]
  apply or_congr_right
  cases options.searchValue with
  | text content => simp [String.isEmpty_iff]
  | _ => simp

theorem Searches.searchActive (hsearches : options.Searches labels comparator wanted) :
    options.searchActive = true := by
  have hfields : options.searchFields ≠ .null := by
    intro hnull
    have hsearched := hsearches.fields
    rw [hnull] at hsearched
    generalize hvalue : Value.null = fields at hsearched
    cases hsearched with
    | name name => cases hvalue
    | labels kind _ => cases kind <;> cases hvalue
  by_contra hinactive
  rw [Bool.not_eq_true, searchActive_eq_false_iff, hsearches.value] at hinactive
  rcases hinactive with hnull | hnull | hempty
  · exact hfields hnull
  · exact hsearches.present.1 hnull
  · exact hsearches.present.2 hempty

theorem Searches.searched_eq (hsearches : options.Searches labels comparator wanted) :
    options.searched = .ok (labels.map Subtype.val) := by
  rw [searched]
  have hfields := hsearches.fields
  generalize options.searchFields = fields at hfields
  cases hfields with
  | name name => rfl
  | labels kind _ => cases kind <;> rfl

/-- The search box is the raw form of a condition on the fields. -/
theorem Searches.searchFilter? (hsearches : options.Searches labels comparator wanted) :
    ∃ condition : Condition, options.searchFilter? = .ok (some condition.raw) ∧
      (condition.hasNames = labels.all fun label => label.val.isPrintable) ∧
      ∀ meaning, condition.holds meaning =
        labels.any fun label => comparator.holds meaning label.val.plainForm wanted.val := by
  obtain ⟨label, others, hlabels⟩ := List.exists_cons_of_ne_nil hsearches.fields.ne_nil
  have hconditions : (labels.map Subtype.val).map options.searchCondition =
      labels.map fun label => (Condition.searched comparator wanted label).raw := by
    rw [List.map_map]
    apply List.map_congr_left
    intro label _
    rw [Function.comp_apply, searchCondition, hsearches.operation, hsearches.value]
    rfl
  refine ⟨.orSearched comparator wanted (.searched comparator wanted label) others, ?_, ?_, ?_⟩
  · rw [LoadOptions.searchFilter?, if_pos hsearches.searchActive, hsearches.searched_eq,
      Outcome.ok_bind, hconditions, hlabels, Condition.raw_orSearched]
    rfl
  · rw [Condition.hasNames_orSearched, hlabels, List.all_cons]
    rfl
  · intro meaning
    rw [Condition.holds_orSearched, hlabels, List.any_cons]
    rfl

/-- The raw form of a filter, null where there is none. -/
def rawFilter (filter : Option Condition) : Value := (filter.map Condition.raw).getD .null

theorem combinedFilter_of_none (hsearch : options.searchFilter? = .ok none) :
    options.combinedFilter = .ok options.filter := by
  rw [LoadOptions.combinedFilter, hsearch]
  rfl

theorem combinedFilter_of_some {search : Value}
    (hsearch : options.searchFilter? = .ok (some search)) :
    options.combinedFilter =
      .ok (if options.filter.isNull then search
        else .list [options.filter, .text "and", search]) := by
  rw [LoadOptions.combinedFilter, hsearch, Outcome.ok_bind]
  cases options.filter.isNull <;> rfl

/-- Filter and search box together are the raw form of one condition. -/
theorem Searches.combinedFilter (hsearches : options.Searches labels comparator wanted)
    {filter : Option Condition} (hfilter : options.filter = rawFilter filter) :
    ∃ condition : Condition, options.combinedFilter = .ok condition.raw ∧
      condition.hasNames =
        (filter.all Condition.hasNames && labels.all fun label => label.val.isPrintable) ∧
      ∀ meaning, condition.holds meaning =
        (filter.all (·.holds meaning) &&
          labels.any fun label => comparator.holds meaning label.val.plainForm wanted.val) := by
  obtain ⟨search, hsearch, hnames, hholds⟩ := hsearches.searchFilter?
  rw [combinedFilter_of_some hsearch, hfilter]
  cases filter with
  | none =>
      refine ⟨search, rfl, hnames, fun meaning => ?_⟩
      rw [hholds meaning, Option.all_none, Bool.true_and]
  | some condition =>
      have hnull : condition.raw.isNull = false := by
        have hsequence := condition.isSequence_raw
        cases hraw : condition.raw with
        | null => simp [hraw, Value.isSequence] at hsequence
        | _ => rfl
      refine ⟨.conjunction .list condition search, ?_, ?_, fun meaning => ?_⟩
      · rw [rawFilter, Option.map_some, Option.getD_some, if_neg (by simp [hnull])]
        rfl
      · rw [Condition.hasNames, hnames, Option.all_some]
      · rw [Condition.holds, hholds meaning, Option.all_some]

theorem searchFilter?_of_inactive (hinactive : options.searchActive = false) :
    options.searchFilter? = .ok none := by
  rw [LoadOptions.searchFilter?, hinactive, if_neg Bool.false_ne_true]

/-- With a search box in use, filter and search box compile to one tree.  Without a
warning it selects a record exactly when the filter, if there is one, holds of it and
one of the searched fields compares as asked; in any case it selects no other record.
A search box without fields or without a value leaves the filter alone.  Either way
compiling fails only where a field is an integer with too many digits for a text. -/
theorem combinedFilter_selects (meaning : TokenMeaning) (options : LoadOptions)
    (filter : Option Condition) (hfilter : options.filter = rawFilter filter) :
    (∀ labels comparator wanted, options.Searches labels comparator wanted →
      ∃ combined, options.combinedFilter = .ok combined ∧
        ((filter.all Condition.hasNames && labels.all fun label => label.val.isPrintable) = true →
          ∃ tree, (Filter.compileValue .search false combined).outcome = .ok tree ∧
            ((Filter.compileValue .search false combined).warnings = [] →
              meaning.selects tree = (filter.all (·.holds meaning) &&
                labels.any fun label =>
                  comparator.holds meaning label.val.plainForm wanted.val)) ∧
            (meaning.selects tree = true → filter.all (·.holds meaning) = true ∧
              ∃ label ∈ labels,
                comparator.holds meaning label.val.plainForm wanted.val = true)) ∧
        ((filter.all Condition.hasNames && labels.all fun label => label.val.isPrintable) = false →
          Filter.compileValue .search false combined =
            ⟨[], .error (.misuse tooManyDigits)⟩)) ∧
    (options.searchFields = .null ∨ options.searchValue = .null ∨
        options.searchValue = .text "" →
      options.combinedFilter = .ok options.filter ∧
        (filter.all Condition.hasNames = true →
          ∃ tree, (Filter.compileValue .search false options.filter).outcome = .ok tree ∧
            (filter = none → tree = .null) ∧
            ∀ condition, filter = some condition →
              ((Filter.compileValue .search false options.filter).warnings = [] →
                meaning.selects tree = condition.holds meaning) ∧
              (meaning.selects tree = true → condition.holds meaning = true)) ∧
        (filter.all Condition.hasNames = false →
          Filter.compileValue .search false options.filter =
            ⟨[], .error (.misuse tooManyDigits)⟩)) := by
  constructor
  · intro labels comparator wanted hsearches
    obtain ⟨condition, hcombined, hnames, hholds⟩ := hsearches.combinedFilter hfilter
    rw [← hnames]
    refine ⟨condition.raw, hcombined, fun hnamed => ?_, Condition.compileValue_nameless⟩
    obtain ⟨tree, htree, hexact, hsound⟩ := Condition.approximates_compileValue meaning hnamed
    rw [hholds meaning] at hexact hsound
    refine ⟨tree, htree, hexact, fun hselects => ?_⟩
    rw [← List.any_eq_true, ← Bool.and_eq_true_iff]
    exact hsound hselects
  · intro habsent
    have hinactive := searchActive_eq_false_iff.mpr habsent
    refine ⟨combinedFilter_of_none (searchFilter?_of_inactive hinactive), ?_⟩
    rw [hfilter]
    cases filter with
    | none =>
        refine ⟨fun _ => ⟨.null, rfl, fun _ => rfl, fun condition hsome => by cases hsome⟩, ?_⟩
        simp
    | some condition =>
        refine ⟨fun hnamed => ?_, Condition.compileValue_nameless⟩
        obtain ⟨tree, htree, hexact, hsound⟩ := Condition.approximates_compileValue meaning hnamed
        refine ⟨tree, htree, by simp, ?_⟩
        intro other hother
        obtain rfl := Option.some.inj hother
        exact ⟨hexact, hsound⟩

/-- The town does not start with `P`. -/
def otherTown : Condition :=
  .negation .tuple (.comparison .list ⟨.text "town", rfl, rfl⟩ .startsWith ⟨.text "P", rfl⟩)

def nameLabels : List FieldLabel :=
  [⟨.text "first", rfl, rfl⟩, ⟨.text "last", rfl, rfl⟩, ⟨.text "mail", rfl, rfl⟩]

/-- `ann` somewhere in one of three fields, next to a filter that loses meaning. -/
def lossySearch : LoadOptions :=
  { LoadOptions.default with
    filter := otherTown.raw
    searchFields := .list (nameLabels.map Subtype.val)
    searchValue := .text "ann" }

theorem combinedFilter_selects_lossySearch :
    ∃ combined tree, lossySearch.combinedFilter = .ok combined ∧
      (Filter.compileValue .search false combined).outcome = .ok tree ∧
      (Filter.compileValue .search false combined).warnings.length = 1 ∧
      ∀ meaning : TokenMeaning, meaning.selects tree = true →
        meaning.test "$starts" "town" (.text "P") = false ∧
          ∃ label ∈ nameLabels, meaning.test "$cont" label.val.plainForm (.text "ann") = true := by
  have hsearches : lossySearch.Searches nameLabels .contains ⟨.text "ann", rfl⟩ :=
    { fields := .labels .list (List.cons_ne_nil _ _)
      operation := rfl
      value := rfl
      present := by simp }
  have hselects := fun meaning =>
    (combinedFilter_selects meaning lossySearch (some otherTown) rfl).1 _ _ _ hsearches
  obtain ⟨combined, hcombined, hnamed, -⟩ := hselects (.ofTexts fun _ => [])
  obtain ⟨tree, htree, -, -⟩ := hnamed rfl
  have hwarnings : (lossySearch.combinedFilter.map fun combined =>
      (Filter.compileValue .search false combined).warnings.length) = .ok 1 := rfl
  rw [hcombined] at hwarnings
  refine ⟨combined, tree, hcombined, htree, Except.ok.inj hwarnings, fun meaning hselected => ?_⟩
  obtain ⟨other, hother, hfound, -⟩ := hselects meaning
  obtain rfl := Except.ok.inj (hother.symm.trans hcombined)
  obtain ⟨found, hfound, -, hsound⟩ := hfound rfl
  obtain rfl := Except.ok.inj (hfound.symm.trans htree)
  obtain ⟨hfilter, hlabel⟩ := hsound hselected
  have htown : (!meaning.test "$starts" "town" (.text "P")) = true := hfilter
  exact ⟨by simpa using htown, hlabel⟩

end LoadOptions

end GridSource
