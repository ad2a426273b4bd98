import GridSource.Proofs.Filter.Failure
import Mathlib.Data.List.Infix

/-!
# What a compiled filter selects

A filter is read as a Boolean condition on a record, a search tree as a condition
on the same record built from the comparison tokens.  The main result relates the
two: a compiled filter never selects a record that the filter, or its negation
under the negative polarity, excludes, and without a lossy negation it selects
exactly the records the filter asks for.  All of this is about filters whose
fields have names; a field that is an integer without a text stops the run.
-/

namespace GridSource

/-- What the comparison tokens say about the fields of one record.  Four tokens
negate another one, and excluding a text excludes it at both ends. -/
structure TokenMeaning where
  test : (token field : String) → Value → Bool
  test_ne : ∀ field value, test "$ne" field value = !test "$eq" field value
  test_lte : ∀ field value, test "$lte" field value = !test "$gt" field value
  test_gte : ∀ field value, test "$gte" field value = !test "$lt" field value
  test_excl : ∀ field value, test "$excl" field value = !test "$cont" field value
  not_starts_of_excl : ∀ field value, test "$excl" field value = true →
    test "$starts" field value = false
  not_ends_of_excl : ∀ field value, test "$excl" field value = true →
    test "$ends" field value = false

/-- Whether a search tree selects the record. -/
def TokenMeaning.selects (meaning : TokenMeaning) : Value → Bool
  | .object [(.text token, .list [left, right])] =>
      if token = "$and" then meaning.selects left && meaning.selects right
      else if token = "$or" then meaning.selects left || meaning.selects right
      else false
  | .object [(.text field, .object [(.text token, value)])] => meaning.test token field value
  | _ => false

/-- The comparisons of a grid. -/
inductive Comparator where
  | equal
  | different
  | greater
  | greaterOrEqual
  | less
  | lessOrEqual
  | startsWith
  | endsWith
  | contains
  | lacks

namespace Comparator

/-- How a grid writes a comparison. -/
def symbol : Comparator → String
  | .equal => "="
  | .different => "<>"
  | .greater => ">"
  | .greaterOrEqual => ">="
  | .less => "<"
  | .lessOrEqual => "<="
  | .startsWith => "startswith"
  | .endsWith => "endswith"
  | .contains => "contains"
  | .lacks => "notcontains"

/-- Whether a comparison holds, in terms of the six tokens that negate no other. -/
def holds (meaning : TokenMeaning) (field : String) (value : Value) : Comparator → Bool
  | .equal => meaning.test "$eq" field value
  | .different => !meaning.test "$eq" field value
  | .greater => meaning.test "$gt" field value
  | .greaterOrEqual => !meaning.test "$lt" field value
  | .less => meaning.test "$lt" field value
  | .lessOrEqual => !meaning.test "$gt" field value
  | .startsWith => meaning.test "$starts" field value
  | .endsWith => meaning.test "$ends" field value
  | .contains => meaning.test "$cont" field value
  | .lacks => !meaning.test "$cont" field value

/-- The tokens of a comparison in the search grammar. -/
def tokens : Comparator → TokenPair
  | .equal => ⟨"$eq", "$ne"⟩
  | .different => ⟨"$ne", "$eq"⟩
  | .greater => ⟨"$gt", "$lte"⟩
  | .greaterOrEqual => ⟨"$gte", "$lt"⟩
  | .less => ⟨"$lt", "$gte"⟩
  | .lessOrEqual => ⟨"$lte", "$gt"⟩
  | .startsWith => ⟨"$starts", "$excl"⟩
  | .endsWith => ⟨"$ends", "$excl"⟩
  | .contains => ⟨"$cont", "$excl"⟩
  | .lacks => ⟨"$excl", "$cont"⟩

@[simp]
theorem lookup?_symbol (comparator : Comparator) :
    OperatorTable.search.lookup? (.text comparator.symbol) = some comparator.tokens := by
  cases comparator <;> rfl

variable (meaning : TokenMeaning) (field : String) (value : Value)

/-- Unless the negation is lossy, the token says what the comparison says. -/
theorem test_tokens_of_not_lossy (comparator : Comparator) (negated : Bool)
    (hexact : OperatorTable.search.isLossy (.text comparator.symbol) negated = false) :
    meaning.test (comparator.tokens.pick negated) field value =
      (comparator.holds meaning field value ^^ negated) := by
  cases negated with
  | false =>
      cases comparator <;>
        simp [tokens, TokenPair.pick, holds, meaning.test_ne, meaning.test_lte,
          meaning.test_gte, meaning.test_excl]
  | true =>
      cases comparator with
      | startsWith => exact absurd hexact (by decide)
      | endsWith => exact absurd hexact (by decide)
      | _ =>
          simp [tokens, TokenPair.pick, holds, meaning.test_ne, meaning.test_lte,
            meaning.test_gte, meaning.test_excl]

/-- The token never says more than the comparison. -/
theorem holds_of_test_tokens (comparator : Comparator) (negated : Bool)
    (htest : meaning.test (comparator.tokens.pick negated) field value = true) :
    (comparator.holds meaning field value ^^ negated) = true := by
  cases hlossy : OperatorTable.search.isLossy (.text comparator.symbol) negated with
  | false => rw [← test_tokens_of_not_lossy meaning field value comparator negated hlossy, htest]
  | true =>
      have hnegated : negated = true := (Bool.and_eq_true_iff.mp hlossy).1
      subst hnegated
      cases comparator with
      | startsWith => simp [holds, meaning.not_starts_of_excl field value htest]
      | endsWith => simp [holds, meaning.not_ends_of_excl field value htest]
      | _ => exact absurd hlossy (by decide)

end Comparator

/-! ## Raw conditions -/

/-- The two kinds of sequence, which are nodes of a filter alike. -/
inductive SequenceKind where
  | list
  | tuple

def SequenceKind.of : SequenceKind → List Value → Value
  | .list => .list
  | .tuple => .tuple

@[simp]
theorem SequenceKind.isSequence_of (kind : SequenceKind) (items : List Value) :
    (kind.of items).isSequence = true := by
  cases kind <;> rfl

@[simp]
theorem Filter.ofValue_of (connectives : List String) (kind : SequenceKind)
    (items : List Value) :
    ofValue connectives (kind.of items) = ofItems connectives items := by
  cases kind <;> rfl

/-- A left-hand side that names a field. -/
abbrev FieldLabel := {label : Value // label.isSequence = false ∧ label.isObject = false}

/-- A right-hand side that is no node of a filter. -/
abbrev Operand := {value : Value // value.isSequence = false}

/-- The raw filters built from comparisons. -/
inductive Condition where
  | comparison (kind : SequenceKind) (field : FieldLabel) (comparator : Comparator)
      (operand : Operand)
  | wrapped (kind : SequenceKind) (inner : Condition)
  | negation (kind : SequenceKind) (operand : Condition)
  | pair (kind : SequenceKind) (left right : Condition)
  | conjunction (kind : SequenceKind) (left right : Condition)
  | disjunction (kind : SequenceKind) (left right : Condition)

namespace Condition

/-- The raw filter. -/
def raw : Condition → Value
  | .comparison kind field comparator operand =>
      kind.of [field.val, .text comparator.symbol, operand.val]
  | .wrapped kind inner => kind.of [inner.raw]
  | .negation kind operand => kind.of [.text "!", operand.raw]
  | .pair kind left right => kind.of [left.raw, right.raw]
  | .conjunction kind left right => kind.of [left.raw, .text "and", right.raw]
  | .disjunction kind left right => kind.of [left.raw, .text "or", right.raw]

/-- Whether the filter holds of a record.  A pair is a conjunction. -/
def holds (meaning : TokenMeaning) : Condition → Bool
  | .comparison _ field comparator operand =>
      comparator.holds meaning field.val.plainForm operand.val
  | .wrapped _ inner => inner.holds meaning
  | .negation _ operand => !operand.holds meaning
  | .pair _ left right | .conjunction _ left right => left.holds meaning && right.holds meaning
  | .disjunction _ left right => left.holds meaning || right.holds meaning

/-- Whether every label has a text, which is then the name of its field. -/
def hasNames : Condition → Bool
  | .comparison _ field _ _ => field.val.isPrintable
  | .wrapped _ inner => inner.hasNames
  | .negation _ operand => operand.hasNames
  | .pair _ left right | .conjunction _ left right | .disjunction _ left right =>
      left.hasNames && right.hasNames

/-- The filter as it is read. -/
def filter : Condition → Filter
  | .comparison _ field comparator operand =>
      .comparison (.text field.val.plainForm) (.text comparator.symbol) (.terminal operand.val)
  | .wrapped _ inner => inner.filter
  | .negation _ operand => .negation operand.filter
  | .pair _ left right | .conjunction _ left right =>
      .connective (.text "and") left.filter right.filter
  | .disjunction _ left right => .connective (.text "or") left.filter right.filter

@[simp]
theorem isSequence_raw (condition : Condition) : condition.raw.isSequence = true := by
  cases condition <;> exact SequenceKind.isSequence_of _ _

@[simp]
theorem isNegationMark_raw (condition : Condition) :
    Filter.isNegationMark condition.raw = false := by
  have hsequence := condition.isSequence_raw
  cases hraw : condition.raw with
  | text content => simp [hraw, Value.isSequence] at hsequence
  | _ => rfl

/-- A reading under the condition that every name in it has a text. -/
def named {α : Type} (hasNames : Bool) (reading : α) : Except CompileError α :=
  if hasNames then .ok reading else .error (.misuse tooManyDigits)

theorem named_map {α β : Type} (hasNames : Bool) (reading : α) (next : α → β) :
    (named hasNames reading).map next = named hasNames (next reading) := by
  cases hasNames <;> rfl

theorem named_bind_map {α β : Type} (first second : Bool) (left right : α) (join : α → α → β) :
    (named first left).bind (fun former => (named second right).map (join former)) =
      named (first && second) (join left right) := by
  cases first
  · rfl
  · exact named_map second right (join left)

theorem fieldName_label (field : FieldLabel) :
    Filter.fieldName field.val = named field.val.isPrintable field.val.plainForm := by
  have hscalar : Filter.namesNoField field.val = false := by
    rw [Filter.namesNoField, field.property.1, field.property.2, Bool.or_false]
  rw [Filter.fieldName_of_scalar hscalar, Value.display, Value.printed, named]
  cases field.val.isPrintable <;> rfl

@[simp]
theorem ofValue_operand (connectives : List String) (operand : Operand) :
    Filter.ofValue connectives operand.val = .ok (.terminal operand.val) := by
  obtain ⟨value, hsequence⟩ := operand
  cases value with
  | list items => simp [Value.isSequence] at hsequence
  | tuple items => simp [Value.isSequence] at hsequence
  | _ => rfl

@[simp]
theorem isConnective_symbol (comparator : Comparator) :
    Filter.isConnective OperatorTable.search.connectives (.text comparator.symbol) = false := by
  cases comparator <;> decide

/-- A raw condition is read as it is written, if every label in it has a text. -/
theorem ofValue_raw (condition : Condition) :
    Filter.ofValue OperatorTable.search.connectives condition.raw =
      named condition.hasNames condition.filter := by
  induction condition with
  | comparison kind field comparator operand =>
      rw [raw, Filter.ofValue_of, Filter.ofItems, isConnective_symbol, fieldName_label,
        ofValue_operand]
      exact named_map _ _ _
  | wrapped kind inner ih =>
      rw [raw, Filter.ofValue_of, Filter.ofItems, ih, filter, hasNames]
  | negation kind operand ih =>
      rw [raw, Filter.ofValue_of, Filter.ofItems, ih]
      exact named_map _ _ _
  | pair kind left right ihleft ihright =>
      rw [raw, Filter.ofValue_of, Filter.ofItems, isNegationMark_raw, ihleft, ihright]
      exact named_bind_map _ _ _ _ _
  | conjunction kind left right ihleft ihright =>
      rw [raw, Filter.ofValue_of, Filter.ofItems, ihleft, ihright]
      exact named_bind_map _ _ _ _ _
  | disjunction kind left right ihleft ihright =>
      rw [raw, Filter.ofValue_of, Filter.ofItems, ihleft, ihright]
      exact named_bind_map _ _ _ _ _

/-! ## Meaning of compiled conditions -/

/-- A run ends with a tree that selects a record only if wanted, and exactly if
wanted when nothing was lost on the way. -/
def Approximates (meaning : TokenMeaning) (wanted : Bool) (compiled : Compiled Value) : Prop :=
  ∃ tree, compiled.outcome = .ok tree ∧
    (compiled.warnings = [] → meaning.selects tree = wanted) ∧
    (meaning.selects tree = true → wanted = true)

variable {meaning : TokenMeaning} {negated wantedLeft wantedRight : Bool}
variable {left right : Filter} {operator : Value} {pair : TokenPair}

/-- Both connectives are monotone, so an approximation of the parts is one of the
whole. -/
theorem Approximates.both (hpair : OperatorTable.search.lookup? operator = some pair)
    (htoken : pair.pick negated = "$and")
    (hleft : Approximates meaning wantedLeft (left.compile .search negated))
    (hright : Approximates meaning wantedRight (right.compile .search negated)) :
    Approximates meaning (wantedLeft && wantedRight)
      ((Filter.connective operator left right).compile .search negated) := by
  obtain ⟨first, hfirst, hfirstExact, hfirstSound⟩ := hleft
  obtain ⟨second, hsecond, hsecondExact, hsecondSound⟩ := hright
  rw [Filter.compile_connective_of_ok hpair hfirst hsecond, htoken]
  refine ⟨_, rfl, ?_, ?_⟩
  · intro hwarnings
    obtain ⟨hleftWarnings, hrightWarnings⟩ := List.append_eq_nil_iff.mp hwarnings
    simp [TokenMeaning.selects, hfirstExact hleftWarnings, hsecondExact hrightWarnings]
  · intro hselects
    simp only [TokenMeaning.selects, if_true, Bool.and_eq_true] at hselects ⊢
    exact ⟨hfirstSound hselects.1, hsecondSound hselects.2⟩

theorem Approximates.either (hpair : OperatorTable.search.lookup? operator = some pair)
    (htoken : pair.pick negated = "$or")
    (hleft : Approximates meaning wantedLeft (left.compile .search negated))
    (hright : Approximates meaning wantedRight (right.compile .search negated)) :
    Approximates meaning (wantedLeft || wantedRight)
      ((Filter.connective operator left right).compile .search negated) := by
  obtain ⟨first, hfirst, hfirstExact, hfirstSound⟩ := hleft
  obtain ⟨second, hsecond, hsecondExact, hsecondSound⟩ := hright
  rw [Filter.compile_connective_of_ok hpair hfirst hsecond, htoken]
  refine ⟨_, rfl, ?_, ?_⟩
  · intro hwarnings
    obtain ⟨hleftWarnings, hrightWarnings⟩ := List.append_eq_nil_iff.mp hwarnings
    simp [TokenMeaning.selects, hfirstExact hleftWarnings, hsecondExact hrightWarnings]
  · intro hselects
    simp only [TokenMeaning.selects, show ("$or" = "$and") = False by decide, if_false, if_true,
      Bool.or_eq_true] at hselects ⊢
    exact hselects.imp hfirstSound hsecondSound

theorem Approximates.conjunction
    (hleft : Approximates meaning (wantedLeft ^^ negated) (left.compile .search negated))
    (hright : Approximates meaning (wantedRight ^^ negated) (right.compile .search negated)) :
    Approximates meaning ((wantedLeft && wantedRight) ^^ negated)
      ((Filter.connective (.text "and") left right).compile .search negated) := by
  cases negated with
  | false =>
      simp only [Bool.xor_false] at hleft hright ⊢
      exact .both rfl rfl hleft hright
  | true =>
      simp only [Bool.xor_true, Bool.not_and] at hleft hright ⊢
      exact .either rfl rfl hleft hright

theorem Approximates.disjunction
    (hleft : Approximates meaning (wantedLeft ^^ negated) (left.compile .search negated))
    (hright : Approximates meaning (wantedRight ^^ negated) (right.compile .search negated)) :
    Approximates meaning ((wantedLeft || wantedRight) ^^ negated)
      ((Filter.connective (.text "or") left right).compile .search negated) := by
  cases negated with
  | false =>
      simp only [Bool.xor_false] at hleft hright ⊢
      exact .either rfl rfl hleft hright
  | true =>
      simp only [Bool.xor_true, Bool.not_or] at hleft hright ⊢
      exact .both rfl rfl hleft hright

theorem Approximates.comparison (field : FieldLabel) (comparator : Comparator)
    (operand : Operand) :
    Approximates meaning
      (comparator.holds meaning field.val.plainForm operand.val ^^ negated)
      ((Filter.comparison (.text field.val.plainForm) (.text comparator.symbol)
        (.terminal operand.val)).compile .search negated) := by
  rw [Filter.compile_comparison_of_ok comparator.lookup?_symbol rfl]
  refine ⟨_, rfl, ?_, ?_⟩
  · intro hwarnings
    have hexact : OperatorTable.search.isLossy (.text comparator.symbol) negated = false := by
      by_contra hlossy
      simp [hlossy] at hwarnings
    exact Comparator.test_tokens_of_not_lossy meaning _ _ comparator negated hexact
  · intro hselects
    exact Comparator.holds_of_test_tokens meaning _ _ comparator negated hselects

theorem approximates_compile (meaning : TokenMeaning) (condition : Condition) (negated : Bool) :
    Approximates meaning (condition.holds meaning ^^ negated)
      (condition.filter.compile .search negated) := by
  -- The polarity changes below every negation, so the induction is for both.
  induction condition generalizing negated with
  | comparison kind field comparator operand =>
      exact Approximates.comparison field comparator operand
  | wrapped kind inner ih => exact ih negated
  | negation kind operand ih =>
      have hflip : ((!operand.holds meaning) ^^ negated) = (operand.holds meaning ^^ !negated) := by
        cases operand.holds meaning <;> cases negated <;> rfl
      rw [holds, hflip]
      exact ih (!negated)
  | pair kind left right ihleft ihright =>
      exact .conjunction (ihleft negated) (ihright negated)
  | conjunction kind left right ihleft ihright =>
      exact .conjunction (ihleft negated) (ihright negated)
  | disjunction kind left right ihleft ihright =>
      exact .disjunction (ihleft negated) (ihright negated)

theorem compileValue_raw (condition : Condition) (negated : Bool) :
    Filter.compileValue .search negated condition.raw =
      if condition.hasNames then condition.filter.compile .search negated
      else .fail (.misuse tooManyDigits) := by
  rw [Filter.compileValue, ofValue_raw]
  cases condition.hasNames <;> rfl

/-- A raw condition compiles under either polarity.  Without a warning its search
tree selects a record exactly when the condition, negated under the negative
polarity, holds of it.  In any case it selects no other record.  The one way to fail
is a field given as an integer with too many digits for a text: no search tree has a
name for it. -/
theorem compileValue_raw_selects (meaning : TokenMeaning) (condition : Condition)
    (negated : Bool) :
    (condition.hasNames = true →
      ∃ tree, (Filter.compileValue .search negated condition.raw).outcome = .ok tree ∧
        ((Filter.compileValue .search negated condition.raw).warnings = [] →
          meaning.selects tree = (condition.holds meaning ^^ negated)) ∧
        (meaning.selects tree = true → (condition.holds meaning ^^ negated) = true)) ∧
      (condition.hasNames = false →
        Filter.compileValue .search negated condition.raw =
          ⟨[], .error (.misuse tooManyDigits)⟩) := by
  rw [compileValue_raw]
  constructor
  · intro hnames
    rw [if_pos hnames]
    exact approximates_compile meaning condition negated
  · intro hnames
    rw [hnames]
    rfl

end Condition

/-- A record of texts, compared with the written form of a value. -/
def TokenMeaning.ofTexts (content : String → List Char) : TokenMeaning where
  test token field value :=
    let found := content field
    let wanted := value.plainForm.toList
    match token with
    | "$eq" => decide (found = wanted)
    | "$ne" => !decide (found = wanted)
    | "$gt" => decide (wanted < found)
    | "$lte" => !decide (wanted < found)
    | "$lt" => decide (found < wanted)
    | "$gte" => !decide (found < wanted)
    | "$starts" => decide (wanted <+: found)
    | "$ends" => decide (wanted <:+ found)
    | "$cont" => decide (wanted <:+: found)
    | "$excl" => !decide (wanted <:+: found)
    | _ => false
  test_ne _ _ := rfl
  test_lte _ _ := rfl
  test_gte _ _ := rfl
  test_excl _ _ := rfl
  not_starts_of_excl field value hexcl := by
    simp only [Bool.not_eq_true', decide_eq_false_iff_not] at hexcl ⊢
    exact fun hstarts => hexcl hstarts.isInfix
  not_ends_of_excl field value hexcl := by
    simp only [Bool.not_eq_true', decide_eq_false_iff_not] at hexcl ⊢
    exact fun hends => hexcl hends.isInfix

namespace Condition

/-- Neither does the city start with `O` nor is the age `7`. -/
def lossyCondition : Condition :=
  .negation .list (.disjunction .tuple
    (.comparison .list ⟨.text "city", rfl, rfl⟩ .startsWith ⟨.text "O", rfl⟩)
    (.comparison .list ⟨.text "age", rfl, rfl⟩ .equal ⟨.int 7, rfl⟩))

/-- A lossy negation keeps some records out, but it lets no wrong one in. -/
theorem compileValue_raw_selects_lossy :
    ∃ tree, (Filter.compileValue .search false lossyCondition.raw).outcome = .ok tree ∧
      (Filter.compileValue .search false lossyCondition.raw).warnings.length = 1 ∧
      ∀ meaning : TokenMeaning, meaning.selects tree = true →
        lossyCondition.holds meaning = true := by
  obtain ⟨tree, htree, -, -⟩ :=
    (compileValue_raw_selects (.ofTexts fun _ => []) lossyCondition false).1 rfl
  refine ⟨tree, htree, rfl, fun meaning hselects => ?_⟩
  obtain ⟨found, hfound, -, hsound⟩ := (compileValue_raw_selects meaning lossyCondition false).1 rfl
  obtain rfl : found = tree := Except.ok.inj (hfound.symm.trans htree)
  simpa using hsound hselects

end Condition

end GridSource
