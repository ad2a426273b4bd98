import GridSource.Proofs.Filter.Steps
import GridSource.Proofs.Filter.Visits
import GridSource.Proofs.Outcome

/-!
# When a filter does not compile

A raw filter is read first and compiled second.  Reading fails at a comparison
whose left-hand side is a sequence or an object, compiling at an operator that is
no key of the table; nothing else fails.  Both passes visit the nodes in the same
order, so the failure that is reported is the first one of its kind, and one of
reading comes before all of compiling.  Where the value to be named or reported is
an integer with too many digits for a text, this is the failure in its place.
-/

namespace GridSource

/-- The failure of a run that failed. -/
def Compiled.failure? {α : Type} (compiled : Compiled α) : Option CompileError :=
  match compiled.outcome with
  | .ok _ => none
  | .error failure => some failure

/-- The report of a run that failed at the query. -/
def Compiled.report? {α : Type} (compiled : Compiled α) : Option Report :=
  compiled.failure?.bind CompileError.report?

namespace OperatorTable

/-- Whether an operator is a key of the table; only texts are. -/
def hasKey (table : OperatorTable) : Value → Bool
  | .text name => table.names.contains name
  | _ => false

@[simp]
theorem isSome_lookup? (table : OperatorTable) (operator : Value) :
    (table.lookup? operator).isSome = table.hasKey operator := by
  cases operator with
  | text name =>
      rw [lookup?, hasKey, names]
      induction table.pairs with
      | nil => rfl
      | cons entry rest ih =>
          rw [List.lookup_cons, List.map_cons, List.contains_cons]
          cases name == entry.1 with
          | true => rfl
          | false => simpa using ih
  | _ => rfl

theorem resolve_of_hasKey {table : OperatorTable} {operator : Value} (negated : Bool)
    (hkey : table.hasKey operator = true) :
    ∃ token, table.resolve operator negated = .ok token := by
  rw [← isSome_lookup?, Option.isSome_iff_exists] at hkey
  obtain ⟨pair, hpair⟩ := hkey
  exact ⟨_, resolve_eq_ok_iff.mpr ⟨pair, hpair, rfl⟩⟩

theorem resolve_of_not_hasKey {table : OperatorTable} {operator : Value} (negated : Bool)
    (hkey : table.hasKey operator = false) :
    table.resolve operator negated = .error (.ofOperator operator) := by
  rw [← isSome_lookup?, Option.isSome_eq_false_iff, Option.isNone_iff_eq_none] at hkey
  rw [resolve, resolve?, hkey]
  rfl

end OperatorTable

namespace Filter

/-- The left-hand side of a node that is read as a comparison. -/
def comparedField? (connectives : List String) (node : Value) : Option Value :=
  match node.sequence? with
  | some [left, operator, _] => if isConnective connectives operator then none else some left
  | _ => none

/-- The operator of a comparison or a connective.  A pair that is no negation
implies one. -/
def operator? (node : Value) : Option Value :=
  match node.sequence? with
  | some [first, _] => if isNegationMark first then none else some (.text impliedConnective)
  | some [_, operator, _] => some operator
  | _ => none

/-- The left-hand sides of the reachable comparisons, in the order of the visit. -/
def comparedFields (connectives : List String) (root : Value) : List Value :=
  (visited connectives root).filterMap (comparedField? connectives)

/-- The operators of the reachable comparisons and connectives, in the order of
the visit. -/
def usedOperators (connectives : List String) (root : Value) : List Value :=
  (visited connectives root).filterMap operator?

/-- A sequence or an object names no field. -/
def namesNoField (left : Value) : Bool := left.isSequence || left.isObject

variable (connectives : List String)

theorem comparedFields_eq (root : Value) :
    comparedFields connectives root =
      (comparedField? connectives root).toList ++
        (parts connectives root).flatMap (comparedFields connectives) := by
  rw [comparedFields, visited_eq, List.filterMap_cons, List.filterMap_flatMap]
  cases comparedField? connectives root <;> rfl

theorem usedOperators_eq (root : Value) :
    usedOperators connectives root =
      (operator? root).toList ++
        (parts connectives root).flatMap (usedOperators connectives) := by
  rw [usedOperators, visited_eq, List.filterMap_cons, List.filterMap_flatMap]
  cases operator? root <;> rfl

variable {connectives}

theorem fieldName_of_nameless {left : Value} (hleft : namesNoField left = true) :
    fieldName left = .error (.noFieldName left) := by
  rw [fieldName, ← namesNoField, if_pos hleft]

theorem fieldName_of_scalar {left : Value} (hleft : namesNoField left = false) :
    fieldName left = left.display.mapError .misuse := by
  rw [fieldName, ← namesNoField, hleft, if_neg Bool.false_ne_true]

theorem fieldName_eq_ok_iff {left : Value} {name : String} :
    fieldName left = .ok name ↔
      namesNoField left = false ∧ left.isPrintable = true ∧ left.plainForm = name := by
  cases hleft : namesNoField left with
  | true => simp [fieldName_of_nameless hleft]
  | false => simp [fieldName_of_scalar hleft, Outcome.mapError_eq_ok_iff, Value.display_eq_ok_iff]

/-- No field name can be made of a left-hand side: it names none, or it has no text. -/
def isUnnamed (left : Value) : Bool := namesNoField left || !left.isPrintable

theorem isUnnamed_iff {left : Value} :
    isUnnamed left = true ↔ ∃ failure, fieldName left = .error failure := by
  cases hname : fieldName left with
  | ok name =>
      obtain ⟨hscalar, hprintable, -⟩ := fieldName_eq_ok_iff.mp hname
      simp [isUnnamed, hscalar, hprintable]
  | error failure =>
      simp only [Except.error.injEq, exists_eq', iff_true]
      by_contra hnamed
      simp only [isUnnamed, Bool.or_eq_true, not_or, Bool.not_eq_true, Bool.not_eq_true',
        Bool.not_eq_false] at hnamed
      rw [fieldName_eq_ok_iff.mpr ⟨hnamed.1, hnamed.2, rfl⟩] at hname
      contradiction

/-- What keeps a scalar from naming a field is that it has no text. -/
theorem fieldName_eq_misuse {left : Value} {failure : CompileError}
    (hscalar : namesNoField left = false) (hname : fieldName left = .error failure) :
    failure = .misuse tooManyDigits := by
  rw [fieldName_of_scalar hscalar] at hname
  obtain ⟨cause, hcause, rfl⟩ := Outcome.mapError_eq_error_iff.mp hname
  rw [(Value.display_eq_error_iff.mp hcause).2]

/-! ## Reading -/

/-- The operators of a filter, a node before its parts. -/
def operators : Filter → List Value
  | .absent | .terminal _ | .stray _ => []
  | .negation operand => operand.operators
  | .connective operator left right => operator :: (left.operators ++ right.operators)
  | .comparison _ operator operand => operator :: operand.operators

/-- Every comparison is about a named field, and nothing stray is inside. -/
def Named : Filter → Prop
  | .absent | .terminal _ => True
  | .negation operand => operand.Named
  | .connective _ left right => left.Named ∧ right.Named
  | .comparison field _ operand => (∃ name, field = .text name) ∧ operand.Named
  | .stray _ => False

/-- What reading a raw filter gives: the failure of the first left-hand side that is no
field name, or a filter with the operators of the reachable nodes. -/
inductive ReadOutcome (connectives : List String) (root : Value) : Prop where
  | failed (left : Value) (failure : CompileError)
      (hname : fieldName left = .error failure)
      (houtcome : ofValue connectives root = .error failure)
      (hfirst : (comparedFields connectives root).find? isUnnamed = some left)
  | read (filter : Filter)
      (houtcome : ofValue connectives root = .ok filter)
      (hfields : (comparedFields connectives root).find? isUnnamed = none)
      (hoperators : filter.operators = usedOperators connectives root)
      (hnamed : filter.Named)

theorem ReadOutcome.wrapped {root inner : Value}
    (hread : ofValue connectives root = ofValue connectives inner)
    (hfields : comparedFields connectives root = comparedFields connectives inner)
    (hoperators : usedOperators connectives root = usedOperators connectives inner)
    (hinner : ReadOutcome connectives inner) : ReadOutcome connectives root := by
  rcases hinner with
    ⟨left, failure, hname, houtcome, hfirst⟩ | ⟨filter, houtcome, hnone, hsame, hnamed⟩
  · exact .failed left failure hname (hread.trans houtcome) (hfields ▸ hfirst)
  · exact .read filter (hread.trans houtcome) (hfields ▸ hnone) (hoperators ▸ hsame) hnamed

theorem ReadOutcome.negation {root operand : Value}
    (hread : ofValue connectives root =
      (ofValue connectives operand).map .negation)
    (hfields : comparedFields connectives root = comparedFields connectives operand)
    (hoperators : usedOperators connectives root = usedOperators connectives operand)
    (hoperand : ReadOutcome connectives operand) : ReadOutcome connectives root := by
  rcases hoperand with
    ⟨left, failure, hname, houtcome, hfirst⟩ | ⟨filter, houtcome, hnone, hsame, hnamed⟩
  · refine .failed left failure hname ?_ (hfields ▸ hfirst)
    rw [hread, houtcome]
    rfl
  · refine .read (.negation filter) ?_ (hfields ▸ hnone) (hoperators ▸ hsame) hnamed
    rw [hread, houtcome]
    rfl

/-- A pair and a triple read as a connective alike. -/
theorem ReadOutcome.connective {root operator left right : Value}
    (hread : ofValue connectives root =
      (ofValue connectives left).bind fun first =>
        (ofValue connectives right).map fun second => .connective operator first second)
    (hfields : comparedFields connectives root =
      comparedFields connectives left ++ comparedFields connectives right)
    (hoperators : usedOperators connectives root =
      operator :: (usedOperators connectives left ++ usedOperators connectives right))
    (hleft : ReadOutcome connectives left) (hright : ReadOutcome connectives right) :
    ReadOutcome connectives root := by
  rcases hleft with
    ⟨found, failure, hname, houtcome, hfirst⟩ | ⟨first, houtcome, hnone, hsame, hnamed⟩
  · refine .failed found failure hname ?_ ?_
    · rw [hread, houtcome]
      rfl
    · rw [hfields, List.find?_append, hfirst]
      rfl
  rw [houtcome] at hread
  rcases hright with
    ⟨found, failure, hname, houtcome', hfirst'⟩ |
      ⟨second, houtcome', hnone', hsame', hnamed'⟩
  · refine .failed found failure hname ?_ ?_
    · rw [hread, houtcome']
      rfl
    · rw [hfields, List.find?_append, hnone, hfirst']
      rfl
  · refine .read (.connective operator first second) ?_ ?_ ?_ ⟨hnamed, hnamed'⟩
    · rw [hread, houtcome']
      rfl
    · rw [hfields, List.find?_append, hnone, hnone']
      rfl
    · rw [operators, hoperators, hsame, hsame']

theorem ReadOutcome.comparison {root left operator right : Value}
    (hread : ofValue connectives root =
      (fieldName left).bind fun name =>
        (ofValue connectives right).map fun operand =>
          .comparison (.text name) operator operand)
    (hfields : comparedFields connectives root =
      left :: comparedFields connectives right)
    (hoperators : usedOperators connectives root =
      operator :: usedOperators connectives right)
    (hright : ReadOutcome connectives right) : ReadOutcome connectives root := by
  cases hname : fieldName left with
  | error failure =>
      rw [hname] at hread
      refine .failed left failure hname hread ?_
      rw [hfields, List.find?_cons, isUnnamed_iff.mpr ⟨failure, hname⟩]
  | ok name =>
      rw [hname] at hread
      have husable : isUnnamed left = false := by
        rw [Bool.eq_false_iff, ne_eq, isUnnamed_iff, hname]
        simp
      rcases hright with
        ⟨found, failure, hfailure, houtcome, hfirst⟩ | ⟨operand, houtcome, hnone, hsame, hnamed⟩
      · refine .failed found failure hfailure ?_ ?_
        · rw [hread, houtcome]
          rfl
        · rw [hfields, List.find?_cons, husable]
          exact hfirst
      · refine .read (.comparison (.text name) operator operand) ?_ ?_ ?_ ⟨⟨name, rfl⟩, hnamed⟩
        · rw [hread, houtcome]
          rfl
        · rw [hfields, List.find?_cons, husable]
          exact hnone
        · rw [operators, hoperators, hsame]

variable (connectives) in
/-- Reading fails at the first reachable comparison without a field name and keeps
the operators of all reachable nodes otherwise. -/
theorem read_outcome (root : Value) : ReadOutcome connectives root := by
  induction root using parts_induction connectives with
  | step root ih =>
    have hfields := comparedFields_eq connectives root
    have hoperators := usedOperators_eq connectives root
    cases nodeKind connectives root with
    | leaf hnode hparts hread =>
        rw [hparts] at hfields hoperators
        refine .read (.terminal root) hread ?_ ?_ trivial
        · simp [hfields, comparedField?, hnode]
        · simp [hoperators, operators, operator?, hnode]
    | wrapped inner hnode hparts hread =>
        rw [hparts] at hfields hoperators ih
        rw [comparedField?, hnode] at hfields
        rw [operator?, hnode] at hoperators
        exact .wrapped hread (by simpa using hfields) (by simpa using hoperators)
          (ih inner (by simp))
    | negation mark operand hnode hmark hparts hread =>
        rw [hparts] at hfields hoperators ih
        simp only [comparedField?, hnode] at hfields
        simp only [operator?, hnode, hmark, if_true] at hoperators
        exact .negation hread (by simpa using hfields) (by simpa using hoperators)
          (ih operand (by simp))
    | pair left right hnode hmark hparts hread =>
        rw [hparts] at hfields hoperators ih
        simp only [comparedField?, hnode] at hfields
        simp only [operator?, hnode, hmark] at hoperators
        exact .connective hread (by simpa using hfields) (by simpa using hoperators)
          (ih left (by simp)) (ih right (by simp))
    | connective left operator right hnode hoperator hparts hread =>
        rw [hparts] at hfields hoperators ih
        simp only [comparedField?, hnode, hoperator, if_true] at hfields
        simp only [operator?, hnode] at hoperators
        exact .connective hread (by simpa using hfields) (by simpa using hoperators)
          (ih left (by simp)) (ih right (by simp))
    | comparison left operator right hnode hoperator hparts hread =>
        rw [hparts] at hfields hoperators ih
        simp only [comparedField?, hnode, hoperator] at hfields
        simp only [operator?, hnode] at hoperators
        exact .comparison hread (by simpa using hfields) (by simpa using hoperators)
          (ih right (by simp))
    | dropped items hnode hitems hparts hread =>
        rw [hparts, comparedField?, hnode] at hfields
        rw [hparts, operator?, hnode] at hoperators
        rcases hitems with rfl | ⟨first, second, third, fourth, rest, rfl⟩
        · exact .read .absent hread (by simp [hfields]) (by simp [hoperators, operators]) trivial
        · exact .read .absent hread (by simp [hfields]) (by simp [hoperators, operators]) trivial

/-! ## Compiling -/

/-- The first operator, if any, that is no key of a table. -/
def firstUnknown? (table : OperatorTable) (used : List Value) : Option Value :=
  used.find? fun operator => !table.hasKey operator

/-- How compiling ends: with what comes of the first unknown operator, or with a tree. -/
inductive CompileOutcome (table : OperatorTable) (used : List Value) :
    Except CompileError Value → Prop where
  | failed (operator : Value) (hfirst : firstUnknown? table used = some operator) :
      CompileOutcome table used (.error (.ofOperator operator))
  | compiled (tree : Value) (hknown : firstUnknown? table used = none) :
      CompileOutcome table used (.ok tree)

namespace CompileOutcome

variable {table : OperatorTable} {used later : List Value}

theorem of_firstUnknown {outcome : Except CompileError Value}
    (hsame : firstUnknown? table used = firstUnknown? table later)
    (houtcome : CompileOutcome table later outcome) : CompileOutcome table used outcome := by
  cases houtcome with
  | failed found hfirst => exact .failed found (hsame.trans hfirst)
  | compiled tree hknown => exact .compiled tree (hsame.trans hknown)

/-- The operator of a node is looked up before its parts compile. -/
theorem resolve (operator : Value) (negated : Bool) {next : String → Except CompileError Value}
    (hnext : ∀ token, CompileOutcome table used (next token)) :
    CompileOutcome table (operator :: used) ((table.resolve operator negated).bind next) := by
  cases hkey : table.hasKey operator with
  | false =>
      rw [OperatorTable.resolve_of_not_hasKey negated hkey]
      exact .failed operator (by simp [firstUnknown?, hkey])
  | true =>
      obtain ⟨token, htoken⟩ := OperatorTable.resolve_of_hasKey negated hkey
      rw [htoken]
      exact of_firstUnknown (by simp [firstUnknown?, hkey]) (hnext token)

/-- Two parts compile one after the other. -/
theorem bind {outcome : Except CompileError Value} {next : Value → Except CompileError Value}
    (houtcome : CompileOutcome table used outcome)
    (hnext : ∀ tree, CompileOutcome table later (next tree)) :
    CompileOutcome table (used ++ later) (outcome.bind next) := by
  have happend : firstUnknown? table (used ++ later) =
      (firstUnknown? table used).or (firstUnknown? table later) := by
    simp [firstUnknown?]
  cases houtcome with
  | failed found hfirst => exact .failed found (by simp [happend, hfirst])
  | compiled tree hknown => exact of_firstUnknown (by simp [happend, hknown]) (hnext tree)

theorem map {outcome : Except CompileError Value} (wrap : Value → Value)
    (houtcome : CompileOutcome table used outcome) :
    CompileOutcome table used (outcome.map wrap) := by
  cases houtcome with
  | failed found hfirst => exact .failed found hfirst
  | compiled tree hknown => exact .compiled (wrap tree) hknown

end CompileOutcome

/-- Compiling a filter with named fields fails at its first operator that is no
key of the table, under either polarity, and at nothing else. -/
theorem compile_outcome (table : OperatorTable) (filter : Filter) (hnamed : filter.Named)
    (negated : Bool) :
    CompileOutcome table filter.operators (filter.compile table negated).outcome := by
  induction filter generalizing negated with
  | absent => exact .compiled .null rfl
  | terminal value => exact .compiled value rfl
  | negation operand ih => exact ih hnamed (!negated)
  | connective operator left right ihleft ihright =>
      rw [outcome_compile_connective]
      exact .resolve operator negated fun token =>
        (ihleft hnamed.1 negated).bind fun first => (ihright hnamed.2 negated).map _
  | comparison field operator operand ih =>
      obtain ⟨⟨name, rfl⟩, hoperand⟩ := hnamed
      rw [outcome_compile_comparison]
      exact .resolve operator negated fun token => (ih hoperand negated).map fun inner =>
        .object [(.text name, .object [(.text token, inner)])]
  | stray value => exact absurd hnamed id

/-! ## Both passes -/

theorem Compiled.exists_outcome_eq_ok_iff {α : Type} {compiled : Compiled α} :
    (∃ result, compiled.outcome = .ok result) ↔ compiled.failure? = none := by
  rw [Compiled.failure?]
  cases compiled.outcome <;> simp

theorem Compiled.outcome_eq_error_iff {α : Type} {compiled : Compiled α}
    {failure : CompileError} :
    compiled.outcome = .error failure ↔ compiled.failure? = some failure := by
  rw [Compiled.failure?]
  cases compiled.outcome <;> simp

/-- What comes of an operator that is no key: its report, unless it has no text. -/
theorem ofOperator_eq (operator : Value) :
    CompileError.ofOperator operator =
      if operator.isPrintable then .unknownOperator operator else .misuse tooManyDigits := by
  rw [CompileError.ofOperator, Report.unknownOperator, Value.quoted, Value.printed]
  cases operator.isPrintable <;> rfl

/-- What keeps a raw filter from compiling: its first left-hand side that is no field name,
or else its first operator that is no key of the table. -/
def fault? (table : OperatorTable) (raw : Value) : Option CompileError :=
  match (comparedFields table.connectives raw).find? isUnnamed with
  | some left =>
      if namesNoField left then some (.noFieldName left) else some (.misuse tooManyDigits)
  | none => (firstUnknown? table (usedOperators table.connectives raw)).map .ofOperator

/-- The polarity has no part in whether and why a raw filter does not compile. -/
theorem compileValue_failure?_eq (table : OperatorTable) (raw : Value) (negated : Bool) :
    (compileValue table negated raw).failure? = fault? table raw := by
  rw [compileValue, fault?]
  rcases read_outcome table.connectives raw with
    ⟨left, failure, hname, houtcome, hfirst⟩ | ⟨filter, houtcome, hfields, hsame, hnamed⟩
  · rw [houtcome, hfirst]
    change some failure = if namesNoField left then _ else _
    cases hleft : namesNoField left with
    | true =>
        rw [fieldName_of_nameless hleft] at hname
        rw [if_pos rfl, Except.error.inj hname]
    | false => rw [if_neg Bool.false_ne_true, fieldName_eq_misuse hleft hname]
  · have hcompiled := compile_outcome table filter hnamed negated
    rw [houtcome, hfields, ← hsame, Compiled.failure?]
    dsimp only
    generalize (filter.compile table negated).outcome = outcome at hcompiled ⊢
    cases hcompiled with
    | compiled tree hknown => rw [hknown, Option.map_none]
    | failed operator hfirst => rw [hfirst, Option.map_some]

/-- Some reachable comparison has a left-hand side that names no field. -/
def HasNamelessComparison (connectives : List String) (raw : Value) : Prop :=
  ∃ node left, Reachable connectives raw node ∧
    comparedField? connectives node = some left ∧ namesNoField left = true

/-- Some reachable comparison or connective has an operator that is no key. -/
def HasUnknownOperator (table : OperatorTable) (raw : Value) : Prop :=
  ∃ node operator, Reachable table.connectives raw node ∧
    operator? node = some operator ∧ table.hasKey operator = false

/-- The first reachable left-hand side that is no field name could name one, but it is an
integer with too many digits. -/
def StopsAtField (connectives : List String) (raw : Value) : Prop :=
  ∃ left, (comparedFields connectives raw).find? isUnnamed = some left ∧
    namesNoField left = false

/-- The first reachable operator that is no key cannot be reported, for the same reason. -/
def StopsAtOperator (table : OperatorTable) (raw : Value) : Prop :=
  ∃ operator, firstUnknown? table (usedOperators table.connectives raw) = some operator ∧
    operator.isPrintable = false

theorem hasNamelessComparison_iff {raw : Value} :
    HasNamelessComparison connectives raw ↔
      ∃ left ∈ comparedFields connectives raw, namesNoField left = true := by
  simp only [HasNamelessComparison, comparedFields, List.mem_filterMap, mem_visited_iff]
  constructor
  · rintro ⟨node, left, hnode, hleft, hnameless⟩
    exact ⟨left, ⟨node, hnode, hleft⟩, hnameless⟩
  · rintro ⟨left, ⟨node, hnode, hleft⟩, hnameless⟩
    exact ⟨node, left, hnode, hleft, hnameless⟩

theorem hasUnknownOperator_iff {table : OperatorTable} {raw : Value} :
    HasUnknownOperator table raw ↔
      ∃ operator, firstUnknown? table (usedOperators table.connectives raw) = some operator := by
  rw [firstUnknown?, ← Option.isSome_iff_exists, List.find?_isSome]
  simp only [HasUnknownOperator, usedOperators, List.mem_filterMap, mem_visited_iff,
    Bool.not_eq_true']
  constructor
  · rintro ⟨node, operator, hnode, hoperator, hunknown⟩
    exact ⟨operator, ⟨node, hnode, hoperator⟩, hunknown⟩
  · rintro ⟨operator, ⟨node, hnode, hoperator⟩, hunknown⟩
    exact ⟨node, operator, hnode, hoperator, hunknown⟩

/-- The first left-hand side that is no field name decides how reading fails. -/
theorem exists_nameless_first_iff {raw : Value} :
    (∃ left, (comparedFields connectives raw).find? isUnnamed = some left ∧
        namesNoField left = true) ↔
      HasNamelessComparison connectives raw ∧ ¬ StopsAtField connectives raw := by
  rw [hasNamelessComparison_iff, StopsAtField]
  constructor
  · rintro ⟨left, hfirst, hleft⟩
    refine ⟨⟨left, List.mem_of_find?_eq_some hfirst, hleft⟩, ?_⟩
    rintro ⟨other, hother, hscalar⟩
    obtain rfl := Option.some.inj (hfirst.symm.trans hother)
    rw [hleft] at hscalar
    contradiction
  · rintro ⟨⟨left, hmember, hleft⟩, hnever⟩
    have hfound : ((comparedFields connectives raw).find? isUnnamed).isSome :=
      List.find?_isSome.mpr ⟨left, hmember, by rw [isUnnamed, hleft, Bool.true_or]⟩
    obtain ⟨first, hfirst⟩ := Option.isSome_iff_exists.mp hfound
    exact ⟨first, hfirst, Bool.of_not_eq_false fun hscalar => hnever ⟨first, hfirst, hscalar⟩⟩

theorem find?_isUnnamed_eq_none_iff {raw : Value} :
    (comparedFields connectives raw).find? isUnnamed = none ↔
      ¬ HasNamelessComparison connectives raw ∧ ¬ StopsAtField connectives raw := by
  constructor
  · intro hfields
    refine ⟨fun hnameless => ?_, fun ⟨left, hfirst, _⟩ => ?_⟩
    · obtain ⟨left, hmember, hleft⟩ := hasNamelessComparison_iff.mp hnameless
      have hnamed := List.find?_eq_none.mp hfields left hmember
      rw [isUnnamed, hleft, Bool.true_or] at hnamed
      contradiction
    · rw [hfields] at hfirst
      contradiction
  · rintro ⟨hnamed, hnever⟩
    cases hfirst : (comparedFields connectives raw).find? isUnnamed with
    | none => rfl
    | some left =>
        cases hleft : namesNoField left with
        | true => exact absurd (exists_nameless_first_iff.mp ⟨left, hfirst, hleft⟩).1 hnamed
        | false => exact absurd ⟨left, hfirst, hleft⟩ hnever

/-- The first left-hand side without a name is the first sequence or object, if it is one. -/
theorem find?_namesNoField {raw left : Value}
    (hfirst : (comparedFields connectives raw).find? isUnnamed = some left)
    (hleft : namesNoField left = true) :
    (comparedFields connectives raw).find? namesNoField = some left := by
  obtain ⟨-, before, after, hfields, hbefore⟩ := List.find?_eq_some_iff_append.mp hfirst
  refine List.find?_eq_some_iff_append.mpr
    ⟨hleft, before, after, hfields, fun earlier hearlier => ?_⟩
  have hnamed := hbefore earlier hearlier
  simp only [isUnnamed, Bool.not_or, Bool.and_eq_true] at hnamed
  exact hnamed.1

/-! ## Faults -/

theorem fault?_eq_noFieldName_iff {table : OperatorTable} {raw left : Value} :
    fault? table raw = some (.noFieldName left) ↔
      (comparedFields table.connectives raw).find? isUnnamed = some left ∧
        namesNoField left = true := by
  rw [fault?]
  cases (comparedFields table.connectives raw).find? isUnnamed with
  | some first =>
      cases hfirst : namesNoField first with
      | true =>
          simp only [hfirst, if_true, Option.some_inj, CompileError.noFieldName.injEq]
          exact ⟨fun hsame => ⟨hsame, hsame ▸ hfirst⟩, And.left⟩
      | false =>
          simp only [hfirst, Bool.false_eq_true, if_false, Option.some_inj, reduceCtorEq, false_iff]
          rintro ⟨rfl, hleft⟩
          rw [hfirst] at hleft
          contradiction
  | none =>
      simp only [Option.map_eq_some_iff, reduceCtorEq, false_and, iff_false, not_exists, not_and]
      intro operator _
      rw [ofOperator_eq]
      split <;> simp

theorem fault?_eq_unknownOperator_iff {table : OperatorTable} {raw operator : Value} :
    fault? table raw = some (.unknownOperator operator) ↔
      (comparedFields table.connectives raw).find? isUnnamed = none ∧
        firstUnknown? table (usedOperators table.connectives raw) = some operator ∧
        operator.isPrintable = true := by
  rw [fault?]
  cases (comparedFields table.connectives raw).find? isUnnamed with
  | some first => cases hfirst : namesNoField first <;> simp [hfirst]
  | none =>
      simp only [Option.map_eq_some_iff, true_and]
      constructor
      · rintro ⟨found, hfound, hoperator⟩
        rw [ofOperator_eq] at hoperator
        split at hoperator
        · next hprintable =>
            obtain rfl := CompileError.unknownOperator.inj hoperator
            exact ⟨hfound, hprintable⟩
        · contradiction
      · rintro ⟨hfirst, hprintable⟩
        exact ⟨operator, hfirst, by rw [ofOperator_eq, if_pos hprintable]⟩

theorem exists_fault?_eq_misuse_iff {table : OperatorTable} {raw : Value} :
    (∃ cause, fault? table raw = some (.misuse cause)) ↔
      StopsAtField table.connectives raw ∨
        (comparedFields table.connectives raw).find? isUnnamed = none ∧
          StopsAtOperator table raw := by
  rw [fault?, StopsAtField, StopsAtOperator]
  cases (comparedFields table.connectives raw).find? isUnnamed with
  | some first => cases hfirst : namesNoField first <;> simp [hfirst]
  | none =>
      cases firstUnknown? table (usedOperators table.connectives raw) with
      | none => simp
      | some operator =>
          rw [Option.map_some, ofOperator_eq]
          cases hoperator : operator.isPrintable <;> simp [hoperator]

theorem fault?_eq_none_iff {table : OperatorTable} {raw : Value} :
    fault? table raw = none ↔
      (comparedFields table.connectives raw).find? isUnnamed = none ∧
        ¬ HasUnknownOperator table raw := by
  rw [fault?, hasUnknownOperator_iff]
  cases (comparedFields table.connectives raw).find? isUnnamed with
  | some first => cases hfirst : namesNoField first <;> simp [hfirst]
  | none => simp [Option.eq_none_iff_forall_ne_some]

theorem fault?_cases {table : OperatorTable} {raw : Value} {failure : CompileError}
    (hfault : fault? table raw = some failure) :
    (∃ left, failure = .noFieldName left) ∨ (∃ operator, failure = .unknownOperator operator) ∨
      failure = .misuse tooManyDigits := by
  rw [fault?] at hfault
  split at hfault
  · split at hfault <;> obtain rfl := Option.some.inj hfault <;> simp
  · obtain ⟨operator, -, rfl⟩ := Option.map_eq_some_iff.mp hfault
    rw [ofOperator_eq]
    split <;> simp

/-! ## Reports -/

/-- The report of a comparison without a field name; its context shows the
left-hand side. -/
def namelessReport (left : Value) : Report :=
  .invalidQuery "Left-hand side of a comparison must be a field name" (.record [("field", left)])

theorem namelessReport_injective : Function.Injective namelessReport := by
  intro left right heq
  have hcontext := congrArg Report.context heq
  simpa [namelessReport, Report.invalidQuery, Report.general, Value.record, Value.isNull]
    using hcontext

theorem unknownOperator_eq_ok {operator : Value} {report : Report}
    (hreport : Report.unknownOperator operator = .ok report) :
    report.family = .unknownOperator ∧ report.detail = .operator operator := by
  obtain ⟨shown, -, heq⟩ := Outcome.bind_eq_ok_iff.mp hreport
  obtain rfl := Except.ok.inj heq
  exact ⟨rfl, rfl⟩

theorem report?_unknownOperator_iff {operator : Value} {report : Report} :
    (CompileError.unknownOperator operator).report? = some report ↔
      Report.unknownOperator operator = .ok report := by
  rw [CompileError.report?]
  cases Report.unknownOperator operator <;> simp [Except.toOption]

theorem report?_eq_nameless_iff {table : OperatorTable} {raw left : Value} :
    (fault? table raw).bind CompileError.report? = some (namelessReport left) ↔
      fault? table raw = some (.noFieldName left) := by
  constructor
  · intro hreport
    obtain ⟨failure, hfault, hreport⟩ := Option.bind_eq_some_iff.mp hreport
    rcases fault?_cases hfault with ⟨other, rfl⟩ | ⟨operator, rfl⟩ | rfl
    · rw [hfault, namelessReport_injective (Option.some.inj hreport)]
    · have hfamily := (unknownOperator_eq_ok (report?_unknownOperator_iff.mp hreport)).1
      contradiction
    · contradiction
  · intro hfault
    rw [hfault]
    rfl

theorem report?_eq_unknownOperator_iff {table : OperatorTable} {raw operator : Value}
    {report : Report} (hunknown : Report.unknownOperator operator = .ok report) :
    (fault? table raw).bind CompileError.report? = some report ↔
      fault? table raw = some (.unknownOperator operator) := by
  obtain ⟨hfamily, hdetail⟩ := unknownOperator_eq_ok hunknown
  constructor
  · intro hreport
    obtain ⟨failure, hfault, hreport⟩ := Option.bind_eq_some_iff.mp hreport
    rcases fault?_cases hfault with ⟨left, rfl⟩ | ⟨other, rfl⟩ | rfl
    · obtain rfl := Option.some.inj hreport
      contradiction
    · have hother := (unknownOperator_eq_ok (report?_unknownOperator_iff.mp hreport)).2
      rw [hfault, ReportDetail.operator.inj (hother.symm.trans hdetail)]
    · contradiction
  · intro hfault
    rw [hfault]
    exact report?_unknownOperator_iff.mpr hunknown

theorem exists_report_iff {operator : Value} :
    (∃ report, Report.unknownOperator operator = .ok report) ↔ operator.isPrintable = true := by
  rw [Report.unknownOperator, Value.quoted, Value.printed]
  cases operator.isPrintable <;> simp [pure, Except.pure, bind, Except.bind]

/-- Compiling a raw filter reports a missing field name exactly when some reachable
comparison has a sequence or an object on its left, and shows the first one.
Otherwise it reports an unknown operator exactly when some reachable node has an
operator that is no key of the table, and carries the first one.  Otherwise it
succeeds.  Where the value to be named or reported is an integer with too many digits
for a text, it fails with that instead.  The polarity has no part in any of this. -/
theorem compileValue_report_iff (table : OperatorTable) (raw : Value) (negated : Bool) :
    ((∃ left, (compileValue table negated raw).report? = some (namelessReport left)) ↔
        HasNamelessComparison table.connectives raw ∧ ¬ StopsAtField table.connectives raw) ∧
      (∀ left, (compileValue table negated raw).report? = some (namelessReport left) →
        (comparedFields table.connectives raw).find? namesNoField = some left) ∧
      ((∃ operator report, Report.unknownOperator operator = .ok report ∧
          (compileValue table negated raw).report? = some report) ↔
        ¬ HasNamelessComparison table.connectives raw ∧ ¬ StopsAtField table.connectives raw ∧
          HasUnknownOperator table raw ∧ ¬ StopsAtOperator table raw) ∧
      (∀ operator report, Report.unknownOperator operator = .ok report →
        (compileValue table negated raw).report? = some report →
          firstUnknown? table (usedOperators table.connectives raw) = some operator) ∧
      ((∃ tree, (compileValue table negated raw).outcome = .ok tree) ↔
        ¬ HasNamelessComparison table.connectives raw ∧ ¬ StopsAtField table.connectives raw ∧
          ¬ HasUnknownOperator table raw) ∧
      ((∃ cause, (compileValue table negated raw).outcome = .error (.misuse cause)) ↔
        StopsAtField table.connectives raw ∨
          ¬ HasNamelessComparison table.connectives raw ∧ StopsAtOperator table raw) ∧
      ∀ other, (compileValue table other raw).failure? =
        (compileValue table negated raw).failure? := by
  have hfailure := compileValue_failure?_eq table raw
  have hfields : (comparedFields table.connectives raw).find? isUnnamed = none ↔ _ :=
    find?_isUnnamed_eq_none_iff
  have hnameless (left : Value) : (compileValue table negated raw).report? =
      some (namelessReport left) ↔ (comparedFields table.connectives raw).find? isUnnamed =
        some left ∧ namesNoField left = true := by
    rw [Compiled.report?, hfailure, report?_eq_nameless_iff, fault?_eq_noFieldName_iff]
  have hunknown {operator : Value} {report : Report}
      (hreport : Report.unknownOperator operator = .ok report) :
      (compileValue table negated raw).report? = some report ↔
        (comparedFields table.connectives raw).find? isUnnamed = none ∧
          firstUnknown? table (usedOperators table.connectives raw) = some operator ∧
          operator.isPrintable = true := by
    rw [Compiled.report?, hfailure, report?_eq_unknownOperator_iff hreport,
      fault?_eq_unknownOperator_iff]
  refine ⟨?_, ?_, ?_, ?_, ?_, ?_, fun other => (hfailure other).trans (hfailure negated).symm⟩
  · simp only [hnameless]
    exact exists_nameless_first_iff
  · intro left hreport
    obtain ⟨hfirst, hleft⟩ := (hnameless left).mp hreport
    exact find?_namesNoField hfirst hleft
  · rw [hasUnknownOperator_iff, ← and_assoc, ← hfields]
    constructor
    · rintro ⟨operator, report, hoperator, hreport⟩
      obtain ⟨hnamed, hfirst, hprintable⟩ := (hunknown hoperator).mp hreport
      refine ⟨hnamed, ⟨operator, hfirst⟩, ?_⟩
      rintro ⟨other, hother, htextless⟩
      obtain rfl := Option.some.inj (hfirst.symm.trans hother)
      rw [hprintable] at htextless
      contradiction
    · rintro ⟨hnamed, ⟨operator, hfirst⟩, hnever⟩
      have hprintable : operator.isPrintable = true :=
        Bool.of_not_eq_false fun htextless => hnever ⟨operator, hfirst, htextless⟩
      obtain ⟨report, hoperator⟩ := exists_report_iff.mpr hprintable
      exact ⟨operator, report, hoperator, (hunknown hoperator).mpr ⟨hnamed, hfirst, hprintable⟩⟩
  · intro operator report hoperator hreport
    exact ((hunknown hoperator).mp hreport).2.1
  · rw [Compiled.exists_outcome_eq_ok_iff, hfailure, fault?_eq_none_iff, hfields, and_assoc]
  · simp only [Compiled.outcome_eq_error_iff, hfailure]
    rw [exists_fault?_eq_misuse_iff, hfields]
    tauto

/-- An unknown operator on the left, and a list for a field name further right. -/
example :
    (compileValue .search false (.list
      [.list [.text "age", .text "like", .int 1], .text "and",
        .list [.list [], .text "=", .int 2]])).report? = some (namelessReport (.list [])) := rfl

end Filter

end GridSource
