import GridSource.Proofs.Filter.Failure
import GridSource.Proofs.Outcome

/-!
# Duality

The dual of a raw filter swaps `and` and `or`, takes the complement of every comparison and
spells out a pair as a disjunction.  The main result is that compiling the dual under the
opposite polarity is compiling the filter: the tokens of an operator are those of its
complement the other way round, and negations stand in the same places.  Only the two
lossy operators have no complement.
-/

namespace GridSource.Filter

/-- The operator with the opposite meaning; an operator without one stays as it is. -/
def complementName : String → String
  | "and" => "or"
  | "or" => "and"
  | "=" => "<>"
  | "<>" => "="
  | ">" => "<="
  | "<=" => ">"
  | ">=" => "<"
  | "<" => ">="
  | "contains" => "notcontains"
  | "notcontains" => "contains"
  | name => name

def complement : Value → Value
  | .text name => .text (complementName name)
  | operator => operator

mutual

/-- The raw filter with the opposite meaning. -/
def dualValue : Value → Value
  | .list items => .list (dualItems items)
  | .tuple items => .tuple (dualItems items)
  | value => value

def dualItems : List Value → List Value
  | [wrapped] => [dualValue wrapped]
  | [first, second] =>
      if isNegationMark first then [first, dualValue second]
      else [dualValue first, .text "or", dualValue second]
  | [left, operator, right] =>
      if isConnective OperatorTable.search.connectives operator then
        [dualValue left, complement operator, dualValue right]
      else [left, complement operator, dualValue right]
  | items => items

end

/-- The filter with the opposite meaning. -/
def dual : Filter → Filter
  | .negation operand => .negation operand.dual
  | .connective operator left right => .connective (complement operator) left.dual right.dual
  | .comparison field operator operand => .comparison field (complement operator) operand.dual
  | filter => filter

/-- Negating an operator loses nothing: it is none of the two without a complement. -/
def IsExact (operator : Value) : Prop :=
  operator ≠ .text "startswith" ∧ operator ≠ .text "endswith"

/-- The tokens of an operator are those of its complement the other way round. -/
theorem resolve_complement {operator : Value} (hoperator : IsExact operator)
    (negated : Bool) :
    OperatorTable.search.resolve (complement operator) (!negated) =
      OperatorTable.search.resolve operator negated := by
  cases operator with
  | text name =>
      simp only [IsExact, ne_eq, Value.text.injEq] at hoperator
      rw [complement]
      unfold complementName
      split
      case h_11 =>
        have hkey : OperatorTable.search.hasKey (.text name) = false := by
          simp_all [OperatorTable.hasKey, OperatorTable.names, OperatorTable.search]
        rw [OperatorTable.resolve_of_not_hasKey _ hkey, OperatorTable.resolve_of_not_hasKey _ hkey]
      all_goals cases negated <;> rfl
  | _ => rfl

theorem isLossy_of_isExact {operator : Value} (hoperator : IsExact operator)
    (negated : Bool) : OperatorTable.search.isLossy operator negated = false := by
  cases operator with
  | text name =>
      simp only [IsExact, ne_eq, Value.text.injEq] at hoperator
      simp [OperatorTable.isLossy, OperatorTable.search, hoperator]
  | _ => simp [OperatorTable.isLossy]

theorem isExact_complement {operator : Value} (hoperator : IsExact operator) :
    IsExact (complement operator) := by
  cases operator with
  | text name =>
      rw [complement]
      unfold complementName
      split
      case h_11 => exact hoperator
      all_goals simp [IsExact]
  | _ => exact hoperator

@[simp]
theorem isConnective_complement (operator : Value) :
    isConnective OperatorTable.search.connectives (complement operator) =
      isConnective OperatorTable.search.connectives operator := by
  cases operator with
  | text name =>
      rw [complement]
      unfold complementName
      split
      case h_11 => rfl
      all_goals decide
  | _ => rfl

/-! ## Reading -/

@[simp]
theorem sequence?_dualValue (root : Value) :
    (dualValue root).sequence? = root.sequence?.map dualItems := by
  cases root <;> simp [dualValue, Value.sequence?]

/-- The dual of a raw filter reads as the dual of the filter, and fails to read at the same
left-hand side. -/
theorem ofValue_dualValue (raw : Value) :
    ofValue OperatorTable.search.connectives (dualValue raw) =
      (ofValue OperatorTable.search.connectives raw).map dual := by
  induction raw using parts_induction OperatorTable.search.connectives with
  | step root ih =>
    have hdual := sequence?_dualValue root
    cases nodeKind OperatorTable.search.connectives root with
    | leaf hnode hparts hread =>
        have hsame : dualValue root = root := by
          cases root <;> simp_all [dualValue, Value.sequence?]
        rw [hsame, hread]
        rfl
    | wrapped inner hnode hparts hread =>
        rw [hnode] at hdual
        rw [hread, ofValue_of_sequence hdual]
        simp only [dualItems, ofItems]
        exact ih inner (by simp [hparts])
    | negation mark operand hnode hmark hparts hread =>
        rw [hnode] at hdual
        rw [hread, ofValue_of_sequence hdual]
        simp only [dualItems, ofItems, hmark, if_true, ih operand (by simp [hparts])]
        cases ofValue OperatorTable.search.connectives operand <;> rfl
    | pair left right hnode hmark hparts hread =>
        rw [hnode] at hdual
        have hor : isConnective OperatorTable.search.connectives (.text "or") = true := by decide
        rw [hread, ofValue_of_sequence hdual]
        simp only [dualItems, ofItems, hmark, hor, Bool.false_eq_true, if_false, if_true,
          ih left (by simp [hparts]), ih right (by simp [hparts])]
        cases ofValue OperatorTable.search.connectives left with
        | error found => rfl
        | ok first => cases ofValue OperatorTable.search.connectives right <;> rfl
    | connective left operator right hnode hoperator hparts hread =>
        rw [hnode] at hdual
        have hdualOperator := (isConnective_complement operator).trans hoperator
        rw [hread, ofValue_of_sequence hdual]
        simp only [dualItems, ofItems, hoperator, hdualOperator, if_true,
          ih left (by simp [hparts]), ih right (by simp [hparts])]
        cases ofValue OperatorTable.search.connectives left with
        | error found => rfl
        | ok first => cases ofValue OperatorTable.search.connectives right <;> rfl
    | comparison left operator right hnode hoperator hparts hread =>
        rw [hnode] at hdual
        have hdualOperator := (isConnective_complement operator).trans hoperator
        rw [hread, ofValue_of_sequence hdual]
        simp only [dualItems, ofItems, hoperator, hdualOperator, Bool.false_eq_true, if_false,
          ih right (by simp [hparts])]
        cases fieldName left with
        | error failure => rfl
        | ok name => cases ofValue OperatorTable.search.connectives right <;> rfl
    | dropped items hnode hitems hparts hread =>
        rw [hnode] at hdual
        rw [hread, ofValue_of_sequence hdual]
        rcases hitems with rfl | ⟨first, second, third, fourth, rest, rfl⟩ <;>
          simp [dualItems, ofItems, Except.map, dual]

/-! ## Compiling -/

theorem operators_of_ofValue {connectives : List String} {raw : Value} {filter : Filter}
    (hread : ofValue connectives raw = .ok filter) :
    filter.operators = usedOperators connectives raw := by
  rcases read_outcome connectives raw with ⟨left, failure, -, hfailed, -⟩ |
    ⟨found, hfound, -, hused, -⟩
  · rw [hread] at hfailed
    contradiction
  · rw [hread] at hfound
    rwa [Except.ok.inj hfound]

theorem compile_dual {filter : Filter}
    (hoperators : ∀ operator ∈ filter.operators, IsExact operator) (negated : Bool) :
    filter.dual.compile .search (!negated) = filter.compile .search negated := by
  induction filter generalizing negated with
  | absent => rfl
  | terminal value => rfl
  | negation operand ih => exact ih hoperators (!negated)
  | connective operator left right ihleft ihright =>
      rw [operators, List.forall_mem_cons, List.forall_mem_append] at hoperators
      obtain ⟨hoperator, hleft, hright⟩ := hoperators
      rw [dual, compile, compile, resolve_complement hoperator, ihleft hleft, ihright hright]
  | comparison field operator operand ih =>
      rw [operators, List.forall_mem_cons] at hoperators
      obtain ⟨hoperator, hoperand⟩ := hoperators
      have hdual := isLossy_of_isExact (isExact_complement hoperator)
      rw [dual, compile, compile, resolve_complement hoperator, ih hoperand]
      simp only [noteLossy, hdual, isLossy_of_isExact hoperator, Bool.false_eq_true, if_false]
  | stray value => rfl

/-- Where every reachable operator is exact, compiling a raw filter is compiling its
dual under the opposite polarity: the same search tree or the same failure, and no lossy
negation. -/
theorem compileValue_dualValue (raw : Value)
    (hoperators : ∀ operator ∈ usedOperators OperatorTable.search.connectives raw,
      IsExact operator) (negated : Bool) :
    compileValue .search (!negated) (dualValue raw) = compileValue .search negated raw := by
  rw [compileValue, compileValue, ofValue_dualValue]
  cases hread : ofValue OperatorTable.search.connectives raw with
  | error left => rfl
  | ok filter =>
      rw [← operators_of_ofValue hread] at hoperators
      exact compile_dual hoperators negated

/-- Not (both that the age is over 18 and that the part is not a part with an id up to 3 or its
name has an x). -/
def negatedPair : Value :=
  .list [.text "!", .tuple [.list [.text "age", .text ">", .int 18],
    .list [.list [.text "part", .text "<>", .list [.text "id", .text "<=", .int 3]], .text "or",
      .list [.list [.text "name", .text "contains", .text "x"]]]]]

theorem compileValue_dualValue_pair :
    (∀ operator ∈ usedOperators OperatorTable.search.connectives negatedPair, IsExact operator) ∧
      dualValue negatedPair =
        .list [.text "!", .tuple [.list [.text "age", .text "<=", .int 18], .text "or",
          .list [.list [.text "part", .text "=", .list [.text "id", .text ">", .int 3]],
            .text "and", .list [.list [.text "name", .text "notcontains", .text "x"]]]]] ∧
      compileValue .search true (dualValue negatedPair) = .ok (.record [("$or", .list
        [.record [("age", .record [("$lte", .int 18)])], .record [("$and", .list
          [.record [("part", .record [("$eq", .record [("id", .record [("$gt", .int 3)])])])],
            .record [("name", .record [("$excl", .text "x")])]])]])]) := by
  have hexact : ∀ operator ∈ usedOperators OperatorTable.search.connectives negatedPair,
      IsExact operator := by
    have hread : ofValue OperatorTable.search.connectives negatedPair = .ok _ := rfl
    rw [← operators_of_ofValue hread]
    simp [operators, IsExact, impliedConnective]
  refine ⟨hexact, rfl, ?_⟩
  rw [show true = !false from rfl, compileValue_dualValue negatedPair hexact false]
  rfl

end GridSource.Filter
