import GridSource.Query.Compile

/-!
# Steps of compiling

Compiling a filter is a run of a writer with errors.  These lemmas take such a
run apart once: when a sequence of two steps succeeds or fails, and what one node
of a filter compiles to in terms of its parts.  Nothing after this file unfolds
the compiler.
-/

namespace GridSource

namespace Compiled

variable {α β : Type}

theorem bind_of_ok {first : Compiled α} {value : α} (next : α → Compiled β)
    (hfirst : first.outcome = .ok value) :
    first >>= next =
      ⟨first.warnings ++ (next value).warnings, (next value).outcome⟩ := by
  change first.andThen next = _
  rw [andThen, hfirst]

theorem bind_of_error {first : Compiled α} {failure : CompileError}
    (next : α → Compiled β) (hfirst : first.outcome = .error failure) :
    first >>= next = ⟨first.warnings, .error failure⟩ := by
  change first.andThen next = _
  rw [andThen, hfirst]

theorem outcome_bind (first : Compiled α) (next : α → Compiled β) :
    (first >>= next).outcome = first.outcome.bind fun value => (next value).outcome := by
  cases hfirst : first.outcome with
  | ok value => rw [bind_of_ok next hfirst]; rfl
  | error failure => rw [bind_of_error next hfirst]; rfl

theorem outcome_bind_eq_ok_iff {first : Compiled α} {next : α → Compiled β}
    {result : β} :
    (first >>= next).outcome = .ok result ↔
      ∃ value, first.outcome = .ok value ∧ (next value).outcome = .ok result := by
  cases hfirst : first.outcome with
  | ok value => simp [bind_of_ok next hfirst]
  | error failure => simp [bind_of_error next hfirst]

end Compiled

theorem OperatorTable.resolve?_eq_some_iff {table : OperatorTable}
    {operator : Value} {negated : Bool} {token : String} :
    table.resolve? operator negated = some token ↔
      ∃ pair, table.lookup? operator = some pair ∧ pair.pick negated = token := by
  simp [resolve?]

theorem OperatorTable.resolve_eq_ok_iff {table : OperatorTable}
    {operator : Value} {negated : Bool} {token : String} :
    table.resolve operator negated = .ok token ↔
      ∃ pair, table.lookup? operator = some pair ∧ pair.pick negated = token := by
  rw [← resolve?_eq_some_iff, resolve]
  cases table.resolve? operator negated <;> simp

namespace Filter

variable {table : OperatorTable} {negated : Bool}

theorem singleMember_eq_ok_iff {key value tree : Value} :
    singleMember key value = .ok tree ↔
      key.hashable = true ∧ tree = .object [(key, value)] := by
  rw [singleMember]
  cases key.hashable <;> simp [eq_comm]

@[simp]
theorem outcome_noteLossy (field operator : Value) (token : String) :
    (noteLossy table negated field operator token).outcome = .ok () := by
  rw [noteLossy]
  split <;> rfl

/-- The lossy negation that one comparison notes, if it notes one. -/
theorem warnings_noteLossy (field operator : Value) (token : String) :
    (noteLossy table negated field operator token).warnings =
      if table.isLossy operator negated then [⟨operator, field, token⟩] else [] := by
  rw [noteLossy]
  split <;> rfl

theorem outcome_compile_connective (operator : Value) (left right : Filter) :
    ((connective operator left right).compile table negated).outcome =
      (table.resolve operator negated).bind fun token =>
        (left.compile table negated).outcome.bind fun first =>
          (right.compile table negated).outcome.map fun second =>
            .object [(.text token, .list [first, second])] := by
  simp only [compile, Compiled.outcome_bind, Compiled.ofExcept]
  rfl

theorem outcome_compile_comparison (field operator : Value) (operand : Filter) :
    ((comparison field operator operand).compile table negated).outcome =
      (table.resolve operator negated).bind fun token =>
        (operand.compile table negated).outcome.bind fun inner =>
          singleMember field (.object [(.text token, inner)]) := by
  simp only [compile, Compiled.outcome_bind, Compiled.ofExcept, outcome_noteLossy]
  rfl

theorem compile_connective_ok_iff {operator : Value} {left right : Filter}
    {tree : Value} :
    ((connective operator left right).compile table negated).outcome = .ok tree ↔
      ∃ pair first second, table.lookup? operator = some pair ∧
        (left.compile table negated).outcome = .ok first ∧
        (right.compile table negated).outcome = .ok second ∧
        tree = .object [(.text (pair.pick negated), .list [first, second])] := by
  simp only [compile, Compiled.outcome_bind_eq_ok_iff, Compiled.ofExcept,
    OperatorTable.resolve_eq_ok_iff]
  constructor
  · rintro ⟨token, ⟨pair, hpair, rfl⟩, first, hfirst, second, hsecond, htree⟩
    exact ⟨pair, first, second, hpair, hfirst, hsecond, (Except.ok.inj htree).symm⟩
  · rintro ⟨pair, first, second, hpair, hfirst, hsecond, rfl⟩
    exact ⟨_, ⟨pair, hpair, rfl⟩, first, hfirst, second, hsecond, rfl⟩

theorem compile_comparison_ok_iff {field operator : Value} {operand : Filter}
    {tree : Value} :
    ((comparison field operator operand).compile table negated).outcome = .ok tree ↔
      ∃ pair inner, table.lookup? operator = some pair ∧ field.hashable = true ∧
        (operand.compile table negated).outcome = .ok inner ∧
        tree = .object [(field, .object [(.text (pair.pick negated), inner)])] := by
  simp only [compile, Compiled.outcome_bind_eq_ok_iff, Compiled.ofExcept,
    OperatorTable.resolve_eq_ok_iff, outcome_noteLossy, singleMember_eq_ok_iff]
  constructor
  · rintro ⟨token, ⟨pair, hpair, rfl⟩, _, _, inner, hinner, hfield, htree⟩
    exact ⟨pair, inner, hpair, hfield, hinner, htree⟩
  · rintro ⟨pair, inner, hpair, hfield, hinner, htree⟩
    exact ⟨_, ⟨pair, hpair, rfl⟩, (), trivial, inner, hinner, hfield, htree⟩

/-- A connective whose operator is known and whose sides compile. -/
theorem compile_connective_of_ok {operator first second : Value} {pair : TokenPair}
    {left right : Filter} (hpair : table.lookup? operator = some pair)
    (hleft : (left.compile table negated).outcome = .ok first)
    (hright : (right.compile table negated).outcome = .ok second) :
    (connective operator left right).compile table negated =
      ⟨(left.compile table negated).warnings ++ (right.compile table negated).warnings,
        .ok (.object [(.text (pair.pick negated), .list [first, second])])⟩ := by
  have htoken : table.resolve operator negated = .ok (pair.pick negated) :=
    OperatorTable.resolve_eq_ok_iff.mpr ⟨pair, hpair, rfl⟩
  rw [compile, htoken, Compiled.bind_of_ok _ rfl, Compiled.bind_of_ok _ hleft,
    Compiled.bind_of_ok _ hright]
  simp only [Compiled.ofExcept, List.nil_append]
  exact congrArg (Compiled.mk · _) (by simp [pure, Compiled.ok])

/-- A comparison whose operator is known and whose operand compiles. -/
theorem compile_comparison_of_ok {operator inner : Value} {pair : TokenPair} {name : String}
    {operand : Filter} (hpair : table.lookup? operator = some pair)
    (hoperand : (operand.compile table negated).outcome = .ok inner) :
    (comparison (.text name) operator operand).compile table negated =
      ⟨(if table.isLossy operator negated then
            [⟨operator, .text name, pair.pick negated⟩] else []) ++
          (operand.compile table negated).warnings,
        .ok (.object [(.text name, .object [(.text (pair.pick negated), inner)])])⟩ := by
  have htoken : table.resolve operator negated = .ok (pair.pick negated) :=
    OperatorTable.resolve_eq_ok_iff.mpr ⟨pair, hpair, rfl⟩
  rw [compile, htoken, Compiled.bind_of_ok _ rfl,
    Compiled.bind_of_ok _ (outcome_noteLossy _ _ _), Compiled.bind_of_ok _ hoperand,
    warnings_noteLossy]
  simp [Compiled.ofExcept, singleMember, Value.hashable]

end Filter

end GridSource
