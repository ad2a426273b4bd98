import GridSource.Proofs.Filter.Steps
import Mathlib.Algebra.Ring.Parity

/-!
# Polarity

A search tree is a filter without its negations.  The skeleton of a filter keeps
its connectives, comparisons, terminals and dropped nodes and, at every operator,
the number of negations around it.  The main result is that a compiled filter is
its skeleton with one token at each operator: the positive one where the number
of negations, counting the one the compiler starts with, is even, the negated one
where it is odd.  Compiling under the opposite polarity picks the other token of
the same pair everywhere and changes nothing else.
-/

namespace GridSource

/-- An operator of a filter and the number of negations around it. -/
structure OperatorSite where
  operator : Value
  negations : Nat

/-- The shape of a filter without its negations. -/
inductive Skeleton where
  | absent
  | terminal (value : Value)
  | connective (site : OperatorSite) (left right : Skeleton)
  | comparison (field : Value) (site : OperatorSite) (operand : Skeleton)

namespace Skeleton

/-- Every operator of the shape, a node before its parts. -/
def sites : Skeleton → List OperatorSite
  | .absent | .terminal _ => []
  | .connective site left right => site :: (left.sites ++ right.sites)
  | .comparison _ site operand => site :: operand.sites

/-- The search tree of a shape with a token at every operator. -/
def write (token : OperatorSite → String) : Skeleton → Value
  | .absent => .null
  | .terminal value => value
  | .connective site left right =>
      .object [(.text (token site), .list [left.write token, right.write token])]
  | .comparison field site operand =>
      .object [(field, .object [(.text (token site), operand.write token)])]

end Skeleton

/-- The shape of a filter below some negations; what is no filter has none. -/
def Filter.skeleton? (negations : Nat) : Filter → Option Skeleton
  | .absent => some .absent
  | .terminal value => some (.terminal value)
  | .negation operand => operand.skeleton? (negations + 1)
  | .connective operator left right =>
      (left.skeleton? negations).bind fun first =>
        (right.skeleton? negations).map fun second =>
          .connective ⟨operator, negations⟩ first second
  | .comparison field operator operand =>
      (operand.skeleton? negations).map fun inner =>
        .comparison field ⟨operator, negations⟩ inner
  | .stray _ => none

/-- The token of an operator when the compiler starts below some negations: the
first member of its pair where there is an even number of them in all, the second
where there is an odd number. -/
def OperatorTable.tokenAt (table : OperatorTable) (start : Nat) (site : OperatorSite) : String :=
  match table.lookup? site.operator with
  | some pair => if Even (site.negations + start) then pair.positive else pair.negated
  | none => ""

namespace OperatorTable

variable {table : OperatorTable} {operator : Value} {pair : TokenPair}

theorem tokenAt_eq_pick (hpair : table.lookup? operator = some pair) (negations start : Nat) :
    table.tokenAt start ⟨operator, negations⟩ =
      pair.pick (decide (Odd (negations + start))) := by
  rw [tokenAt, hpair, TokenPair.pick]
  by_cases heven : Even (negations + start)
  · simp [heven, Nat.not_odd_iff_even.mpr heven]
  · simp [heven, Nat.not_even_iff_odd.mp heven]

/-- Starting below one negation more picks the other member of the same pair. -/
theorem tokenAt_opposite (hpair : table.lookup? operator = some pair) (negations : Nat)
    (negated : Bool) :
    if Even (negations + negated.toNat) then
      table.tokenAt negated.toNat ⟨operator, negations⟩ = pair.positive ∧
        table.tokenAt (!negated).toNat ⟨operator, negations⟩ = pair.negated
    else
      table.tokenAt negated.toNat ⟨operator, negations⟩ = pair.negated ∧
        table.tokenAt (!negated).toNat ⟨operator, negations⟩ = pair.positive := by
  simp only [tokenAt, hpair]
  cases negated with
  | false =>
      by_cases heven : Even negations <;> simp [heven, Nat.even_add_one]
  | true =>
      by_cases heven : Even negations <;> simp [heven, Nat.even_add_one]

end OperatorTable

namespace Filter

/-- A filter that compiles under one polarity compiles below any number of
negations, to its skeleton with the tokens that belong there. -/
theorem compile_eq_write_skeleton {table : OperatorTable} (filter : Filter) (negated : Bool)
    (hcompiled : ∃ tree, (filter.compile table negated).outcome = .ok tree)
    (negations : Nat) :
    ∃ skeleton, filter.skeleton? negations = some skeleton ∧
      (∀ site ∈ skeleton.sites, ∃ pair, table.lookup? site.operator = some pair) ∧
      ∀ start, (filter.compile table (decide (Odd (negations + start)))).outcome =
        .ok (skeleton.write (table.tokenAt start)) := by
  -- The flag of the run that is known to succeed does not matter: it reaches
  -- the induction hypotheses only through the success of each part.
  induction filter generalizing negated negations with
  | absent => exact ⟨.absent, rfl, by simp [Skeleton.sites], fun start => rfl⟩
  | terminal value => exact ⟨.terminal value, rfl, by simp [Skeleton.sites], fun start => rfl⟩
  | negation operand ih =>
      obtain ⟨skeleton, hskeleton, hsites, hwritten⟩ := ih (!negated) hcompiled (negations + 1)
      refine ⟨skeleton, hskeleton, hsites, fun start => ?_⟩
      have hflip : (!decide (Odd (negations + start))) = decide (Odd (negations + 1 + start)) := by
        rw [Nat.add_right_comm, ← decide_not, decide_eq_decide]
        exact Nat.odd_add_one.symm
      rw [compile, hflip]
      exact hwritten start
  | connective operator left right ihleft ihright =>
      obtain ⟨tree, htree⟩ := hcompiled
      obtain ⟨pair, first, second, hpair, hfirst, hsecond, -⟩ :=
        compile_connective_ok_iff.mp htree
      obtain ⟨leftShape, hleft, hleftSites, hleftWritten⟩ :=
        ihleft negated ⟨first, hfirst⟩ negations
      obtain ⟨rightShape, hright, hrightSites, hrightWritten⟩ :=
        ihright negated ⟨second, hsecond⟩ negations
      refine ⟨.connective ⟨operator, negations⟩ leftShape rightShape, ?_, ?_, ?_⟩
      · simp [skeleton?, hleft, hright]
      · intro site hsite
        simp only [Skeleton.sites, List.mem_cons, List.mem_append] at hsite
        rcases hsite with rfl | hsite | hsite
        · exact ⟨pair, hpair⟩
        · exact hleftSites site hsite
        · exact hrightSites site hsite
      · intro start
        refine compile_connective_ok_iff.mpr
          ⟨pair, _, _, hpair, hleftWritten start, hrightWritten start, ?_⟩
        rw [Skeleton.write, OperatorTable.tokenAt_eq_pick hpair]
  | comparison field operator operand ih =>
      obtain ⟨tree, htree⟩ := hcompiled
      obtain ⟨pair, inner, hpair, hfield, hinner, -⟩ := compile_comparison_ok_iff.mp htree
      obtain ⟨shape, hshape, hsites, hwritten⟩ := ih negated ⟨inner, hinner⟩ negations
      refine ⟨.comparison field ⟨operator, negations⟩ shape, ?_, ?_, ?_⟩
      · simp [skeleton?, hshape]
      · intro site hsite
        simp only [Skeleton.sites, List.mem_cons] at hsite
        rcases hsite with rfl | hsite
        · exact ⟨pair, hpair⟩
        · exact hsites site hsite
      · intro start
        refine compile_comparison_ok_iff.mpr ⟨pair, _, hpair, hfield, hwritten start, ?_⟩
        rw [Skeleton.write, OperatorTable.tokenAt_eq_pick hpair]
  | stray value =>
      obtain ⟨tree, htree⟩ := hcompiled
      simp [compile, Compiled.fail] at htree

/-- A compiled filter has the shape of the filter with its negations erased, with
all fields and terminals unchanged.  The token at each operator is the first
member of the operator's pair where the negations around it and the one the
compiler may start with are even in number, and the second where they are odd.
The opposite polarity compiles too and gives the same shape with the other member
of the same pair at every operator. -/
theorem compile_outcome_polarity (table : OperatorTable) (filter : Filter) (negated : Bool)
    (tree : Value) (hcompiled : (filter.compile table negated).outcome = .ok tree) :
    ∃ skeleton, filter.skeleton? 0 = some skeleton ∧
      tree = skeleton.write (table.tokenAt negated.toNat) ∧
      (filter.compile table (!negated)).outcome =
        .ok (skeleton.write (table.tokenAt (!negated).toNat)) ∧
      ∀ site ∈ skeleton.sites, ∃ pair, table.lookup? site.operator = some pair ∧
        if Even (site.negations + negated.toNat) then
          table.tokenAt negated.toNat site = pair.positive ∧
            table.tokenAt (!negated).toNat site = pair.negated
        else
          table.tokenAt negated.toNat site = pair.negated ∧
            table.tokenAt (!negated).toNat site = pair.positive := by
  obtain ⟨skeleton, hskeleton, hsites, hwritten⟩ :=
    compile_eq_write_skeleton filter negated ⟨tree, hcompiled⟩ 0
  have hrun : ∀ flag : Bool, (filter.compile table flag).outcome =
      .ok (skeleton.write (table.tokenAt flag.toNat)) := by
    intro flag
    have hflag : decide (Odd (0 + flag.toNat)) = flag := by cases flag <;> decide
    simpa only [hflag] using hwritten flag.toNat
  refine ⟨skeleton, hskeleton, ?_, hrun (!negated), ?_⟩
  · rw [hrun negated] at hcompiled
    exact (Except.ok.inj hcompiled).symm
  · intro site hsite
    obtain ⟨pair, hpair⟩ := hsites site hsite
    exact ⟨pair, hpair, OperatorTable.tokenAt_opposite hpair site.negations negated⟩

/-- Not (age at least 18 and not (name equal to not (part contains x))). -/
def nestedNegations : Filter :=
  .negation (.connective (.text "and")
    (.comparison (.text "age") (.text ">=") (.terminal (.int 18)))
    (.negation (.comparison (.text "name") (.text "=")
      (.negation (.comparison (.text "part") (.text "contains") (.terminal (.text "x")))))))

def nestedTree : Value :=
  .record [("$or", .list
    [.record [("age", .record [("$lt", .int 18)])],
      .record [("name", .record [("$eq", .record [("part", .record [("$excl", .text "x")])])])]])]

theorem compile_outcome_polarity_nested :
    (nestedNegations.compile .search false).outcome = .ok nestedTree ∧
      ∃ skeleton, nestedNegations.skeleton? 0 = some skeleton ∧
        nestedTree = skeleton.write (OperatorTable.search.tokenAt 0) := by
  have hcompiled : (nestedNegations.compile .search false).outcome = .ok nestedTree := rfl
  obtain ⟨skeleton, hskeleton, htree, -, -⟩ :=
    compile_outcome_polarity .search nestedNegations false nestedTree hcompiled
  exact ⟨hcompiled, skeleton, hskeleton, htree⟩

end Filter

end GridSource
