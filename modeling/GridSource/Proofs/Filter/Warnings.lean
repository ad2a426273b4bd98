import GridSource.Proofs.Filter.Failure
import GridSource.Proofs.Outcome
import Mathlib.Algebra.Ring.Parity
import Mathlib.Data.List.Basic

/-!
# Lossy negations

Compiling notes a lossy negation at a comparison with a lossy operator below an odd number
of negations, and at nothing else.  A site is a visited node with the number of negations
around it, so the notes can be read off the sites of a raw filter.  The main result is that
a run notes exactly the lossy sites it has passed: all of them when it ends with a tree,
those before the first unknown operator when it ends there, and none when the filter cannot
be read.
-/

namespace GridSource.Filter

/-- A visited node and the number of negations around it. -/
structure NodeSite where
  node : Value
  negations : Nat

/-- Whether a node negates what is visited below it. -/
def negates (node : Value) : Bool :=
  match node.sequence? with
  | some [mark, _] => isNegationMark mark
  | _ => false

/-- The number of negations around the parts of a node. -/
def negationsBelow (negations : Nat) (node : Value) : Nat :=
  if negates node then negations + 1 else negations

/-- The reachable nodes below some negations, a node before its parts. -/
def sites (connectives : List String) (negations : Nat) (root : Value) : List NodeSite :=
  ⟨root, negations⟩ :: (parts connectives root).attach.flatMap fun part =>
    sites connectives (negationsBelow negations root) part.1
termination_by sizeOf root
decreasing_by exact sizeOf_lt_of_mem_parts part.2

theorem sites_eq (connectives : List String) (negations : Nat) (root : Value) :
    sites connectives negations root =
      ⟨root, negations⟩ :: (parts connectives root).flatMap
        (sites connectives (negationsBelow negations root)) := by
  rw [sites]
  simp [List.flatMap_subtype]

/-- The sites are the visited nodes in the order of the visit. -/
theorem map_node_sites (connectives : List String) (negations : Nat) (root : Value) :
    (sites connectives negations root).map (·.node) = visited connectives root := by
  induction root using parts_induction connectives generalizing negations with
  | step root ih =>
    rw [sites_eq, visited_eq, List.map_cons, List.map_flatMap]
    congr 1
    exact List.flatMap_congr fun part hpart => ih part hpart _

namespace NodeSite

/-- The polarity of a node, for a compiler that starts under one. -/
def isNegative (site : NodeSite) (negated : Bool) : Bool :=
  decide (Odd site.negations) ^^ negated

/-- The lossy negation at a comparison: its operator, the name of its field and the negated
token. -/
def lossy? (table : OperatorTable) (negated : Bool) (site : NodeSite) : Option LossyNegation :=
  match site.node.sequence? with
  | some [left, operator, _] =>
      if isConnective table.connectives operator then none
      else if table.isLossy operator (site.isNegative negated) then
        (table.lookup? operator).map fun pair => ⟨operator, .text left.plainForm, pair.negated⟩
      else none
  | _ => none

/-- The operator of a node, if it has one, is a key of the table. -/
def IsKnown (table : OperatorTable) (site : NodeSite) : Prop :=
  ∀ operator, operator? site.node = some operator → table.hasKey operator = true

end NodeSite

/-- How a run over some sites ends and what it has noted by then. -/
inductive Notes (table : OperatorTable) (negated : Bool) (sites : List NodeSite) {α : Type} :
    Compiled α → Prop where
  | all (value : α) (hknown : ∀ site ∈ sites, site.IsKnown table) :
      Notes table negated sites ⟨sites.filterMap (·.lossy? table negated), .ok value⟩
  | before (passed : List NodeSite) (site : NodeSite) (rest : List NodeSite) (operator : Value)
      (hsites : sites = passed ++ site :: rest)
      (hknown : ∀ earlier ∈ passed, earlier.IsKnown table)
      (hoperator : operator? site.node = some operator)
      (hunknown : table.hasKey operator = false) :
      Notes table negated sites
        ⟨passed.filterMap (·.lossy? table negated), .error (.ofOperator operator)⟩

namespace Notes

variable {α β : Type} {table : OperatorTable} {negated : Bool} {first later : List NodeSite}

theorem pure (value : α) : Notes table negated [] (.ok value : Compiled α) :=
  .all value fun _ hsite => absurd hsite List.not_mem_nil

/-- A run after a run notes what both of them note. -/
theorem bind {run : Compiled α} {next : α → Compiled β} (hrun : Notes table negated first run)
    (hnext : ∀ value, run.outcome = .ok value → Notes table negated later (next value)) :
    Notes table negated (first ++ later) (run >>= next) := by
  cases hrun with
  | all value hknown =>
      rw [Compiled.bind_of_ok next rfl]
      have hvalue := hnext value rfl
      generalize next value = result at hvalue ⊢
      cases hvalue with
      | all result hlater =>
          rw [← List.filterMap_append]
          refine .all result fun site hsite => ?_
          exact (List.mem_append.mp hsite).elim (hknown site) (hlater site)
      | before passed site rest operator hsites hpassed hoperator hunknown =>
          rw [← List.filterMap_append]
          refine .before (first ++ passed) site rest operator ?_ (fun earlier hearlier => ?_)
            hoperator hunknown
          · rw [hsites, List.append_assoc]
          · exact (List.mem_append.mp hearlier).elim (hknown earlier) (hpassed earlier)
  | before passed site rest operator hsites hpassed hoperator hunknown =>
      rw [Compiled.bind_of_error next rfl]
      refine .before passed site (rest ++ later) operator ?_ hpassed hoperator hunknown
      rw [hsites, List.append_assoc, List.cons_append]

/-- A node without an operator notes nothing. -/
theorem cons_of_no_operator {run : Compiled α} {site : NodeSite} {sites : List NodeSite}
    (hoperator : operator? site.node = none) (hlossy : site.lossy? table negated = none)
    (hrun : Notes table negated sites run) : Notes table negated (site :: sites) run := by
  have hsite : Notes table negated [site] (.ok () : Compiled Unit) := by
    have hall : Notes table negated [site] ⟨[site].filterMap (·.lossy? table negated), .ok ()⟩ :=
      .all () fun other hother found hfound => by
        rw [List.mem_singleton.mp hother, hoperator] at hfound
        contradiction
    rwa [List.filterMap_cons, hlossy] at hall
  have hboth : Notes table negated ([site] ++ sites)
      ((.ok () : Compiled Unit) >>= fun _ => run) := hsite.bind fun _ _ => hrun
  simpa [Compiled.bind_of_ok, Compiled.ok] using hboth

/-- Looking up the operator of a connective stops a run or notes nothing. -/
theorem resolve {site : NodeSite} {operator : Value}
    (hoperator : operator? site.node = some operator)
    (hlossy : site.lossy? table negated = none) (polarity : Bool) :
    Notes table negated [site] (Compiled.ofExcept (table.resolve operator polarity)) := by
  cases hkey : table.hasKey operator with
  | false =>
      rw [OperatorTable.resolve_of_not_hasKey polarity hkey]
      exact .before [] site [] operator rfl (fun _ hnone => absurd hnone List.not_mem_nil)
        hoperator hkey
  | true =>
      obtain ⟨token, htoken⟩ := OperatorTable.resolve_of_hasKey polarity hkey
      have hall : Notes table negated [site]
          ⟨[site].filterMap (·.lossy? table negated), .ok token⟩ :=
        .all token fun other hother found hfound => by
          rw [List.mem_singleton.mp hother, hoperator] at hfound
          rwa [← Option.some.inj hfound]
      rw [List.filterMap_cons, hlossy] at hall
      rwa [htoken]

theorem connective {site : NodeSite} {operator : Value} {left right : Filter} {polarity : Bool}
    (hoperator : operator? site.node = some operator)
    (hlossy : site.lossy? table negated = none)
    (hleft : Notes table negated first (left.compile table polarity))
    (hright : Notes table negated later (right.compile table polarity)) :
    Notes table negated (site :: (first ++ later))
      ((Filter.connective operator left right).compile table polarity) := by
  have hrun := (resolve hoperator hlossy polarity).bind fun token _ =>
    hleft.bind fun leftTree _ => hright.bind fun rightTree _ =>
      pure (Value.object [(.text token, .list [leftTree, rightTree])])
  rwa [List.append_nil] at hrun

/-- What a comparison with a known operator notes is what its site says. -/
theorem noteLossy {site : NodeSite} {left operator right : Value} {name : String}
    {pair : TokenPair} (hnode : site.node.sequence? = some [left, operator, right])
    (hoperator : isConnective table.connectives operator = false)
    (hname : fieldName left = .ok name) (hpair : table.lookup? operator = some pair) :
    Notes table negated [site] (Filter.noteLossy table (site.isNegative negated) (.text name)
      operator (pair.pick (site.isNegative negated))) := by
  have hall : Notes table negated [site] ⟨[site].filterMap (·.lossy? table negated), .ok ()⟩ :=
    .all () fun other hother found hfound => by
      rw [List.mem_singleton.mp hother, operator?, hnode] at hfound
      rw [← Option.some.inj hfound, ← OperatorTable.isSome_lookup?, hpair, Option.isSome_some]
  have hsite : site.lossy? table negated =
      if table.isLossy operator (site.isNegative negated) then
        some ⟨operator, .text name, pair.negated⟩ else none := by
    rw [NodeSite.lossy?, hnode]
    simp only [hoperator, Bool.false_eq_true, if_false, hpair, Option.map_some,
      (fieldName_eq_ok_iff.mp hname).2.2]
  rw [List.filterMap_cons, hsite] at hall
  rw [Filter.noteLossy]
  cases hlossy : table.isLossy operator (site.isNegative negated) with
  | false =>
      rw [hlossy] at hall
      exact hall
  | true =>
      -- Only a negative polarity is lossy, so the token that is named is the one that is picked.
      have hnegative : site.isNegative negated = true := (Bool.and_eq_true_iff.mp hlossy).1
      have hpick : pair.pick (site.isNegative negated) = pair.negated := by
        rw [TokenPair.pick, if_pos hnegative]
      rw [hlossy] at hall
      rw [hpick]
      exact hall

/-- A comparison notes its own lossy negation before those of its operand. -/
theorem comparison {site : NodeSite} {left operator right : Value} {name : String}
    {operand : Filter} (hnode : site.node.sequence? = some [left, operator, right])
    (hoperator : isConnective table.connectives operator = false)
    (hname : fieldName left = .ok name)
    (hoperand : Notes table negated later (operand.compile table (site.isNegative negated))) :
    Notes table negated (site :: later)
      ((Filter.comparison (.text name) operator operand).compile table
        (site.isNegative negated)) := by
  have hused : operator? site.node = some operator := by rw [operator?, hnode]
  rw [compile]
  cases hpair : table.lookup? operator with
  | none =>
      have hkey : table.hasKey operator = false := by
        rw [← OperatorTable.isSome_lookup?, hpair, Option.isSome_none]
      rw [OperatorTable.resolve_of_not_hasKey _ hkey, Compiled.bind_of_error _ rfl]
      exact .before [] site later operator rfl (fun _ hnone => absurd hnone List.not_mem_nil)
        hused hkey
  | some pair =>
      have htoken : table.resolve operator (site.isNegative negated) =
          .ok (pair.pick (site.isNegative negated)) :=
        OperatorTable.resolve_eq_ok_iff.mpr ⟨pair, hpair, rfl⟩
      have hresolved : Notes table negated []
          (Compiled.ofExcept (table.resolve operator (site.isNegative negated))) := by
        rw [htoken]
        exact pure _
      rw [← List.nil_append (site :: later)]
      refine hresolved.bind fun token hvalue => ?_
      obtain rfl := Except.ok.inj (htoken.symm.trans hvalue)
      have hrun := (noteLossy hnode hoperator hname hpair).bind fun _ _ =>
        hoperand.bind fun inner _ => pure (Value.object
          [(.text name, .object [(.text (pair.pick (site.isNegative negated)), inner)])])
      rw [List.append_nil] at hrun
      exact hrun

end Notes

theorem sites_of_not_negates {connectives : List String} {root : Value}
    (hroot : negates root = false) (negations : Nat) :
    sites connectives negations root =
      ⟨root, negations⟩ :: (parts connectives root).flatMap (sites connectives negations) := by
  rw [sites_eq, negationsBelow, hroot]
  rfl

/-- A filter notes what the sites of the raw filter say that it was read from. -/
theorem notes_compile {table : OperatorTable} {negated : Bool} {root : Value} {filter : Filter}
    (hfilter : ofValue table.connectives root = .ok filter) (negations : Nat) :
    Notes table negated (sites table.connectives negations root)
      (filter.compile table (NodeSite.isNegative ⟨root, negations⟩ negated)) := by
  induction root using parts_induction table.connectives generalizing filter negations with
  | step root ih =>
    cases nodeKind table.connectives root with
    | leaf hnode hparts hread =>
        obtain rfl := Except.ok.inj (hread.symm.trans hfilter)
        rw [sites_eq, hparts]
        exact .cons_of_no_operator (by rw [operator?, hnode]) (by rw [NodeSite.lossy?, hnode])
          (.pure root)
    | wrapped inner hnode hparts hread =>
        rw [sites_of_not_negates (by rw [negates, hnode]), hparts, List.flatMap_singleton]
        exact .cons_of_no_operator (by rw [operator?, hnode]) (by rw [NodeSite.lossy?, hnode])
          (ih inner (by simp [hparts]) (hread.symm.trans hfilter) negations)
    | negation mark operand hnode hmark hparts hread =>
        obtain ⟨inner, hinner, rfl⟩ := Outcome.map_eq_ok_iff.mp (hread.symm.trans hfilter)
        have hbelow : negationsBelow negations root = negations + 1 := by
          rw [negationsBelow, negates, hnode, if_pos hmark]
        have hflip : NodeSite.isNegative ⟨operand, negations + 1⟩ negated =
            !NodeSite.isNegative ⟨root, negations⟩ negated := by
          simp only [NodeSite.isNegative, Nat.odd_add_one, decide_not, Bool.not_xor]
        have hrun := ih operand (by simp [hparts]) hinner (negations + 1)
        rw [hflip] at hrun
        rw [sites_eq, hbelow, hparts, List.flatMap_singleton]
        exact .cons_of_no_operator (by rw [operator?, hnode]; exact if_pos hmark)
          (by rw [NodeSite.lossy?, hnode]) hrun
    | pair left right hnode hmark hparts hread =>
        obtain ⟨first, hfirst, hrest⟩ := Outcome.bind_eq_ok_iff.mp (hread.symm.trans hfilter)
        obtain ⟨second, hsecond, rfl⟩ := Outcome.map_eq_ok_iff.mp hrest
        rw [sites_of_not_negates (by rw [negates, hnode]; exact hmark), hparts,
          List.flatMap_cons, List.flatMap_singleton]
        exact .connective (by rw [operator?, hnode]; exact if_neg (by simp [hmark]))
          (by rw [NodeSite.lossy?, hnode])
          (ih left (by simp [hparts]) hfirst negations)
          (ih right (by simp [hparts]) hsecond negations)
    | connective left operator right hnode hoperator hparts hread =>
        obtain ⟨first, hfirst, hrest⟩ := Outcome.bind_eq_ok_iff.mp (hread.symm.trans hfilter)
        obtain ⟨second, hsecond, rfl⟩ := Outcome.map_eq_ok_iff.mp hrest
        rw [sites_of_not_negates (by rw [negates, hnode]), hparts,
          List.flatMap_cons, List.flatMap_singleton]
        exact .connective (by rw [operator?, hnode])
          (by rw [NodeSite.lossy?, hnode]; exact if_pos hoperator)
          (ih left (by simp [hparts]) hfirst negations)
          (ih right (by simp [hparts]) hsecond negations)
    | comparison left operator right hnode hoperator hparts hread =>
        rw [hread] at hfilter
        rw [sites_of_not_negates (by rw [negates, hnode]), hparts, List.flatMap_singleton]
        obtain ⟨name, hname, hfilter⟩ := Outcome.bind_eq_ok_iff.mp hfilter
        obtain ⟨operand, hoperand, rfl⟩ := Outcome.map_eq_ok_iff.mp hfilter
        exact .comparison hnode hoperator hname (ih right (by simp [hparts]) hoperand negations)
    | dropped items hnode hitems hparts hread =>
        obtain rfl := Except.ok.inj (hread.symm.trans hfilter)
        rw [sites_eq, hparts]
        rcases hitems with rfl | ⟨first, second, third, fourth, rest, rfl⟩
        all_goals
          exact .cons_of_no_operator (by rw [operator?, hnode]) (by rw [NodeSite.lossy?, hnode])
            (.pure Value.null)

/-- The sites of a raw filter are its reachable nodes in pre-order.  Compiling notes nothing
when the filter cannot be read.  Otherwise it notes the lossy comparisons below a negative
polarity, each with its operator, its field and its negated token: all of them when it ends
with a tree, those before the first unknown operator when it ends there. -/
theorem compileValue_notes (table : OperatorTable) (raw : Value) (negated : Bool) :
    (sites table.connectives 0 raw).map (·.node) = visited table.connectives raw ∧
      ((∃ failure, ofValue table.connectives raw = .error failure ∧
          compileValue table negated raw = ⟨[], .error failure⟩) ∨
        Notes table negated (sites table.connectives 0 raw) (compileValue table negated raw)) := by
  refine ⟨map_node_sites table.connectives 0 raw, ?_⟩
  rw [compileValue]
  cases hread : ofValue table.connectives raw with
  | error failure => exact .inl ⟨failure, rfl, rfl⟩
  | ok filter => exact .inr (by simpa [NodeSite.isNegative] using notes_compile hread 0)

/-- A lossy negation, then an operator that is no key, then another lossy negation. -/
example :
    (compileValue .search true (.list
      [.list [.text "name", .text "startswith", .text "x"], .text "and",
        .list [.list [.text "age", .text "like", .int 1], .text "and",
          .list [.text "name", .text "endswith", .text "y"]]])).warnings =
      [⟨.text "startswith", .text "name", "$excl"⟩] := rfl

end GridSource.Filter
