import GridSource.Proofs.Filter.Steps
import GridSource.Proofs.Filter.Visits
import GridSource.Proofs.Json.RoundTrip
import GridSource.Proofs.Outcome
import GridSource.Query.Assembly

/-!
# What search trees are made of

A search tree holds the terminals of its filter below keys that are texts, and the
terminals are elements of elements of the filter.  So a class of values that is closed
under these steps holds the tree when it holds the filter, whatever the operators are.
The filter of load options is visited only at the filter itself, at the fields of the
search box and at its value.
-/

namespace GridSource

/-- A class of values that is closed under taking elements and under what trees are built
with. -/
structure Value.IsHereditary (holds : Value → Prop) : Prop where
  null : holds .null
  element {value item : Value} {items : List Value} (hvalue : holds value)
    (hitems : value.elements? = some items) (hitem : item ∈ items) : holds item
  single (name : String) {value : Value} (hvalue : holds value) :
    holds (.object [(.text name, value)])
  pair {left right : Value} (hleft : holds left) (hright : holds right) :
    holds (.list [left, right])

theorem Value.elements?_of_sequence? {value : Value} {items : List Value}
    (hitems : value.sequence? = some items) : value.elements? = some items := by
  cases value with
  | list inner | tuple inner => exact hitems
  | _ => contradiction

namespace Filter

variable {holds : Value → Prop}

/-- Terminals are in a class of values and comparisons are about named fields. -/
inductive Holds (holds : Value → Prop) : Filter → Prop where
  | absent : Holds holds .absent
  | terminal {value : Value} (hvalue : holds value) : Holds holds (.terminal value)
  | negation {operand : Filter} (hoperand : Holds holds operand) :
      Holds holds (.negation operand)
  | connective (operator : Value) {left right : Filter} (hleft : Holds holds left)
      (hright : Holds holds right) : Holds holds (.connective operator left right)
  | comparison (name : String) (operator : Value) {operand : Filter}
      (hoperand : Holds holds operand) : Holds holds (.comparison (.text name) operator operand)

theorem Holds.compile (hclass : Value.IsHereditary holds) {table : OperatorTable}
    {filter : Filter} (hfilter : filter.Holds holds) {negated : Bool} {tree : Value}
    (htree : (filter.compile table negated).outcome = .ok tree) : holds tree := by
  induction hfilter generalizing negated tree with
  | absent =>
      obtain rfl := Except.ok.inj htree
      exact hclass.null
  | terminal hvalue =>
      obtain rfl := Except.ok.inj htree
      exact hvalue
  | negation _ ih => exact ih htree
  | connective operator _ _ ihleft ihright =>
      obtain ⟨pair, first, second, -, hfirst, hsecond, rfl⟩ :=
        compile_connective_ok_iff.mp htree
      exact hclass.single _ (hclass.pair (ihleft hfirst) (ihright hsecond))
  | comparison name operator _ ih =>
      obtain ⟨pair, inner, -, -, hinner, rfl⟩ := compile_comparison_ok_iff.mp htree
      exact hclass.single name (hclass.single _ (ih hinner))

/-- Every visited value that is no node is in a class of values. -/
def LeavesIn (holds : Value → Prop) (connectives : List String) (root : Value) : Prop :=
  ∀ leaf ∈ visited connectives root, leaf.sequence? = none → holds leaf

variable {connectives : List String}

theorem LeavesIn.part {root part : Value} (hroot : LeavesIn holds connectives root)
    (hpart : part ∈ parts connectives root) : LeavesIn holds connectives part := by
  intro leaf hleaf
  apply hroot
  rw [visited_eq, List.mem_cons, List.mem_flatMap]
  exact .inr ⟨part, hpart, hleaf⟩

theorem LeavesIn.of_parts {root : Value} {items : List Value}
    (hitems : root.sequence? = some items)
    (hparts : ∀ part ∈ parts connectives root, LeavesIn holds connectives part) :
    LeavesIn holds connectives root := by
  intro leaf hleaf hnone
  rw [visited_eq, List.mem_cons, List.mem_flatMap] at hleaf
  rcases hleaf with rfl | ⟨part, hpart, hleaf⟩
  · rw [hitems] at hnone
    contradiction
  · exact hparts part hpart leaf hleaf hnone

theorem LeavesIn.of_holds (hclass : Value.IsHereditary holds) {root : Value}
    (hroot : holds root) : LeavesIn holds connectives root := by
  intro leaf hleaf hnone
  clear hnone
  rw [mem_visited_iff] at hleaf
  induction hleaf with
  | refl => exact hroot
  | tail _ hpart ih =>
      obtain ⟨items, hitems, hmem⟩ := mem_items_of_mem_parts hpart
      exact hclass.element ih (Value.elements?_of_sequence? hitems) hmem

/-- Reading keeps the leaves as the terminals of the filter. -/
theorem LeavesIn.ofValue {root : Value} (hroot : LeavesIn holds connectives root)
    {filter : Filter} (hread : ofValue connectives root = .ok filter) : filter.Holds holds := by
  induction root using parts_induction connectives generalizing filter with
  | step root ih =>
    have hpart := fun part hpart => @ih part hpart (hroot.part hpart)
    cases nodeKind connectives root with
    | leaf hnode _ hleaf =>
        obtain rfl := Except.ok.inj (hleaf.symm.trans hread)
        exact .terminal (hroot root (by rw [visited_eq]; exact List.mem_cons_self) hnode)
    | wrapped inner _ hparts hinner =>
        exact hpart inner (by simp [hparts]) (hinner.symm.trans hread)
    | negation mark operand _ _ hparts hnegation =>
        obtain ⟨inner, hinner, rfl⟩ := Outcome.map_eq_ok_iff.mp (hnegation.symm.trans hread)
        exact .negation (hpart operand (by simp [hparts]) hinner)
    | pair left right _ _ hparts hboth | connective left _ right _ _ hparts hboth =>
        obtain ⟨first, hfirst, hrest⟩ := Outcome.bind_eq_ok_iff.mp (hboth.symm.trans hread)
        obtain ⟨second, hsecond, rfl⟩ := Outcome.map_eq_ok_iff.mp hrest
        exact .connective _ (hpart left (by simp [hparts]) hfirst)
          (hpart right (by simp [hparts]) hsecond)
    | comparison left operator right _ _ hparts hcomparison =>
        obtain ⟨name, -, hrest⟩ := Outcome.bind_eq_ok_iff.mp (hcomparison.symm.trans hread)
        obtain ⟨operand, hoperand, rfl⟩ := Outcome.map_eq_ok_iff.mp hrest
        exact .comparison name operator (hpart right (by simp [hparts]) hoperand)
    | dropped _ _ _ _ hdropped =>
        obtain rfl := Except.ok.inj (hdropped.symm.trans hread)
        exact .absent

theorem LeavesIn.compileValue (hclass : Value.IsHereditary holds) {table : OperatorTable}
    {negated : Bool} {raw tree : Value} (hraw : LeavesIn holds table.connectives raw)
    (htree : (compileValue table negated raw).outcome = .ok tree) : holds tree := by
  rw [Filter.compileValue] at htree
  cases hread : Filter.ofValue table.connectives raw with
  | ok filter =>
      rw [hread] at htree
      exact (hraw.ofValue hread).compile hclass htree
  | error left =>
      rw [hread] at htree
      simp [Compiled.fail] at htree

end Filter

/-! ## The filter of load options -/

namespace LoadOptions

open GridSource.Filter

variable {holds : Value → Prop} {connectives : List String} {options : LoadOptions}

/-- Of a triple only the outer elements are visited. -/
theorem leavesIn_triple {left right : Value} (operator : Value)
    (hleft : LeavesIn holds connectives left) (hright : LeavesIn holds connectives right) :
    LeavesIn holds connectives (.list [left, operator, right]) := by
  refine LeavesIn.of_parts rfl ?_
  intro part hpart
  rw [parts] at hpart
  simp only [Value.sequence?] at hpart
  split at hpart
  · simp only [List.mem_cons, List.not_mem_nil, or_false] at hpart
    rcases hpart with rfl | rfl
    · exact hleft
    · exact hright
  · obtain rfl := List.mem_singleton.mp hpart
    exact hright

theorem leavesIn_disjunction {filters : List Value} {filter : Value}
    (hfilters : ∀ part ∈ filters, LeavesIn holds connectives part)
    (hfilter : disjunction? filters = some filter) : LeavesIn holds connectives filter := by
  cases filters with
  | nil => simp [disjunction?] at hfilter
  | cons first rest =>
      obtain rfl := Option.some.inj hfilter
      have hfirst := hfilters first List.mem_cons_self
      have hrest := fun part hpart => hfilters part (List.mem_cons_of_mem first hpart)
      clear hfilter hfilters
      induction rest generalizing first with
      | nil => exact hfirst
      | cons next rest ih =>
          refine ih _ (leavesIn_triple _ hfirst (hrest next List.mem_cons_self)) ?_
          exact fun part hpart => hrest part (List.mem_cons_of_mem next hpart)

theorem holds_of_searched (hclass : Value.IsHereditary holds)
    (hfields : holds options.searchFields) {fields : List Value}
    (hsearched : options.searched = .ok fields) : ∀ field ∈ fields, holds field := by
  rw [searched] at hsearched
  split at hsearched
  · next name heq =>
      obtain rfl := Except.ok.inj hsearched
      intro field hfield
      obtain rfl := List.mem_singleton.mp hfield
      rw [← heq]
      exact hfields
  · rw [Value.elements] at hsearched
    split at hsearched
    · next items helements =>
        obtain rfl := Except.ok.inj hsearched
        exact fun field hfield => hclass.element hfields helements hfield
    · contradiction

/-- The search box visits the fields it searches and the value it looks for. -/
theorem leavesIn_searchFilter (hclass : Value.IsHereditary holds)
    (hfields : holds options.searchFields) (hvalue : holds options.searchValue) {filter : Value}
    (hfilter : options.searchFilter? = .ok (some filter)) : LeavesIn holds connectives filter := by
  rw [searchFilter?] at hfilter
  split at hfilter
  · obtain ⟨fields, hsearched, hfilter⟩ := Outcome.bind_eq_ok_iff.mp hfilter
    refine leavesIn_disjunction ?_ (Except.ok.inj hfilter)
    intro part hpart
    obtain ⟨field, hfield, rfl⟩ := List.mem_map.mp hpart
    have hsearches := holds_of_searched hclass hfields hsearched field hfield
    exact leavesIn_triple _ (.of_holds hclass hsearches) (.of_holds hclass hvalue)
  · simp at hfilter

theorem leavesIn_combinedFilter (hclass : Value.IsHereditary holds)
    (hfilter : holds options.filter) (hfields : holds options.searchFields)
    (hvalue : holds options.searchValue) {combined : Value}
    (hcombined : options.combinedFilter = .ok combined) :
    LeavesIn holds connectives combined := by
  rw [combinedFilter] at hcombined
  obtain ⟨found, hfound, hcombined⟩ := Outcome.bind_eq_ok_iff.mp hcombined
  cases found with
  | none =>
      obtain rfl := Except.ok.inj hcombined
      exact .of_holds hclass hfilter
  | some search =>
      have hsearch : LeavesIn holds connectives search :=
        leavesIn_searchFilter hclass hfields hvalue hfound
      simp only at hcombined
      split at hcombined
      · obtain rfl := Except.ok.inj hcombined
        exact hsearch
      · obtain rfl := Except.ok.inj hcombined
        exact leavesIn_triple _ (.of_holds hclass hfilter) hsearch

end LoadOptions

/-- The search tree of options is in every class of values that their filter and their
search box are in. -/
theorem Assembler.holds_searchTree {holds : Value → Prop} (hclass : Value.IsHereditary holds)
    {assembler : Assembler} {options : LoadOptions} (hfilter : holds options.filter)
    (hfields : holds options.searchFields) (hvalue : holds options.searchValue) {tree : Value}
    (htree : (assembler.searchTree options).outcome = .ok tree) : holds tree := by
  rw [searchTree, Compiled.outcome_bind_eq_ok_iff] at htree
  obtain ⟨combined, hcombined, htree⟩ := htree
  have hoptions : options.combinedFilter = .ok combined := Outcome.mapError_eq_ok_iff.mp hcombined
  have hleaves : Filter.LeavesIn holds assembler.table.connectives combined :=
    LoadOptions.leavesIn_combinedFilter hclass hfilter hfields hvalue hoptions
  exact hleaves.compileValue hclass htree

/-! ## Plain values -/

theorem Value.isHereditary_isPlain : IsHereditary IsPlain where
  null := .null
  element {value item items} hvalue hitems hitem := by
    cases hvalue with
    | list hinner | tuple hinner =>
        obtain rfl := Option.some.inj hitems
        exact hinner item hitem
    | text content =>
        obtain rfl := Option.some.inj hitems
        obtain ⟨character, -, rfl⟩ := List.mem_map.mp hitem
        exact .text _
    | object _ _ =>
        obtain rfl := Option.some.inj hitems
        simp only [textMembers, List.map_map, List.mem_map] at hitem
        obtain ⟨entry, -, rfl⟩ := hitem
        exact .text _
    | _ => simp [Value.elements?] at hitems
  single name {value} hvalue := by
    refine @IsPlain.object [(name, value)] (by simp) ?_
    intro entry hentry
    obtain rfl := List.mem_singleton.mp hentry
    exact hvalue
  pair hleft hright := .list (by simp [hleft, hright])

/-- The search tree of options with plain values is plain. -/
theorem Assembler.searchTree_isPlain {assembler : Assembler} {options : LoadOptions}
    (hfilter : options.filter.IsPlain) (hfields : options.searchFields.IsPlain)
    (hvalue : options.searchValue.IsPlain) {tree : Value}
    (htree : (assembler.searchTree options).outcome = .ok tree) : tree.IsPlain :=
  holds_searchTree Value.isHereditary_isPlain hfilter hfields hvalue htree

end GridSource
