import GridSource.Query.Operators
import GridSource.Query.Filter
import Mathlib.Logic.Relation

/-!
# Visited nodes

Reading a raw filter visits some of the values inside it as nodes: the element of
a sequence of one, the operand of a negation, both elements of any other pair,
both sides of a connective and the right side of a comparison.  `parts` lists
what is visited below one node, `Reachable` is its closure, and `visited` lists
the reachable nodes, each before its parts and the parts from left to right.
-/

namespace GridSource

/-- The items of a list or a tuple. -/
def Value.sequence? : Value → Option (List Value)
  | .list items | .tuple items => some items
  | _ => none

theorem Value.isSequence_eq_false_iff {value : Value} :
    value.isSequence = false ↔ value.sequence? = none := by
  cases value <;> simp [isSequence, sequence?]

theorem Value.sizeOf_lt_of_mem_sequence {node item : Value} {items : List Value}
    (hitems : node.sequence? = some items) (hitem : item ∈ items) :
    sizeOf item < sizeOf node := by
  have hlt := List.sizeOf_lt_of_mem hitem
  cases node with
  | list inner =>
      obtain rfl : inner = items := Option.some.inj hitems
      simp only [Value.list.sizeOf_spec]
      omega
  | tuple inner =>
      obtain rfl : inner = items := Option.some.inj hitems
      simp only [Value.tuple.sizeOf_spec]
      omega
  | _ => simp [sequence?] at hitems

namespace Filter

variable (connectives : List String)

/-- The nodes visited directly below a node. -/
def parts (node : Value) : List Value :=
  match node.sequence? with
  | some [wrapped] => [wrapped]
  | some [first, second] => if isNegationMark first then [second] else [first, second]
  | some [left, operator, right] =>
      if isConnective connectives operator then [left, right] else [right]
  | _ => []

variable {connectives} in
theorem mem_items_of_mem_parts {node part : Value} (hpart : part ∈ parts connectives node) :
    ∃ items, node.sequence? = some items ∧ part ∈ items := by
  rw [parts] at hpart
  split at hpart
  · exact ⟨_, ‹_›, hpart⟩
  · refine ⟨_, ‹_›, ?_⟩
    split at hpart
    · exact List.mem_cons_of_mem _ hpart
    · exact hpart
  · refine ⟨_, ‹_›, ?_⟩
    split at hpart
    · simp only [List.mem_cons, List.not_mem_nil, or_false] at hpart
      rcases hpart with rfl | rfl <;> simp
    · simp [List.mem_singleton.mp hpart]
  · simp at hpart

variable {connectives} in
theorem sizeOf_lt_of_mem_parts {node part : Value}
    (hpart : part ∈ parts connectives node) : sizeOf part < sizeOf node := by
  obtain ⟨items, hitems, hmem⟩ := mem_items_of_mem_parts hpart
  exact Value.sizeOf_lt_of_mem_sequence hitems hmem

variable {connectives} in
theorem ofValue_of_sequence {root : Value} {items : List Value}
    (hitems : root.sequence? = some items) :
    ofValue connectives root = ofItems connectives items := by
  cases root with
  | list inner => obtain rfl : inner = items := Option.some.inj hitems; rfl
  | tuple inner => obtain rfl : inner = items := Option.some.inj hitems; rfl
  | _ => simp [Value.sequence?] at hitems

variable {connectives} in
theorem ofValue_of_no_sequence {root : Value} (hroot : root.sequence? = none) :
    ofValue connectives root = .ok (.terminal root) := by
  cases root with
  | list inner => simp [Value.sequence?] at hroot
  | tuple inner => simp [Value.sequence?] at hroot
  | _ => rfl

/-- The kinds of nodes: what stands at the node, what is visited below it and what
it is read as. -/
inductive NodeKind (node : Value) : Prop where
  | leaf (hnode : node.sequence? = none) (hparts : parts connectives node = [])
      (hread : ofValue connectives node = .ok (.terminal node))
  | wrapped (inner : Value) (hnode : node.sequence? = some [inner])
      (hparts : parts connectives node = [inner])
      (hread : ofValue connectives node = ofValue connectives inner)
  | negation (mark operand : Value) (hnode : node.sequence? = some [mark, operand])
      (hmark : isNegationMark mark = true) (hparts : parts connectives node = [operand])
      (hread : ofValue connectives node = (ofValue connectives operand).map .negation)
  | pair (left right : Value) (hnode : node.sequence? = some [left, right])
      (hmark : isNegationMark left = false) (hparts : parts connectives node = [left, right])
      (hread : ofValue connectives node =
        (ofValue connectives left).bind fun first =>
          (ofValue connectives right).map fun second =>
            .connective (.text impliedConnective) first second)
  | connective (left operator right : Value)
      (hnode : node.sequence? = some [left, operator, right])
      (hoperator : isConnective connectives operator = true)
      (hparts : parts connectives node = [left, right])
      (hread : ofValue connectives node =
        (ofValue connectives left).bind fun first =>
          (ofValue connectives right).map fun second => .connective operator first second)
  | comparison (left operator right : Value)
      (hnode : node.sequence? = some [left, operator, right])
      (hoperator : isConnective connectives operator = false)
      (hparts : parts connectives node = [right])
      (hread : ofValue connectives node =
        (fieldName left).bind fun name =>
          (ofValue connectives right).map fun operand =>
            .comparison (.text name) operator operand)
  | dropped (items : List Value) (hnode : node.sequence? = some items)
      (hitems : items = [] ∨ ∃ first second third fourth rest,
        items = first :: second :: third :: fourth :: rest)
      (hparts : parts connectives node = [])
      (hread : ofValue connectives node = .ok .absent)

theorem nodeKind (node : Value) : NodeKind connectives node := by
  cases hnode : node.sequence? with
  | none => exact .leaf hnode (by simp [parts, hnode]) (ofValue_of_no_sequence hnode)
  | some items =>
    have hread : ofValue connectives node = ofItems connectives items :=
      ofValue_of_sequence hnode
    -- The cases are the lengths that reading tells apart.
    match items with
    | [inner] => exact .wrapped inner hnode (by simp [parts, hnode]) hread
    | [first, second] =>
        cases hmark : isNegationMark first with
        | true =>
            rw [ofItems, if_pos hmark] at hread
            exact .negation first second hnode hmark (by simp [parts, hnode, hmark]) hread
        | false =>
            rw [ofItems, if_neg (by simp [hmark])] at hread
            exact .pair first second hnode hmark (by simp [parts, hnode, hmark]) hread
    | [left, operator, right] =>
        cases hoperator : isConnective connectives operator with
        | true =>
            rw [ofItems, if_pos hoperator] at hread
            exact .connective left operator right hnode hoperator
              (by simp [parts, hnode, hoperator]) hread
        | false =>
            rw [ofItems, if_neg (by simp [hoperator])] at hread
            exact .comparison left operator right hnode hoperator
              (by simp [parts, hnode, hoperator]) hread
    | [] => exact .dropped [] hnode (.inl rfl) (by simp [parts, hnode]) hread
    | first :: second :: third :: fourth :: rest =>
        exact .dropped _ hnode (.inr ⟨first, second, third, fourth, rest, rfl⟩)
          (by simp [parts, hnode]) hread

/-- What holds of a node as soon as it holds of its parts holds of every value. -/
theorem parts_induction {motive : Value → Prop}
    (step : ∀ node, (∀ part ∈ parts connectives node, motive part) → motive node)
    (root : Value) : motive root :=
  step root fun part hpart =>
    have := sizeOf_lt_of_mem_parts hpart
    parts_induction step part
termination_by sizeOf root

/-- A node is reachable when it is visited from the root in any number of steps. -/
def Reachable : Value → Value → Prop :=
  Relation.ReflTransGen fun node part => part ∈ parts connectives node

/-- The reachable nodes, a node before its parts. -/
def visited (root : Value) : List Value :=
  root :: (parts connectives root).attach.flatMap fun part => visited part.1
termination_by sizeOf root
decreasing_by exact sizeOf_lt_of_mem_parts part.2

theorem visited_eq (root : Value) :
    visited connectives root =
      root :: (parts connectives root).flatMap (visited connectives) := by
  rw [visited]
  simp [List.flatMap_subtype]

@[simp]
theorem mem_visited_iff {root node : Value} :
    node ∈ visited connectives root ↔ Reachable connectives root node := by
  constructor
  · induction root using parts_induction connectives with
    | step root ih =>
        intro hnode
        rw [visited_eq, List.mem_cons, List.mem_flatMap] at hnode
        rcases hnode with rfl | ⟨part, hpart, hnode⟩
        · exact Relation.ReflTransGen.refl
        · exact Relation.ReflTransGen.head hpart (ih part hpart hnode)
  · intro hreachable
    induction hreachable using Relation.ReflTransGen.head_induction_on with
    | refl =>
        rw [visited_eq]
        exact List.mem_cons_self
    | head hpart _ ih =>
        rw [visited_eq, List.mem_cons, List.mem_flatMap]
        exact .inr ⟨_, hpart, ih⟩

end Filter

end GridSource
