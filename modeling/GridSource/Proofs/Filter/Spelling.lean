import GridSource.Proofs.Filter.Meaning
import GridSource.Proofs.Filter.Visits
import GridSource.Proofs.Outcome

/-!
# Equivalent spellings

A raw filter may be wrapped, negated twice, spelled as a pair instead of a conjunction, and
written as a list or a tuple.  Places in a raw filter are paths of indices that follow the
visit.  The main result is that respelling the node at any place changes nothing about
compiling, neither the outcome nor the lossy negations: what a node compiles to depends on what
its parts compile to, under either polarity, and on nothing else about them.
-/

namespace GridSource.Filter

/-! ## Places -/

/-- The indices of the items that are visited. -/
def visitedPlaces (connectives : List String) : List Value → List Nat
  | [_] => [0]
  | [first, _] => if isNegationMark first then [1] else [0, 1]
  | [_, operator, _] => if isConnective connectives operator then [0, 2] else [2]
  | _ => []

/-- The node at a path of visited places. -/
def nodeAt? (connectives : List String) : List Nat → Value → Option Value
  | [], root => some root
  | place :: path, root =>
      root.sequence?.bind fun items =>
        if place ∈ visitedPlaces connectives items then
          items[place]?.bind (nodeAt? connectives path)
        else none

/-- The raw filter with another value at a path. -/
def replaceAt (other : Value) : List Nat → Value → Value
  | [], _ => other
  | place :: path, .list items => .list (items.modify place (replaceAt other path))
  | place :: path, .tuple items => .tuple (items.modify place (replaceAt other path))
  | _ :: _, root => root

theorem parts_eq_filterMap {connectives : List String} {root : Value} {items : List Value}
    (hroot : root.sequence? = some items) :
    parts connectives root = (visitedPlaces connectives items).filterMap (items[·]?) := by
  rw [parts, hroot]
  rcases items with _ | ⟨first, _ | ⟨second, _ | ⟨third, _ | ⟨fourth, rest⟩⟩⟩⟩
  · rfl
  · rfl
  · cases hmark : isNegationMark first <;> simp [visitedPlaces, hmark]
  · cases hoperator : isConnective connectives second <;> simp [visitedPlaces, hoperator]
  · rfl

/-- The places of a raw filter lead to its reachable nodes. -/
theorem reachable_iff_exists_nodeAt? {connectives : List String} {root node : Value} :
    Reachable connectives root node ↔ ∃ path, nodeAt? connectives path root = some node := by
  constructor
  · intro hreachable
    induction hreachable using Relation.ReflTransGen.head_induction_on with
    | refl => exact ⟨[], rfl⟩
    | @head root part hpart _ ih =>
        obtain ⟨path, hpath⟩ := ih
        obtain ⟨items, hitems, -⟩ := mem_items_of_mem_parts hpart
        rw [parts_eq_filterMap hitems, List.mem_filterMap] at hpart
        obtain ⟨place, hplace, hitem⟩ := hpart
        exact ⟨place :: path, by simp [nodeAt?, hitems, hplace, hitem, hpath]⟩
  · rintro ⟨path, hpath⟩
    induction path generalizing root with
    | nil =>
        obtain rfl := Option.some.inj hpath
        exact Relation.ReflTransGen.refl
    | cons place path ih =>
        obtain ⟨items, hitems, hpath⟩ := Option.bind_eq_some_iff.mp hpath
        split at hpath
        · next hplace =>
            obtain ⟨part, hpart, hpath⟩ := Option.bind_eq_some_iff.mp hpath
            refine Relation.ReflTransGen.head ?_ (ih hpath)
            rw [parts_eq_filterMap hitems, List.mem_filterMap]
            exact ⟨place, hplace, hpart⟩
        · contradiction

/-! ## Spellings -/

@[simp]
theorem sequence?_of (kind : SequenceKind) (items : List Value) :
    (kind.of items).sequence? = some items := by
  cases kind <;> rfl

/-- Another way to write a node. -/
inductive Respells : Value → Value → Prop where
  | wrapped (kind : SequenceKind) (node : Value) : Respells node (kind.of [node])
  | doubled (outer inner : SequenceKind) (node : Value) :
      Respells node (outer.of [.text "!", inner.of [.text "!", node]])
  | implied (kind kind' : SequenceKind) {left : Value} (right : Value)
      (hleft : left ≠ .text "!") :
      Respells (kind.of [left, right]) (kind'.of [left, .text "and", right])
  | retyped (kind kind' : SequenceKind) (items : List Value) :
      Respells (kind.of items) (kind'.of items)

theorem Respells.isNegationMark {node other : Value} (hother : Respells node other) :
    isNegationMark other = false := by
  cases hother with
  | wrapped kind | implied _ kind | retyped _ kind => cases kind <;> rfl
  | doubled outer => cases outer <;> rfl

/-! ## What a node compiles to -/

variable (table : OperatorTable)

/-- The run of a raw filter for each polarity, or why it cannot be read. -/
def runs (raw : Value) : Except CompileError (Bool → Compiled Value) :=
  (ofValue table.connectives raw).map fun filter negated => filter.compile table negated

/-- The run of a connective from those of its sides. -/
def joined (operator : Value) (left right : Bool → Compiled Value) (negated : Bool) :
    Compiled Value := do
  let token ← Compiled.ofExcept (table.resolve operator negated)
  let first ← left negated
  let second ← right negated
  return .object [(.text token, .list [first, second])]

/-- The run of a comparison from that of its operand. -/
def compared (name : String) (operator : Value) (operand : Bool → Compiled Value)
    (negated : Bool) : Compiled Value := do
  let token ← Compiled.ofExcept (table.resolve operator negated)
  noteLossy table negated (.text name) operator token
  let inner ← operand negated
  Compiled.ofExcept (singleMember (.text name) (.object [(.text token, inner)]))

variable {table}

theorem compileValue_eq_of_runs {raw other : Value} (hsame : runs table raw = runs table other)
    (negated : Bool) : compileValue table negated raw = compileValue table negated other := by
  rw [runs, runs] at hsame
  rw [compileValue, compileValue]
  cases hraw : ofValue table.connectives raw with
  | error failure =>
      rw [hraw] at hsame
      rw [Outcome.map_eq_error_iff.mp hsame.symm]
  | ok filter =>
      rw [hraw] at hsame
      obtain ⟨otherFilter, hother, hruns⟩ := Outcome.map_eq_ok_iff.mp hsame.symm
      rw [hother]
      exact (congrFun hruns negated).symm

variable {root left operator right : Value}

theorem runs_wrapped {inner : Value} (hroot : root.sequence? = some [inner]) :
    runs table root = runs table inner := by
  rw [runs, ofValue_of_sequence hroot, ofItems, runs]

theorem runs_negation {mark operand : Value} (hroot : root.sequence? = some [mark, operand])
    (hmark : isNegationMark mark = true) :
    runs table root = (runs table operand).map fun run negated => run (!negated) := by
  rw [runs, ofValue_of_sequence hroot, ofItems, if_pos hmark, runs]
  cases ofValue table.connectives operand <;> rfl

theorem runs_pair (hroot : root.sequence? = some [left, right])
    (hmark : isNegationMark left = false) :
    runs table root = (runs table left).bind fun first =>
      (runs table right).map fun second => joined table (.text impliedConnective) first second := by
  rw [runs, ofValue_of_sequence hroot, ofItems, if_neg (by simp [hmark]), runs, runs]
  cases ofValue table.connectives left with
  | error found => rfl
  | ok first => cases ofValue table.connectives right <;> rfl

theorem runs_connective (hroot : root.sequence? = some [left, operator, right])
    (hoperator : isConnective table.connectives operator = true) :
    runs table root = (runs table left).bind fun first =>
      (runs table right).map fun second => joined table operator first second := by
  rw [runs, ofValue_of_sequence hroot, ofItems, if_pos hoperator, runs, runs]
  cases ofValue table.connectives left with
  | error found => rfl
  | ok first => cases ofValue table.connectives right <;> rfl

theorem runs_comparison (hroot : root.sequence? = some [left, operator, right])
    (hoperator : isConnective table.connectives operator = false) :
    runs table root = (fieldName left).bind fun name =>
      (runs table right).map fun operand => compared table name operator operand := by
  rw [runs, ofValue_of_sequence hroot, ofItems, if_neg (by simp [hoperator]), runs]
  cases fieldName left with
  | error failure => rfl
  | ok name => cases ofValue table.connectives right <;> rfl

/-! ## Respelling at a place -/

theorem isNegationMark_replaceAt {item other : Value} (hitem : isNegationMark item = false)
    (hother : isNegationMark other = false) (path : List Nat) :
    isNegationMark (replaceAt other path item) = false := by
  cases path with
  | nil => exact hother
  | cons place path => cases item <;> first | rfl | exact hitem

theorem sequence?_replaceAt (root other : Value) (place : Nat) (path : List Nat) :
    (replaceAt other (place :: path) root).sequence? =
      root.sequence?.map (·.modify place (replaceAt other path)) := by
  cases root <;> rfl

/-- A node may be replaced at any place by one that runs alike. -/
theorem runs_replaceAt {node other : Value} (hother : isNegationMark other = false)
    (hsame : runs table other = runs table node) {path : List Nat} {root : Value}
    (hnode : nodeAt? table.connectives path root = some node) :
    runs table (replaceAt other path root) = runs table root := by
  induction path generalizing root with
  | nil =>
      obtain rfl := Option.some.inj hnode
      exact hsame
  | cons place path ih =>
      obtain ⟨items, hroot, hnode⟩ := Option.bind_eq_some_iff.mp hnode
      have hreplaced := sequence?_replaceAt root other place path
      rw [hroot, Option.map_some] at hreplaced
      split at hnode
      case isFalse => contradiction
      case isTrue hplace =>
        obtain ⟨item, hitem, hnode⟩ := Option.bind_eq_some_iff.mp hnode
        have hruns := ih hnode
        -- The cases are the places that are visited in a sequence of each length.
        match items with
        | [] => contradiction
        | [inner] =>
            obtain rfl : place = 0 := List.mem_singleton.mp hplace
            obtain rfl := Option.some.inj hitem
            rw [runs_wrapped hreplaced, runs_wrapped hroot, hruns]
        | [first, second] =>
            cases hmark : isNegationMark first with
            | true =>
                rw [visitedPlaces, if_pos hmark, List.mem_singleton] at hplace
                subst hplace
                obtain rfl := Option.some.inj hitem
                rw [runs_negation hreplaced hmark, runs_negation hroot hmark, hruns]
            | false =>
                rw [visitedPlaces, if_neg (by simp [hmark]), List.mem_pair] at hplace
                rcases hplace with rfl | rfl <;> obtain rfl := Option.some.inj hitem
                · have hfirst := isNegationMark_replaceAt hmark hother path
                  rw [runs_pair hreplaced hfirst, runs_pair hroot hmark, hruns]
                · rw [runs_pair hreplaced hmark, runs_pair hroot hmark, hruns]
        | [left, operator, right] =>
            cases hoperator : isConnective table.connectives operator with
            | true =>
                rw [visitedPlaces, if_pos hoperator, List.mem_pair] at hplace
                rcases hplace with rfl | rfl <;> obtain rfl := Option.some.inj hitem
                all_goals
                  rw [runs_connective hreplaced hoperator, runs_connective hroot hoperator, hruns]
            | false =>
                rw [visitedPlaces, if_neg (by simp [hoperator]), List.mem_singleton] at hplace
                subst hplace
                obtain rfl := Option.some.inj hitem
                rw [runs_comparison hreplaced hoperator, runs_comparison hroot hoperator, hruns]
        | _ :: _ :: _ :: _ :: _ => contradiction

theorem isNegationMark_eq_false_of_ne {value : Value} (hvalue : value ≠ .text "!") :
    isNegationMark value = false := by
  cases value with
  | text content => simpa [isNegationMark, negationMark] using hvalue
  | _ => rfl

/-- Where `and` is a connective, another spelling of a node runs alike. -/
theorem Respells.runs_eq {node other : Value} (hand : "and" ∈ table.connectives)
    (hother : Respells node other) : runs table other = runs table node := by
  cases hother with
  | wrapped kind => exact runs_wrapped (sequence?_of kind _)
  | doubled outer inner =>
      rw [runs_negation (sequence?_of outer _) rfl, runs_negation (sequence?_of inner _) rfl]
      cases runs table node with
      | error found => rfl
      | ok run => simp [Except.map]
  | @implied kind kind' left right hleft =>
      have hconnective : isConnective table.connectives (.text "and") = true := by
        simpa [isConnective] using hand
      rw [runs_connective (sequence?_of kind' _) hconnective,
        runs_pair (sequence?_of kind _) (isNegationMark_eq_false_of_ne hleft)]
      rfl
  | retyped kind kind' items => simp only [runs, ofValue_of]

/-- Where `and` is a connective, wrapping the node at any visited place, negating it twice,
spelling out its conjunction or changing its kind of sequence changes neither the outcome of
compiling nor the lossy negations, under either polarity. -/
theorem compileValue_respelled {table : OperatorTable} (hand : "and" ∈ table.connectives)
    {raw node other : Value} {path : List Nat}
    (hnode : nodeAt? table.connectives path raw = some node) (hother : Respells node other)
    (negated : Bool) :
    compileValue table negated (replaceAt other path raw) = compileValue table negated raw :=
  compileValue_eq_of_runs (runs_replaceAt hother.isNegationMark (hother.runs_eq hand) hnode) negated

/-- Every node that the visit reaches has a place at which all its spellings may stand. -/
theorem exists_place_of_reachable (hand : "and" ∈ table.connectives) {raw node : Value}
    (hnode : Reachable table.connectives raw node) :
    ∃ path, nodeAt? table.connectives path raw = some node ∧
      ∀ other, Respells node other → ∀ negated,
        compileValue table negated (replaceAt other path raw) = compileValue table negated raw := by
  obtain ⟨path, hpath⟩ := reachable_iff_exists_nodeAt?.mp hnode
  refine ⟨path, hpath, fun other hother negated => ?_⟩
  exact compileValue_eq_of_runs
    (runs_replaceAt hother.isNegationMark (hother.runs_eq hand) hpath) negated

/-- The city does not start with `O` or the age is not what it is compared with. -/
def cityFilter (operand : Value) : Value :=
  .list [.text "!", .tuple [.list [.text "city", .text "startswith", .text "O"],
    .list [.text "age", .text "=", operand]]]

theorem compileValue_respelled_doubled :
    nodeAt? OperatorTable.search.connectives [1, 1, 2]
        (cityFilter (.list [.text "id", .text ">", .int 7])) =
      some (.list [.text "id", .text ">", .int 7]) ∧
    compileValue .search false (cityFilter (.list [.text "!", .tuple [.text "!",
        .list [.text "id", .text ">", .int 7]]])) =
      ⟨[⟨.text "startswith", .text "city", "$excl"⟩],
        .ok (.record [("$or", .list [.record [("city", .record [("$excl", .text "O")])],
          .record [("age", .record [("$ne",
            .record [("id", .record [("$lte", .int 7)])])])]])])⟩ := by
  have hnode : nodeAt? OperatorTable.search.connectives [1, 1, 2]
      (cityFilter (.list [.text "id", .text ">", .int 7])) =
        some (.list [.text "id", .text ">", .int 7]) := rfl
  refine ⟨hnode, ?_⟩
  exact (compileValue_respelled (by decide) hnode (.doubled .list .tuple _) false).trans rfl

end GridSource.Filter
