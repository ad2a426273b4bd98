import GridSource.Value.Members

/-!
# Sort orders

A grid sorts by a field name, by an object that names a field and says whether
it descends, or by a list of these.  What is neither stays in the list as an
empty place.
-/

namespace GridSource

inductive Direction where
  | ascending
  | descending
deriving Repr, DecidableEq, Inhabited

def Direction.keyword : Direction → String
  | .ascending => "ASC"
  | .descending => "DESC"

structure SortOrder where
  field : String
  direction : Direction
deriving Repr, DecidableEq, Inhabited

namespace SortOrder

/-- The order as a parameter: field, delimiter, keyword. -/
def render (order : SortOrder) (delimiter : String) : String :=
  order.field ++ delimiter ++ order.direction.keyword

def selected (selector : String) (descending : Option Value) : SortOrder :=
  { field := selector
    direction :=
      match descending with
      | some flag => if flag.truthy then .descending else .ascending
      | none => .ascending }

def ofDescriptor? : Value → Option SortOrder
  | .text name => some ⟨name, .ascending⟩
  | .object members =>
      match Members.named? members "selector" with
      | some (.text selector) =>
          if selector.isEmpty then none
          else some (selected selector (Members.named? members "desc"))
      | _ => none
  | _ => none

/-- The orders of a sort option, or nothing when no sort was asked for. -/
def listOfValue (sort : Value) : Option (List (Option SortOrder)) :=
  if sort.truthy then
    match sort with
    | .list items | .tuple items => some (items.map ofDescriptor?)
    | single => some [ofDescriptor? single]
  else none

end SortOrder

end GridSource
