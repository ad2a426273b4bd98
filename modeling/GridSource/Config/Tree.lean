import GridSource.Url.Form
import GridSource.Value.Members

/-!
# Configuration trees

A configuration is an object of objects.  A dotted key leads from one object to
the next.  Merging an overlay replaces values and merges objects with objects,
at every depth.
-/

namespace GridSource.Tree

mutual

/-- The value of a member after an overlay: objects merge, all else is replaced. -/
def mergeValue (present : Option Value) : Value → Value
  | .object members =>
      match present with
      | some (.object old) => .object (merge old members)
      | _ => .object members
  | value => value

def merge (base : Members) : List (Value × Value) → Members
  | [] => base
  | (key, value) :: rest =>
      merge (Members.insert base key (mergeValue (Members.get? base key) value)) rest

end

/-- Merges values that should be trees. -/
def mergeValues (base override : Value) : Except Misuse Value := do
  let members ← base.toMembers
  match override with
  | .object additions => return .object (merge members additions)
  | _ => throw .lacksOperation

/-- The parts of a dotted key. -/
def parts (key : String) : List String :=
  (Form.splitAt '.' key.toList).map String.ofList

def find? (tree : Value) : List String → Option Value
  | [] => some tree
  | part :: rest =>
      match tree.field? part with
      | some inner => find? inner rest
      | none => none

def lookup? (tree : Value) (key : String) : Option Value := find? tree (parts key)

/-- The object at a key, empty when there is none. -/
def sectionAt (tree : Value) (key : String) : Members :=
  match lookup? tree key with
  | some (.object members) => members
  | _ => []

end GridSource.Tree
