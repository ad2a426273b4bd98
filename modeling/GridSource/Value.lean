import GridSource.Misuse

/-!
# Grid values

What a grid hands over and a backend answers: scalars, two kinds of sequence,
objects whose members keep their order, and foreign values that only have a
label.  Object keys are values too, because a configuration document may key an
object by a number.  `Value.insert` keeps the first position of a key and its
last value.
-/

namespace GridSource

inductive Value where
  | null
  | bool (flag : Bool)
  | int (number : Int)
  | float (number : Float)
  | text (content : String)
  | list (items : List Value)
  | tuple (items : List Value)
  | object (members : List (Value × Value))
  | foreign (label : String)
deriving Inhabited

abbrev Members := List (Value × Value)

namespace Value

/-- An object with text keys. -/
def record (members : List (String × Value)) : Value :=
  .object (members.map fun (name, value) => (.text name, value))

def isNull : Value → Bool
  | .null => true
  | _ => false

/-- A sequence is a node of a filter; every other value is a leaf. -/
def isSequence : Value → Bool
  | .list _ | .tuple _ => true
  | _ => false

def isObject : Value → Bool
  | .object _ => true
  | _ => false

/-- Null, false, zero and everything empty count as false; a float that is not
a number counts as true. -/
def truthy : Value → Bool
  | .null => false
  | .bool flag => flag
  | .int number => number != 0
  | .float number => !(number == 0)
  | .text content => !content.isEmpty
  | .list items | .tuple items => !items.isEmpty
  | .object members => !members.isEmpty
  | .foreign _ => true

/-- The name of a value's kind, as it is shown in reports. -/
def kindName : Value → String
  | .null => "NoneType"
  | .bool _ => "bool"
  | .int _ => "int"
  | .float _ => "float"
  | .text _ => "str"
  | .list _ => "list"
  | .tuple _ => "tuple"
  | .object _ => "dict"
  | .foreign _ => "Opaque"

mutual

/-- Only lists and objects, and tuples that hold one, cannot be keys. -/
def hashable : Value → Bool
  | .list _ | .object _ => false
  | .tuple items => allHashable items
  | _ => true

def allHashable : List Value → Bool
  | [] => true
  | item :: rest => hashable item && allHashable rest

end

/-- The elements of a value: the items of a sequence, the characters of a text
and the keys of an object. -/
def elements? : Value → Option (List Value)
  | .list items | .tuple items => some items
  | .text content => some (content.toList.map fun character => .text (String.singleton character))
  | .object members => some (members.map Prod.fst)
  | _ => none

def elements (value : Value) : Except Misuse (List Value) :=
  match value.elements? with
  | some items => .ok items
  | none => .error .notIterable

end Value

end GridSource
