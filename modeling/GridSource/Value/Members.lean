import GridSource.Value
import GridSource.Decimal.Binary64

/-!
# Members of an object

Keys are compared by meaning: an integer, the boolean of that integer and the
float equal to it are one key.  Inserting replaces the value of a present key in
place and appends a new key at the end.
-/

namespace GridSource.Value

/-- The number a key stands for, exactly when it is an integer. -/
def integerKey? : Value → Option Int
  | .bool flag => some (if flag then 1 else 0)
  | .int number => some number
  | .float number => (Binary64.ofFloat number).toInt?
  | _ => none

mutual

def sameKey : Value → Value → Bool
  | .null, .null => true
  | .text left, .text right => left == right
  | .tuple left, .tuple right => sameKeys left right
  | .float left, .float right => left == right
  | left, right =>
      match left.integerKey?, right.integerKey? with
      | some leftNumber, some rightNumber => leftNumber == rightNumber
      | _, _ => false

def sameKeys : List Value → List Value → Bool
  | [], [] => true
  | left :: lefts, right :: rights => sameKey left right && sameKeys lefts rights
  | _, _ => false

end

end GridSource.Value

namespace GridSource.Members

open GridSource

def get? (members : Members) (key : Value) : Option Value :=
  (members.find? fun member => member.1.sameKey key).map Prod.snd

/-- The value of a text key. -/
def named? (members : Members) (name : String) : Option Value :=
  members.get? (.text name)

def contains (members : Members) (key : Value) : Bool :=
  members.any fun member => member.1.sameKey key

def insert : Members → Value → Value → Members
  | [], key, value => [(key, value)]
  | (present, old) :: rest, key, value =>
      if present.sameKey key then (present, value) :: rest
      else (present, old) :: insert rest key value

/-- Inserts the members of the second list, in order, into the first. -/
def insertAll (members additions : Members) : Members :=
  additions.foldl (fun collected member => collected.insert member.1 member.2) members

def erase (members : Members) (key : Value) : Members :=
  members.filter fun member => !member.1.sameKey key

end GridSource.Members

namespace GridSource.Value

/-- The value of a text key in an object; absent in every other value. -/
def field? (value : Value) (name : String) : Option Value :=
  match value with
  | .object members => Members.named? members name
  | _ => none

/-- One member from a value of exactly two elements. -/
def pair (value : Value) : Except Misuse (Value × Value) := do
  match ← value.elements with
  | [key, item] => .ok (key, item)
  | _ => .error .wrongLength

/-- The members of an object, or of an iterable of pairs. -/
def toMembers (value : Value) : Except Misuse Members :=
  match value with
  | .object members => .ok members
  | value => do
      let items ← value.elements
      items.foldlM (fun members item => do
        let (key, entry) ← item.pair
        if key.hashable then .ok (Members.insert members key entry) else .error .notHashable) []

end GridSource.Value
