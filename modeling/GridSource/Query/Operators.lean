import GridSource.Value.Display
import GridSource.Value.Members

/-!
# Operator tables

An operator of the grid has two tokens of the search grammar, one for each
polarity.  Negating a comparison picks its complement, negating a connective
picks the opposite one.  A lossy operator is one whose negated token excludes
more than the complement would.
-/

namespace GridSource

structure TokenPair where
  positive : String
  negated : String
deriving Repr, DecidableEq, Inhabited

def TokenPair.pick (pair : TokenPair) (negated : Bool) : String :=
  if negated then pair.negated else pair.positive

/-- The two tokens of an operator, from any value of two elements. -/
def TokenPair.ofValue (value : Value) : Except Misuse TokenPair := do
  let (positive, negated) ← value.pair
  return ⟨← positive.display, ← negated.display⟩

structure OperatorTable where
  pairs : List (String × TokenPair)
  connectives : List String
  lossy : List String
deriving Repr, Inhabited

namespace OperatorTable

def lookup? (table : OperatorTable) (operator : Value) : Option TokenPair :=
  match operator with
  | .text name => table.pairs.lookup name
  | _ => none

/-- The token of an operator under a polarity. -/
def resolve? (table : OperatorTable) (operator : Value) (negated : Bool) : Option String :=
  (table.lookup? operator).map (·.pick negated)

def isConnective (table : OperatorTable) : Value → Bool
  | .text name => table.connectives.contains name
  | _ => false

/-- Whether the negated token of an operator loses meaning. -/
def isLossy (table : OperatorTable) (operator : Value) (negated : Bool) : Bool :=
  negated &&
    match operator with
    | .text name => table.lossy.contains name
    | _ => false

/-- A look-up by key, which refuses what cannot be one. -/
def checkKey (operator : Value) : Except Misuse Unit :=
  if operator.hashable then .ok () else .error .notHashable

def askLossy (table : OperatorTable) (operator : Value) (negated : Bool) : Except Misuse Bool :=
  if negated then do
    checkKey operator
    return table.isLossy operator negated
  else .ok false

def get? (table : OperatorTable) (operator : Value) : Except Misuse (Option TokenPair) := do
  checkKey operator
  return table.lookup? operator

def get (table : OperatorTable) (operator : Value) : Except Misuse TokenPair := do
  match ← table.get? operator with
  | some pair => return pair
  | none => throw .absentKey

def names (table : OperatorTable) : List String := table.pairs.map Prod.fst

def sortedConnectives (table : OperatorTable) : List String :=
  table.connectives.eraseDups.mergeSort fun left right => decide (left ≤ right)

def display (table : OperatorTable) : String :=
  let pairs := table.pairs.map fun (name, pair) =>
    (name, Value.tuple [.text pair.positive, .text pair.negated])
  "OperatorTable(" ++ (Value.record pairs).quotedForm ++ ")"

/-- The names in an iterable of keys. -/
def namesIn (value : Value) : Except Misuse (List String) := do
  let items ← value.elements
  if items.all Value.hashable then
    return items.filterMap fun item =>
      match item with
      | .text name => some name
      | _ => none
  else throw .notHashable

def pairsIn (operators : Value) : Except Misuse (List (String × TokenPair)) :=
  match operators with
  | .object members =>
      members.mapM fun (key, value) => do
        let pair ← TokenPair.ofValue value
        return (← key.display, pair)
  | _ => .error .lacksOperation

/-- A table from an object of pairs and two lists of names; without a list the
connectives are `and` and `or` and nothing is lossy. -/
def ofValues (operators : Value) (connectives lossy : Option Value) :
    Except Misuse OperatorTable := do
  let pairs ← pairsIn operators
  let connectives ← (connectives.map namesIn).getD (.ok ["and", "or"])
  let lossy ← (lossy.map namesIn).getD (.ok [])
  return { pairs, connectives, lossy }

/-- The operators of the grid and their tokens in the search grammar.  Nothing
in the grammar says "does not start with" exactly, so excluding the text
anywhere stands in for it. -/
def search : OperatorTable :=
  { pairs :=
      [ ("and", ⟨"$and", "$or"⟩),
        ("or", ⟨"$or", "$and"⟩),
        ("=", ⟨"$eq", "$ne"⟩),
        ("<>", ⟨"$ne", "$eq"⟩),
        (">", ⟨"$gt", "$lte"⟩),
        (">=", ⟨"$gte", "$lt"⟩),
        ("<", ⟨"$lt", "$gte"⟩),
        ("<=", ⟨"$lte", "$gt"⟩),
        ("startswith", ⟨"$starts", "$excl"⟩),
        ("endswith", ⟨"$ends", "$excl"⟩),
        ("contains", ⟨"$cont", "$excl"⟩),
        ("notcontains", ⟨"$excl", "$cont"⟩) ]
    connectives := ["and", "or"]
    lossy := ["startswith", "endswith"] }

end OperatorTable

end GridSource
