import GridSource.Query.CompileError

/-!
# Filters

A grid hands over a filter as nested sequences whose meaning depends on their
length: one element wraps a filter, two are a negation or an implied
conjunction, three a connective or a comparison.  Sequences of any other length
are dropped.  Everything that is not a sequence is a terminal.
-/

namespace GridSource

inductive Filter where
  | absent
  | terminal (value : Value)
  | negation (operand : Filter)
  | connective (operator : Value) (left right : Filter)
  | comparison (field operator : Value) (operand : Filter)
  /-- Something that is no filter at all. -/
  | stray (value : Value)
deriving Inhabited

namespace Filter

/-- The head of a pair that negates the other element. -/
def negationMark : String := "!"

/-- The connective of a pair that does not say one. -/
def impliedConnective : String := "and"

def defaultConnectives : List String := ["and", "or"]

/-- The name on the left of a comparison.  A sequence or an object is none, and
any other value is taken for its text. -/
def fieldName (left : Value) : Except CompileError String :=
  if left.isSequence || left.isObject then .error (.noFieldName left)
  else left.display.mapError .misuse

def isNegationMark : Value → Bool
  | .text content => content == negationMark
  | _ => false

def isConnective (connectives : List String) : Value → Bool
  | .text content => connectives.contains content
  | _ => false

mutual

/-- The filter a value stands for, unless a left-hand side in it is no field
name. -/
def ofValue (connectives : List String) : Value → Except CompileError Filter
  | .list items => ofItems connectives items
  | .tuple items => ofItems connectives items
  | value => .ok (.terminal value)

def ofItems (connectives : List String) : List Value → Except CompileError Filter
  | [wrapped] => ofValue connectives wrapped
  | [first, second] =>
      if isNegationMark first then do
        let operand ← ofValue connectives second
        return .negation operand
      else do
        let left ← ofValue connectives first
        let right ← ofValue connectives second
        return .connective (.text impliedConnective) left right
  | [first, operator, last] =>
      if isConnective connectives operator then do
        let left ← ofValue connectives first
        let right ← ofValue connectives last
        return .connective operator left right
      else do
        let name ← fieldName first
        let operand ← ofValue connectives last
        return .comparison (.text name) operator operand
  | _ => .ok .absent

end

end Filter

end GridSource
