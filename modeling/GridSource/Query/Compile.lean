import GridSource.Logging.Line
import GridSource.Query.Filter
import GridSource.Query.Operators

/-!
# Compiling filters

A filter compiles to a search tree: a connective to an object of one token and
two trees, a comparison to its field with a token and an operand.  Negation is
no node of a search tree.  It is carried down as a polarity that picks the token
of every operator below it.  Lossy negations are noted in the order in which
they are met, also when compiling fails later on.
-/

namespace GridSource

/-- A negation that excludes more than the filter asked for. -/
structure LossyNegation where
  operator : Value
  field : Value
  token : String

def LossyNegation.message (lossy : LossyNegation) : Except Misuse String := do
  return "Negated " ++ (← lossy.operator.quoted) ++ " on field " ++ (← lossy.field.quoted) ++
    " compiled to " ++ lossy.token ++ ", which also excludes matches elsewhere in the value"

/-- The record of a lossy negation whose message can be made. -/
def LossyNegation.record? (lossy : LossyNegation) : Option LogRecord :=
  lossy.message.toOption.map fun message =>
    .message "crudstore.query.compiler" .warning message

/-- The lossy negations met while compiling, and how it ended. -/
structure Compiled (α : Type) where
  warnings : List LossyNegation
  outcome : Except CompileError α

namespace Compiled

def ok {α : Type} (value : α) : Compiled α := ⟨[], .ok value⟩

def fail {α : Type} (failure : CompileError) : Compiled α := ⟨[], .error failure⟩

def ofExcept {α : Type} (outcome : Except CompileError α) : Compiled α := ⟨[], outcome⟩

def warn (lossy : LossyNegation) : Compiled Unit := ⟨[lossy], .ok ()⟩

def andThen {α β : Type} (first : Compiled α) (next : α → Compiled β) : Compiled β :=
  match first.outcome with
  | .ok value =>
      let second := next value
      ⟨first.warnings ++ second.warnings, second.outcome⟩
  | .error failure => ⟨first.warnings, .error failure⟩

instance : Monad Compiled where
  pure := ok
  bind := andThen

end Compiled

namespace OperatorTable

def resolve (table : OperatorTable) (operator : Value) (negated : Bool) :
    Except CompileError String :=
  match table.resolve? operator negated with
  | some token => .ok token
  | none => .error (.ofOperator operator)

end OperatorTable

namespace Filter

/-- An object of one member whose key may be any value a key can be. -/
def singleMember (key value : Value) : Except CompileError Value :=
  if key.hashable then .ok (.object [(key, value)]) else .error (.misuse .notHashable)

def noteLossy (table : OperatorTable) (negated : Bool) (field operator : Value) (token : String) :
    Compiled Unit :=
  if table.isLossy operator negated then .warn ⟨operator, field, token⟩ else .ok ()

def compile (table : OperatorTable) (negated : Bool) : Filter → Compiled Value
  | .absent => .ok .null
  | .terminal value => .ok value
  | .negation operand => compile table (!negated) operand
  | .connective operator left right => do
      let token ← Compiled.ofExcept (table.resolve operator negated)
      let first ← compile table negated left
      let second ← compile table negated right
      return .object [(.text token, .list [first, second])]
  | .comparison field operator operand => do
      let token ← Compiled.ofExcept (table.resolve operator negated)
      noteLossy table negated field operator token
      let inner ← compile table negated operand
      Compiled.ofExcept (singleMember field (.object [(.text token, inner)]))
  | .stray value => .fail (.ofStray value)

/-- Reads and compiles a raw filter. -/
def compileValue (table : OperatorTable) (negated : Bool) (raw : Value) : Compiled Value :=
  match ofValue table.connectives raw with
  | .ok filter => filter.compile table negated
  | .error failure => .fail failure

end Filter

end GridSource
