import GridSource.Report

/-!
# Failures of a query

Why a query cannot be compiled.  A failure that concerns the query itself has a
report; the others are misuses.  A failure whose message shows a value gives way
to the misuse of having no text for it.
-/

namespace GridSource

inductive CompileError where
  | unknownOperator (operator : Value)
  /-- The left-hand side of a comparison is a sequence or an object. -/
  | noFieldName (value : Value)
  /-- A selected field is not a name. -/
  | noSelectedField (value : Value)
  /-- A relation to join is neither a name nor an object with one. -/
  | noRelation (value : Value)
  /-- A parameter that counts is no non-negative integer. -/
  | noCount (parameter : String) (value : Value)
  | notAFilter (value : Value)
  | misuse (cause : Misuse)

namespace CompileError

/-- The report of a failure that concerns the query itself. -/
def report? : CompileError → Option Report
  | .unknownOperator operator => (Report.unknownOperator operator).toOption
  | .noFieldName value =>
      some (.invalidQuery "Left-hand side of a comparison must be a field name"
        (.record [("field", value)]))
  | .noSelectedField value =>
      some (.invalidQuery "Invalid field type. String expected" (.record [("field", value)]))
  | .noRelation value =>
      some (.invalidQuery "Invalid join relation" (.record [("join", value)]))
  | .noCount parameter value =>
      some (.invalidQuery ("Invalid " ++ parameter ++ ". Non-negative integer expected")
        (.record [(parameter, value)]))
  | .notAFilter _ | .misuse _ => none

/-- What comes of an operator that is no key of the table. -/
def ofOperator (operator : Value) : CompileError :=
  match Report.unknownOperator operator with
  | .ok _ => .unknownOperator operator
  | .error cause => .misuse cause

/-- Why a value given as a filter is none. -/
def notAFilterMessage (value : Value) : Except Misuse String := do
  return "Not a filter expression: " ++ (← value.quoted)

/-- What comes of a value given as a filter that is none. -/
def ofStray (value : Value) : CompileError :=
  match notAFilterMessage value with
  | .ok _ => .notAFilter value
  | .error cause => .misuse cause

end CompileError

end GridSource
