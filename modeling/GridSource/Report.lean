import GridSource.Value.Display
import GridSource.Value.Members

/-!
# Reports

What the library says when it cannot do its work: a message for people, a code
for machines and a context of named values.  Reports come in families, and a
family belongs to a wider one, so that a caller may handle one kind of failure
or all of them.
-/

namespace GridSource

inductive ReportFamily where
  | general
  | compile
  | unknownOperator
  | invalidQuery
  | infrastructure
  | transport
  | httpStatus
  | responseFormat
deriving Repr, DecidableEq, Inhabited

namespace ReportFamily

/-- The family one step wider. -/
def parent? : ReportFamily → Option ReportFamily
  | .general => none
  | .compile | .infrastructure => some .general
  | .unknownOperator | .invalidQuery => some .compile
  | .transport | .httpStatus | .responseFormat => some .infrastructure

/-- The wider families, nearest first. -/
def ancestors (family : ReportFamily) : List ReportFamily :=
  match family.parent? with
  | none => []
  | some first =>
      match first.parent? with
      | none => [first]
      | some second => [first, second]

end ReportFamily

/-- What a family adds to message, code and context. -/
inductive ReportDetail where
  | none
  | operator (operator : Value)
  | status (status payload : Value)
  | cause (name : Option String)

structure Report where
  family : ReportFamily
  message : String
  code : Value
  context : Value
  detail : ReportDetail

namespace Report

def general (family : ReportFamily) (message : String) (code context : Value) : Report :=
  { family, message, code, context := if context.isNull then .object [] else context
    detail := .none }

/-- The message shows the operator, so that an operator without a text is not
reported. -/
def unknownOperator (operator : Value) : Except Misuse Report := do
  let shown ← operator.quoted
  return { family := .unknownOperator
           message := "Unknown filter operator: " ++ shown
           code := .text "UNKNOWN_OPERATOR"
           context := .record [("operator", operator)]
           detail := .operator operator }

def invalidQuery (message : String) (context : Value) : Report :=
  general .invalidQuery message (.text "INVALID_QUERY") context

def responseFormat (message : String) (context : Value) : Report :=
  general .responseFormat message (.text "RESPONSE_FORMAT") context

def transport (method url : Value) (reason : String) (cause : Option String) : Report :=
  { family := .transport
    message := "Network error " ++ method.plainForm ++ " " ++ url.plainForm ++ ": " ++ reason
    code := .text "TRANSPORT_ERROR"
    context := .record [("method", method), ("url", url)]
    detail := .cause cause }

def httpStatus (status : Value) (message : String) (payload context : Value) : Report :=
  { general .httpStatus message (.text ("HTTP_" ++ status.plainForm)) context with
    detail := .status status payload }

end Report

/-- A parameter of a report; an optional one is null when it is left out. -/
structure ReportParameter where
  name : String
  optional : Bool

def ReportFamily.parameters : ReportFamily → List ReportParameter
  | .general | .compile | .infrastructure =>
      [⟨"message", false⟩, ⟨"code", true⟩, ⟨"context", true⟩]
  | .unknownOperator => [⟨"operator", false⟩]
  | .invalidQuery | .responseFormat => [⟨"message", false⟩, ⟨"context", true⟩]
  | .transport => [⟨"method", false⟩, ⟨"url", false⟩, ⟨"reason", false⟩]
  | .httpStatus =>
      [⟨"status_code", false⟩, ⟨"message", false⟩, ⟨"payload", true⟩, ⟨"context", true⟩]

namespace Report

/-- The values of the parameters: first those given by position, then those given
by name.  Each parameter takes one value. -/
def bind (parameters : List ReportParameter) (positional : List Value)
    (named : List (String × Value)) : Except Misuse (List Value) :=
  if parameters.length < positional.length then .error .wrongArgument
  else if named.any fun (name, _) =>
      !((parameters.drop positional.length).any fun parameter => parameter.name == name) then
    .error .wrongArgument
  else do
    let others ← (parameters.drop positional.length).mapM fun parameter =>
      match named.lookup parameter.name with
      | some value => Except.ok value
      | none => if parameter.optional then .ok .null else .error .wrongArgument
    return positional ++ others

/-- A report of a family from the values of its parameters. -/
def ofArguments (family : ReportFamily) (positional : List Value)
    (named : List (String × Value)) : Except Misuse Report := do
  match family, ← bind family.parameters positional named with
  | .unknownOperator, [operator] => unknownOperator operator
  | .invalidQuery, [message, context] => return invalidQuery (← message.display) context
  | .responseFormat, [message, context] => return responseFormat (← message.display) context
  | .transport, [method, url, reason] => return transport method url (← reason.display) none
  | .httpStatus, [status, message, payload, context] =>
      return httpStatus status (← message.display) payload context
  | family, [message, code, context] => return general family (← message.display) code context
  | _, _ => .error .wrongArgument

end Report

end GridSource
