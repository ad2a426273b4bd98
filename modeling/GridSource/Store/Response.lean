import GridSource.Json.Encoding
import GridSource.Report

/-!
# Responses

A response is a status, a body of bytes and a reason phrase.  A status from 200
to 299 means success: an empty body is null, any other body must be JSON.  Every
other status is a report whose message is taken from the body if it has one,
else from the reason phrase.
-/

namespace GridSource

structure Response where
  status : Int
  body : List UInt8
  reason : String

namespace Response

/-- The registered reason phrases. -/
def reasons : List (Int × String) :=
  [ (100, "Continue"), (101, "Switching Protocols"), (102, "Processing"), (103, "Early Hints"),
    (200, "OK"), (201, "Created"), (202, "Accepted"), (203, "Non-Authoritative Information"),
    (204, "No Content"), (205, "Reset Content"), (206, "Partial Content"), (207, "Multi-Status"),
    (208, "Already Reported"), (226, "IM Used"),
    (300, "Multiple Choices"), (301, "Moved Permanently"), (302, "Found"), (303, "See Other"),
    (304, "Not Modified"), (305, "Use Proxy"), (307, "Temporary Redirect"),
    (308, "Permanent Redirect"),
    (400, "Bad Request"), (401, "Unauthorized"), (402, "Payment Required"), (403, "Forbidden"),
    (404, "Not Found"), (405, "Method Not Allowed"), (406, "Not Acceptable"),
    (407, "Proxy Authentication Required"), (408, "Request Timeout"), (409, "Conflict"),
    (410, "Gone"), (411, "Length Required"), (412, "Precondition Failed"),
    (413, "Request Entity Too Large"), (414, "Request-URI Too Long"),
    (415, "Unsupported Media Type"), (416, "Requested Range Not Satisfiable"),
    (417, "Expectation Failed"), (418, "I'm a teapot"), (421, "Misdirected Request"),
    (422, "Unprocessable Entity"), (423, "Locked"), (424, "Failed Dependency"),
    (425, "Too Early"), (426, "Upgrade Required"), (428, "Precondition Required"),
    (429, "Too Many Requests"), (431, "Request Header Fields Too Large"),
    (451, "Unavailable For Legal Reasons"),
    (500, "Internal Server Error"), (501, "Not Implemented"), (502, "Bad Gateway"),
    (503, "Service Unavailable"), (504, "Gateway Timeout"), (505, "HTTP Version Not Supported"),
    (506, "Variant Also Negotiates"), (507, "Insufficient Storage"), (508, "Loop Detected"),
    (510, "Not Extended"), (511, "Network Authentication Required") ]

def standardReason (status : Int) : String := (reasons.lookup status).getD ""

def succeeded (response : Response) : Bool :=
  decide (200 ≤ response.status ∧ response.status < 300)

def value? (response : Response) (alphabet : Alphabet) : Option Value :=
  Json.readBytes? response.body alphabet

/-- The body of a failed response; null when it is empty or no JSON. -/
def payload (response : Response) (alphabet : Alphabet) : Value :=
  if response.body.isEmpty then .null else (response.value? alphabet).getD .null

/-- The texts of decoded values.  No integer in them is too long to have one. -/
def joinTexts (items : List Value) : String := "; ".intercalate (items.map Value.plainForm)

/-- The message a payload carries: its message, several of them joined, or else
its error. -/
def payloadMessage (payload : Value) : Option String :=
  match payload with
  | .object members =>
      let message : Value :=
        match Members.named? members "message" with
        | some (.list items) => .text (joinTexts items)
        | some value => value
        | none => .null
      if message.truthy then some message.plainForm
      else
        match Members.named? members "error" with
        | some error => if error.truthy then some error.plainForm else none
        | none => none
  | _ => none

/-- The first text that is not empty: the payload's message, the reason phrase,
the bare status. -/
def failureMessage (response : Response) (alphabet : Alphabet) : String :=
  match payloadMessage (response.payload alphabet) with
  | some message =>
      if message.isEmpty then reasonOrStatus else message
  | none => reasonOrStatus
where
  reasonOrStatus : String :=
    if response.reason.isEmpty then "HTTP " ++ toString response.status else response.reason

/-- The value a response answers a request with, or the report of why it does
not. -/
def read (response : Response) (alphabet : Alphabet) (method : String) (url : Value) :
    Except Report Value :=
  let request : List (String × Value) := [("method", .text method), ("url", url)]
  if response.succeeded then
    if response.body.isEmpty then .ok .null
    else
      match response.value? alphabet with
      | some value => .ok value
      | none =>
          .error (.responseFormat "Response body is not valid JSON"
            (.record (request ++ [("status_code", .int response.status)])))
  else
    .error (.httpStatus (.int response.status) (response.failureMessage alphabet)
      (response.payload alphabet) (.record request))

end Response

end GridSource
