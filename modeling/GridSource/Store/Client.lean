import GridSource.Store.Operation
import GridSource.Store.Timeout
import GridSource.Url.Address

/-!
# Clients

A client turns the planned request into the call it makes.  The plain client
hands it on as it is; the HTTP client resolves the address against a base,
writes the body as compact JSON and adds its headers.
-/

namespace GridSource

/-- Headers in the order in which they were given. -/
abbrev Headers := List (String × String)

namespace Headers

def isAscii (content : String) : Bool := content.toList.all fun character => character.toNat < 0x80

def entry (key value : Value) : Except Misuse (String × String) :=
  match key, value with
  | .text name, .text content =>
      if isAscii name && isAscii content then .ok (name, content) else .error .notEncodable
  | .text name, _ => if isAscii name then .error .wrongArgument else .error .notEncodable
  | _, _ => .error .lacksOperation

def ofMembers (members : Members) : Except Misuse Headers :=
  members.mapM fun (key, value) => entry key value

def sameName (left right : String) : Bool := left.toLower == right.toLower

/-- The value of a header; several values are joined. -/
def get? (headers : Headers) (name : String) : Option String :=
  match headers.filter fun entry => sameName entry.1 name with
  | [] => none
  | found => some (", ".intercalate (found.map Prod.snd))

/-- Lower-case names in order, each with its value. -/
def sorted (headers : Headers) : Headers :=
  let names := (headers.map fun entry => entry.1.toLower).eraseDups
  (names.mergeSort fun left right => decide (left ≤ right)).map fun name =>
    (name, (get? headers name).getD "")

end Headers

/-- A call as the HTTP client makes it. -/
structure HttpCall where
  method : String
  address : Address
  body : String
  headers : Headers

/-- An HTTP client; what it makes of the address it is asked for is its own. -/
structure HttpClient where
  resolve : String → Except Address.Fault Address
  headers : Headers
  /-- The alphabet of the bodies it is given. -/
  alphabet : Alphabet := .unicode

namespace HttpClient

/-- The headers that a client sends unless others are given. -/
def ownHeaders : Headers := [("Accept", "*/*"), ("Connection", "keep-alive")]

def invalidAddress : StoreError := .refused .invalidUrl

def create (base : String) (headers : Members) (alphabet : Alphabet := .unicode) :
    Except StoreError HttpClient := do
  let address ← (Address.readBase base).mapError fun _ => invalidAddress
  let given ← Store.liftMisuse (Headers.ofMembers headers)
  return { resolve := address.merge, headers := given, alphabet }

/-- The value of a header among those given and the client's own. -/
def header? (client : HttpClient) (name : String) : Option String :=
  (Headers.get? client.headers name).orElse fun _ => Headers.get? ownHeaders name

/-- The body of a request, which is sent as bytes. -/
def writeBody (client : HttpClient) (request : Request) : Except StoreError String :=
  match request.body with
  | some body => Store.liftMisuse do
      let written ← Json.write .body body
      if client.alphabet.encodes written then return written else .error .notEncodable
  | none => .ok ""

def callHeaders (client : HttpClient) (request : Request) : Headers :=
  if request.body.isSome && (Headers.get? client.headers "content-type").isNone then
    client.headers ++ [("content-type", "application/json")]
  else client.headers

/-- The call for a request, or why none is made. -/
def prepare (client : HttpClient) (request : Request) : Except StoreError HttpCall := do
  let content ←
    match request.url with
    | .text content => Except.ok content
    | _ => .error (.misuse .wrongArgument)
  let address ← (client.resolve content).mapError fun _ => invalidAddress
  let body ← client.writeBody request
  return { method := request.method, address, body
           headers := Headers.sorted (client.callHeaders request) }

/-- A response to an address without a scheme cannot be taken in. -/
def receive (call : HttpCall) (outcome : Store.Outcome) : Except StoreError Store.Outcome :=
  match outcome with
  | .ok response =>
      if call.address.scheme.isEmpty then .error (.misuse (.unacceptable none))
      else .ok (.ok response)
  | .error failure => .ok (.error failure)

end HttpClient

inductive Client where
  | plain
  | http (client : HttpClient)
  /-- A client the store made for itself, with a timeout in microseconds. -/
  | owned (client : HttpClient) (timeout : Int)

inductive Call where
  | plain (request : Request)
  | http (call : HttpCall)

namespace Client

def isOwned : Client → Bool
  | .owned .. => true
  | _ => false

def prepare (client : Client) (request : Request) : Except StoreError Call :=
  match client with
  | .plain => .ok (.plain request)
  | .http client | .owned client _ => (client.prepare request).map .http

def receive (call : Call) (outcome : Store.Outcome) : Except StoreError Store.Outcome :=
  match call with
  | .plain _ => .ok outcome
  | .http call => HttpClient.receive call outcome

/-- The client a store makes when none is given. -/
def make (properties : StoreProperties) (alphabet : Alphabet := .unicode) :
    Except Misuse Client := do
  let timeout ← Timeout.ofValue properties.timeout
  let headers ← Headers.ofMembers (← properties.headers.toMembers)
  let base : Address :=
    { scheme := "", user := "", host := "", port := none, path := "", query := none
      fragment := none }
  return .owned { resolve := base.merge, headers, alphabet } timeout

end Client

end GridSource
