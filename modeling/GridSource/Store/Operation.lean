import GridSource.Logging.Line
import GridSource.Query.Assembly
import GridSource.Store.Failure
import GridSource.Store.Page
import GridSource.Store.Properties
import GridSource.Store.Response

/-!
# Store operations

A store is a resource and the assembler of its queries.  Every data operation
first plans one request from the properties of the store and its own arguments,
and then reads the answer.  Nothing is remembered between operations.
-/

namespace GridSource

structure Store where
  properties : StoreProperties
  assembler : Assembler

/-- Load options as they are given: ready, or as a value to be read. -/
inductive GivenOptions where
  | ready (options : LoadOptions)
  | raw (value : Value)

def GivenOptions.resolve : GivenOptions → Except Misuse LoadOptions
  | .ready options => .ok options
  | .raw value => LoadOptions.ofValue value

inductive Operation where
  | load (options : GivenOptions)
  | byKey (key : Value)
  | totalCount (options : GivenOptions)
  | insert (values : Value)
  | update (key values : Value)
  | remove (key : Value)

structure Request where
  method : String
  url : Value
  body : Option Value

inductive StoreError where
  | compile (failure : CompileError)
  | report (report : Report)
  | misuse (cause : Misuse)
  /-- A failure of the request that is passed on. -/
  | leaked (failure : Failure)
  /-- The client does not even make the call. -/
  | refused (kind : FailureKind)

/-- What is noted about a request once it is answered. -/
inductive LogEvent where
  | answered (method : String) (url : Value) (status : Int)
  | failed (method : String) (url : Value) (failure : Failure)

namespace LogEvent

def level : LogEvent → LogLevel
  | .answered .. => .debug
  | .failed .. => .warning

def name : LogEvent → String
  | .answered .. => "crud_request"
  | .failed .. => "crud_request_failed"

def fields : LogEvent → List (String × Value)
  | .answered method url status =>
      [("method", .text method), ("url", url), ("status_code", .int status)]
  | .failed method url failure =>
      [("method", .text method), ("url", url), ("error", .text failure.message),
        ("error_type", .text failure.kind.name)]

def record (event : LogEvent) : LogRecord :=
  { logger := "crudstore.store", level := event.level, event := .text event.name
    fields := event.fields }

end LogEvent

namespace Store

def emptyUrlMessage : String := "StoreProperties.url must not be empty"

def checkUrl (properties : StoreProperties) : Except Misuse Unit :=
  if properties.url.truthy then .ok () else .error (.unacceptable (some emptyUrlMessage))

/-- The assembler of a store; the relations are read once. -/
def assemblerOf (properties : StoreProperties) (alphabet : Alphabet := .unicode) :
    Except Misuse Assembler := do
  let relations ← properties.join.elements
  return { Assembler.default with
    join := .tuple relations
    cache := properties.cache.truthy
    includeDeleted := properties.includeDeleted.truthy
    alphabet }

/-- A store over a given client. -/
def create (properties : StoreProperties) (alphabet : Alphabet := .unicode) :
    Except Misuse Store := do
  checkUrl properties
  return { properties, assembler := ← assemblerOf properties alphabet }

def url (store : Store) : Value := store.properties.url

/-- The name of the key field. -/
def key (store : Store) : Value :=
  if store.properties.key.truthy then store.properties.key else .text "id"

/-- The address of a listing: the resource and, if there is one, a query. -/
def listingUrl (store : Store) (query : String) : Value :=
  if query.isEmpty then store.url else .text (store.url.plainForm ++ "?" ++ query)

/-- The characters of a key that stand for themselves in an address. -/
def isKeySafe (character : Char) : Bool :=
  Percent.isUnreserved character || ['!', '~', '*', '\'', '(', ')'].contains character

def withoutTrailingSlashes (address : String) : String :=
  String.ofList ((address.toList.reverse.dropWhile (· == '/')).reverse)

/-- The encoded text of a key, if it has a text and this has an encoding. -/
def encodedKey (store : Store) (key : Value) : Except Misuse String := do
  let shown ← key.display
  if store.assembler.alphabet.encodes shown then return Percent.encode isKeySafe shown
  else .error .notEncodable

/-- The address of a record: the resource without trailing slashes, a slash and
the encoded text of the key. -/
def recordUrl (store : Store) (key : Value) : Except Misuse Value :=
  match store.url with
  | .text address => do
      let segment ← store.encodedKey key
      return .text (withoutTrailingSlashes address ++ "/" ++ segment)
  | _ => .error .lacksOperation

/-- The load options that ask for one key. -/
def keyOptions (store : Store) (key : Value) : LoadOptions :=
  { LoadOptions.default with filter := .list [store.key, .text "=", key] }

def listing (store : Store) (options : LoadOptions) : Except StoreError Request :=
  match (store.assembler.query options).outcome with
  | .ok query => .ok ⟨"GET", store.listingUrl query, none⟩
  | .error failure => .error (.compile failure)

def liftMisuse {α : Type} (outcome : Except Misuse α) : Except StoreError α :=
  outcome.mapError .misuse

/-- The one request an operation sends. -/
def plan (store : Store) : Operation → Except StoreError Request
  | .load options => do
      store.listing (← liftMisuse options.resolve)
  | .byKey key => store.listing (store.keyOptions key)
  | .totalCount options => do
      store.listing ((← liftMisuse options.resolve).withTake (.int 1))
  | .insert values => do
      let members ← liftMisuse values.toMembers
      return ⟨"POST", store.url, some (.object members)⟩
  | .update key values => do
      let address ← liftMisuse (store.recordUrl key)
      let members ← liftMisuse values.toMembers
      return ⟨"PATCH", address, some (.object members)⟩
  | .remove key => do
      let address ← liftMisuse (store.recordUrl key)
      return ⟨"DELETE", address, none⟩

/-- The total of an envelope; a boolean counts as an integer. -/
def readTotal (store : Store) (body : Value) : Except Report Value :=
  match body.field? "total" with
  | some (.int total) => .ok (.int total)
  | some (.bool total) => .ok (.bool total)
  | _ =>
      .error (.responseFormat "Expected an envelope with an integer 'total'"
        (.record [("url", store.url)]))

/-- What an operation makes of the body of a successful response. -/
def readBody (store : Store) (operation : Operation) (body : Value) : Except Report Value :=
  match operation with
  | .load _ | .byKey _ => (Page.ofBody body).map Page.toValue
  | .totalCount _ => store.readTotal body
  | .insert _ | .update .. | .remove _ => .ok body

/-- What a client answers. -/
abbrev Outcome := Except Failure Response

def event? (request : Request) : Outcome → Option LogEvent
  | .ok response => some (.answered request.method request.url response.status)
  | .error failure =>
      if failure.kind.isIncomplete then some (.failed request.method request.url failure)
      else none

/-- The result of an operation once its request is answered. -/
def finish (store : Store) (operation : Operation) (request : Request) :
    Outcome → Except StoreError Value
  | .ok response =>
      ((response.read store.assembler.alphabet request.method request.url).bind
        (store.readBody operation)).mapError .report
  | .error failure =>
      if failure.kind.isIncomplete then
        .error (.report (.transport (.text request.method) request.url failure.reason
          (some failure.kind.name)))
      else .error (.leaked failure)

end Store

end GridSource
