import GridSource.Store.Client

/-!
# Sessions

A session is a store with its client.  Running an operation makes one call or
none, takes one outcome for each call, and notes one event for each call that is
answered or not completed.  Closing closes a client the store made for itself
and leaves a given one open.  A caller takes one step after the other: operations
in any order, with entering, leaving and closing between them.
-/

namespace GridSource

/-- The outcomes of the calls to come: a list, and what every later call gets. -/
structure Script where
  outcomes : List Store.Outcome
  afterwards : Store.Outcome

def Script.next (script : Script) : Store.Outcome × Script :=
  match script.outcomes with
  | first :: rest => (first, { script with outcomes := rest })
  | [] => (script.afterwards, script)

/-- What an operation did: the calls it made, the events it noted and its
result. -/
structure Exchange where
  calls : List Call
  events : List LogEvent
  result : Except StoreError Value

structure Session where
  store : Store
  client : Client
  closed : Bool

/-- What a caller does with a session. -/
inductive SessionStep where
  | operate (operation : Operation)
  | enter
  | leave
  | close

/-- What came of a run of steps: one exchange for each of them, the session and the
script they leave behind. -/
structure History where
  exchanges : List Exchange
  session : Session
  script : Script

namespace Session

/-- A store over a given client, or over a client of its own. -/
def start (properties : StoreProperties) (given : Option Client)
    (alphabet : Alphabet := .unicode) : Except Misuse Session := do
  Store.checkUrl properties
  let client ←
    match given with
    | some client => Except.ok client
    | none => Client.make properties alphabet
  let store ← Store.create properties alphabet
  return { store, client, closed := false }

def failed (failure : StoreError) : Exchange :=
  { calls := [], events := [], result := .error failure }

/-- Makes a call and reads its outcome. -/
def exchange (session : Session) (operation : Operation) (request : Request) (call : Call)
    (outcome : Store.Outcome) : Exchange :=
  match Client.receive call outcome with
  | .error failure => { calls := [call], events := [], result := .error failure }
  | .ok outcome =>
      { calls := [call]
        events := (Store.event? request outcome).toList
        result := session.store.finish operation request outcome }

def run (session : Session) (operation : Operation) (script : Script) : Exchange × Script :=
  match session.store.plan operation with
  | .error failure => (failed failure, script)
  | .ok request =>
      match session.client.prepare request with
      | .error failure => (failed failure, script)
      | .ok call =>
          if session.closed then (failed (.refused .runtime), script)
          else
            let (outcome, rest) := script.next
            (session.exchange operation request call outcome, rest)

/-- Closes a client of the store's own. -/
def close (session : Session) : Session :=
  { session with closed := session.closed || session.client.isOwned }

/-- An exchange without a request. -/
def silent : Exchange := { calls := [], events := [], result := .ok .null }

/-- Takes one step.  Entering changes nothing, and leaving closes. -/
def step (session : Session) (script : Script) : SessionStep → Exchange × Session × Script
  | .operate operation =>
      let (exchange, rest) := session.run operation script
      (exchange, session, rest)
  | .enter => (silent, session, script)
  | .leave | .close => (silent, session.close, script)

/-- Takes one step after the other. -/
def play (session : Session) (script : Script) : List SessionStep → History
  | [] => { exchanges := [], session, script }
  | first :: rest =>
      let (exchange, next, left) := session.step script first
      let history := next.play left rest
      { history with exchanges := exchange :: history.exchanges }

end Session

end GridSource
