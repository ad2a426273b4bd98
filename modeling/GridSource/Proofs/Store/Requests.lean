import GridSource.Proofs.Outcome
import GridSource.Store.Session

/-!
# One request per operation

A session over a given client remembers nothing.  Whatever steps it has taken,
the next operation sends the one request that its store plans for it, or none when
there is nothing to send; that request takes the next outcome of the script and is
noted once, unless a failure is passed on.  Entering, leaving and closing send
nothing, and the client stays open.
-/

namespace GridSource

namespace Script

/-- What a call gets after a number of other calls. -/
def outcomeAt (script : Script) (calls : Nat) : Store.Outcome :=
  script.outcomes.getD calls script.afterwards

/-- What is left of the script after a number of calls. -/
def after (script : Script) (calls : Nat) : Script :=
  { script with outcomes := script.outcomes.drop calls }

theorem next_eq (script : Script) : script.next = (script.outcomeAt 0, script.after 1) := by
  obtain ⟨outcomes, afterwards⟩ := script
  cases outcomes <;> rfl

@[simp]
theorem after_zero (script : Script) : script.after 0 = script := rfl

@[simp]
theorem after_after (script : Script) (first second : Nat) :
    (script.after first).after second = script.after (first + second) := by
  simp [after]

@[simp]
theorem outcomeAt_after (script : Script) (first second : Nat) :
    (script.after first).outcomeAt second = script.outcomeAt (first + second) := by
  simp [after, outcomeAt]

end Script

namespace History

/-- The calls of all exchanges. -/
def calls (history : History) : List Call := history.exchanges.flatMap Exchange.calls

/-- The number of calls that were made. -/
def sent (history : History) : Nat := history.calls.length

end History

namespace Session

/-- The request of an operation and the call that the client makes of it. -/
def request (session : Session) (operation : Operation) : Except StoreError (Request × Call) := do
  let request ← session.store.plan operation
  let call ← session.client.prepare request
  return (request, call)

/-- What one step comes to when `outcome` is the next one of the script. -/
inductive Answers (session : Session) (outcome : Store.Outcome) :
    SessionStep → Exchange → Prop where
  | enter : Answers session outcome .enter silent
  | leave : Answers session outcome .leave silent
  | close : Answers session outcome .close silent
  /-- Nothing is sent when there is no request to send. -/
  | unsent {operation : Operation} {failure : StoreError}
      (hrequest : session.request operation = .error failure) :
      Answers session outcome (.operate operation) (failed failure)
  | answered {operation : Operation} {request : Request} {call : Call} {response : Response}
      (hrequest : session.request operation = .ok (request, call))
      (hreceived : Client.receive call outcome = .ok (.ok response))
      (result : Except StoreError Value) :
      Answers session outcome (.operate operation)
        ⟨[call], [.answered request.method request.url response.status], result⟩
  | incomplete {operation : Operation} {request : Request} {call : Call} {failure : Failure}
      (hrequest : session.request operation = .ok (request, call))
      (hreceived : Client.receive call outcome = .ok (.error failure))
      (hkind : failure.kind.isIncomplete = true) (result : Except StoreError Value) :
      Answers session outcome (.operate operation)
        ⟨[call], [.failed request.method request.url failure], result⟩
  /-- A failure of any other kind is passed on and not noted. -/
  | leaked {operation : Operation} {request : Request} {call : Call} {failure : Failure}
      (hrequest : session.request operation = .ok (request, call))
      (hreceived : Client.receive call outcome = .ok (.error failure))
      (hkind : failure.kind.isIncomplete = false) :
      Answers session outcome (.operate operation) ⟨[call], [], .error (.leaked failure)⟩
  | refused {operation : Operation} {request : Request} {call : Call} {failure : StoreError}
      (hrequest : session.request operation = .ok (request, call))
      (hreceived : Client.receive call outcome = .error failure) :
      Answers session outcome (.operate operation) ⟨[call], [], .error failure⟩

variable {session : Session}

/-! ## One step -/

theorem run_of_error {operation : Operation} {failure : StoreError}
    (hrequest : session.request operation = .error failure) (script : Script) :
    session.run operation script = (failed failure, script) := by
  rw [request] at hrequest
  rw [run]
  rcases Outcome.bind_eq_error_iff.mp hrequest with hplan | ⟨planned, hplan, hprepare⟩
  · rw [hplan]
  · rw [hplan]
    rcases Outcome.bind_eq_error_iff.mp hprepare with hprepared | ⟨call, -, hreturned⟩
    · simp only [hprepared]
    · contradiction

theorem run_of_ok {operation : Operation} {planned : Request} {call : Call}
    (hrequest : session.request operation = .ok (planned, call)) (hopen : session.closed = false)
    (script : Script) :
    session.run operation script =
      (session.exchange operation planned call (script.outcomeAt 0), script.after 1) := by
  rw [request] at hrequest
  obtain ⟨request, hplan, hrequest⟩ := Outcome.bind_eq_ok_iff.mp hrequest
  obtain ⟨prepared, hprepared, hrequest⟩ := Outcome.bind_eq_ok_iff.mp hrequest
  obtain ⟨rfl, rfl⟩ := Prod.mk.inj (Except.ok.inj hrequest)
  rw [run, hplan]
  simp only [hprepared, hopen, script.next_eq]
  rfl

theorem exchange_answers {operation : Operation} {planned : Request} {call : Call}
    (hrequest : session.request operation = .ok (planned, call)) (outcome : Store.Outcome) :
    session.Answers outcome (.operate operation)
      (session.exchange operation planned call outcome) := by
  rw [exchange]
  cases hreceived : Client.receive call outcome with
  | error failure => exact .refused hrequest hreceived
  | ok received =>
      cases received with
      | ok response => exact .answered hrequest hreceived _
      | error failure =>
          cases hkind : failure.kind.isIncomplete with
          | true =>
              have hevents : (Store.event? planned (.error failure)).toList =
                  [.failed planned.method planned.url failure] := by
                rw [Store.event?, if_pos hkind]
                rfl
              simp only [hevents]
              exact .incomplete hrequest hreceived hkind _
          | false =>
              have hevents : (Store.event? planned (.error failure)).toList = [] := by
                rw [Store.event?, hkind, if_neg Bool.false_ne_true]
                rfl
              have hresult : session.store.finish operation planned (.error failure) =
                  .error (.leaked failure) := by
                rw [Store.finish, hkind, if_neg Bool.false_ne_true]
              simp only [hevents, hresult]
              exact .leaked hrequest hreceived hkind

/-- Over the plain client, what is sent is what is planned. -/
theorem calls_run_plain_iff (hplain : session.client = .plain) (hopen : session.closed = false)
    (operation : Operation) (script : Script) {planned : Request} :
    (session.run operation script).1.calls = [.plain planned] ↔
      session.store.plan operation = .ok planned := by
  cases hplan : session.store.plan operation with
  | error failure =>
      have hrequest : session.request operation = .error failure := by
        rw [request, hplan]
        rfl
      rw [run_of_error hrequest]
      exact iff_of_false (fun h => nomatch h) (fun h => nomatch h)
  | ok sent =>
      have hrequest : session.request operation = .ok (sent, .plain sent) := by
        rw [request, hplan, hplain]
        rfl
      have hcalls : (session.exchange operation sent (.plain sent) (script.outcomeAt 0)).calls =
          [.plain sent] := rfl
      rw [run_of_ok hrequest hopen, hcalls]
      simp

/-- Closing leaves a given client open. -/
theorem close_of_given (hgiven : session.client.isOwned = false) : session.close = session := by
  rw [close, hgiven, Bool.or_false]

/-- What one step preserves: the session stays as it is, the step takes as many outcomes
as it makes calls, and it answers by the next one. -/
theorem step_answers (hgiven : session.client.isOwned = false) (hopen : session.closed = false)
    (script : Script) (action : SessionStep) :
    ∃ exchange, session.step script action =
        (exchange, session, script.after exchange.calls.length) ∧
      session.Answers (script.outcomeAt 0) action exchange := by
  cases action with
  | enter => exact ⟨silent, rfl, .enter⟩
  | leave =>
      refine ⟨silent, ?_, .leave⟩
      rw [step, close_of_given hgiven]
      rfl
  | close =>
      refine ⟨silent, ?_, .close⟩
      rw [step, close_of_given hgiven]
      rfl
  | operate operation =>
      cases hrequest : session.request operation with
      | error failure =>
          refine ⟨failed failure, ?_, .unsent hrequest⟩
          rw [step, run_of_error hrequest]
          rfl
      | ok prepared =>
          obtain ⟨planned, call⟩ := prepared
          have hcalls : (session.exchange operation planned call (script.outcomeAt 0)).calls =
              [call] := by
            rw [exchange]
            split <;> rfl
          refine ⟨_, ?_, exchange_answers hrequest _⟩
          rw [step, run_of_ok hrequest hopen, hcalls]
          rfl

/-! ## Whole runs -/

theorem play_cons {script left : Script} {action : SessionStep} {exchange : Exchange}
    {next : Session} (hstep : session.step script action = (exchange, next, left))
    (actions : List SessionStep) :
    session.play script (action :: actions) =
      { next.play left actions with
        exchanges := exchange :: (next.play left actions).exchanges } := by
  rw [play, hstep]

/-- What a run preserves, and one exchange for each step. -/
theorem play_preserves (hgiven : session.client.isOwned = false) (hopen : session.closed = false)
    (script : Script) (actions : List SessionStep) :
    (session.play script actions).session = session ∧
      (session.play script actions).script = script.after (session.play script actions).sent ∧
      (session.play script actions).exchanges.length = actions.length := by
  induction actions generalizing script with
  | nil => exact ⟨rfl, rfl, rfl⟩
  | cons action actions ih =>
      obtain ⟨exchange, hstep, -⟩ := step_answers hgiven hopen script action
      obtain ⟨hsession, hscript, hlength⟩ := ih (script.after exchange.calls.length)
      rw [play_cons hstep]
      refine ⟨hsession, ?_, ?_⟩
      · simpa [History.sent, History.calls] using hscript
      · simpa using hlength

/-- A run goes on from what its first part leaves behind. -/
theorem exchanges_append (session : Session) (script : Script) (before later : List SessionStep) :
    (session.play script (before ++ later)).exchanges =
      (session.play script before).exchanges ++
        ((session.play script before).session.play
          (session.play script before).script later).exchanges := by
  induction before generalizing session script with
  | nil => rfl
  | cons action before ih =>
      rcases hstep : session.step script action with ⟨exchange, next, left⟩
      rw [List.cons_append, play_cons hstep, play_cons hstep]
      exact congrArg (exchange :: ·) (ih next left)

/-- A store that is started over a given client is open and has its assembler from its
properties. -/
theorem start_given {properties : StoreProperties} {client : Client} {alphabet : Alphabet}
    (hstart : start properties (some client) alphabet = .ok session) :
    session.client = client ∧ session.closed = false ∧
      session.store.properties = properties ∧
      Store.assemblerOf properties alphabet = .ok session.store.assembler := by
  rw [start] at hstart
  obtain ⟨-, -, hstart⟩ := Outcome.bind_eq_ok_iff.mp hstart
  simp only [Outcome.ok_bind] at hstart
  obtain ⟨store, hstore, hstart⟩ := Outcome.bind_eq_ok_iff.mp hstart
  obtain rfl := Except.ok.inj hstart
  rw [Store.create] at hstore
  obtain ⟨-, -, hstore⟩ := Outcome.bind_eq_ok_iff.mp hstore
  obtain ⟨assembler, hassembler, hstore⟩ := Outcome.bind_eq_ok_iff.mp hstore
  obtain rfl := Except.ok.inj hstore
  exact ⟨rfl, rfl, rfl, hassembler⟩

/-- Every step of a run over a given client has its exchange, which depends on the session
that was started, on the step and on the next outcome, but on nothing that came before. -/
theorem play_requests {properties : StoreProperties} {client : Client} {alphabet : Alphabet}
    (hgiven : client.isOwned = false)
    (hstart : start properties (some client) alphabet = .ok session)
    (script : Script) (actions : List SessionStep) :
    (session.play script actions).session = session ∧ session.closed = false ∧
      (session.play script actions).script = script.after (session.play script actions).sent ∧
      (session.play script actions).exchanges.length = actions.length ∧
      ∀ before action later, actions = before ++ action :: later →
        ∃ exchange others,
          (session.play script actions).exchanges =
            (session.play script before).exchanges ++ exchange :: others ∧
          session.Answers (script.outcomeAt (session.play script before).sent) action exchange := by
  obtain ⟨hclient, hopen, -, -⟩ := start_given hstart
  rw [← hclient] at hgiven
  obtain ⟨hsession, hscript, hlength⟩ := play_preserves hgiven hopen script actions
  refine ⟨hsession, hopen, hscript, hlength, ?_⟩
  rintro before action later rfl
  obtain ⟨hbefore, hleft, -⟩ := play_preserves hgiven hopen script before
  obtain ⟨exchange, hstep, hanswers⟩ :=
    step_answers hgiven hopen (script.after (session.play script before).sent) action
  rw [Script.outcomeAt_after, Nat.add_zero] at hanswers
  have hexchanges := session.exchanges_append script before (action :: later)
  rw [hbefore, hleft, play_cons hstep] at hexchanges
  exact ⟨exchange, _, hexchanges, hanswers⟩

def userProperties : StoreProperties :=
  { StoreProperties.default with url := .text "http://x/users" }

def userSession : Session :=
  { store := { properties := userProperties
               assembler := { Assembler.default with join := .tuple [] } }
    client := .plain
    closed := false }

/-- An answer, a broken connection, and too many redirects ever after. -/
def mixedScript : Script :=
  { outcomes := [.ok ⟨500, [], ""⟩, .error ⟨.connect, "refused"⟩]
    afterwards := .error ⟨.tooManyRedirects, ""⟩ }

/-- The second operation has nothing to send. -/
def mixedActions : List SessionStep :=
  [.operate (.load (.ready LoadOptions.default)), .close, .operate (.insert (.int 5)), .enter,
    .operate (.remove (.int 7)), .leave, .operate (.remove (.int 7))]

theorem play_requests_mixed :
    start userProperties (some .plain) = .ok userSession ∧
      (userSession.play mixedScript mixedActions).session = userSession ∧
      (userSession.play mixedScript mixedActions).script = mixedScript.after 3 ∧
      (userSession.play mixedScript mixedActions).exchanges.map
          (fun exchange => (exchange.calls.length, exchange.events.map LogEvent.name)) =
        [(1, ["crud_request"]), (0, []), (0, []), (0, []), (1, ["crud_request_failed"]), (0, []),
          (1, [])] ∧
      ∃ exchange ∈ (userSession.play mixedScript mixedActions).exchanges,
        userSession.Answers (.error ⟨.tooManyRedirects, ""⟩) (.operate (.remove (.int 7)))
          exchange := by
  have hstart : start userProperties (some .plain) = .ok userSession := rfl
  obtain ⟨hsession, -, hscript, -, hsteps⟩ := play_requests rfl hstart mixedScript mixedActions
  have hsent : (userSession.play mixedScript mixedActions).sent = 3 := rfl
  rw [hsent] at hscript
  obtain ⟨exchange, others, hexchanges, hanswers⟩ :=
    hsteps (mixedActions.take 6) (.operate (.remove (.int 7))) [] rfl
  refine ⟨hstart, hsession, hscript, rfl, exchange, ?_, hanswers⟩
  rw [hexchanges]
  exact List.mem_append_right _ List.mem_cons_self

end Session

end GridSource
