import GridSource.Proofs.Store.Requests

/-!
# What a client raises

A client that is asked for a request may raise a failure instead of answering: it cannot
make the call, it is closed, or the call fails.  Failures of the transport and of the
operating system become a report that names the request, the failure and a reason, whatever
the operation is.  Every other failure passes through the operation as it is.  Among those
are too many redirects, an answer that cannot be decoded and an address that is none.
-/

namespace GridSource

namespace FailureKind

/-- The kinds of failure that a request may meet on its way. -/
def isOfRequest (kind : FailureKind) : Bool :=
  kind.isIncomplete || kind == .tooManyRedirects || kind == .decoding || kind == .invalidUrl

theorem isIncomplete_eq_false_iff {kind : FailureKind} (hkind : kind.isOfRequest = true) :
    kind.isIncomplete = false ↔
      kind = .tooManyRedirects ∨ kind = .decoding ∨ kind = .invalidUrl := by
  constructor
  · intro hcomplete
    simpa [isOfRequest, hcomplete, or_assoc] using hkind
  · rintro (rfl | rfl | rfl) <;> rfl

end FailureKind

/-- The kind of what is raised, when it is a failure of the client. -/
def StoreError.kind? : StoreError → Option FailureKind
  | .leaked failure => some failure.kind
  | .refused kind => some kind
  | _ => none

/-- The message of a failure is a reason, unless it is empty; then its name is one. -/
theorem Failure.reason_ne_empty {failure : Failure} (hname : failure.kind.name ≠ "") :
    failure.reason ≠ "" := by
  rw [Failure.reason]
  split
  · exact hname
  · next hmessage =>
      rintro hreason
      rw [hreason] at hmessage
      contradiction

/-- A report of a failure that a request met: it names the request, the failure and the
reason. -/
structure Report.Wraps (report : Report) (request : Request) (failure : Failure) : Prop where
  family : report.family = .transport
  code : report.code = .text "TRANSPORT_ERROR"
  context : report.context = .record [("method", .text request.method), ("url", request.url)]
  cause : report.detail = .cause (some failure.kind.name)
  message : ∃ reason, report.message =
      "Network error " ++ request.method ++ " " ++ request.url.plainForm ++ ": " ++ reason ∧
    (reason = failure.message ∨ failure.message = "" ∧ reason = failure.kind.name) ∧
    (failure.kind.name ≠ "" → reason ≠ "")

namespace HttpClient

variable {client : HttpClient} {request : Request}

theorem prepare_of_text {content : String} (hurl : request.url = .text content) :
    client.prepare request = do
      let address ← (client.resolve content).mapError fun _ => invalidAddress
      let body ← client.writeBody request
      return { method := request.method, address, body
               headers := Headers.sorted (client.callHeaders request) } := by
  rw [prepare, hurl]
  rfl

theorem prepare_of_no_text (hurl : ∀ content, request.url ≠ .text content) :
    client.prepare request = .error (.misuse .wrongArgument) := by
  rw [prepare]
  split
  · next content hcontent => exact absurd hcontent (hurl content)
  · rfl

theorem writeBody_eq_error {cause : StoreError}
    (hbody : client.writeBody request = .error cause) : ∃ misuse, cause = .misuse misuse := by
  rw [writeBody] at hbody
  split at hbody
  · obtain ⟨misuse, -, rfl⟩ := Outcome.mapError_eq_error_iff.mp hbody
    exact ⟨misuse, rfl⟩
  · contradiction

/-- A client refuses to make a call only when it cannot read the address. -/
theorem prepare_eq_error {cause : StoreError} (hprepare : client.prepare request = .error cause) :
    cause = .refused .invalidUrl ∨ ∃ misuse, cause = .misuse misuse := by
  by_cases htext : ∃ content, request.url = .text content
  · obtain ⟨content, hurl⟩ := htext
    rw [prepare_of_text hurl] at hprepare
    rcases Outcome.bind_eq_error_iff.mp hprepare with haddress | ⟨address, -, hprepare⟩
    · obtain ⟨fault, -, rfl⟩ := Outcome.mapError_eq_error_iff.mp haddress
      exact .inl rfl
    rcases Outcome.bind_eq_error_iff.mp hprepare with hbody | ⟨body, -, hprepare⟩
    · exact .inr (writeBody_eq_error hbody)
    · contradiction
  · rw [prepare_of_no_text (not_exists.mp htext)] at hprepare
    exact .inr ⟨_, (Except.error.inj hprepare).symm⟩

end HttpClient

theorem Client.kind_of_prepare {client : Client} {request : Request} {cause : StoreError}
    {kind : FailureKind} (hprepare : client.prepare request = .error cause)
    (hkind : cause.kind? = some kind) : kind = .invalidUrl := by
  have hcause : cause = .refused .invalidUrl ∨ ∃ misuse, cause = .misuse misuse := by
    cases client with
    | plain => contradiction
    | http http => exact HttpClient.prepare_eq_error (Outcome.map_eq_error_iff.mp hprepare)
    | owned http timeout => exact HttpClient.prepare_eq_error (Outcome.map_eq_error_iff.mp hprepare)
  rcases hcause with rfl | ⟨misuse, rfl⟩
  · exact (Option.some.inj hkind).symm
  · contradiction

namespace Store

theorem finish_of_incomplete (store : Store) (operation : Operation) (request : Request)
    {failure : Failure} (hkind : failure.kind.isIncomplete = true) :
    ∃ report, store.finish operation request (.error failure) = .error (.report report) ∧
      report.Wraps request failure := by
  refine ⟨_, by rw [finish, if_pos hkind], ?_⟩
  exact
    { family := rfl
      code := rfl
      context := rfl
      cause := rfl
      message := by
        refine ⟨failure.reason, rfl, ?_, Failure.reason_ne_empty⟩
        rw [Failure.reason]
        split
        · next hmessage => exact .inr ⟨String.isEmpty_iff.mp hmessage, rfl⟩
        · exact .inl rfl }

theorem finish_of_complete (store : Store) (operation : Operation) (request : Request)
    {failure : Failure} (hkind : failure.kind.isIncomplete = false) :
    store.finish operation request (.error failure) = .error (.leaked failure) := by
  rw [finish, hkind, if_neg Bool.false_ne_true]

end Store

namespace Session

variable {session : Session} {operation : Operation} {script : Script} {planned : Request}

/-- What the client raises when it is asked for a request, as it is passed on when nothing is
made of it. -/
inductive Raises (session : Session) (script : Script) (planned : Request) : StoreError → Prop where
  /-- The call cannot be made. -/
  | unprepared {cause : StoreError} (hprepare : session.client.prepare planned = .error cause) :
      Raises session script planned cause
  | closed {call : Call} (hprepare : session.client.prepare planned = .ok call)
      (hclosed : session.closed = true) : Raises session script planned (.refused .runtime)
  /-- The call is made, and the next outcome is a failure. -/
  | failed {call : Call} {failure : Failure} (hprepare : session.client.prepare planned = .ok call)
      (hopen : session.closed = false) (houtcome : script.outcomeAt 0 = .error failure) :
      Raises session script planned (.leaked failure)

theorem request_eq_ok {call : Call} (hplan : session.store.plan operation = .ok planned)
    (hprepare : session.client.prepare planned = .ok call) :
    session.request operation = .ok (planned, call) := by
  simp [request, hplan, hprepare, pure, Except.pure]

theorem result_of_failure {call : Call} {failure : Failure}
    (hplan : session.store.plan operation = .ok planned)
    (hprepare : session.client.prepare planned = .ok call) (hopen : session.closed = false)
    (houtcome : script.outcomeAt 0 = .error failure) :
    (session.run operation script).1.result =
      session.store.finish operation planned (.error failure) := by
  have hreceived : Client.receive call (script.outcomeAt 0) = .ok (.error failure) := by
    rw [houtcome]
    cases call <;> rfl
  rw [run_of_ok (request_eq_ok hplan hprepare) hopen]
  change (session.exchange operation planned call (script.outcomeAt 0)).result = _
  rw [exchange, hreceived]

theorem run_of_unprepared {cause : StoreError}
    (hplan : session.store.plan operation = .ok planned)
    (hprepare : session.client.prepare planned = .error cause) :
    (session.run operation script).1.result = .error cause := by
  have hrequest : session.request operation = .error cause := by
    simp [request, hplan, hprepare]
  rw [run_of_error hrequest]
  rfl

theorem run_of_closed {call : Call} (hplan : session.store.plan operation = .ok planned)
    (hprepare : session.client.prepare planned = .ok call) (hclosed : session.closed = true) :
    (session.run operation script).1.result = .error (.refused .runtime) := by
  rw [run, hplan]
  simp only [hprepare, hclosed, if_pos]
  rfl

/-- What an operation makes of a failure that its client raises. -/
theorem run_raised {raised : StoreError} {kind : FailureKind}
    (hplan : session.store.plan operation = .ok planned)
    (hraises : session.Raises script planned raised) (hkind : raised.kind? = some kind) :
    (kind.isIncomplete = true → ∃ failure report, raised = .leaked failure ∧
        (session.run operation script).1.result = .error (.report report) ∧
        report.Wraps planned failure) ∧
      (kind.isIncomplete = false → (session.run operation script).1.result = .error raised) := by
  cases hraises with
  | unprepared hprepare =>
      obtain rfl := Client.kind_of_prepare hprepare hkind
      exact ⟨(nomatch ·), fun _ => run_of_unprepared hplan hprepare⟩
  | closed hprepare hclosed =>
      obtain rfl := Option.some.inj hkind
      exact ⟨(nomatch ·), fun _ => run_of_closed hplan hprepare hclosed⟩
  | @failed call failure hprepare hopen houtcome =>
      obtain rfl := Option.some.inj hkind
      rw [result_of_failure hplan hprepare hopen houtcome]
      constructor
      · intro hincomplete
        obtain ⟨report, hfinish, hwraps⟩ :=
          session.store.finish_of_incomplete operation planned hincomplete
        exact ⟨failure, report, rfl, hfinish, hwraps⟩
      · exact session.store.finish_of_complete operation planned

/-- An operation reports what its client raises exactly when this is a failure of the
transport or of the operating system, and passes it through otherwise.  Of the failures that
a request may meet on its way, it passes through three kinds. -/
theorem run_raised_iff {raised : StoreError} {kind : FailureKind}
    (hplan : session.store.plan operation = .ok planned)
    (hraises : session.Raises script planned raised) (hkind : raised.kind? = some kind) :
    ((∃ failure report, raised = .leaked failure ∧
        (session.run operation script).1.result = .error (.report report) ∧
        report.Wraps planned failure) ↔ kind.isIncomplete = true) ∧
      ((session.run operation script).1.result = .error raised ↔ kind.isIncomplete = false) ∧
      (kind.isOfRequest = true →
        ((session.run operation script).1.result = .error raised ↔
          kind = .tooManyRedirects ∨ kind = .decoding ∨ kind = .invalidUrl)) := by
  obtain ⟨hreported, hpassed⟩ := run_raised hplan hraises hkind
  have hreported_iff : (∃ failure report, raised = .leaked failure ∧
      (session.run operation script).1.result = .error (.report report) ∧
      report.Wraps planned failure) ↔ kind.isIncomplete = true := by
    refine ⟨?_, hreported⟩
    rintro ⟨failure, report, rfl, hreport, -⟩
    by_contra hincomplete
    rw [hpassed (Bool.of_not_eq_true hincomplete)] at hreport
    simp at hreport
  have hpassed_iff : (session.run operation script).1.result = .error raised ↔
      kind.isIncomplete = false := by
    refine ⟨fun hresult => ?_, hpassed⟩
    by_contra hincomplete
    obtain ⟨failure, report, rfl, hreport, -⟩ := hreported (Bool.of_not_eq_false hincomplete)
    rw [hresult] at hreport
    simp at hreport
  exact ⟨hreported_iff, hpassed_iff, fun hfault =>
    hpassed_iff.trans (FailureKind.isIncomplete_eq_false_iff hfault)⟩

/-- A connection that breaks without a message. -/
def brokenScript : Script :=
  { outcomes := [.error ⟨.readTimeout, ""⟩], afterwards := .error ⟨.tooManyRedirects, "loop"⟩ }

def removal : Request := { method := "DELETE", url := .text "http://x/users/7", body := none }

theorem run_raised_iff_broken :
    (∃ report : Report, (userSession.run (.remove (.int 7)) brokenScript).1.result =
        .error (.report report) ∧ report.code = .text "TRANSPORT_ERROR" ∧
          report.message = "Network error DELETE http://x/users/7: ReadTimeout") ∧
      (userSession.run (.remove (.int 7)) (brokenScript.after 1)).1.result =
        .error (.leaked ⟨.tooManyRedirects, "loop"⟩) := by
  have hplan : userSession.store.plan (.remove (.int 7)) = .ok removal := rfl
  constructor
  · have hraises : userSession.Raises brokenScript removal (.leaked ⟨.readTimeout, ""⟩) :=
      .failed rfl rfl rfl
    obtain ⟨hreported, -, -⟩ := run_raised_iff hplan hraises rfl
    obtain ⟨failure, report, hraised, hresult, hwraps⟩ := hreported.mpr rfl
    obtain rfl := StoreError.leaked.inj hraised
    obtain ⟨reason, hmessage, hreason, hnonempty⟩ := hwraps.message
    have hname : reason = "ReadTimeout" := by
      rcases hreason with rfl | ⟨-, rfl⟩
      · exact absurd rfl (hnonempty (by decide))
      · rfl
    rw [hname] at hmessage
    exact ⟨report, hresult, hwraps.code, hmessage⟩
  · have hraises : userSession.Raises (brokenScript.after 1) removal
        (.leaked ⟨.tooManyRedirects, "loop"⟩) := .failed rfl rfl rfl
    obtain ⟨-, hpassed, -⟩ := run_raised_iff hplan hraises rfl
    exact hpassed.mpr rfl

/-- Too many redirects end an operation without a report. -/
theorem run_unreported_of_redirects :
    FailureKind.tooManyRedirects.isOfRequest = true ∧
      ¬ ∃ report, (userSession.run (.remove (.int 7)) (brokenScript.after 1)).1.result =
        .error (.report report) := by
  have hresult : (userSession.run (.remove (.int 7)) (brokenScript.after 1)).1.result =
      .error (.leaked ⟨.tooManyRedirects, "loop"⟩) := rfl
  refine ⟨rfl, ?_⟩
  rintro ⟨report, hreport⟩
  rw [hresult] at hreport
  simp at hreport

end Session

end GridSource
