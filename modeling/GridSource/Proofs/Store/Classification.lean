import GridSource.Proofs.Json.Documents
import GridSource.Proofs.Store.Requests

/-!
# Classification of responses

Three layers decide what an operation makes of a response: the status, the value of
the body, and the shape of that value.  A success whose body has a value of the right
shape gives a result, any other success a report on the format, and every other status
a report with that status, the value of the body and a message that is not empty.
-/

namespace GridSource

/-! ## The value of a body -/

namespace Response

/-- An empty body has the value null, any other one the value that its bytes decode to. -/
inductive Carries (response : Response) (alphabet : Alphabet) : Value → Prop where
  | empty (hbody : response.body = []) : Carries response alphabet .null
  | decoded {value : Value} (hbody : response.body ≠ [])
      (hvalue : Json.readBytes? response.body alphabet = some value) :
      Carries response alphabet value

variable {response : Response} {alphabet : Alphabet}

theorem carries_iff {value : Value} :
    response.Carries alphabet value ↔
      (if response.body.isEmpty then some .null else response.value? alphabet) = some value := by
  constructor
  · intro hcarries
    cases hcarries with
    | empty hbody => simp [hbody]
    | decoded hbody hvalue => simpa [hbody, value?] using hvalue
  · intro hvalue
    by_cases hbody : response.body = []
    · obtain rfl : Value.null = value := by simpa [hbody] using hvalue
      exact .empty hbody
    · exact .decoded hbody (by simpa [hbody, value?] using hvalue)

/-- A body has one value at most. -/
theorem Carries.unique {first second : Value} (hfirst : response.Carries alphabet first)
    (hsecond : response.Carries alphabet second) : first = second := by
  rw [carries_iff] at hfirst hsecond
  exact Option.some.inj (hfirst.symm.trans hsecond)

end Response

/-! ## The shape of a body -/

/-- A list is a page of all there is; an envelope says its total, or does not. -/
inductive Page.IsOf : Page → Value → Prop where
  | list (items : List Value) : IsOf ⟨.list items, .int items.length⟩ (.list items)
  | envelope {members : Members} {items : List Value}
      (hdata : Members.named? members "data" = some (.list items)) :
      IsOf ⟨.list items, (Members.named? members "total").getD .null⟩ (.object members)

/-- The results of an operation by the value of the body. -/
inductive Operation.Accepts : Operation → Value → Value → Prop where
  | load (options : GivenOptions) {body : Value} {page : Page} (hpage : page.IsOf body) :
      Accepts (.load options) body page.toValue
  | byKey (key : Value) {body : Value} {page : Page} (hpage : page.IsOf body) :
      Accepts (.byKey key) body page.toValue
  | totalInteger (options : GivenOptions) {members : Members} {total : Int}
      (htotal : Members.named? members "total" = some (.int total)) :
      Accepts (.totalCount options) (.object members) (.int total)
  | totalFlag (options : GivenOptions) {members : Members} {total : Bool}
      (htotal : Members.named? members "total" = some (.bool total)) :
      Accepts (.totalCount options) (.object members) (.bool total)
  | insert (values body : Value) : Accepts (.insert values) body body
  | update (key values body : Value) : Accepts (.update key values) body body
  | remove (key body : Value) : Accepts (.remove key) body body

namespace Page

theorem ofBody_eq_ok_iff {body : Value} {page : Page} :
    ofBody body = .ok page ↔ page.IsOf body := by
  constructor
  · intro hpage
    rw [ofBody.eq_def] at hpage
    split at hpage
    · cases hpage
      exact .list _
    · split at hpage
      · rename_i hdata
        cases hpage
        exact .envelope hdata
      · contradiction
    · contradiction
  · intro hpage
    cases hpage with
    | list items => rfl
    | envelope hdata => simp only [ofBody, hdata]

theorem map_ofBody_eq_ok_iff {body value : Value} :
    (ofBody body).map toValue = .ok value ↔ ∃ page, IsOf page body ∧ page.toValue = value := by
  simp only [Outcome.map_eq_ok_iff, ofBody_eq_ok_iff]

theorem map_ofBody_family {body : Value} {report : Report}
    (hreport : (ofBody body).map toValue = .error report) : report.family = .responseFormat := by
  rw [ofBody.eq_def] at hreport
  split at hreport
  · contradiction
  · split at hreport
    · contradiction
    · cases hreport
      rfl
  · cases hreport
    rfl

end Page

namespace Store

variable {store : Store} {body value : Value} {report : Report}

theorem readTotal_eq_ok_iff (options : GivenOptions) :
    store.readTotal body = .ok value ↔ (Operation.totalCount options).Accepts body value := by
  constructor
  · intro htotal
    rw [readTotal] at htotal
    cases body with
    | object members =>
        rw [Value.field?] at htotal
        split at htotal
        · rename_i hinteger
          cases htotal
          exact .totalInteger options hinteger
        · rename_i hflag
          cases htotal
          exact .totalFlag options hflag
        · contradiction
    | _ => cases htotal
  · intro haccepts
    cases haccepts with
    | totalInteger _ htotal => simp only [readTotal, Value.field?, htotal]
    | totalFlag _ htotal => simp only [readTotal, Value.field?, htotal]

theorem readTotal_family (hreport : store.readTotal body = .error report) :
    report.family = .responseFormat := by
  rw [readTotal] at hreport
  split at hreport
  · contradiction
  · contradiction
  · cases hreport
    rfl

theorem readBody_eq_ok_iff {operation : Operation} :
    store.readBody operation body = .ok value ↔ operation.Accepts body value := by
  cases operation with
  | load options =>
      rw [readBody, Page.map_ofBody_eq_ok_iff]
      constructor
      · rintro ⟨page, hpage, rfl⟩
        exact .load options hpage
      · intro haccepts
        cases haccepts with
        | load _ hpage => exact ⟨_, hpage, rfl⟩
  | byKey key =>
      rw [readBody, Page.map_ofBody_eq_ok_iff]
      constructor
      · rintro ⟨page, hpage, rfl⟩
        exact .byKey key hpage
      · intro haccepts
        cases haccepts with
        | byKey _ hpage => exact ⟨_, hpage, rfl⟩
  | totalCount options => exact readTotal_eq_ok_iff options
  | insert values =>
      constructor
      · rintro ⟨⟩
        exact .insert values body
      · rintro ⟨⟩
        rfl
  | update key values =>
      constructor
      · rintro ⟨⟩
        exact .update key values body
      · rintro ⟨⟩
        rfl
  | remove key =>
      constructor
      · rintro ⟨⟩
        exact .remove key body
      · rintro ⟨⟩
        rfl

theorem readBody_family {operation : Operation}
    (hreport : store.readBody operation body = .error report) :
    report.family = .responseFormat := by
  cases operation with
  | load options => exact Page.map_ofBody_family hreport
  | byKey key => exact Page.map_ofBody_family hreport
  | totalCount options => exact readTotal_family hreport
  | insert values => contradiction
  | update key values => contradiction
  | remove key => contradiction

end Store

/-! ## The message of a report -/

namespace Response

/-- The text of several messages, and any other value as it is. -/
def joined : Value → Value
  | .list items => .text (joinTexts items)
  | value => value

/-- The values that a payload names for a message, the better one first. -/
def spoken (payload : Value) : List Value :=
  ((payload.field? "message").map joined).toList ++ (payload.field? "error").toList

/-- What may serve as the message of a failed response, best first. -/
def candidates (response : Response) (payload : Value) : List Value :=
  spoken payload ++ [.text response.reason, .text ("HTTP " ++ toString response.status)]

variable {response : Response} {alphabet : Alphabet} {method : String} {url : Value}

theorem read_of_success (hsuccess : 200 ≤ response.status ∧ response.status < 300) :
    (∀ value, response.read alphabet method url = .ok value ↔ response.Carries alphabet value) ∧
      ∀ report, response.read alphabet method url = .error report →
        report.family = .responseFormat := by
  have hsucceeded : response.succeeded = true := decide_eq_true hsuccess
  simp only [read, hsucceeded, carries_iff]
  cases hbody : response.body.isEmpty with
  | true => simp
  | false =>
      cases response.value? alphabet with
      | some found => simp
      | none =>
          refine ⟨by simp, fun report hreport => ?_⟩
          cases hreport
          rfl

end Response

namespace Session

theorem exchange_result {session : Session} {operation : Operation} {planned : Request}
    {call : Call} {outcome : Store.Outcome} {response : Response}
    (hreceived : Client.receive call outcome = .ok (.ok response)) :
    (session.exchange operation planned call outcome).result =
      (response.read session.store.assembler.alphabet planned.method planned.url >>=
        session.store.readBody operation).mapError .report := by
  rw [exchange, hreceived]
  rfl

end Session

end GridSource
