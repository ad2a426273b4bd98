import GridSource.Proofs.Json.RoundTrip
import GridSource.Proofs.Store.Classification

/-!
# The total of a page and the total of a count

The same envelope answers a load and a count.  A page takes its total from the envelope as it
stands there, whatever kind of value it is, and a count takes integers and booleans only.  So both
answer with the same integer exactly where the envelope says an integer.
-/

namespace GridSource

/-- The kinds of total that a count accepts. -/
inductive Value.IsCounted : Value → Prop where
  | int (number : Int) : IsCounted (.int number)
  | bool (flag : Bool) : IsCounted (.bool flag)

/-- A count accepts an envelope for its total. -/
theorem Operation.accepts_totalCount_iff {options : GivenOptions} {members : Members}
    {total value : Value} (htotal : Members.named? members "total" = some total) :
    (totalCount options).Accepts (.object members) value ↔ value = total ∧ total.IsCounted := by
  constructor
  · intro haccepts
    cases haccepts with
    | totalInteger _ hfound | totalFlag _ hfound =>
        obtain rfl := Option.some.inj (htotal.symm.trans hfound)
        exact ⟨rfl, by constructor⟩
  · rintro ⟨rfl, hcounted⟩
    cases hcounted with
    | int number => exact .totalInteger options htotal
    | bool flag => exact .totalFlag options htotal

/-- A load accepts an envelope with data, whatever its total is. -/
theorem Operation.accepts_load_iff {options : GivenOptions} {members : Members}
    {items : List Value} {value : Value}
    (hdata : Members.named? members "data" = some (.list items)) :
    (load options).Accepts (.object members) value ↔
      value = Page.toValue ⟨.list items, (Members.named? members "total").getD .null⟩ := by
  constructor
  · intro haccepts
    cases haccepts with
    | load _ hpage =>
        cases hpage with
        | envelope hfound =>
            obtain ⟨rfl⟩ := hdata.symm.trans hfound
            rfl
  · rintro rfl
    exact .load options (.envelope hdata)

/-- A body has the value that its characters are read as. -/
theorem Json.readBytes?_of_read {alphabet : Alphabet} {body : List UInt8}
    {characters : List Char} {value : Value} (hcharacters : decode body alphabet = some characters)
    (hvalue : read characters alphabet = .ok value) : readBytes? body alphabet = some value := by
  have hwhole : readWhole characters alphabet = .ok value := by
    rw [read.eq_def] at hvalue
    split at hvalue
    · contradiction
    · exact Outcome.mapError_eq_ok_iff.mp hvalue
  rw [readBytes?, hcharacters]
  exact congrArg Except.toOption hwhole

namespace Session

/-- The request of an operation is made, and the answer is a success with some body. -/
def AnsweredWith (session : Session) (operation : Operation) (script : Script)
    (body : List UInt8) : Prop :=
  ∃ planned call response, session.request operation = .ok (planned, call) ∧
    Client.receive call (script.outcomeAt 0) = .ok (.ok response) ∧
    response.status = 200 ∧ response.body = body

variable {session : Session} {operation : Operation} {script : Script} {body : List UInt8}
  {content : Value}

/-- What an operation makes of a body that has a value. -/
theorem AnsweredWith.result (hanswered : session.AnsweredWith operation script body)
    (hopen : session.closed = false)
    (hcontent : Json.readBytes? body session.store.assembler.alphabet = some content) :
    (session.run operation script).1.result =
      (session.store.readBody operation content).mapError .report := by
  obtain ⟨planned, call, response, hrequest, hreceived, hstatus, rfl⟩ := hanswered
  have hread : response.read session.store.assembler.alphabet planned.method planned.url =
      .ok content := by
    have hsuccess : 200 ≤ response.status ∧ response.status < 300 := by omega
    have hsome : response.body ≠ [] := by
      intro hempty
      have hnone : Json.readBytes? [] session.store.assembler.alphabet = none := rfl
      rw [← hempty, hcontent] at hnone
      contradiction
    exact ((Response.read_of_success hsuccess).1 content).mpr (.decoded hsome hcontent)
  rw [run_of_ok hrequest hopen, exchange_result hreceived, hread]
  rfl

/-- A load and a count that are answered with the same envelope both give its total as an integer
exactly if it is one.  The load gives the total as it is, and the count refuses everything but
integers and booleans. -/
theorem run_totals_iff {shown counted : GivenOptions} {first second : Script} {members : Members}
    {items : List Value} {total : Value} (hopen : session.closed = false)
    (hload : session.AnsweredWith (.load shown) first body)
    (hcount : session.AnsweredWith (.totalCount counted) second body)
    (hbody : Json.readBytes? body session.store.assembler.alphabet = some (.object members))
    (hdata : Members.named? members "data" = some (.list items))
    (htotal : Members.named? members "total" = some total) :
    let page := (session.run (.load shown) first).1.result
    let count := (session.run (.totalCount counted) second).1.result
    ((∃ number, page = .ok (Page.toValue ⟨.list items, .int number⟩) ∧
        count = .ok (.int number)) ↔ ∃ number, total = .int number) ∧
      page = .ok (Page.toValue ⟨.list items, total⟩) ∧
      (∀ value, count = .ok value ↔ value = total ∧ total.IsCounted) ∧
      (¬ total.IsCounted →
        ∃ report, count = .error (.report report) ∧ report.family = .responseFormat) := by
  intro page count
  have hpageRead :
      page = (session.store.readBody (.load shown) (.object members)).mapError .report :=
    hload.result hopen hbody
  have hcountRead :
      count = (session.store.readBody (.totalCount counted) (.object members)).mapError .report :=
    hcount.result hopen hbody
  have hpage : page = .ok (Page.toValue ⟨.list items, total⟩) := by
    rw [hpageRead, Outcome.mapError_eq_ok_iff, Store.readBody_eq_ok_iff,
      Operation.accepts_load_iff hdata, htotal]
    rfl
  have hvalue (value : Value) : count = .ok value ↔ value = total ∧ total.IsCounted := by
    rw [hcountRead, Outcome.mapError_eq_ok_iff, Store.readBody_eq_ok_iff,
      Operation.accepts_totalCount_iff htotal]
  refine ⟨?_, hpage, hvalue, fun hrefused => ?_⟩
  · constructor
    · rintro ⟨number, -, hnumber⟩
      exact ⟨number, ((hvalue _).mp hnumber).1.symm⟩
    · rintro ⟨number, rfl⟩
      exact ⟨number, hpage, (hvalue _).mpr ⟨rfl, .int number⟩⟩
  · cases hread : session.store.readBody (.totalCount counted) (.object members) with
    | ok value =>
        rw [Store.readBody_eq_ok_iff, Operation.accepts_totalCount_iff htotal] at hread
        exact absurd hread.2 hrefused
    | error report =>
        refine ⟨report, ?_, Store.readBody_family hread⟩
        rw [hcountRead, hread]
        rfl

/-- The body `{"data":[],"total":5}`. -/
def numberedEnvelope : List UInt8 :=
  [123, 34, 100, 97, 116, 97, 34, 58, 91, 93, 44, 34, 116, 111, 116, 97, 108, 34, 58, 53, 125]

/-- The body `{"data":[],"total":"5"}`. -/
def writtenEnvelope : List UInt8 :=
  [123, 34, 100, 97, 116, 97, 34, 58, 91, 93, 44, 34, 116, 111, 116, 97, 108, 34, 58, 34, 53, 34,
    125]

def serving (body : List UInt8) : Script := ⟨[], .ok ⟨200, body, "OK"⟩⟩

theorem userSession_answeredWith_load (body : List UInt8) :
    userSession.AnsweredWith (.load (.raw .null)) (serving body) body :=
  ⟨⟨"GET", .text "http://x/users", none⟩, _, ⟨200, body, "OK"⟩, rfl, rfl, rfl, rfl⟩

theorem userSession_answeredWith_count (body : List UInt8) :
    userSession.AnsweredWith (.totalCount (.raw .null)) (serving body) body :=
  ⟨⟨"GET", .text "http://x/users?limit=1", none⟩, _, ⟨200, body, "OK"⟩, rfl, rfl, rfl, rfl⟩

/-- The bodies are read as what they were written from. -/
theorem readBytes?_envelope {total : Value} (htotal : total.IsPlain) {body : List UInt8}
    {written : String}
    (hwritten : Json.write .search (.record [("data", .list []), ("total", total)]) = .ok written)
    (hbody : Json.decode body = some written.toList) :
    Json.readBytes? body = some (.record [("data", .list []), ("total", total.asArrays)]) := by
  have hplain : (Value.record [("data", .list []), ("total", total)]).IsPlain := by
    apply Value.IsPlain.object (by simp)
    intro entry hentry
    simp only [List.mem_cons, List.not_mem_nil, or_false] at hentry
    rcases hentry with rfl | rfl
    · exact .list (by simp)
    · exact htotal
  exact Json.readBytes?_of_read hbody (Json.read_write hplain hwritten)

theorem run_totals_iff_number :
    (∃ number, (userSession.run (.load (.raw .null)) (serving numberedEnvelope)).1.result =
        .ok (Page.toValue ⟨.list [], .int number⟩) ∧
      (userSession.run (.totalCount (.raw .null)) (serving numberedEnvelope)).1.result =
        .ok (.int number)) := by
  have hbody : Json.readBytes? numberedEnvelope =
      some (.record [("data", .list []), ("total", .int 5)]) :=
    readBytes?_envelope (.int 5) rfl (by decide +kernel)
  obtain ⟨hagree, -⟩ := run_totals_iff rfl (userSession_answeredWith_load numberedEnvelope)
    (userSession_answeredWith_count numberedEnvelope) hbody rfl rfl
  exact hagree.mpr ⟨5, rfl⟩

/-- A total that is a text is shown with the page and not accepted as a count. -/
theorem run_totals_of_text :
    (userSession.run (.load (.raw .null)) (serving writtenEnvelope)).1.result =
        .ok (Page.toValue ⟨.list [], .text "5"⟩) ∧
      ∃ report, (userSession.run (.totalCount (.raw .null)) (serving writtenEnvelope)).1.result =
        .error (.report report) ∧
          report.message = "Expected an envelope with an integer 'total'" := by
  have hbody : Json.readBytes? writtenEnvelope =
      some (.record [("data", .list []), ("total", .text "5")]) :=
    readBytes?_envelope (.text "5") rfl (by decide +kernel)
  have hload := (userSession_answeredWith_load writtenEnvelope).result rfl hbody
  have hcount := (userSession_answeredWith_count writtenEnvelope).result rfl hbody
  exact ⟨hload, _, hcount, rfl⟩

end Session

end GridSource
