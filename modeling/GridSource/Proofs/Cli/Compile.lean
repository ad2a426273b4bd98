import GridSource.Cli.Run
import GridSource.Proofs.Query.Unreported
import GridSource.Proofs.Url.Query
import GridSource.Store.Operation

/-!
# Compiling an object of options

The assembler with its default settings, the compile command and the load operation of a
store fail in the same way on an object of load options.  Most failures are reports on the
query; the command shows these and stops by itself.  The others pass through all three.
-/

namespace GridSource

namespace Cli.Compile

/-- A report on the query is shown, as far as its text can be. -/
theorem failure_ne_misuse {problem : CompileError} (hproblem : problem.IsReported)
    (surroundings : Surroundings) (cause : Misuse) :
    failure surroundings problem ≠ .crashed (.misuse cause) := by
  obtain ⟨report, hreport, -⟩ := hproblem
  simp only [failure, hreport]
  cases surroundings.console ("[error]" ++ report.message ++ "[/error]") <;> simp

/-- A query is written in ASCII, so every alphabet encodes it. -/
@[simp]
theorem encodes_query (alphabet : Alphabet) (builder : QueryBuilder) :
    alphabet.encodes builder.query = true :=
  alphabet.encodes_of_ascii _ <| List.all_eq_true.mpr fun _ hmem =>
    decide_eq_true (Form.toNat_lt_of_mem_encode hmem)

/-- The address of a query is written exactly when the given one can be. -/
@[simp]
theorem encodes_address (alphabet : Alphabet) (url : String) (builder : QueryBuilder) :
    alphabet.encodes (address url builder.query ++ "\n") = alphabet.encodes url := by
  have hbreak : alphabet.encodes "\n" = true := alphabet.encodes_of_ascii _ rfl
  have hmark : alphabet.encodes "?" = true := alphabet.encodes_of_ascii _ rfl
  have hquery := encodes_query alphabet builder
  rw [address]
  split
  · next hempty =>
      obtain rfl : url = "" := by simpa using hempty
      rw [Alphabet.encodes_append, hquery, hbreak]
      rfl
  · split <;> simp [hquery, hbreak, hmark]

theorem present_eq_write {surroundings : Surroundings} {arguments : CompileArguments}
    (hparams : arguments.showsParameters = false) (builder : QueryBuilder) :
    present surroundings arguments builder.query =
      if surroundings.alphabet.encodes arguments.url then
        .text (address arguments.url builder.query ++ "\n")
      else .crashed (.misuse .notEncodable) := by
  rw [present, hparams, if_neg Bool.false_ne_true, write, encodes_address]

theorem present_ne_misuse {surroundings : Surroundings} {arguments : CompileArguments}
    (hurl : surroundings.alphabet.encodes arguments.url = true) (builder : QueryBuilder)
    (cause : Misuse) : present surroundings arguments builder.query ≠ .crashed (.misuse cause) := by
  rw [present, write, encodes_address, hurl]
  split
  · cases parameterTable surroundings builder.query <;> simp
  · simp

/-- The console cannot read a text that the command shows: the message of a report on the
query, or a parameter. -/
def MeetsMarkup (surroundings : Surroundings) (arguments : CompileArguments)
    (options : LoadOptions) (fault : Markup.Fault) : Prop :=
  let query := ((assembler surroundings.alphabet arguments.joins).query options).outcome
  (∃ problem report, query = .error problem ∧ problem.report? = some report ∧
      surroundings.console ("[error]" ++ report.message ++ "[/error]") = .error fault) ∨
    arguments.showsParameters = true ∧
      ∃ written, query = .ok written ∧ parameterTable surroundings written = .error fault

section

variable {surroundings : Surroundings} {arguments : CompileArguments} {document : String}
  {members : Members} (hsource : openSource surroundings arguments.source = .ok document)
  (hextra : arguments.extra = [])
  (hread : Json.read (universalBreaks document.toList) surroundings.alphabet =
    .ok (.object members))

include hsource hextra hread

theorem run_of_ok {query : String}
    (hquery : ((assembler surroundings.alphabet arguments.joins).query
      (.ofMembers members)).outcome = .ok query) :
    run surroundings arguments = present surroundings arguments query := by
  have hoptions : readOptions surroundings.alphabet document = .ok (.ofMembers members) := by
    rw [readOptions, hread]
  rw [run, hsource, Outcome.ok_bind, hextra, List.isEmpty_nil, if_pos rfl, hoptions]
  dsimp only
  rw [hquery]

theorem run_of_error {problem : CompileError}
    (hquery : ((assembler surroundings.alphabet arguments.joins).query
      (.ofMembers members)).outcome = .error problem) :
    run surroundings arguments = failure surroundings problem := by
  have hoptions : readOptions surroundings.alphabet document = .ok (.ofMembers members) := by
    rw [readOptions, hread]
  rw [run, hsource, Outcome.ok_bind, hextra, List.isEmpty_nil, if_pos rfl, hoptions]
  dsimp only
  rw [hquery]

/-- The command stops with a failure of its own exactly when the assembler does, if the
address it is given can be written. -/
theorem run_eq_misuse_iff (hurl : surroundings.alphabet.encodes arguments.url = true)
    {cause : Misuse} :
    run surroundings arguments = .crashed (.misuse cause) ↔
      (assembler surroundings.alphabet arguments.joins).Escapes (.ofMembers members) cause := by
  rw [← Assembler.query_eq_misuse_iff rfl]
  cases hquery : ((assembler surroundings.alphabet arguments.joins).query
      (.ofMembers members)).outcome with
  | ok query =>
      obtain ⟨builder, -, -, rfl⟩ := Assembler.query_eq_ok_iff.mp hquery
      rw [run_of_ok hsource hextra hread hquery]
      exact iff_of_false (present_ne_misuse hurl builder cause) (fun h => nomatch h)
  | error problem =>
      rw [run_of_error hsource hextra hread hquery]
      rcases Assembler.query_cases rfl hquery with hreported | ⟨other, rfl, -⟩
      · refine iff_of_false (failure_ne_misuse hreported surroundings cause) fun hsame => ?_
        obtain rfl := Except.error.inj hsame
        exact CompileError.not_isReported_misuse cause hreported
      · simp [failure, CompileError.report?]

/-- The command stops at the console's markup exactly when it shows a text that the console
cannot read. -/
theorem run_eq_markup_iff {fault : Markup.Fault} :
    run surroundings arguments = .crashed (.markup fault) ↔
      MeetsMarkup surroundings arguments (.ofMembers members) fault := by
  rw [MeetsMarkup]
  cases hquery : ((assembler surroundings.alphabet arguments.joins).query
      (.ofMembers members)).outcome with
  | ok query =>
      rw [run_of_ok hsource hextra hread hquery, present]
      cases arguments.showsParameters with
      | false =>
          rw [if_neg Bool.false_ne_true, write]
          split <;> simp
      | true => cases htable : parameterTable surroundings query <;> simp [htable]
  | error problem =>
      rw [run_of_error hsource hextra hread hquery]
      unfold failure
      cases hreport : problem.report? with
      | none => cases problem <;> simp [hreport]
      | some report =>
          cases hshown : surroundings.console ("[error]" ++ report.message ++ "[/error]") <;>
            simp [hreport, hshown]

end

end Cli.Compile

namespace Store

theorem plan_load_eq_misuse_iff {store : Store} {names : List String}
    (hjoin : store.assembler.join = .tuple (names.map .text)) (members : Members)
    {cause : Misuse} :
    store.plan (.load (.raw (.object members))) = .error (.compile (.misuse cause)) ↔
      store.assembler.Escapes (.ofMembers members) cause := by
  rw [← Assembler.query_eq_misuse_iff hjoin]
  change store.listing (.ofMembers members) = _ ↔ _
  rw [listing]
  cases (store.assembler.query (.ofMembers members)).outcome <;> simp

end Store

/-- On an object of options every failure of the assembler is a report on the query, unless
it is one that escapes.  What escapes also stops the load operation of a store whose
relations are names.  The compile command reads its options, so it can write their integers,
and stops by itself exactly at a value without elements, at half of a surrogate pair, or at a
text that the console cannot show. -/
theorem compile_unreported_iff (alphabet : Alphabet) (members : Members) :
    (∀ failure, (({ Assembler.default with alphabet } : Assembler).query
        (.ofMembers members)).outcome = .error failure →
      failure.IsReported ∨ ∃ cause, .misuse cause = failure) ∧
    (∀ cause, (({ Assembler.default with alphabet } : Assembler).query
        (.ofMembers members)).outcome = .error (.misuse cause) ↔
      ({ Assembler.default with alphabet } : Assembler).Escapes (.ofMembers members) cause) ∧
    ((Value.object members).IsWritable → ∀ cause,
      ({ Assembler.default with alphabet } : Assembler).Escapes (.ofMembers members) cause ↔
        cause = .notIterable ∧ Assembler.default.MeetsNoElements (.ofMembers members) ∨
          cause = .notEncodable ∧
            ({ Assembler.default with alphabet } : Assembler).MeetsHalf (.ofMembers members)) ∧
    (∀ store : Store, ∀ names : List String, store.assembler.join = .tuple (names.map .text) →
      ∀ cause, store.plan (.load (.raw (.object members))) = .error (.compile (.misuse cause)) ↔
        store.assembler.Escapes (.ofMembers members) cause) ∧
    ∀ surroundings arguments document,
      Cli.Compile.openSource surroundings arguments.source = .ok document →
      arguments.extra = [] → surroundings.alphabet.encodes arguments.url = true →
      Json.read (universalBreaks document.toList) surroundings.alphabet =
        .ok (.object members) →
      (∀ cause, Cli.Compile.run surroundings arguments = .crashed (.misuse cause) ↔
        cause = .notIterable ∧ Assembler.default.MeetsNoElements (.ofMembers members) ∨
          cause = .notEncodable ∧ (Cli.Compile.assembler surroundings.alphabet
            arguments.joins).MeetsHalf (.ofMembers members)) ∧
      ∀ fault, Cli.Compile.run surroundings arguments = .crashed (.markup fault) ↔
        Cli.Compile.MeetsMarkup surroundings arguments (.ofMembers members) fault := by
  have hjoin : ({ Assembler.default with alphabet } : Assembler).join =
      .tuple (([] : List String).map .text) := rfl
  refine ⟨fun failure hfailure => ?_, fun cause => Assembler.query_eq_misuse_iff hjoin,
    fun hwritable cause => Assembler.escapes_iff_of_isWritable
      (LoadOptions.isWritable_get_ofMembers hwritable),
    fun store names hnames cause => Store.plan_load_eq_misuse_iff hnames members, ?_⟩
  · refine (Assembler.query_cases hjoin hfailure).imp_right ?_
    rintro ⟨cause, hcause, -⟩
    exact ⟨cause, hcause⟩
  · intro surroundings arguments document hsource hextra hurl hread
    refine ⟨fun cause => ?_, fun fault => Cli.Compile.run_eq_markup_iff hsource hextra hread⟩
    have hwritable := Json.holds_of_read Value.isReadable_isWritable hread
    exact (Cli.Compile.run_eq_misuse_iff hsource hextra hread hurl).trans
      (Assembler.escapes_iff_of_isWritable (LoadOptions.isWritable_get_ofMembers hwritable))

def numberBox : Members := [(.text "searchExpr", .int 7), (.text "searchValue", .text "x")]

def numberBoxDocument : String := "\x7b\"searchExpr\":7,\"searchValue\":\"x\"\x7d"

theorem read_numberBoxDocument :
    Json.read (universalBreaks numberBoxDocument.toList) = .ok (.object numberBox) := by
  have hbreaks : universalBreaks numberBoxDocument.toList = numberBoxDocument.toList := by
    decide +kernel
  have hplain : (Value.object numberBox).IsPlain := by
    refine @Value.IsPlain.object [("searchExpr", .int 7), ("searchValue", .text "x")]
      (by decide) ?_
    intro entry hentry
    simp only [List.mem_cons, List.not_mem_nil, or_false] at hentry
    rcases hentry with rfl | rfl
    · exact .int 7
    · exact .text "x"
  have hwritten : Json.write .search (.object numberBox) = .ok numberBoxDocument := rfl
  rw [hbreaks]
  exact Json.read_write hplain hwritten

/-- A search box over a number stops the command as well as the assembler. -/
theorem compile_unreported_iff_numberBox :
    Cli.Compile.run { readFile := fun _ => .error .absent, standardInput := numberBoxDocument }
        { source := "-", url := "", joins := [], showsParameters := false, extra := [] } =
      .crashed (.misuse .notIterable) ∧
    (Assembler.default.query (.ofMembers numberBox)).outcome = .error (.misuse .notIterable) := by
  have hmeets : Assembler.default.MeetsNoElements (.ofMembers numberBox) := .inl ⟨rfl, rfl⟩
  have hwritable : (Value.object numberBox).IsWritable :=
    Json.holds_of_read Value.isReadable_isWritable read_numberBoxDocument
  obtain ⟨-, hquery, hescapes, -, hrun⟩ := compile_unreported_iff .unicode numberBox
  have hurl : Alphabet.unicode.encodes "" = true := Alphabet.encodes_unicode ""
  refine ⟨((hrun _ _ numberBoxDocument rfl rfl hurl ?_).1 _).mpr (.inl ⟨rfl, hmeets⟩),
    (hquery _).mpr ((hescapes hwritable _).mpr (.inl ⟨rfl, hmeets⟩))⟩
  exact read_numberBoxDocument

/-- A selection that is a number ends with neither a query nor a report on the query. -/
theorem compile_unreported_number :
    (¬ ∃ query, (Assembler.default.query (.ofMembers [(.text "select", .int 5)])).outcome =
        .ok query) ∧
      ¬ ∃ failure, (Assembler.default.query (.ofMembers [(.text "select", .int 5)])).outcome =
        .error failure ∧ failure.IsReported := by
  have hquery : (Assembler.default.query (.ofMembers [(.text "select", .int 5)])).outcome =
      .error (.misuse .notIterable) := rfl
  rw [hquery]
  constructor
  · rintro ⟨query, hquery⟩
    contradiction
  · rintro ⟨failure, hfailure, hreported⟩
    obtain rfl := Except.error.inj hfailure
    exact CompileError.not_isReported_misuse _ hreported

end GridSource
