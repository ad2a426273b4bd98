import GridSource.Proofs.Cli.Compile
import GridSource.Proofs.Cli.Markup
import GridSource.Proofs.Store.Listings
import GridSource.Proofs.Store.Requests

/-!
# What the compile command shows of a listing

The command joins the address and the query as a store with the same address and relations
does, so it prints the address that the store asks for.  Its table of parameters reads the
query back and hands the texts to the console.  The console shows a text in its own way, so
the table holds the parameters exactly when the console shows each of them as it is; the one
of the program takes markup out.
-/

namespace GridSource

namespace Cli

/-! ## The command line -/

namespace Given

variable {form : CommandForm} {option : CommandOption} {name : String}

/-- An option is a name of the form that starts with a dash and holds no value of its own. -/
structure Names (form : CommandForm) (name : String) (option : CommandOption) : Prop where
  ne_end : (name == "--") = false
  isOption : isOption name = true
  splitOption : splitOption name = (name, none)
  option? : form.option? name = some option

theorem read_value (hname : Names form name option) {word : String}
    (hword : option.value = some word) (value : String) (rest : List String) :
    Given.read form (name :: value :: rest) =
      (Given.read form rest).map (·.addOption name value) := by
  rw [Given.read, hname.ne_end, hname.isOption, if_neg Bool.false_ne_true, if_pos rfl,
    hname.splitOption]
  simp only [hname.option?, hword]

theorem read_flag (hname : Names form name option) (hflag : option.value = none)
    (rest : List String) :
    Given.read form (name :: rest) = (Given.read form rest).map (·.addOption name "") := by
  rw [Given.read, hname.ne_end, hname.isOption, if_neg Bool.false_ne_true, if_pos rfl,
    hname.splitOption]
  simp only [hname.option?, hflag]

/-- The name of a command ends the options of the program. -/
theorem read_command (rest : List String) :
    Given.read .program ("compile" :: rest) = .ok ⟨[], "compile" :: rest⟩ := by
  have hend : ("compile" == "--") = false := by decide
  have hoption : isOption "compile" = false := by decide +kernel
  rw [Given.read, hend, hoption, if_neg Bool.false_ne_true, if_neg Bool.false_ne_true]
  rfl

theorem names_urlOption : Names .compile "--url" CommandForm.urlOption :=
  ⟨by decide, by decide +kernel, by decide, rfl⟩

theorem names_joinOption : Names .compile "--join" CommandForm.joinOption :=
  ⟨by decide, by decide +kernel, by decide, rfl⟩

theorem names_paramsOption : Names .compile "--params" CommandForm.paramsOption :=
  ⟨by decide, by decide +kernel, by decide, rfl⟩

end Given

/-- The arguments that compile the standard input for an address and some relations. -/
def commandLine (url : String) (joins : List String) (showsParameters : Bool) : List String :=
  "compile" :: "--url" :: url :: ((joins.flatMap fun relation => ["--join", relation]) ++
    if showsParameters then ["--params"] else [])

theorem read_joins {rest : List String} {given : Given}
    (hrest : Given.read .compile rest = .ok given) (joins : List String) :
    Given.read .compile ((joins.flatMap fun relation => ["--join", relation]) ++ rest) =
      .ok { given with
        options := (joins.map fun relation => ("--join", relation)) ++ given.options } := by
  induction joins with
  | nil => exact hrest
  | cons relation joins ih =>
      rw [List.flatMap_cons, List.append_assoc, List.cons_append, List.singleton_append,
        Given.read_value Given.names_joinOption rfl, ih]
      rfl

theorem ofCompile_eq (url : String) (joins : List String) (showsParameters : Bool) :
    Invocation.ofCompile ⟨("--url", url) :: ((joins.map fun relation => ("--join", relation)) ++
        if showsParameters then [("--params", "")] else []), []⟩ =
      .compile
        { source := Invocation.standardSource, url, joins, showsParameters, extra := [] } := by
  simp only [Invocation.ofCompile, Given.has, Given.values, CommandForm.helpOption,
    CommandForm.urlOption, CommandForm.joinOption, CommandForm.paramsOption]
  cases showsParameters <;> simp [Function.comp_def]

/-- Every address and every relation is read back, whatever it looks like. -/
theorem ofArguments_commandLine (url : String) (joins : List String) (showsParameters : Bool) :
    Invocation.ofArguments (commandLine url joins showsParameters) =
      .ok (.compile
        { source := Invocation.standardSource, url, joins, showsParameters, extra := [] }) := by
  have hflag : Given.read .compile (if showsParameters then ["--params"] else []) =
      .ok ⟨if showsParameters then [("--params", "")] else [], []⟩ := by
    cases showsParameters with
    | false => rfl
    | true => exact Given.read_flag Given.names_paramsOption rfl []
  have hread := Given.read_value Given.names_urlOption rfl url
    ((joins.flatMap fun relation => ["--join", relation]) ++
      if showsParameters then ["--params"] else [])
  rw [read_joins hflag] at hread
  rw [commandLine, Invocation.ofArguments, List.isEmpty_cons, if_neg Bool.false_ne_true,
    Given.read_command]
  change Invocation.ofCommand _ = _
  rw [Invocation.ofCommand, hread, ← ofCompile_eq]
  rfl

/-! ## The answer -/

namespace Compile

theorem status_failure (surroundings : Surroundings) (problem : CompileError) :
    (failure surroundings problem).status = 1 ∧ (failure surroundings problem).output = "" := by
  unfold failure
  split
  · split <;> exact ⟨rfl, rfl⟩
  · split <;> exact ⟨rfl, rfl⟩

/-- The table of some parameters, each as it is. -/
def tableOf (items : List (String × String)) : Table :=
  { title := none
    header := ["Parameter", "Value"]
    rows := items.map fun item => [item.1, item.2] }

/-- The console shows the name and the value of a parameter as two texts. -/
structure Shows (surroundings : Surroundings) (item shown : String × String) : Prop where
  name : surroundings.console item.1 = .ok shown.1
  value : surroundings.console item.2 = .ok shown.2

variable {surroundings : Surroundings}

theorem shownRow_eq_ok_iff {item shown : String × String} :
    (do return [← surroundings.console item.1, ← surroundings.console item.2] :
        Except Markup.Fault (List String)) = .ok [shown.1, shown.2] ↔
      Shows surroundings item shown := by
  constructor
  · intro hrow
    obtain ⟨name, hname, hrow⟩ := Outcome.bind_eq_ok_iff.mp hrow
    obtain ⟨value, hvalue, hrow⟩ := Outcome.bind_eq_ok_iff.mp hrow
    obtain ⟨rfl, rfl⟩ : name = shown.1 ∧ value = shown.2 := by simpa using Except.ok.inj hrow
    exact ⟨hname, hvalue⟩
  · rintro ⟨hname, hvalue⟩
    rw [hname, hvalue]
    rfl

/-- The table of a query lists its parameters in their order, as the console shows them. -/
theorem parameterTable_eq_ok_iff {items shown : List (String × String)} :
    parameterTable surroundings (Form.encode items) = .ok (tableOf shown) ↔
      List.Forall₂ (Shows surroundings) items shown := by
  have hrows : (items.mapM fun item => do
        return [← surroundings.console item.1, ← surroundings.console item.2]) =
          .ok (shown.map fun item => [item.1, item.2]) ↔ _ := Outcome.mapM_eq_ok_iff
  simp only [List.forall₂_map_right_iff, shownRow_eq_ok_iff] at hrows
  rw [← hrows, parameterTable, Form.decode?_encode, Option.getD_some]
  constructor
  · intro htable
    obtain ⟨rows, hshown, htable⟩ := Outcome.bind_eq_ok_iff.mp htable
    obtain rfl := congrArg Table.rows (Except.ok.inj htable)
    exact hshown
  · intro hshown
    exact Outcome.bind_eq_ok_iff.mpr ⟨_, hshown, rfl⟩

theorem listingUrl_eq_address {store : Store} {url : String} (hurl : store.url = .text url)
    (hsome : url ≠ "") (query : String) :
    store.listingUrl query = .text (address url query) := by
  have hfilled : url.isEmpty = false := by simpa using hsome
  rw [Store.listingUrl, address, hurl, hfilled, if_neg Bool.false_ne_true]
  split <;> rfl

section

variable {members : Members}
  (hread : Json.read (universalBreaks surroundings.standardInput.toList) surroundings.alphabet =
    .ok (.object members))

include hread

theorem run_commandLine_of_ok {url query : String} {joins : List String}
    (hquery : ((assembler surroundings.alphabet joins).query (.ofMembers members)).outcome =
      .ok query) (showsParameters : Bool) :
    Cli.run surroundings (commandLine url joins showsParameters) =
      present surroundings
        { source := Invocation.standardSource, url, joins, showsParameters, extra := [] }
        query := by
  rw [Cli.run, ofArguments_commandLine]
  exact run_of_ok rfl rfl hread hquery

theorem run_commandLine_of_error {url : String} {joins : List String} {problem : CompileError}
    (hquery : ((assembler surroundings.alphabet joins).query (.ofMembers members)).outcome =
      .error problem) (showsParameters : Bool) :
    Cli.run surroundings (commandLine url joins showsParameters) =
      failure surroundings problem := by
  rw [Cli.run, ofArguments_commandLine]
  exact run_of_error rfl rfl hread hquery

end

end Compile

end Cli

/-! ## The store of a command -/

namespace Session

/-- The store of an address and some relations, with its other settings left as they are. -/
def joining (alphabet : Alphabet) (url : String) (joins : List String) : Session :=
  { store :=
      { properties :=
          { StoreProperties.default with url := .text url, join := .list (joins.map .text) }
        assembler := Cli.Compile.assembler alphabet joins }
    client := .plain
    closed := false }

theorem start_joining (alphabet : Alphabet) {url : String} (hurl : url ≠ "")
    (joins : List String) :
    start (joining alphabet url joins).store.properties (some .plain) alphabet =
      .ok (joining alphabet url joins) := by
  have hfilled : url.isEmpty = false := by simpa using hurl
  have hchecked : Store.checkUrl (joining alphabet url joins).store.properties = .ok () := by
    rw [Store.checkUrl, joining, Value.truthy, hfilled]
    rfl
  rw [start, Store.create, hchecked]
  rfl

/-- The session sends one request for options that assemble, and none for others. -/
theorem calls_run_load {session : Session} (hplain : session.client = .plain)
    (hopen : session.closed = false) (members : Members) (script : Script) :
    (∀ query, (session.store.assembler.query (.ofMembers members)).outcome = .ok query →
      (session.run (.load (.raw (.object members))) script).1.calls =
        [.plain { method := "GET", url := session.store.listingUrl query, body := none }]) ∧
    ∀ problem, (session.store.assembler.query (.ofMembers members)).outcome = .error problem →
      (session.run (.load (.raw (.object members))) script).1.calls = [] := by
  have hlists : session.store.Lists (.load (.raw (.object members))) (.ofMembers members) :=
    .load rfl
  constructor
  · intro query hquery
    rw [calls_run_plain_iff hplain hopen, Store.plan_of_lists hlists, Store.listing, hquery]
  · intro problem hquery
    have hrequest : session.request (.load (.raw (.object members))) =
        .error (.compile problem) := by
      rw [request, Store.plan_of_lists hlists, Store.listing, hquery]
      rfl
    rw [run_of_error hrequest]
    rfl

end Session

namespace Cli

/-- The compile command prints the address that a store with the same address and relations
asks for, if that address can be encoded.  Options that do not compile to a query leave the
store silent and the command without output.  The table lists the parameters as the console
shows them, so it holds them as they are exactly when the console shows each of them so. -/
theorem run_commandLine_shows {surroundings : Surroundings} {members : Members} {url : String}
    (hread : Json.read (universalBreaks surroundings.standardInput.toList) surroundings.alphabet =
      .ok (.object members))
    (hurl : url ≠ "") (joins : List String) :
    ∃ session, Session.start { StoreProperties.default with
        url := .text url, join := .list (joins.map .text) } (some .plain)
          surroundings.alphabet = .ok session ∧
      (∀ builder,
        ((Compile.assembler surroundings.alphabet joins).builder
          (.ofMembers members)).outcome = .ok builder →
        builder.isEncodable surroundings.alphabet = true →
        (∃ listed,
          (∀ script, (session.run (.load (.raw (.object members))) script).1.calls =
            [.plain { method := "GET", url := .text listed, body := none }]) ∧
          (surroundings.alphabet.encodes url = true →
            run surroundings (commandLine url joins false) = .text (listed ++ "\n")) ∧
          (surroundings.alphabet.encodes url = false →
            run surroundings (commandLine url joins false) = .crashed (.misuse .notEncodable))) ∧
        (∀ shown, run surroundings (commandLine url joins true) = .table (Compile.tableOf shown) ↔
          List.Forall₂ (Compile.Shows surroundings) builder.items shown) ∧
        (run surroundings (commandLine url joins true) = .table (Compile.tableOf builder.items) ↔
          ∀ item ∈ builder.items, surroundings.console item.1 = .ok item.1 ∧
            surroundings.console item.2 = .ok item.2)) ∧
      ∀ problem,
        ((Compile.assembler surroundings.alphabet joins).query
          (.ofMembers members)).outcome = .error problem →
        (∀ script, (session.run (.load (.raw (.object members))) script).1.calls = []) ∧
        ∀ showsParameters,
          (run surroundings (commandLine url joins showsParameters)).status = 1 ∧
          (run surroundings (commandLine url joins showsParameters)).output = "" := by
  have hcalls :=
    @Session.calls_run_load (Session.joining surroundings.alphabet url joins) rfl rfl members
  refine ⟨_, Session.start_joining surroundings.alphabet hurl joins,
    fun builder hbuilder hencodes => ?_,
    fun problem hproblem => ⟨fun script => (hcalls script).2 problem hproblem,
      fun showsParameters => ?_⟩⟩
  · have hquery : ((Compile.assembler surroundings.alphabet joins).query
        (.ofMembers members)).outcome = .ok builder.query :=
      Assembler.query_eq_ok_iff.mpr ⟨builder, hbuilder, hencodes, rfl⟩
    have hprinted : run surroundings (commandLine url joins false) = _ :=
      Compile.run_commandLine_of_ok hread hquery false
    rw [Compile.present_eq_write rfl] at hprinted
    have htable (shown : List (String × String)) :
        run surroundings (commandLine url joins true) = .table (Compile.tableOf shown) ↔
          List.Forall₂ (Compile.Shows surroundings) builder.items shown := by
      rw [Compile.run_commandLine_of_ok hread hquery, Compile.present, if_pos rfl,
        ← Compile.parameterTable_eq_ok_iff, QueryBuilder.query]
      cases Compile.parameterTable surroundings (Form.encode builder.items) <;> simp
    refine ⟨⟨Compile.address url builder.query, fun script => ?_, fun hwritten => ?_,
      fun hhalf => ?_⟩, htable, ?_⟩
    · rw [(hcalls script).1 _ hquery, Compile.listingUrl_eq_address rfl hurl]
    · rw [hprinted, if_pos hwritten]
    · rw [hprinted, hhalf, if_neg Bool.false_ne_true]
    · rw [htable, List.forall₂_same]
      exact forall₂_congr fun item _ => ⟨fun hshows => ⟨hshows.name, hshows.value⟩,
        fun hshows => ⟨hshows.1, hshows.2⟩⟩
  · rw [Compile.run_commandLine_of_error hread hproblem]
    exact Compile.status_failure surroundings problem

/-- A page of five, filtered by a part of the title. -/
def titleOptions (part : String) : Members :=
  textMembers [("filter", .list [.text "title", .text "contains", .text part]), ("take", .int 5)]

/-- The parameters of such a page, where the part needs no escape. -/
def titleBuilder (part : String) : QueryBuilder :=
  { grammar := .default
    parameters :=
      [ ("s", ["\x7b\"title\":\x7b\"$cont\":\"" ++ part ++ "\"\x7d\x7d"]), ("limit", ["5"]),
        ("join", ["tags"]) ] }

/-- The command is given its options as they are written. -/
def writing (members : Members) : Surroundings :=
  { readFile := fun _ => .error .absent
    standardInput := (Json.write .search (.object members)).toOption.getD "" }

theorem read_writing {part written : String}
    (hwritten : Json.write .search (.object (titleOptions part)) = .ok written)
    (hbreaks : universalBreaks written.toList = written.toList) :
    Json.read (universalBreaks (writing (titleOptions part)).standardInput.toList) =
      .ok (.object (titleOptions part)) := by
  have hinput : (writing (titleOptions part)).standardInput = written := by
    rw [writing, hwritten]
    rfl
  have hfilter : (Value.list [.text "title", .text "contains", .text part]).IsPlain :=
    .list (by simp [Value.IsPlain.text])
  have hplain : (Value.object (titleOptions part)).IsPlain :=
    .object (by simp) (by simp [hfilter, Value.IsPlain.int])
  rw [hinput, hbreaks]
  exact Json.read_write hplain hwritten

def numberedListing : String :=
  "http://x/posts?s=%7B%22title%22%3A%7B%22%24cont%22%3A%22%5B1%5D+%26+50%25%22%7D%7D" ++
    "&limit=5&join=tags"

theorem query_of_builder {joins : List String} {members : Members} {builder : QueryBuilder}
    (hbuilder : ((Compile.assembler .unicode joins).builder (.ofMembers members)).outcome =
      .ok builder) :
    ((Compile.assembler .unicode joins).query (.ofMembers members)).outcome =
      .ok builder.query :=
  Assembler.query_eq_ok_iff.mpr
    ⟨builder, hbuilder, QueryBuilder.isEncodable_unicode builder, rfl⟩

/-- Brackets around a number are no markup. -/
theorem run_commandLine_shows_number :
    ∃ session, Session.start { StoreProperties.default with
        url := .text "http://x/posts", join := .list [.text "tags"] } (some .plain) = .ok session ∧
      (∀ script, (session.run (.load (.raw (.object (titleOptions "[1] & 50%")))) script).1.calls =
        [.plain { method := "GET", url := .text numberedListing, body := none }]) ∧
      run (writing (titleOptions "[1] & 50%")) (commandLine "http://x/posts" ["tags"] false) =
        .text (numberedListing ++ "\n") ∧
      run (writing (titleOptions "[1] & 50%")) (commandLine "http://x/posts" ["tags"] true) =
        .table (Compile.tableOf (titleBuilder "[1] & 50%").items) := by
  have hread := @read_writing "[1] & 50%" _ rfl (by decide +kernel)
  have hbuilder : ((Compile.assembler .unicode ["tags"]).builder
      (.ofMembers (titleOptions "[1] & 50%"))).outcome = .ok (titleBuilder "[1] & 50%") := rfl
  have haddress : Compile.address "http://x/posts" (titleBuilder "[1] & 50%").query =
      numberedListing := by decide +kernel
  have hurl : "http://x/posts" ≠ "" := by decide
  obtain ⟨session, hstart, hshows, -⟩ := run_commandLine_shows hread hurl ["tags"]
  obtain ⟨⟨listed, hcalls, hprinted, -⟩, -, htable⟩ :=
    hshows _ hbuilder (QueryBuilder.isEncodable_unicode _)
  have hprinted := hprinted (Alphabet.encodes_unicode _)
  have hlisted : listed = numberedListing := by
    have hencodes : (writing (titleOptions "[1] & 50%")).alphabet.encodes "http://x/posts" = true :=
      Alphabet.encodes_unicode _
    rw [Compile.run_commandLine_of_ok hread (query_of_builder hbuilder) false,
      Compile.present_eq_write rfl, if_pos hencodes] at hprinted
    rw [← haddress]
    exact (String.append_left_inj _).mp (Answer.text.inj hprinted).symm
  subst hlisted
  refine ⟨session, hstart, hcalls, hprinted, htable.mpr fun item hitem => ?_⟩
  have hverbatim : ∀ item ∈ (titleBuilder "[1] & 50%").items,
      Markup.isVerbatim item.1 = true ∧ Markup.isVerbatim item.2 = true := by decide +kernel
  exact ⟨Markup.shown_eq_self_iff.mpr (hverbatim item hitem).1,
    Markup.shown_eq_self_iff.mpr (hverbatim item hitem).2⟩

/-- A word in brackets is taken for a style, and the table shows a search for nothing. -/
theorem run_commandLine_hides_word :
    ((Compile.assembler .unicode ["tags"]).builder
        (.ofMembers (titleOptions "[draft]"))).outcome = .ok (titleBuilder "[draft]") ∧
      run (writing (titleOptions "[draft]")) (commandLine "http://x/posts" ["tags"] true) =
        .table (Compile.tableOf (titleBuilder "").items) ∧
      (titleBuilder "").items ≠ (titleBuilder "[draft]").items := by
  have hread := @read_writing "[draft]" _ rfl (by decide +kernel)
  have hbuilder : ((Compile.assembler .unicode ["tags"]).builder
      (.ofMembers (titleOptions "[draft]"))).outcome = .ok (titleBuilder "[draft]") := rfl
  have htable : (Compile.parameterTable (writing (titleOptions "[draft]"))
      (titleBuilder "[draft]").query).toOption =
        some (Compile.tableOf (titleBuilder "").items) := by
    decide +kernel
  refine ⟨hbuilder, ?_, by decide +kernel⟩
  rw [Compile.run_commandLine_of_ok hread (query_of_builder hbuilder) true, Compile.present,
    if_pos rfl]
  cases hshown : Compile.parameterTable (writing (titleOptions "[draft]"))
      (titleBuilder "[draft]").query with
  | error fault => simp [hshown, Except.toOption] at htable
  | ok table => simpa [hshown, Except.toOption] using htable

end Cli

end GridSource
