import GridSource.Proofs.Query.CallEffects
import Mathlib.Data.List.Induction
import Mathlib.Data.List.Nodup

/-!
# Sequences of calls on a builder

A builder lists every parameter where the first call that gave it values stands, with the
values that the last such call gave it.  Calls that fail or ask for nothing leave no trace,
so at every point a parameter has values of its own kind only.
-/

namespace GridSource

namespace Parameters

/-! ## Names that are set time and again -/

variable {Key : Type} [DecidableEq Key]

/-- The values that a key was given last. -/
def lastValues (settings : List (Key × List String)) (key : Key) : List String :=
  (settings.reverse.lookup key).getD []

theorem lastValues_concat (settings : List (Key × List String)) (key other : Key)
    (values : List String) :
    lastValues (settings ++ [(key, values)]) other =
      if other = key then values else lastValues settings other := by
  rw [lastValues, List.reverse_concat, List.lookup_cons]
  by_cases hsame : other = key
  · simp [hsame]
  · simp [beq_false_of_ne hsame, hsame, lastValues]

theorem mem_lastValues {settings : List (Key × List String)} {key : Key}
    (hkey : key ∈ settings.map Prod.fst) : (key, lastValues settings key) ∈ settings := by
  induction settings using List.reverseRecOn with
  | nil => contradiction
  | append_singleton settings setting ih =>
      obtain ⟨last, values⟩ := setting
      rw [lastValues_concat, List.mem_append]
      split
      · next hsame => exact .inr (by rw [hsame, List.mem_singleton])
      · next hother =>
          rw [List.map_append, List.mem_append, List.map_singleton, List.mem_singleton] at hkey
          exact .inl (ih (hkey.resolve_right hother))

theorem eraseDups_concat (keys : List Key) (key : Key) :
    (keys ++ [key]).eraseDups =
      if key ∈ keys then keys.eraseDups else keys.eraseDups ++ [key] := by
  rw [List.eraseDups_append]
  by_cases hkey : key ∈ keys <;> simp [List.removeAll, hkey, List.eraseDups_cons]

theorem nodup_eraseDups (keys : List Key) : keys.eraseDups.Nodup := by
  induction keys using List.reverseRecOn with
  | nil => exact List.nodup_nil
  | append_singleton keys key ih =>
      rw [eraseDups_concat]
      split
      · exact ih
      · next hnew =>
          rw [List.nodup_append_comm, List.singleton_append, List.nodup_cons,
            List.mem_eraseDups]
          exact ⟨hnew, ih⟩

/-- Setting a key among distinct ones changes its values alone. -/
theorem set_map_of_mem {name : Key → String} (hname : Function.Injective name) {keys : List Key}
    (hkeys : keys.Nodup) {key : Key} (hkey : key ∈ keys) (old : Key → List String)
    (values : List String) :
    set (keys.map fun other => (name other, old other)) (name key) values =
      keys.map fun other => (name other, if other = key then values else old other) := by
  induction keys with
  | nil => contradiction
  | cons first rest ih =>
      rw [List.nodup_cons] at hkeys
      rw [List.map_cons, List.map_cons, set]
      by_cases hfirst : first = key
      · subst hfirst
        rw [if_pos rfl, if_pos rfl]
        refine congrArg _ (List.map_congr_left fun other hother => ?_)
        rw [if_neg]
        rintro rfl
        exact hkeys.1 hother
      · have hrest := (List.mem_cons.mp hkey).resolve_left (Ne.symm hfirst)
        rw [if_neg (hname.ne hfirst), if_neg hfirst, ih hkeys.2 hrest]

/-- Every key stands where it was first set, with the values it was given last. -/
theorem foldl_set {name : Key → String} (hname : Function.Injective name)
    (settings : List (Key × List String)) :
    settings.foldl (fun collected setting => set collected (name setting.1) setting.2) [] =
      (settings.map Prod.fst).eraseDups.map fun key => (name key, lastValues settings key) := by
  induction settings using List.reverseRecOn with
  | nil => rfl
  | append_singleton settings setting ih =>
      obtain ⟨key, values⟩ := setting
      -- The last setting decides the values of its key, and its place only if the key is new.
      rw [List.foldl_append, ih, List.map_append, List.map_singleton, eraseDups_concat]
      simp only [List.foldl_cons, List.foldl_nil, lastValues_concat]
      split
      · next hkey =>
          exact set_map_of_mem hname (nodup_eraseDups _) (List.mem_eraseDups.mpr hkey) _ _
      · next hnew =>
          rw [set_of_not_mem, List.map_append, List.map_singleton, if_pos rfl]
          · refine congrArg (· ++ _) (List.map_congr_left fun other hother => ?_)
            rw [if_neg]
            rintro rfl
            exact hnew (List.mem_eraseDups.mp hother)
          · simp only [List.map_map, List.mem_map, List.mem_eraseDups]
            rintro ⟨other, hother, hsame⟩
            exact hnew (hname hsame ▸ List.mem_map.mpr hother)

end Parameters

namespace QueryParameter

theorem mem_all (parameter : QueryParameter) : parameter ∈ all := by
  cases parameter <;> decide

theorem name_injective {grammar : QueryGrammar}
    (hnames : (all.map (·.name grammar)).Nodup) :
    Function.Injective fun parameter : QueryParameter => parameter.name grammar :=
  fun first second hsame =>
    List.inj_on_of_nodup_map hnames (mem_all first) (mem_all second) hsame

/-- The values that a parameter may have. -/
inductive Accepts (grammar : QueryGrammar) : QueryParameter → List String → Prop where
  | search {members : Members} {text : String}
      (htext : Json.write .search (.object members) = .ok text) : Accepts grammar .search [text]
  | fields {names : List String} (hsome : names ≠ []) (hnames : "" ∉ names) :
      Accepts grammar .fields [grammar.listDelimiter.intercalate names]
  | sort {texts : List String} (hsome : texts ≠ []) : Accepts grammar .sort texts
  | join {texts : List String} (hsome : texts ≠ []) : Accepts grammar .join texts
  /-- The decimal numeral of a natural number. -/
  | count (which : CountParameter) (number : ℕ) :
      Accepts grammar which.parameter [toString number]
  | cache : Accepts grammar .cache ["0"]
  | includeDeleted : Accepts grammar .includeDeleted ["1"]

end QueryParameter

theorem BuilderCall.Renders.accepts {grammar : QueryGrammar} {call : BuilderCall}
    {values : List String} (hcall : call.Renders grammar values) :
    call.parameter.Accepts grammar values := by
  have hsome := hcall.ne_nil
  cases hcall with
  | search htext => exact .search htext
  | select _ hnames hnone => exact .fields hnames hnone
  | sortBy => exact .sort hsome
  | setJoin => exact .join hsome
  | setCount count => exact .count count _
  | resetCache => exact .cache
  | setIncludeDeleted => exact .includeDeleted

/-! ## Sequences of calls -/

/-- The settings of a sequence of calls: those of its effective calls, in their order. -/
inductive EffectiveSettings (grammar : QueryGrammar) :
    List BuilderCall → List (QueryParameter × List String) → Prop where
  | nil : EffectiveSettings grammar [] []
  | effective {call : BuilderCall} {values : List String} {calls : List BuilderCall}
      {settings : List (QueryParameter × List String)} (hcall : call.Renders grammar values)
      (hcalls : EffectiveSettings grammar calls settings) :
      EffectiveSettings grammar (call :: calls) ((call.parameter, values) :: settings)
  | ineffective {call : BuilderCall} {calls : List BuilderCall}
      {settings : List (QueryParameter × List String)}
      (hcall : ∀ values, ¬ call.Renders grammar values)
      (hcalls : EffectiveSettings grammar calls settings) :
      EffectiveSettings grammar (call :: calls) settings

namespace EffectiveSettings

variable {grammar : QueryGrammar} {calls : List BuilderCall}
  {settings : List (QueryParameter × List String)}

theorem exists_of_calls (grammar : QueryGrammar) (calls : List BuilderCall) :
    ∃ settings, EffectiveSettings grammar calls settings := by
  induction calls with
  | nil => exact ⟨[], .nil⟩
  | cons call calls ih =>
      obtain ⟨settings, hsettings⟩ := ih
      by_cases hcall : ∃ values, call.Renders grammar values
      · obtain ⟨values, hvalues⟩ := hcall
        exact ⟨_, .effective hvalues hsettings⟩
      · exact ⟨settings, .ineffective (not_exists.mp hcall) hsettings⟩

theorem accepts (hsettings : EffectiveSettings grammar calls settings) :
    ∀ setting ∈ settings, setting.1.Accepts grammar setting.2 := by
  induction hsettings with
  | nil => simp
  | effective hcall _ ih => exact List.forall_mem_cons.mpr ⟨hcall.accepts, ih⟩
  | ineffective _ _ ih => exact ih

end EffectiveSettings

namespace QueryBuilder

variable {grammar : QueryGrammar} {calls : List BuilderCall}
  {settings : List (QueryParameter × List String)}

/-- A sequence of calls sets what its effective calls set, one after the other. -/
theorem afterAll_eq (hsettings : EffectiveSettings grammar calls settings)
    (parameters : Parameters) :
    afterAll ⟨grammar, parameters⟩ calls =
      ⟨grammar, settings.foldl (fun collected setting =>
        Parameters.set collected (setting.1.name grammar) setting.2) parameters⟩ := by
  induction hsettings generalizing parameters with
  | nil => rfl
  | effective hcall _ ih =>
      rw [afterAll, List.foldl_cons, after_of_renders hcall, ← afterAll]
      exact ih _
  | ineffective hcall _ ih =>
      rw [afterAll, List.foldl_cons, after_of_not_renders hcall, ← afterAll]
      exact ih _

/-- Every parameter that was set, where it was set first, with the values it was given last. -/
def listing (grammar : QueryGrammar) (settings : List (QueryParameter × List String)) :
    List (String × String) :=
  (settings.map Prod.fst).eraseDups.flatMap fun parameter =>
    (Parameters.lastValues settings parameter).map fun value => (parameter.name grammar, value)

/-- The builder is what a sequence of calls makes of a fresh one: it lists the settings of
the effective calls, of which there is always a list, and takes further calls. -/
structure IsBuiltBy (grammar : QueryGrammar) (calls : List BuilderCall)
    (built : QueryBuilder) : Prop where
  exists_settings : ∃ settings, EffectiveSettings grammar calls settings
  lists : ∀ settings, EffectiveSettings grammar calls settings →
    built.items = listing grammar settings
  /-- The calls that are not effective are those that fail or ask for nothing. -/
  succeeds_iff : ∀ call : BuilderCall, built.outcome call = .ok () ↔
    call.IsIdle ∨ ∃ values, call.Renders grammar values
  unchanged_of_idle : ∀ call : BuilderCall, call.IsIdle → built.after call = built
  unchanged_of_failure : ∀ (call : BuilderCall) (failure : CompileError),
    built.outcome call = .error failure → built.after call = built
  accepts : ∀ setting ∈ built.parameters, ∃ parameter : QueryParameter,
    setting.1 = parameter.name grammar ∧ parameter.Accepts grammar setting.2

theorem parameters_afterAll (hnames : (QueryParameter.all.map (·.name grammar)).Nodup)
    (hsettings : EffectiveSettings grammar calls settings) :
    (create grammar).afterAll calls = ⟨grammar, (settings.map Prod.fst).eraseDups.map
      fun parameter => (parameter.name grammar, Parameters.lastValues settings parameter)⟩ := by
  rw [create, afterAll_eq hsettings,
    Parameters.foldl_set (QueryParameter.name_injective hnames)]

/-- What a fresh builder lists after a sequence of calls are values of the parameters' own
kinds. -/
theorem accepts_afterAll (hnames : (QueryParameter.all.map (·.name grammar)).Nodup)
    (calls : List BuilderCall) :
    ∀ setting ∈ ((create grammar).afterAll calls).parameters, ∃ parameter : QueryParameter,
      setting.1 = parameter.name grammar ∧ parameter.Accepts grammar setting.2 := by
  obtain ⟨settings, hsettings⟩ := EffectiveSettings.exists_of_calls grammar calls
  intro setting hsetting
  rw [parameters_afterAll hnames hsettings] at hsetting
  obtain ⟨parameter, hparameter, rfl⟩ := List.mem_map.mp hsetting
  exact ⟨parameter, rfl, hsettings.accepts _
    (Parameters.mem_lastValues (List.mem_eraseDups.mp hparameter))⟩

/-- A sequence of calls on a fresh builder, of which any may fail or ask for nothing, lists
what the effective ones set, and only values that their parameters may have. -/
theorem isBuiltBy_afterAll (hnames : (QueryParameter.all.map (·.name grammar)).Nodup)
    (calls : List BuilderCall) : IsBuiltBy grammar calls ((create grammar).afterAll calls) := by
  obtain ⟨settings, hsettings⟩ := EffectiveSettings.exists_of_calls grammar calls
  have hbuilt := parameters_afterAll hnames hsettings
  have hgrammar : ((create grammar).afterAll calls).grammar = grammar := by rw [hbuilt]
  refine ⟨⟨settings, hsettings⟩, fun other hother => ?_, fun call => ?_, fun call hidle => ?_,
    fun call failure hfailure => ?_, accepts_afterAll hnames calls⟩
  · rw [parameters_afterAll hnames hother, items, Parameters.items, List.flatMap_map]
    rfl
  · rw [outcome_eq_ok_iff, hgrammar]
  · exact after_of_not_renders fun values hrenders => hrenders.not_isIdle hidle
  · refine after_of_not_renders fun values hrenders => ?_
    rw [outcome_eq_ok_iff.mpr (.inr ⟨values, hrenders⟩)] at hfailure
    contradiction

/-- Calls that overwrite, fail and ask for nothing. -/
def mixedCalls : List BuilderCall :=
  [ .setCount .limit (.int 20),
    .setCount .page (.int (-1)),
    .sortBy (.entries [.absent, .order ⟨"name", .descending⟩, .order ⟨"id", .ascending⟩]),
    .select (.list [.text "id", .text ""]),
    .select (.tuple [.text "id", .text "name"]),
    .setCount .limit .null,
    .setJoin (.list [.text "owner", .record [("field", .text "tags"),
      ("select", .list [.text "id", .text "label"])]]),
    .setCount .limit (.int 5),
    .sortBy (.entries [.absent]),
    .setIncludeDeleted (.bool false),
    .sortBy (.entries [.order ⟨"age", .ascending⟩, .stray (.int 7)]) ]

theorem isBuiltBy_mixedCalls :
    (QueryParameter.all.map (·.name .default)).Nodup ∧
      IsBuiltBy .default mixedCalls ((create .default).afterAll mixedCalls) ∧
      ((create .default).afterAll mixedCalls).items =
        [("limit", "5"), ("sort", "name,DESC"), ("sort", "id,ASC"), ("fields", "id,name"),
          ("join", "owner"), ("join", "tags||id,label")] :=
  ⟨by decide, isBuiltBy_afterAll (by decide) mixedCalls, by decide +kernel⟩

end QueryBuilder

end GridSource
