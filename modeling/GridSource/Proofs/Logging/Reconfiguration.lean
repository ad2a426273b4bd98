import GridSource.Proofs.Logging.Levels

/-!
# Configuring logging again

A configuration replaces the outputs of the one before it and sets the levels that it names, the
root's among them.  The level of a logger that it does not name stays what earlier configurations
have made of it, so the state is that of the last configuration alone exactly if no earlier one
has left a level on a logger which the last does not name.
-/

namespace GridSource

/-- One configuration: settings, and the environment in which they are read. -/
structure LoggingCall where
  settings : Settings
  environment : Environment

namespace LoggingCall

open LoggingChoice

/-- The text of the format of the lines, if everything that a call asks for can be read. -/
def format (call : LoggingCall) : Except Misuse String :=
  Logging.readFormat call.settings call.environment

/-- The names of levels are standard ones, in any case. -/
def IsStandard (call : LoggingCall) : Prop :=
  ∀ entry ∈ Logging.levelEntries call.settings,
    ∃ shown level, entry.2.display = .ok shown ∧
      LogLevel.ofName? (upperCase shown) = some level

/-- The levels that a call sets; none if something cannot be read. -/
def assignments (call : LoggingCall) : List (String × LogLevel) :=
  match call.format with
  | .ok _ => Logging.accepted (Logging.levelEntries call.settings)
  | .error _ => []

/-- The last level that calls set for a logger. -/
def lastLevel? (calls : List LoggingCall) (name : String) : Option LogLevel :=
  (calls.flatMap assignments).reverse.lookup name

end LoggingCall

namespace Logging

open LoggingCall

def after (logging : Logging) (call : LoggingCall) : Logging :=
  (logging.configure call.settings call.environment).1

/-- The state after calls in a fresh process. -/
def history (calls : List LoggingCall) : Logging := calls.foldl after initial

theorem eq_of_levels_of_outputs {left right : Logging}
    (hlevels : ∀ name, left.levels name = right.levels name)
    (houtputs : left.outputs = right.outputs) : left = right := by
  cases left
  cases right
  rw [mk.injEq]
  exact ⟨funext hlevels, houtputs⟩

/-! ## One call -/

@[simp]
theorem levels_after (logging : Logging) (call : LoggingCall) :
    (logging.after call).levels = logging.levels.setAll call.assignments := by
  obtain ⟨hunread, hread⟩ := configure_eq call.settings call.environment logging
  rw [after, assignments]
  cases hformat : call.format with
  | error cause =>
      rw [hunread cause hformat]
      rfl
  | ok shown =>
      obtain ⟨choice, hconfigured⟩ := hread shown hformat
      rw [hconfigured]

theorem outputs_after (logging : Logging) {call : LoggingCall} {shown : String}
    (hformat : call.format = .ok shown) :
    (logging.after call).outputs = [LineFormat.ofSetting shown] := by
  obtain ⟨choice, hconfigured⟩ :=
    (configure_eq call.settings call.environment logging).2 shown hformat
  rw [after, hconfigured]

/-- A call that cannot be read changes nothing. -/
theorem after_of_unread (logging : Logging) {call : LoggingCall} {cause : Misuse}
    (hformat : call.format = .error cause) : logging.after call = logging := by
  rw [after, (configure_eq call.settings call.environment logging).1 cause hformat]

/-! ## A run of calls -/

theorem levels_foldl_after (calls : List LoggingCall) (logging : Logging) :
    (calls.foldl after logging).levels =
      logging.levels.setAll (calls.flatMap assignments) := by
  induction calls generalizing logging with
  | nil => rfl
  | cons call rest ih =>
      rw [List.foldl_cons, ih, levels_after, List.flatMap_cons, LoggerLevels.setAll_append]

theorem canonical_of_mem_assignments {calls : List LoggingCall} {set : String × LogLevel}
    (hset : set ∈ calls.flatMap assignments) : LoggerName.canonical set.1 = set.1 := by
  obtain ⟨call, -, hset⟩ := List.mem_flatMap.mp hset
  rw [assignments] at hset
  split at hset
  · exact canonical_of_mem_accepted hset
  · contradiction

/-- The level of a logger is the last one that was set for it. -/
theorem levels_history (calls : List LoggingCall) (name : String) :
    (history calls).levels name = (lastLevel? calls name).getD (LoggerLevels.initial name) := by
  rw [history, levels_foldl_after, lastLevel?]
  exact LoggerLevels.setAll_eq (fun _ => canonical_of_mem_assignments) _ _

theorem lastLevel?_concat (calls : List LoggingCall) (last : LoggingCall) (name : String) :
    lastLevel? (calls ++ [last]) name = (lastLevel? [last] name).or (lastLevel? calls name) := by
  rw [lastLevel?, lastLevel?, lastLevel?, List.flatMap_append, List.reverse_append,
    List.lookup_append]

/-- The level of the root is set first, so a standard one is never left out. -/
theorem exists_lastLevel?_root {call : LoggingCall} {shown : String}
    (hformat : call.format = .ok shown) (hstandard : call.IsStandard) :
    ∃ level, lastLevel? [call] LoggerName.root = some level := by
  obtain ⟨asked, rest, hentries⟩ : ∃ asked rest,
      levelEntries call.settings = (.text LoggerName.root, asked) :: rest := ⟨_, _, rfl⟩
  obtain ⟨name, level, hname, hlevel⟩ :=
    hstandard (.text LoggerName.root, asked) (by rw [hentries]; simp)
  have hfree : upperCase asked.plainForm ∉ LogLevel.reservedNames := by
    have hapart : ∀ name ∈ LogLevel.standardNames, name ∉ LogLevel.reservedNames := by decide
    rw [(Value.display_eq_ok_iff.mp hname).2]
    exact hapart _ (LogLevel.mem_standardNames hlevel)
  have hset : assignment (.text LoggerName.root, asked) =
      .ok (LoggerName.root, LogLevel.named asked.plainForm) :=
    assignment_eq_ok_iff.mpr ⟨rfl, hfree, rfl⟩
  have hassignments : call.assignments =
      (LoggerName.root, LogLevel.named asked.plainForm) :: accepted rest := by
    rw [assignments, hformat, hentries, accepted, hset]
  rw [← Option.ne_none_iff_exists', lastLevel?, List.flatMap_singleton, hassignments]
  intro hnone
  rw [List.lookup_eq_none_iff] at hnone
  simpa using hnone (LoggerName.root, LogLevel.named asked.plainForm) (by simp)

/-! ## The last call and those before it -/

theorem levels_of_named (earlier : List LoggingCall) {last : LoggingCall} {name : String}
    {level : LogLevel} (hlevel : lastLevel? [last] name = some level) :
    (history (earlier ++ [last])).levels name = level := by
  rw [levels_history, lastLevel?_concat, hlevel, Option.some_or, Option.getD_some]

theorem levels_of_unnamed (earlier : List LoggingCall) {last : LoggingCall} {name : String}
    (hnone : lastLevel? [last] name = none) :
    (history (earlier ++ [last])).levels name =
      (lastLevel? earlier name).getD (LoggerLevels.initial name) := by
  rw [levels_history, lastLevel?_concat, hnone, Option.none_or]

theorem outputs_history (earlier : List LoggingCall) {last : LoggingCall} {shown : String}
    (hformat : last.format = .ok shown) :
    (history (earlier ++ [last])).outputs = [LineFormat.ofSetting shown] := by
  rw [history, List.foldl_append]
  exact outputs_after _ hformat

theorem history_of_unread (earlier : List LoggingCall) {last : LoggingCall} {cause : Misuse}
    (hformat : last.format = .error cause) : history (earlier ++ [last]) = history earlier := by
  rw [history, List.foldl_append]
  exact after_of_unread _ hformat

/-- Two histories with the same last call end alike exactly if no level is left over. -/
theorem history_concat_eq_iff {earlier : List LoggingCall} {last : LoggingCall} {shown : String}
    (hformat : last.format = .ok shown) :
    history (earlier ++ [last]) = history [last] ↔
      ∀ name level, lastLevel? earlier name = some level → level ≠ LoggerLevels.initial name →
        ∃ set, lastLevel? [last] name = some set := by
  constructor
  · intro hsame name level hearlier hchanged
    rw [← Option.ne_none_iff_exists']
    intro hnone
    apply hchanged
    calc
      level = (history (earlier ++ [last])).levels name := by
        rw [levels_of_unnamed earlier hnone, hearlier, Option.getD_some]
      _ = (history [last]).levels name := by rw [hsame]
      _ = LoggerLevels.initial name := levels_of_unnamed [] hnone
  · intro hcovered
    apply eq_of_levels_of_outputs
    · intro name
      cases hlast : lastLevel? [last] name with
      | some level => exact (levels_of_named earlier hlast).trans (levels_of_named [] hlast).symm
      | none =>
          refine (levels_of_unnamed earlier hlast).trans (Eq.symm ?_)
          refine (levels_of_unnamed [] hlast).trans ?_
          cases hearlier : lastLevel? earlier name with
          | none => rfl
          | some level =>
              by_contra hchanged
              obtain ⟨set, hset⟩ := hcovered name level hearlier (Ne.symm hchanged)
              rw [hlast] at hset
              cases hset
    · exact (outputs_history earlier hformat).trans (outputs_history [] hformat).symm

/-- A call that can be read decides for the outputs, for the root and for every logger that it
names, whatever came before it.  The state is that of this call alone exactly if it names each
logger whose level earlier calls have changed.  A call that cannot be read leaves everything as
it was. -/
theorem history_eq_alone_iff (earlier : List LoggingCall) {last : LoggingCall}
    (hstandard : last.IsStandard) :
    (∀ cause, last.format = .error cause →
      history (earlier ++ [last]) = history earlier ∧ history [last] = initial) ∧
    ∀ shown, last.format = .ok shown →
      (history (earlier ++ [last])).outputs = [LineFormat.ofSetting shown] ∧
      (history [last]).outputs = [LineFormat.ofSetting shown] ∧
      (∃ level, lastLevel? [last] LoggerName.root = some level) ∧
      (∀ name level, lastLevel? [last] name = some level →
        (history (earlier ++ [last])).levels name = level ∧ (history [last]).levels name = level) ∧
      (∀ name, lastLevel? [last] name = none →
        (history (earlier ++ [last])).levels name =
          (lastLevel? earlier name).getD (LoggerLevels.initial name) ∧
        (history [last]).levels name = LoggerLevels.initial name) ∧
      (history (earlier ++ [last]) = history [last] ↔
        ∀ name level, lastLevel? earlier name = some level → level ≠ LoggerLevels.initial name →
          ∃ set, lastLevel? [last] name = some set) := by
  refine ⟨fun cause hunread => ⟨history_of_unread earlier hunread, history_of_unread [] hunread⟩,
    fun shown hformat => ?_⟩
  refine ⟨outputs_history earlier hformat, outputs_history [] hformat,
    exists_lastLevel?_root hformat hstandard, ?_, ?_, history_concat_eq_iff hformat⟩
  · intro name level hlevel
    exact ⟨levels_of_named earlier hlevel, levels_of_named [] hlevel⟩
  · intro name hnone
    exact ⟨levels_of_unnamed earlier hnone, levels_of_unnamed [] hnone⟩

/-! ## Two calls -/

/-- A call whose settings only name levels. -/
def levelsCall (entries : List (String × Value)) : LoggingCall :=
  { settings := levelSettings entries, environment := [] }

theorem isStandard_levelsCall {entries : List (String × Value)}
    (hentries : ∀ entry ∈ (.text LoggerName.root,
          (entries.lookup LoggerName.root).getD (.text "INFO")) ::
        Members.erase (entries.map fun (name, value) => (.text name, value))
          (.text LoggerName.root),
      entry.2.isPrintable = true ∧
        (LogLevel.ofName? (upperCase entry.2.plainForm)).isSome = true) :
    (levelsCall entries).IsStandard := by
  intro entry hentry
  rw [levelsCall, levelEntries_levelSettings] at hentry
  obtain ⟨hprintable, hstandard⟩ := hentries entry hentry
  obtain ⟨level, hlevel⟩ := Option.isSome_iff_exists.mp hstandard
  exact ⟨_, level, Value.display_eq_ok_iff.mpr ⟨hprintable, rfl⟩, hlevel⟩

theorem format_levelsCall {entries : List (String × Value)}
    (hstandard : (levelsCall entries).IsStandard) :
    (levelsCall entries).format = .ok LineFormat.console.name := by
  refine readFormat_eq_ok_iff.mpr ⟨fun entry hentry => ?_, ?_⟩
  · obtain ⟨shown, level, hshown, -⟩ := hstandard entry hentry
    exact (Value.display_eq_ok_iff.mp hshown).1
  · exact formatText_eq_ok_iff.mpr ⟨_, format_levelSettings rfl entries _, rfl⟩

theorem assignments_levelsCall {entries : List (String × Value)}
    (hstandard : (levelsCall entries).IsStandard) :
    (levelsCall entries).assignments = accepted (levelEntries (levelSettings entries)) := by
  rw [assignments, format_levelsCall hstandard]
  rfl

def appDebug : LoggingCall := levelsCall [("app", .text "DEBUG")]

def appWarning : LoggingCall := levelsCall [("app", .text "warning")]

def rootOnly : LoggingCall := levelsCall []

theorem isStandard_appDebug : appDebug.IsStandard := isStandard_levelsCall (by decide +kernel)

theorem isStandard_appWarning : appWarning.IsStandard := isStandard_levelsCall (by decide +kernel)

theorem isStandard_rootOnly : rootOnly.IsStandard := isStandard_levelsCall (by decide +kernel)

theorem assignments_appDebug :
    appDebug.assignments = [(LoggerName.root, .info), ("app", .debug)] := by
  rw [appDebug, assignments_levelsCall isStandard_appDebug, levelEntries_levelSettings]
  decide +kernel

theorem assignments_appWarning :
    appWarning.assignments = [(LoggerName.root, .info), ("app", .warning)] := by
  rw [appWarning, assignments_levelsCall isStandard_appWarning, levelEntries_levelSettings]
  decide +kernel

theorem assignments_rootOnly : rootOnly.assignments = [(LoggerName.root, .info)] := by
  rw [rootOnly, assignments_levelsCall isStandard_rootOnly, levelEntries_levelSettings]
  decide +kernel

/-- A call that names the logger of the call before it leaves nothing of that call. -/
theorem history_eq_alone_iff_overwritten :
    appWarning.format = .ok LineFormat.console.name ∧ appWarning.IsStandard ∧
      (history [appDebug]).levels "app" = .debug ∧
      (history [appDebug, appWarning]).levels "app" = .warning ∧
      history [appDebug, appWarning] = history [appWarning] := by
  have hformat : appWarning.format = .ok LineFormat.console.name :=
    format_levelsCall isStandard_appWarning
  have hlast := (history_eq_alone_iff [appDebug] isStandard_appWarning).2 _ hformat
  rw [List.singleton_append] at hlast
  obtain ⟨-, -, -, hnamed, -, hiff⟩ := hlast
  refine ⟨hformat, isStandard_appWarning, ?_, (hnamed "app" .warning ?_).1, hiff.mpr ?_⟩
  · rw [levels_history, lastLevel?, List.flatMap_singleton, assignments_appDebug]
    rfl
  · rw [lastLevel?, List.flatMap_singleton, assignments_appWarning]
    rfl
  · intro name level hearlier _
    rw [lastLevel?, List.flatMap_singleton, assignments_appDebug] at hearlier
    rw [lastLevel?, List.flatMap_singleton, assignments_appWarning]
    by_cases happ : name = "app"
    · exact ⟨.warning, by rw [happ]; rfl⟩
    · by_cases hroot : name = LoggerName.root
      · exact ⟨.info, by rw [hroot]; rfl⟩
      · simp [List.lookup_cons, beq_false_of_ne happ, beq_false_of_ne hroot] at hearlier

/-- The level of a logger outlives a call that does not name it, as it outlives one after it was
set by hand. -/
theorem history_keeps_unnamed_level :
    appDebug.IsStandard ∧ rootOnly.IsStandard ∧
      appDebug.format = .ok LineFormat.console.name ∧
      rootOnly.format = .ok LineFormat.console.name ∧
      (history [appDebug, rootOnly]).levels.own "app" = .debug ∧
      (history [rootOnly]).levels.own "app" = .unset ∧
      (history [appDebug, rootOnly]).levels.effective "app" = .debug ∧
      (history [rootOnly]).levels.effective "app" = .info ∧
      history [appDebug, rootOnly] ≠ history [rootOnly] ∧
      ∃ set, initial.setLevel (.text "app") "DEBUG" = .ok set ∧
        set.after rootOnly = history [appDebug, rootOnly] := by
  have hkept : (history [appDebug, rootOnly]).levels =
      LoggerLevels.initial.setAll
        [(LoggerName.root, .info), ("app", .debug), (LoggerName.root, .info)] := by
    rw [history, levels_foldl_after, List.flatMap_cons, List.flatMap_singleton,
      assignments_appDebug, assignments_rootOnly]
    rfl
  have hfresh : (history [rootOnly]).levels =
      LoggerLevels.initial.setAll [(LoggerName.root, .info)] := by
    rw [history, levels_foldl_after, List.flatMap_singleton, assignments_rootOnly]
    rfl
  have hown : (history [appDebug, rootOnly]).levels.own "app" = .debug := by
    rw [hkept]
    decide +kernel
  have hownFresh : (history [rootOnly]).levels.own "app" = .unset := by
    rw [hfresh]
    decide +kernel
  have heffective : (history [appDebug, rootOnly]).levels.effective "app" = .debug := by
    rw [hkept]
    decide +kernel
  have heffectiveFresh : (history [rootOnly]).levels.effective "app" = .info := by
    rw [hfresh]
    decide +kernel
  have hformat : rootOnly.format = .ok LineFormat.console.name :=
    format_levelsCall isStandard_rootOnly
  refine ⟨isStandard_appDebug, isStandard_rootOnly, format_levelsCall isStandard_appDebug, hformat,
    hown, hownFresh, heffective, heffectiveFresh, ?_, ?_⟩
  · intro hsame
    rw [hsame, hownFresh] at hown
    cases hown
  · have hset : initial.setLevel (.text "app") "DEBUG" =
        .ok { initial with levels := initial.levels.set "app" .debug } := by
      have hlevel : LogLevel.ofSetting "DEBUG" = .ok .debug := by
        rw [LogLevel.ofSetting_of_not_mem (by decide +kernel)]
        exact congrArg Except.ok (by decide +kernel)
      rw [setLevel, hlevel]
      rfl
    refine ⟨_, hset, eq_of_levels_of_outputs ?_ ?_⟩
    · intro name
      have honce : initial.levels.set "app" .debug =
          LoggerLevels.initial.setAll [("app", .debug)] := rfl
      rw [levels_after, assignments_rootOnly, hkept, honce, ← LoggerLevels.setAll_append,
        LoggerLevels.setAll_eq (by decide), LoggerLevels.setAll_eq (by decide)]
      -- What the first of the two calls sets for the root is set again by the second.
      by_cases hroot : name = LoggerName.root
      · rw [hroot]
        rfl
      · simp [List.lookup_cons, beq_false_of_ne hroot]
    · rw [outputs_after _ hformat, history, List.foldl_cons, List.foldl_cons, List.foldl_nil,
        outputs_after _ hformat]

end Logging

end GridSource
