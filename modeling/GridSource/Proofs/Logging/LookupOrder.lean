import GridSource.Proofs.Logging.Levels
import GridSource.Proofs.Store.Properties

/-!
# The level of the root and the order of lookup

The format of the lines is what the settings answer for its key: the variable that overrides the
key, else the configured value with the placeholders of a text replaced, else the default.  The
level of the root is read from its section as it stands there.  It is the level that the same
order of lookup leads to unless the section overlooks a variable or placeholders.
-/

namespace GridSource

/-! ## Levels named by texts with placeholders -/

/-- No level has a dollar sign in its name. -/
theorem LogLevel.named_of_marked {content : String}
    (hmarked : Placeholder.isMarked content = true) : named content = .info := by
  have hdollar : '$' ∈ (upperCase content).toList := by
    have hitself : UpperCase.character '$' = ['$'] := by decide +kernel
    rw [toList_upperCase, List.mem_flatMap]
    refine ⟨'$', Placeholder.mem_of_marks hmarked, ?_⟩
    rw [hitself]
    exact List.mem_singleton_self '$'
  have hname : upperCase content ∉ standardNames := fun hname =>
    ((upperCase_of_mem (List.mem_append_left _ hname)).2 _ hdollar).2 rfl
  rw [named, ofName?_of_not_mem hname]
  rfl

namespace Logging

open LoggingChoice

variable {settings : Settings} {environment : Environment}

/-! ## What the settings answer for the root -/

def rootKey : String := "crudstore.logging.level.root"

def rootAnswer (settings : Settings) (environment : Environment) :
    Except Placeholder.Failure Value :=
  settings.get environment rootKey (.text "INFO")

/-- The section does not show the level that the order of lookup leads to. -/
inductive Overlooked (settings : Settings) (environment : Environment) : Prop where
  | variable {override : String}
      (hvariable : environment.lookup (Settings.variableName rootKey) = some override)
      (hlevel : LogLevel.named override ≠ LogLevel.named (rootSetting settings).plainForm)
  | placeholders {content resolved : String}
      (hvariable : environment.lookup (Settings.variableName rootKey) = none)
      (hcontent : rootSetting settings = .text content)
      (hmarked : Placeholder.isMarked content = true)
      (hresolved : (settings.source environment).resolve content = .ok resolved)
      (hlevel : LogLevel.named resolved ≠ .info)

theorem rootAnswer_of_variable {override : String}
    (hvariable : environment.lookup (Settings.variableName rootKey) = some override) :
    rootAnswer settings environment = .ok (.text override) := by
  rw [rootAnswer, Settings.get, Settings.get?, hvariable]
  rfl

theorem lookup?_rootKey (settings : Settings) :
    Tree.lookup? settings.tree rootKey =
      Members.named? (settings.sectionAt levelKey) LoggerName.root := by
  have hkey : rootKey = levelKey ++ "." ++ LoggerName.root := by decide
  rw [hkey, Tree.lookup?_member (by decide), Settings.sectionAt]

theorem rootAnswer_of_marked {content : String}
    (hvariable : environment.lookup (Settings.variableName rootKey) = none)
    (hcontent : rootSetting settings = .text content)
    (hmarked : Placeholder.isMarked content = true) :
    rootAnswer settings environment =
      ((settings.source environment).resolve content).map .text := by
  refine Settings.get_of_marked hvariable ?_ hmarked _
  rw [lookup?_rootKey]
  rw [rootSetting] at hcontent
  cases hfound : Members.named? (settings.sectionAt levelKey) LoggerName.root with
  | some value =>
      rw [hfound] at hcontent
      exact congrArg some hcontent
  | none =>
      rw [hfound] at hcontent
      obtain rfl := Value.text.inj hcontent
      have hplain : Placeholder.isMarked "INFO" = false := by decide
      rw [hplain] at hmarked
      cases hmarked

/-- Without a variable and placeholders the answer names the level that stands in the section. -/
theorem exists_rootAnswer_of_unmarked
    (hvariable : environment.lookup (Settings.variableName rootKey) = none)
    (hunmarked : ∀ content, rootSetting settings = .text content →
      Placeholder.isMarked content = false) :
    ∃ found, rootAnswer settings environment = .ok found ∧
      LogLevel.named found.plainForm = LogLevel.named (rootSetting settings).plainForm ∧
      found.isPrintable = (rootSetting settings).isPrintable := by
  have hsetting : rootSetting settings =
      (Tree.lookup? settings.tree rootKey).getD (.text "INFO") := by
    rw [lookup?_rootKey]
    rfl
  refine ⟨_, Settings.get_of_not_marked hvariable ?_ _, ?_⟩
  · intro content hfound
    apply hunmarked
    rw [hsetting, hfound]
    rfl
  · rw [hsetting, Placeholder.Source.configured?, Settings.source]
    cases Tree.lookup? settings.tree rootKey with
    | none => exact ⟨rfl, rfl⟩
    | some value =>
        cases value with
        | null => exact ⟨by decide +kernel, rfl⟩
        | _ => exact ⟨rfl, rfl⟩

/-- The answer has a text if the section's own level has one. -/
theorem isPrintable_rootAnswer {found : Value}
    (hfound : rootAnswer settings environment = .ok found)
    (hsetting : (rootSetting settings).isPrintable = true) : found.isPrintable = true := by
  cases hvariable : environment.lookup (Settings.variableName rootKey) with
  | some override =>
      rw [rootAnswer_of_variable hvariable] at hfound
      obtain rfl := Except.ok.inj hfound
      rfl
  | none =>
      by_cases hmarked : ∃ content, rootSetting settings = .text content ∧
          Placeholder.isMarked content = true
      · obtain ⟨content, hcontent, hmarked⟩ := hmarked
        rw [rootAnswer_of_marked hvariable hcontent hmarked] at hfound
        obtain ⟨resolved, -, rfl⟩ := Outcome.map_eq_ok_iff.mp hfound
        rfl
      · have hunmarked (content : String) (hcontent : rootSetting settings = .text content) :
            Placeholder.isMarked content = false :=
          Bool.eq_false_iff.mpr fun hcontent' => hmarked ⟨content, hcontent, hcontent'⟩
        obtain ⟨answer, hanswer, -, hsame⟩ := exists_rootAnswer_of_unmarked hvariable hunmarked
        obtain rfl := Except.ok.inj (hanswer.symm.trans hfound)
        rw [hsame, hsetting]

/-- The section shows the level of the answer unless something is overlooked. -/
theorem named_rootSetting_iff {found : Value}
    (hfound : rootAnswer settings environment = .ok found) :
    LogLevel.named (rootSetting settings).plainForm = LogLevel.named found.plainForm ↔
      ¬ Overlooked settings environment := by
  have hplaceholders {content resolved : String}
      (hvariable : environment.lookup (Settings.variableName rootKey) = none)
      (hcontent : rootSetting settings = .text content)
      (hmarked : Placeholder.isMarked content = true)
      (hresolved : (settings.source environment).resolve content = .ok resolved) :
      found = .text resolved ∧ LogLevel.named (rootSetting settings).plainForm = .info := by
    rw [rootAnswer_of_marked hvariable hcontent hmarked, hresolved] at hfound
    rw [hcontent]
    exact ⟨(Except.ok.inj hfound).symm, LogLevel.named_of_marked hmarked⟩
  constructor
  · rintro hsame (⟨hvariable, hlevel⟩ | ⟨hvariable, hcontent, hmarked, hresolved, hlevel⟩)
    · rw [rootAnswer_of_variable hvariable] at hfound
      obtain rfl := Except.ok.inj hfound
      exact hlevel hsame.symm
    · obtain ⟨rfl, hinfo⟩ := hplaceholders hvariable hcontent hmarked hresolved
      exact hlevel (hsame.symm.trans hinfo)
  · intro hshown
    by_contra hother
    cases hvariable : environment.lookup (Settings.variableName rootKey) with
    | some override =>
        rw [rootAnswer_of_variable hvariable] at hfound
        obtain rfl := Except.ok.inj hfound
        exact hshown (.variable hvariable (Ne.symm hother))
    | none =>
        by_cases hmarked : ∃ content, rootSetting settings = .text content ∧
            Placeholder.isMarked content = true
        · obtain ⟨content, hcontent, hmarked⟩ := hmarked
          have hanswer := rootAnswer_of_marked hvariable hcontent hmarked
          obtain ⟨resolved, hresolved, -⟩ := Outcome.map_eq_ok_iff.mp (hanswer.symm.trans hfound)
          obtain ⟨rfl, hinfo⟩ := hplaceholders hvariable hcontent hmarked hresolved
          rw [hinfo] at hother
          exact hshown (.placeholders hvariable hcontent hmarked hresolved (Ne.symm hother))
        · have hunmarked (content : String) (hcontent : rootSetting settings = .text content) :
              Placeholder.isMarked content = false :=
            Bool.eq_false_iff.mpr fun hcontent' => hmarked ⟨content, hcontent, hcontent'⟩
          obtain ⟨answer, hanswer, hsame, -⟩ := exists_rootAnswer_of_unmarked hvariable hunmarked
          obtain rfl := Except.ok.inj (hanswer.symm.trans hfound)
          exact hother hsame.symm

/-- An answer that fails has placeholders behind it, and the text that holds them names no
level. -/
theorem named_rootSetting_of_failure {failure : Placeholder.Failure}
    (hfailure : rootAnswer settings environment = .error failure) :
    LogLevel.named (rootSetting settings).plainForm = .info := by
  cases hvariable : environment.lookup (Settings.variableName rootKey) with
  | some override =>
      rw [rootAnswer_of_variable hvariable] at hfailure
      cases hfailure
  | none =>
      by_contra hlevel
      have hunmarked (content : String) (hcontent : rootSetting settings = .text content) :
          Placeholder.isMarked content = false := by
        rw [Bool.eq_false_iff]
        intro hmarked
        rw [hcontent] at hlevel
        exact hlevel (LogLevel.named_of_marked hmarked)
      obtain ⟨answer, hanswer, -⟩ := exists_rootAnswer_of_unmarked hvariable hunmarked
      rw [hanswer] at hfailure
      cases hfailure

/-! ## The level of the root after a configuration -/

/-- A configuration succeeds exactly if everything can be read and every entry is accepted. -/
theorem configure_eq_ok_iff {logging : Logging} :
    (∃ next choice, logging.configure settings environment = (next, .ok choice)) ↔
      (∃ shown, readFormat settings environment = .ok shown) ∧
      ∀ entry ∈ levelEntries settings, ∃ set, assignment entry = .ok set := by
  obtain ⟨hunread, hread⟩ := configure_eq settings environment logging
  cases hformat : readFormat settings environment with
  | error cause => simp [hunread cause hformat]
  | ok shown =>
      obtain ⟨choice, hconfigured⟩ := hread shown hformat
      rw [hconfigured, ← Outcome.exists_mapM_eq_ok_iff]
      simp [Outcome.map_eq_ok_iff]

/-- Everything can be read and every entry is accepted exactly if all texts are there and all
names are allowed. -/
theorem exists_readFormat_iff :
    ((∃ shown, readFormat settings environment = .ok shown) ∧
        ∀ entry ∈ levelEntries settings, ∃ set, assignment entry = .ok set) ↔
      (∃ format shown, settings.get environment formatKey (.text "console") = .ok format ∧
          format.display = .ok shown) ∧
        ∀ entry ∈ levelEntries settings, (∃ name, loggerName entry.1 = .ok name) ∧
          ∃ shown, entry.2.display = .ok shown ∧ upperCase shown ∉ LogLevel.reservedNames := by
  simp only [exists_assignment_iff, Value.display_eq_ok_iff]
  constructor
  · rintro ⟨⟨shown, hread⟩, hentries⟩
    obtain ⟨hprintable, hformat⟩ := readFormat_eq_ok_iff.mp hread
    obtain ⟨format, hformat, hshown⟩ := formatText_eq_ok_iff.mp hformat
    refine ⟨⟨format, shown, hformat, Value.display_eq_ok_iff.mp hshown⟩, fun entry hentry => ?_⟩
    obtain ⟨hname, hfree⟩ := hentries entry hentry
    exact ⟨hname, _, ⟨hprintable entry hentry, rfl⟩, hfree⟩
  · rintro ⟨⟨format, shown, hformat, hshown⟩, hentries⟩
    refine ⟨⟨shown, readFormat_eq_ok_iff.mpr ⟨fun entry hentry => ?_, ?_⟩⟩, fun entry hentry => ?_⟩
    · obtain ⟨-, _, ⟨hprintable, -⟩, -⟩ := hentries entry hentry
      exact hprintable
    · exact formatText_eq_ok_iff.mpr ⟨format, hformat, Value.display_eq_ok_iff.mpr hshown⟩
    · obtain ⟨hname, _, ⟨-, rfl⟩, hfree⟩ := hentries entry hentry
      exact ⟨hname, hfree⟩

/-- What a configuration that succeeds has made of the state. -/
theorem state_of_configure {logging next : Logging} {choice : LoggingChoice}
    (hconfigured : logging.configure settings environment = (next, .ok choice)) :
    ∃ shown, readFormat settings environment = .ok shown ∧
      next.outputs = [LineFormat.ofSetting shown] ∧
      next.levels = logging.levels.setAll (accepted (levelEntries settings)) := by
  obtain ⟨⟨shown, hshown⟩, -⟩ := configure_eq_ok_iff.mp ⟨next, choice, hconfigured⟩
  obtain ⟨_, hstate⟩ := (configure_eq settings environment logging).2 shown hshown
  rw [hconfigured] at hstate
  obtain ⟨hnext, -⟩ := Prod.mk.inj hstate
  exact ⟨shown, hshown, by rw [hnext], by rw [hnext]⟩

/-- The last entry that names a logger sets its level. -/
theorem levels_of_configure {logging next : Logging} {choice : LoggingChoice}
    (hconfigured : logging.configure settings environment = (next, .ok choice))
    {before after : List (Value × Value)} {entry : Value × Value} {name : String}
    (hentries : levelEntries settings = before ++ entry :: after)
    (hentry : loggerName entry.1 = .ok name)
    (hlater : ∀ later ∈ after, loggerName later.1 ≠ .ok name) :
    next.levels name = LogLevel.named entry.2.plainForm := by
  obtain ⟨-, hassigned⟩ := configure_eq_ok_iff.mp ⟨next, choice, hconfigured⟩
  obtain ⟨_, -, -, hlevels⟩ := state_of_configure hconfigured
  rw [hentries] at hassigned
  have hset : assignment entry = .ok (name, LogLevel.named entry.2.plainForm) := by
    obtain ⟨⟨other, level⟩, hset⟩ := hassigned entry (by simp)
    obtain ⟨hother, hfree, -⟩ := assignment_eq_ok_iff.mp hset
    exact assignment_eq_ok_iff.mpr ⟨hentry, hfree, rfl⟩
  have haccepted : accepted (levelEntries settings) =
      accepted before ++ (name, LogLevel.named entry.2.plainForm) :: accepted after := by
    rw [hentries, accepted_append fun earlier hearlier => hassigned earlier (by simp [hearlier]),
      accepted, hset]
  rw [hlevels, haccepted]
  refine LoggerLevels.setAll_append_cons ?_ ?_ logging.levels
  · rw [← haccepted]
    exact fun _ => canonical_of_mem_accepted
  · rintro ⟨other, level⟩ hmem rfl
    obtain ⟨later, hafter, hassignment⟩ := mem_accepted hmem
    exact hlater later hafter (assignment_eq_ok_iff.mp hassignment).1

@[simp]
theorem own_root (levels : LoggerLevels) : levels.own LoggerName.root = levels LoggerName.root :=
  rfl

/-- Where no other entry is one for the root, its level is the one in the section. -/
theorem own_root_of_configure {logging next : Logging} {choice : LoggingChoice}
    (hconfigured : logging.configure settings environment = (next, .ok choice))
    (hsole : ∀ entry ∈ levelEntries settings, loggerName entry.1 = .ok LoggerName.root →
      entry.1 = .text LoggerName.root) :
    next.levels.own LoggerName.root = LogLevel.named (rootSetting settings).plainForm := by
  have hentries : levelEntries settings = [] ++ (.text LoggerName.root, rootSetting settings) ::
      Members.erase (settings.sectionAt levelKey) (.text LoggerName.root) := rfl
  have hlater : ∀ later ∈ Members.erase (settings.sectionAt levelKey) (.text LoggerName.root),
      loggerName later.1 ≠ .ok LoggerName.root := by
    intro later hlater hname
    have hkey := hsole later (List.mem_cons_of_mem _ hlater) hname
    rw [Members.erase, List.mem_filter, hkey, Value.sameKey_text_iff.mpr rfl] at hlater
    exact Bool.noConfusion hlater.2
  have hset := levels_of_configure hconfigured hentries rfl hlater
  rw [own_root]
  exact hset

/-- A configuration succeeds if its format can be read and has a text and if every entry is
accepted, which asks for a text too.  Then the format is the answer for its key.  The level of the
root is the one that the last entry for it names, as it stands in the section.  If that is the
entry of the root's own name, the level is that of the answer for its key exactly if nothing is
overlooked. -/
theorem configure_follows_lookup_iff (settings : Settings) (environment : Environment)
    (logging : Logging) :
    ((∃ next choice, logging.configure settings environment = (next, .ok choice)) ↔
      (∃ format shown, settings.get environment formatKey (.text "console") = .ok format ∧
          format.display = .ok shown) ∧
        ∀ entry ∈ levelEntries settings, (∃ name, loggerName entry.1 = .ok name) ∧
          ∃ shown, entry.2.display = .ok shown ∧ upperCase shown ∉ LogLevel.reservedNames) ∧
    ∀ next choice, logging.configure settings environment = (next, .ok choice) →
      (∃ format shown, settings.get environment formatKey (.text "console") = .ok format ∧
        format.display = .ok shown ∧ next.outputs = [LineFormat.ofSetting shown]) ∧
      (∀ before entry after, levelEntries settings = before ++ entry :: after →
        loggerName entry.1 = .ok LoggerName.root →
        (∀ later ∈ after, loggerName later.1 ≠ .ok LoggerName.root) →
          ∃ shown, entry.2.display = .ok shown ∧
            next.levels.own LoggerName.root = LogLevel.named shown) ∧
      ((∀ entry ∈ levelEntries settings, loggerName entry.1 = .ok LoggerName.root →
          entry.1 = .text LoggerName.root) →
        (∀ found, settings.get environment rootKey (.text "INFO") = .ok found →
          ∃ shown, found.display = .ok shown ∧
            (next.levels.own LoggerName.root = LogLevel.named shown ↔
              ¬ Overlooked settings environment)) ∧
        ∀ failure, settings.get environment rootKey (.text "INFO") = .error failure →
          next.levels.own LoggerName.root = .info) := by
  constructor
  · exact configure_eq_ok_iff.trans exists_readFormat_iff
  · intro next choice hconfigured
    obtain ⟨shown, hread, houtputs, -⟩ := state_of_configure hconfigured
    obtain ⟨hprintable, hformat⟩ := readFormat_eq_ok_iff.mp hread
    obtain ⟨format, hformat, hshown⟩ := formatText_eq_ok_iff.mp hformat
    refine ⟨⟨format, shown, hformat, hshown, houtputs⟩, ?_, ?_⟩
    · intro before entry after hentries hentry hlater
      have hentryPrintable := hprintable entry (by simp [hentries])
      refine ⟨_, Value.display_eq_ok_iff.mpr ⟨hentryPrintable, rfl⟩, ?_⟩
      rw [own_root]
      exact levels_of_configure hconfigured hentries hentry hlater
    · intro hsole
      rw [own_root_of_configure hconfigured hsole]
      refine ⟨fun found hfound => ?_, fun failure hfailure => named_rootSetting_of_failure hfailure⟩
      have hfoundPrintable := isPrintable_rootAnswer hfound
        (hprintable (.text LoggerName.root, rootSetting settings) List.mem_cons_self)
      exact ⟨_, Value.display_eq_ok_iff.mpr ⟨hfoundPrintable, rfl⟩, named_rootSetting_iff hfound⟩

/-! ## A variable that overrides the root -/

/-- Settings that only name the level of the root. -/
def rootSettings (content : String) : Settings := levelSettings [("root", .text content)]

def rootVariable (level : String) : Environment := [("CRUDSTORE_LOGGING_LEVEL_ROOT", level)]

theorem lookup_rootVariable (level : String) :
    (rootVariable level).lookup (Settings.variableName rootKey) = some level := by
  have hname : Settings.variableName rootKey = "CRUDSTORE_LOGGING_LEVEL_ROOT" := by decide +kernel
  rw [hname]
  rfl

theorem levelEntries_rootSettings (content : String) :
    levelEntries (rootSettings content) = [(.text LoggerName.root, .text content)] := by
  rw [rootSettings, levelEntries_levelSettings]
  rfl

theorem sole_rootSettings (content : String) : ∀ entry ∈ levelEntries (rootSettings content),
    loggerName entry.1 = .ok LoggerName.root → entry.1 = .text LoggerName.root := by
  rw [levelEntries_rootSettings]
  exact List.forall_mem_singleton.mpr fun _ => rfl

theorem rootSetting_rootSettings (content : String) :
    rootSetting (rootSettings content) = .text content := by
  rw [rootSettings, rootSetting_levelSettings]
  rfl

theorem format_rootSettings (content level : String) :
    (rootSettings content).get (rootVariable level) formatKey (.text "console") =
      .ok (.text "console") := by
  have hname : Settings.variableName formatKey = "CRUDSTORE_LOGGING_FORMAT" := by decide +kernel
  refine format_levelSettings ?_ _ _
  rw [hname]
  rfl

/-- A variable that names the level of the section in another case is not overlooked. -/
theorem configure_follows_lookup_iff_same :
    ∃ next choice, initial.configure (rootSettings "error") (rootVariable "ERROR") =
        (next, .ok choice) ∧
      (rootSettings "error").get (rootVariable "ERROR") rootKey (.text "INFO") =
        .ok (.text "ERROR") ∧
      next.levels.own LoggerName.root = LogLevel.named "ERROR" ∧
      LogLevel.named "ERROR" = .error := by
  obtain ⟨hsucceeds, hlevels⟩ :=
    configure_follows_lookup_iff (rootSettings "error") (rootVariable "ERROR") initial
  have hentries := levelEntries_rootSettings "error"
  obtain ⟨next, choice, hconfigured⟩ := hsucceeds.mpr ⟨⟨_, _, format_rootSettings _ _, rfl⟩, by
    rw [hentries]
    exact List.forall_mem_singleton.mpr ⟨⟨_, rfl⟩, _, rfl, by decide +kernel⟩⟩
  have hanswer : (rootSettings "error").get (rootVariable "ERROR") rootKey (.text "INFO") =
      .ok (.text "ERROR") := rootAnswer_of_variable (lookup_rootVariable "ERROR")
  have hshown : ¬ Overlooked (rootSettings "error") (rootVariable "ERROR") := by
    rintro (⟨hvariable, hlevel⟩ | ⟨hvariable, -⟩)
    · rw [lookup_rootVariable] at hvariable
      obtain rfl := Option.some.inj hvariable
      rw [rootSetting_rootSettings] at hlevel
      exact hlevel (by decide +kernel)
    · rw [lookup_rootVariable] at hvariable
      cases hvariable
  obtain ⟨-, -, hfollows⟩ := hlevels next choice hconfigured
  obtain ⟨shown, htext, hlevel⟩ := (hfollows (sole_rootSettings _)).1 (.text "ERROR") hanswer
  obtain rfl := Except.ok.inj htext
  exact ⟨next, choice, hconfigured, hanswer, hlevel.mpr hshown, by decide +kernel⟩

/-- The level of the section stands although a variable overrides it with another. -/
theorem configure_overlooks_variable :
    ∃ next choice, initial.configure (rootSettings "ERROR") (rootVariable "DEBUG") =
        (next, .ok choice) ∧
      (rootSettings "ERROR").get (rootVariable "DEBUG") rootKey (.text "INFO") =
        .ok (.text "DEBUG") ∧
      LogLevel.named "DEBUG" = .debug ∧
      next.levels.own LoggerName.root = .error := by
  have hentries := levelEntries_rootSettings "ERROR"
  obtain ⟨next, choice, hconfigured⟩ : ∃ next choice,
      initial.configure (rootSettings "ERROR") (rootVariable "DEBUG") = (next, .ok choice) := by
    refine configure_eq_ok_iff.mpr
      (exists_readFormat_iff.mpr ⟨⟨_, _, format_rootSettings _ _, rfl⟩, ?_⟩)
    rw [hentries]
    exact List.forall_mem_singleton.mpr ⟨⟨_, rfl⟩, _, rfl, by decide +kernel⟩
  refine ⟨next, choice, hconfigured, rootAnswer_of_variable (lookup_rootVariable "DEBUG"),
    by decide +kernel, ?_⟩
  rw [own_root_of_configure hconfigured (sole_rootSettings _), rootSetting_rootSettings]
  decide +kernel

end Logging

end GridSource
