import GridSource.Logging.Setup
import GridSource.Proofs.Config.Merge
import GridSource.Proofs.Text.UpperCase

/-!
# Levels that settings set

The section of levels is a list of entries, the root's first.  Each of them sets one level, or is
refused, and then no later one is looked at.  What a logger has afterwards is the last level that
was set for it.
-/

namespace GridSource

/-! ## Names of levels -/

namespace LogLevel

def standardNames : List String :=
  ["NOTSET", "DEBUG", "INFO", "WARN", "WARNING", "ERROR", "CRITICAL", "FATAL"]

/-- Names that are refused. -/
def reservedNames : List String := ["BASIC_FORMAT", "_STYLES"]

/-- The standard level that a text names in any case, `info` if it names none. -/
def named (content : String) : LogLevel := (ofName? (upperCase content)).getD .info

theorem mem_standardNames {name : String} {level : LogLevel} (hlevel : ofName? name = some level) :
    name ∈ standardNames := by
  unfold ofName? at hlevel
  split at hlevel
  case h_9 => exact absurd hlevel (Option.some_ne_none level).symm
  all_goals decide

/-- The names that have a meaning are ASCII and in upper case. -/
theorem upperCase_of_mem {name : String} (hname : name ∈ standardNames ++ reservedNames) :
    upperCase name = name ∧
      ∀ character ∈ name.toList, character.toNat < 0x80 ∧ character ≠ '$' := by
  have hnames : (standardNames ++ reservedNames).Forall fun name => upperCase name = name ∧
      name.toList.Forall fun character => character.toNat < 0x80 ∧ character ≠ '$' := by
    decide +kernel
  obtain ⟨hfixed, hcharacters⟩ := List.forall_iff_forall_mem.mp hnames name hname
  exact ⟨hfixed, List.forall_iff_forall_mem.mp hcharacters⟩

theorem ofName?_of_not_mem {name : String} (hname : name ∉ standardNames) :
    ofName? name = none := by
  cases hlevel : ofName? name with
  | none => rfl
  | some level => exact absurd (mem_standardNames hlevel) hname

theorem ofSetting_of_mem {content : String} (hcontent : upperCase content ∈ reservedNames) :
    ∃ cause, ofSetting content = .error cause := by
  rw [ofSetting]
  rcases List.mem_pair.mp hcontent with hname | hname
  · rw [hname]
    exact ⟨_, rfl⟩
  · rw [hname]
    exact ⟨_, rfl⟩

theorem ofSetting_of_not_mem {content : String} (hcontent : upperCase content ∉ reservedNames) :
    ofSetting content = .ok (named content) := by
  rw [ofSetting, named]
  split
  · next hname => exact absurd (hname ▸ List.mem_cons_self) hcontent
  · next hname => exact absurd (hname ▸ List.mem_cons_of_mem _ List.mem_cons_self) hcontent
  · rfl

/-- A text without meaning asks for `info`. -/
theorem ofSetting_of_no_name {content : String}
    (hcontent : upperCase content ∉ standardNames ++ reservedNames) :
    ofSetting content = .ok .info := by
  rw [List.mem_append, not_or] at hcontent
  rw [ofSetting_of_not_mem hcontent.2, named, ofName?_of_not_mem hcontent.1]
  rfl

/-- The name of a level may be brought to upper case first. -/
@[simp]
theorem ofSetting_upperCase (content : String) :
    ofSetting (upperCase content) = ofSetting content := by
  by_cases hagain : upperCase (upperCase content) ∈ standardNames ++ reservedNames
  · have hsame : upperCase (upperCase content) = upperCase content :=
      upperCase_upperCase_of_ascii fun character hcharacter =>
        ((upperCase_of_mem hagain).2 character hcharacter).1
    unfold ofSetting
    rw [hsame]
  · have honce : upperCase content ∉ standardNames ++ reservedNames := by
      intro hname
      rw [(upperCase_of_mem hname).1] at hagain
      exact hagain hname
    rw [ofSetting_of_no_name hagain, ofSetting_of_no_name honce]

end LogLevel

/-! ## Levels set one after the other -/

namespace LoggerLevels

def setAll (levels : LoggerLevels) (assignments : List (String × LogLevel)) : LoggerLevels :=
  assignments.foldl (fun collected assignment => collected.set assignment.1 assignment.2) levels

theorem setAll_append (levels : LoggerLevels) (first second : List (String × LogLevel)) :
    levels.setAll (first ++ second) = (levels.setAll first).setAll second :=
  List.foldl_append

/-- The last level that was set for a logger counts. -/
theorem setAll_eq {assignments : List (String × LogLevel)}
    (hcanonical : ∀ assignment ∈ assignments, LoggerName.canonical assignment.1 = assignment.1)
    (levels : LoggerLevels) (name : String) :
    levels.setAll assignments name = (assignments.reverse.lookup name).getD (levels name) := by
  induction assignments using List.reverseRecOn with
  | nil => rfl
  | append_singleton earlier last ih =>
      have hlast : LoggerName.canonical last.1 = last.1 := hcanonical last (by simp)
      rw [setAll_append, List.reverse_append, List.reverse_singleton, List.singleton_append,
        List.lookup_cons]
      change (levels.setAll earlier).set last.1 last.2 name = _
      rw [set, hlast]
      by_cases hname : name = last.1
      · rw [if_pos hname, hname, beq_self_eq_true, Option.getD_some]
      · rw [if_neg hname, beq_false_of_ne hname]
        exact ih fun assignment hmem => hcanonical assignment (by simp [hmem])

theorem setAll_append_cons {earlier later : List (String × LogLevel)} {name : String}
    {level : LogLevel}
    (hcanonical : ∀ assignment ∈ earlier ++ (name, level) :: later,
      LoggerName.canonical assignment.1 = assignment.1)
    (hlater : ∀ assignment ∈ later, assignment.1 ≠ name) (levels : LoggerLevels) :
    levels.setAll (earlier ++ (name, level) :: later) name = level := by
  have hnone : later.reverse.lookup name = none := by
    rw [List.lookup_eq_none_iff]
    intro assignment hmem
    simpa using (hlater assignment (List.mem_reverse.mp hmem)).symm
  have hlookup : (earlier ++ (name, level) :: later).reverse.lookup name = some level := by
    rw [List.reverse_append, List.reverse_cons, List.append_assoc, List.lookup_append, hnone,
      Option.none_or, List.singleton_append, List.lookup_cons_self]
  rw [setAll_eq hcanonical, hlookup, Option.getD_some]

end LoggerLevels

namespace Logging

open LoggingChoice

/-! ## One entry -/

/-- The level that an entry sets, and for which logger. -/
def assignment (entry : Value × Value) : Except Misuse (String × LogLevel) := do
  let name ← loggerName entry.1
  let level ← LogLevel.ofSetting entry.2.plainForm
  return (name, level)

theorem canonical_of_loggerName {key : Value} {name : String} (hname : loggerName key = .ok name) :
    LoggerName.canonical name = name := by
  have hidempotent (content : String) :
      LoggerName.canonical (LoggerName.canonical content) = LoggerName.canonical content := by
    unfold LoggerName.canonical
    split <;> rfl
  unfold loggerName at hname
  split at hname
  · exact Except.ok.inj hname ▸ hidempotent _
  · split at hname
    · contradiction
    · obtain rfl := Except.ok.inj hname
      rfl

theorem assignment_eq_ok_iff {entry : Value × Value} {name : String} {level : LogLevel} :
    assignment entry = .ok (name, level) ↔
      loggerName entry.1 = .ok name ∧ upperCase entry.2.plainForm ∉ LogLevel.reservedNames ∧
        LogLevel.named entry.2.plainForm = level := by
  rw [assignment, Outcome.bind_eq_ok_iff]
  constructor
  · rintro ⟨found, hfound, hentry⟩
    obtain ⟨asked, hasked, hentry⟩ := Outcome.bind_eq_ok_iff.mp hentry
    obtain ⟨rfl, rfl⟩ := Prod.mk.inj (Except.ok.inj hentry)
    have hfree : upperCase entry.2.plainForm ∉ LogLevel.reservedNames := by
      intro hreserved
      obtain ⟨cause, hcause⟩ := LogLevel.ofSetting_of_mem hreserved
      rw [hcause] at hasked
      cases hasked
    rw [LogLevel.ofSetting_of_not_mem hfree] at hasked
    exact ⟨hfound, hfree, Except.ok.inj hasked⟩
  · rintro ⟨hname, hfree, rfl⟩
    refine ⟨name, hname, ?_⟩
    rw [LogLevel.ofSetting_of_not_mem hfree]
    rfl

theorem exists_assignment_iff {entry : Value × Value} :
    (∃ set, assignment entry = .ok set) ↔ (∃ name, loggerName entry.1 = .ok name) ∧
      upperCase entry.2.plainForm ∉ LogLevel.reservedNames := by
  constructor
  · rintro ⟨⟨name, level⟩, hset⟩
    obtain ⟨hname, hfree, -⟩ := assignment_eq_ok_iff.mp hset
    exact ⟨⟨name, hname⟩, hfree⟩
  · rintro ⟨⟨name, hname⟩, hfree⟩
    exact ⟨_, assignment_eq_ok_iff.mpr ⟨hname, hfree, rfl⟩⟩

theorem setLevel_eq (logging : Logging) (entry : Value × Value) :
    logging.setLevel entry.1 (upperCase entry.2.plainForm) = (assignment entry).map fun set =>
      { logging with levels := logging.levels.set set.1 set.2 } := by
  rw [setLevel, assignment, LogLevel.ofSetting_upperCase]
  cases loggerName entry.1 with
  | error cause => rfl
  | ok name => cases LogLevel.ofSetting entry.2.plainForm <;> rfl

/-! ## All entries -/

/-- What entries set until one of them is refused. -/
def accepted : List (Value × Value) → List (String × LogLevel)
  | [] => []
  | entry :: rest =>
      match assignment entry with
      | .ok set => set :: accepted rest
      | .error _ => []

theorem mem_accepted {entries : List (Value × Value)} {set : String × LogLevel}
    (hset : set ∈ accepted entries) : ∃ entry ∈ entries, assignment entry = .ok set := by
  induction entries with
  | nil => contradiction
  | cons entry rest ih =>
      rw [accepted] at hset
      split at hset
      · next first hfirst =>
          rcases List.mem_cons.mp hset with rfl | hrest
          · exact ⟨entry, List.mem_cons_self, hfirst⟩
          · obtain ⟨other, hother, hassigned⟩ := ih hrest
            exact ⟨other, List.mem_cons_of_mem _ hother, hassigned⟩
      · contradiction

theorem canonical_of_mem_accepted {entries : List (Value × Value)} {set : String × LogLevel}
    (hset : set ∈ accepted entries) : LoggerName.canonical set.1 = set.1 := by
  obtain ⟨entry, -, hassigned⟩ := mem_accepted hset
  exact canonical_of_loggerName (assignment_eq_ok_iff.mp hassigned).1

theorem accepted_append {first : List (Value × Value)}
    (hfirst : ∀ entry ∈ first, ∃ set, assignment entry = .ok set) (second : List (Value × Value)) :
    accepted (first ++ second) = accepted first ++ accepted second := by
  induction first with
  | nil => rfl
  | cons entry rest ih =>
      obtain ⟨set, hset⟩ := hfirst entry List.mem_cons_self
      rw [List.cons_append, accepted, accepted, hset,
        ih fun other hother => hfirst other (List.mem_cons_of_mem _ hother)]
      rfl

theorem setLevels_eq (logging : Logging) (entries : List (Value × Value)) :
    logging.setLevels (entries.map fun entry => (entry.1, upperCase entry.2.plainForm)) =
      ({ logging with levels := logging.levels.setAll (accepted entries) },
        (entries.mapM assignment).map fun _ => ()) := by
  induction entries generalizing logging with
  | nil => rfl
  | cons entry rest ih =>
      rw [List.map_cons, setLevels, setLevel_eq, accepted, List.mapM_cons]
      cases assignment entry with
      | error cause => rfl
      | ok set =>
          dsimp only [Except.map]
          rw [ih, Outcome.ok_bind]
          cases rest.mapM assignment <;> rfl

/-! ## A configuration -/

/-- The level of the root as it stands in the section of levels. -/
def rootSetting (settings : Settings) : Value :=
  (Members.named? (settings.sectionAt levelKey) LoggerName.root).getD (.text "INFO")

/-- The entries of the section of levels, the root's first. -/
def levelEntries (settings : Settings) : List (Value × Value) :=
  (.text LoggerName.root, rootSetting settings) ::
    Members.erase (settings.sectionAt levelKey) (.text LoggerName.root)

/-- Whether every entry has a text for its level. -/
def levelsPrintable (settings : Settings) : Bool :=
  (levelEntries settings).all (·.2.isPrintable)

/-- The text of the format. -/
def formatText (settings : Settings) (environment : Environment) : Except Misuse String := do
  let format ← (settings.get environment formatKey (.text LineFormat.console.name)).mapError
    Placeholder.Failure.misuse
  format.display

/-- What has to be read before anything changes: the text of every level, and the one of the
format. -/
def readFormat (settings : Settings) (environment : Environment) : Except Misuse String :=
  if levelsPrintable settings then formatText settings environment else .error tooManyDigits

theorem formatText_eq_ok_iff {settings : Settings} {environment : Environment} {shown : String} :
    formatText settings environment = .ok shown ↔
      ∃ format, settings.get environment formatKey (.text LineFormat.console.name) = .ok format ∧
        format.display = .ok shown := by
  simp only [formatText, Outcome.bind_eq_ok_iff, Outcome.mapError_eq_ok_iff]

theorem readFormat_eq_ok_iff {settings : Settings} {environment : Environment} {shown : String} :
    readFormat settings environment = .ok shown ↔
      (∀ entry ∈ levelEntries settings, entry.2.isPrintable = true) ∧
        formatText settings environment = .ok shown := by
  have hall : levelsPrintable settings = true ↔
      ∀ entry ∈ levelEntries settings, entry.2.isPrintable = true := List.all_eq_true
  rw [readFormat, ← hall]
  cases levelsPrintable settings <;> simp

theorem levelName_eq (value : Value) :
    levelName value =
      if value.isPrintable then .ok (upperCase value.plainForm) else .error tooManyDigits := by
  rw [levelName, Value.display, Value.printed]
  cases value.isPrintable <;> rfl

theorem mapM_moduleLevel_eq (entries : List (Value × Value)) :
    entries.mapM moduleLevel =
      if entries.all (·.2.isPrintable) then
        .ok (entries.map fun entry => (entry.1, upperCase entry.2.plainForm))
      else .error tooManyDigits := by
  induction entries with
  | nil => rfl
  | cons entry rest ih =>
      rw [List.mapM_cons, ih, moduleLevel, levelName_eq, List.all_cons]
      cases entry.2.isPrintable with
      | false => rfl
      | true => cases rest.all (·.2.isPrintable) <;> rfl

/-- The choice is made of what has to be read. -/
theorem ofSettings_eq (settings : Settings) (environment : Environment) :
    ofSettings settings environment = (readFormat settings environment).map fun shown =>
      { rootLevel := upperCase (rootSetting settings).plainForm
        moduleLevels := (Members.erase (settings.sectionAt levelKey)
          (.text LoggerName.root)).map fun entry => (entry.1, upperCase entry.2.plainForm)
        format := LineFormat.ofSetting shown } := by
  have hroot : (Members.named? (settings.sectionAt levelKey) LoggerName.root).getD (.text "INFO") =
      rootSetting settings := rfl
  rw [ofSettings, readFormat, levelsPrintable, levelEntries, List.all_cons]
  simp only [hroot, levelName_eq, mapM_moduleLevel_eq]
  cases (rootSetting settings).isPrintable with
  | false => rfl
  | true =>
      cases (Members.erase (settings.sectionAt levelKey)
          (.text LoggerName.root)).all (·.2.isPrintable) with
      | false => rfl
      | true =>
          rw [formatText]
          cases settings.get environment formatKey (.text LineFormat.console.name) with
          | error failure => rfl
          | ok format =>
              change (format.display >>= fun shown => _) = format.display.map _
              cases format.display <;> rfl

/-- Nothing changes if something cannot be read.  Otherwise one output takes the place of the
others and the entries set their levels. -/
theorem configure_eq (settings : Settings) (environment : Environment) (logging : Logging) :
    (∀ cause, readFormat settings environment = .error cause →
      logging.configure settings environment = (logging, .error cause)) ∧
    ∀ shown, readFormat settings environment = .ok shown →
      ∃ choice, logging.configure settings environment =
        ({ levels := logging.levels.setAll (accepted (levelEntries settings))
           outputs := [LineFormat.ofSetting shown] },
          ((levelEntries settings).mapM assignment).map fun _ => choice) := by
  constructor
  · intro cause hcause
    rw [configure, ofSettings_eq, hcause]
    rfl
  · intro shown hshown
    obtain ⟨choice, hchoice, hentries, hchosen⟩ :
        ∃ choice, ofSettings settings environment = .ok choice ∧
          (.text LoggerName.root, choice.rootLevel) :: choice.moduleLevels =
            (levelEntries settings).map
              (fun entry => (entry.1, upperCase entry.2.plainForm)) ∧
          choice.format = LineFormat.ofSetting shown := by
      rw [ofSettings_eq, hshown]
      exact ⟨_, rfl, rfl, rfl⟩
    refine ⟨choice, ?_⟩
    rw [configure, hchoice]
    dsimp only
    rw [apply, hentries, setLevels_eq, hchosen]
    cases (levelEntries settings).mapM assignment <;> rfl

/-- Settings that only name levels. -/
def levelSettings (entries : List (String × Value)) : Settings :=
  .ofValue (.record
    [("crudstore", .record [("logging", .record [("level", .record entries)])])])

theorem tree_levelSettings (entries : List (String × Value)) :
    (levelSettings entries).tree = .record
      [("crudstore", .record [("logging", .record [("level", .record entries)])])] := rfl

@[simp]
theorem sectionAt_levelSettings (entries : List (String × Value)) :
    (levelSettings entries).sectionAt levelKey =
      entries.map fun (name, value) => (.text name, value) := by
  have hparts : Tree.parts levelKey = ["crudstore", "logging", "level"] := by decide +kernel
  rw [Settings.sectionAt, Tree.sectionAt, Tree.lookup?, hparts, tree_levelSettings]
  simp only [Tree.find?_cons, Value.field?_record, List.lookup_cons_self, Option.bind_some]
  rfl

@[simp]
theorem rootSetting_levelSettings (entries : List (String × Value)) :
    rootSetting (levelSettings entries) =
      (entries.lookup LoggerName.root).getD (.text "INFO") := by
  have hroot : Members.named? (entries.map fun (name, value) => (.text name, value))
      LoggerName.root = entries.lookup LoggerName.root :=
    Value.field?_record entries LoggerName.root
  rw [rootSetting, sectionAt_levelSettings, hroot]

theorem levelEntries_levelSettings (entries : List (String × Value)) :
    levelEntries (levelSettings entries) =
      (.text LoggerName.root, (entries.lookup LoggerName.root).getD (.text "INFO")) ::
        Members.erase (entries.map fun (name, value) => (.text name, value))
          (.text LoggerName.root) := by
  rw [levelEntries, rootSetting_levelSettings, sectionAt_levelSettings]

theorem format_levelSettings {environment : Environment}
    (hvariable : environment.lookup (Settings.variableName formatKey) = none)
    (entries : List (String × Value)) (fallback : Value) :
    (levelSettings entries).get environment formatKey fallback = .ok fallback := by
  have hlookup : Tree.lookup? (levelSettings entries).tree formatKey = none := by
    have hparts : Tree.parts formatKey = ["crudstore", "logging", "format"] := by decide +kernel
    rw [Tree.lookup?, hparts, tree_levelSettings]
    simp [Tree.find?_cons, List.lookup_cons]
  have hconfigured :
      ((levelSettings entries).source environment).configured? formatKey = none := by
    rw [Placeholder.Source.configured?, Settings.source, hlookup]
  rw [Settings.get, Settings.get?, hvariable]
  simp only [Settings.configured?, hconfigured]
  rfl

end Logging

end GridSource
