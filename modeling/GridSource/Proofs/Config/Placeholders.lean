import GridSource.Config.Settings
import GridSource.Proofs.Outcome
import Mathlib.Data.List.Chain

/-!
# Placeholders without a limit

Resolving follows a reference to a configured text at most ten times over.  Here the
rules of placeholders are stated without that limit, as a relation between the segments
of a text and what they come to.  Where no chain of references is longer than ten steps,
the limit changes nothing: settings answer with what the rules give.  Where some chain is
longer, or never ends, they fail.
-/

namespace GridSource

namespace Placeholder

/-- What a segment asks for: a text that stands as it is, a configured text that has to
be resolved in turn, nothing that could be found, or a configured value without a text. -/
inductive Reading where
  | text (content : String)
  | reference (content : String)
  | unresolved (content : String)
  | unwritable (cause : Misuse)

/-- The rules of a placeholder: the environment first, then the configuration, then the
default. -/
inductive Source.Reads (source : Source) : Segment → Reading → Prop where
  | character (value : Char) : Reads source (.character value) (.text (String.singleton value))
  | environment {content : List Char} {name value : String} {fallback : Option String}
      (hname : split content = (name, fallback))
      (hvariable : source.environment.lookup name = some value) :
      Reads source (.placeholder content) (.text value)
  | configured {content : List Char} {name shown : String} {fallback : Option String}
      {value : Value} (hname : split content = (name, fallback))
      (hvariable : source.environment.lookup name = none)
      (hvalue : source.configured? name = some value) (hshown : value.display = .ok shown)
      (hmarked : isMarked shown = false) :
      Reads source (.placeholder content) (.text shown)
  | reference {content : List Char} {name shown : String} {fallback : Option String}
      {value : Value} (hname : split content = (name, fallback))
      (hvariable : source.environment.lookup name = none)
      (hvalue : source.configured? name = some value) (hshown : value.display = .ok shown)
      (hmarked : isMarked shown = true) :
      Reads source (.placeholder content) (.reference shown)
  | unwritable {content : List Char} {name : String} {fallback : Option String} {value : Value}
      {cause : Misuse} (hname : split content = (name, fallback))
      (hvariable : source.environment.lookup name = none)
      (hvalue : source.configured? name = some value) (hshown : value.display = .error cause) :
      Reads source (.placeholder content) (.unwritable cause)
  | fallback {content : List Char} {name default : String}
      (hname : split content = (name, some default))
      (hvariable : source.environment.lookup name = none)
      (hvalue : source.configured? name = none) :
      Reads source (.placeholder content) (.text default)
  | unresolved {content : List Char} {name : String}
      (hname : split content = (name, none))
      (hvariable : source.environment.lookup name = none)
      (hvalue : source.configured? name = none) :
      Reads source (.placeholder content) (.unresolved (String.ofList content))

/-- What segments come to, references followed however far they lead.  The first segment
that fails decides. -/
inductive Source.Renders (source : Source) : List Segment → Except Failure String → Prop where
  | done : Renders source [] (.ok "")
  | text {segment : Segment} {rest : List Segment} {text : String}
      {result : Except Failure String} (hsegment : source.Reads segment (.text text))
      (hrest : Renders source rest result) :
      Renders source (segment :: rest) (result.map (text ++ ·))
  | reference {segment : Segment} {rest : List Segment} {next text : String}
      {result : Except Failure String} (hsegment : source.Reads segment (.reference next))
      (hnext : Renders source (segments next) (.ok text)) (hrest : Renders source rest result) :
      Renders source (segment :: rest) (result.map (text ++ ·))
  | unresolved {segment : Segment} (rest : List Segment) {content : String}
      (hsegment : source.Reads segment (.unresolved content)) :
      Renders source (segment :: rest) (.error (.unresolved content))
  | unwritable {segment : Segment} (rest : List Segment) {cause : Misuse}
      (hsegment : source.Reads segment (.unwritable cause)) :
      Renders source (segment :: rest) (.error (.unwritable cause))
  | failed {segment : Segment} (rest : List Segment) {next : String} {failure : Failure}
      (hsegment : source.Reads segment (.reference next))
      (hnext : Renders source (segments next) (.error failure)) :
      Renders source (segment :: rest) (.error failure)

/-- A text refers to another one: it holds a placeholder whose name is no environment
variable and whose configured value is, as text, the other one and holds the start of a
placeholder. -/
def Source.Refers (source : Source) (content next : String) : Prop :=
  ∃ segment ∈ segments content, source.Reads segment (.reference next)

variable {source : Source} {resolve : String → Except Failure String}

/-! ## One segment -/

/-- What a segment is expanded to. -/
def Reading.outcome (resolve : String → Except Failure String) :
    Reading → Except Failure String
  | .text content => .ok content
  | .reference content => resolve content
  | .unresolved content => .error (.unresolved content)
  | .unwritable cause => .error (.unwritable cause)

/-- Expanding a segment follows the rules, however references are resolved. -/
theorem Source.Reads.expand_eq {segment : Segment} {reading : Reading}
    (hreading : source.Reads segment reading) :
    source.expand resolve segment = reading.outcome resolve := by
  cases hreading with
  | character value => rfl
  | environment hname hvariable => simp [expand, hname, hvariable, Reading.outcome]
  | configured hname hvariable hvalue hshown hmarked =>
      simp [expand, hname, hvariable, hvalue, hshown, hmarked, Reading.outcome]
  | reference hname hvariable hvalue hshown hmarked =>
      simp [expand, hname, hvariable, hvalue, hshown, hmarked, Reading.outcome]
  | unwritable hname hvariable hvalue hshown =>
      simp [expand, hname, hvariable, hvalue, hshown, Reading.outcome]
  | fallback hname hvariable hvalue | unresolved hname hvariable hvalue =>
      simp [expand, hname, hvariable, hvalue, Reading.outcome]

/-- The rules cover every segment. -/
theorem Source.exists_reads (source : Source) (segment : Segment) :
    ∃ reading, source.Reads segment reading := by
  cases segment with
  | character value => exact ⟨_, .character value⟩
  | placeholder content =>
      rcases hname : split content with ⟨name, fallback⟩
      cases hvariable : source.environment.lookup name with
      | some value => exact ⟨_, .environment hname hvariable⟩
      | none =>
          cases hvalue : source.configured? name with
          | some value =>
              cases hshown : value.display with
              | error cause => exact ⟨_, .unwritable hname hvariable hvalue hshown⟩
              | ok shown =>
                  cases hmarked : isMarked shown with
                  | true => exact ⟨_, .reference hname hvariable hvalue hshown hmarked⟩
                  | false => exact ⟨_, .configured hname hvariable hvalue hshown hmarked⟩
          | none =>
              cases fallback with
              | some default => exact ⟨_, .fallback hname hvariable hvalue⟩
              | none => exact ⟨_, .unresolved hname hvariable hvalue⟩

/-- The rules say one thing only, as a resolver shows that repeats what it is asked for. -/
theorem Source.Reads.unique {segment : Segment} {first second : Reading}
    (hfirst : source.Reads segment first) (hsecond : source.Reads segment second) :
    first = second := by
  have hsame : first.outcome (fun content => .error (.tooDeep content)) =
      second.outcome fun content => .error (.tooDeep content) :=
    hfirst.expand_eq.symm.trans hsecond.expand_eq
  cases first <;> cases second <;> simp_all [Reading.outcome]

/-- The configured text that a segment refers to, found with a resolver that only shows
what it is asked for. -/
def Source.target? (source : Source) (segment : Segment) : Option String :=
  match source.expand (fun content => .error (.tooDeep content)) segment with
  | .error (.tooDeep content) => some content
  | _ => none

theorem Source.target?_eq_some_iff {segment : Segment} {next : String} :
    source.target? segment = some next ↔ source.Reads segment (.reference next) := by
  constructor
  · intro htarget
    obtain ⟨reading, hreading⟩ := source.exists_reads segment
    rw [target?, hreading.expand_eq] at htarget
    cases reading with
    | reference content => exact Option.some.inj htarget ▸ hreading
    | _ => contradiction
  · intro hreading
    rw [target?, hreading.expand_eq, Reading.outcome]

/-- The texts that a text refers to, in their order. -/
def Source.references (source : Source) (content : String) : List String :=
  (segments content).filterMap source.target?

theorem Source.refers_iff {content next : String} :
    source.Refers content next ↔ next ∈ source.references content := by
  simp only [Refers, references, List.mem_filterMap, target?_eq_some_iff]

/-! ## All segments of a text -/

/-- Segments expanded one after the other and put together. -/
def Source.expandAll (source : Source) (resolve : String → Except Failure String)
    (parts : List Segment) : Except Failure String :=
  (parts.mapM (source.expand resolve)).map String.join

theorem Source.expandAll_cons (segment : Segment) (rest : List Segment) :
    source.expandAll resolve (segment :: rest) =
      (source.expand resolve segment).bind fun text =>
        (source.expandAll resolve rest).map (text ++ ·) := by
  rw [expandAll, List.mapM_cons, expandAll]
  cases source.expand resolve segment with
  | error failure => rfl
  | ok text =>
      rw [Outcome.ok_bind]
      cases rest.mapM (source.expand resolve) with
      | error failure => rfl
      | ok texts => exact congrArg Except.ok String.join_cons

theorem Source.resolveWithin_succ (levels : Nat) (content : String) :
    source.resolveWithin (levels + 1) content =
      source.expandAll (source.resolveWithin levels) (segments content) := by
  rw [resolveWithin, expandAll]
  cases (segments content).mapM (source.expand (source.resolveWithin levels)) <;> rfl

/-- Segments come to what they are expanded to, if references do. -/
theorem Source.renders_expandAll {parts : List Segment}
    (hparts : ∀ segment ∈ parts, ∀ next, source.Reads segment (.reference next) →
      source.Renders (segments next) (resolve next)) :
    source.Renders parts (source.expandAll resolve parts) := by
  induction parts with
  | nil => exact .done
  | cons segment rest ih =>
      have hsegment := hparts segment List.mem_cons_self
      have hrest := ih fun other hother => hparts other (List.mem_cons_of_mem _ hother)
      rw [expandAll_cons]
      obtain ⟨reading, hreading⟩ := source.exists_reads segment
      rw [hreading.expand_eq]
      cases reading with
      | text content => exact .text hreading hrest
      | unresolved content => exact .unresolved rest hreading
      | unwritable cause => exact .unwritable rest hreading
      | reference next =>
          have hnext := hsegment next hreading
          rw [Reading.outcome]
          cases hresolved : resolve next with
          | error failure => exact .failed rest hreading (hresolved ▸ hnext)
          | ok text => exact .reference hreading (hresolved ▸ hnext) hrest

/-- What segments come to is what they are expanded to within enough levels, so the rules
give one result at most. -/
theorem Source.Renders.eventually {parts : List Segment} {result : Except Failure String}
    (hresult : source.Renders parts result) :
    ∃ enough, ∀ levels, enough ≤ levels →
      source.expandAll (source.resolveWithin levels) parts = result := by
  induction hresult with
  | done => exact ⟨0, fun _ _ => rfl⟩
  | text hsegment _ ih =>
      obtain ⟨enough, henough⟩ := ih
      refine ⟨enough, fun levels hlevels => ?_⟩
      rw [expandAll_cons, hsegment.expand_eq, henough levels hlevels]
      rfl
  | reference hsegment _ _ ihnext ihrest =>
      obtain ⟨enough, henough⟩ := ihnext
      obtain ⟨others, hothers⟩ := ihrest
      refine ⟨max (enough + 1) others, fun levels hlevels => ?_⟩
      obtain ⟨fewer, rfl⟩ : ∃ fewer, levels = fewer + 1 := ⟨levels - 1, by omega⟩
      rw [expandAll_cons, hsegment.expand_eq, Reading.outcome, resolveWithin_succ,
        henough fewer (by omega), hothers (fewer + 1) (by omega)]
      rfl
  | unresolved rest hsegment | unwritable rest hsegment =>
      refine ⟨0, fun levels _ => ?_⟩
      rw [expandAll_cons, hsegment.expand_eq]
      rfl
  | failed rest hsegment _ ihnext =>
      obtain ⟨enough, henough⟩ := ihnext
      refine ⟨enough + 1, fun levels hlevels => ?_⟩
      obtain ⟨fewer, rfl⟩ : ∃ fewer, levels = fewer + 1 := ⟨levels - 1, by omega⟩
      rw [expandAll_cons, hsegment.expand_eq, Reading.outcome, resolveWithin_succ,
        henough fewer (by omega)]
      rfl

theorem Source.Renders.unique {parts : List Segment} {first second : Except Failure String}
    (hfirst : source.Renders parts first) (hsecond : source.Renders parts second) :
    first = second := by
  obtain ⟨enough, henough⟩ := hfirst.eventually
  obtain ⟨others, hothers⟩ := hsecond.eventually
  rw [← henough (max enough others) (le_max_left _ _), hothers _ (le_max_right _ _)]

/-- A configured value has no text. -/
def Source.IsTextless (source : Source) (cause : Misuse) : Prop :=
  ∃ name value, source.configured? name = some value ∧ value.display = .error cause

/-- Without a limit, resolving fails only at a placeholder that is not found or whose
value has no text. -/
theorem Source.Renders.failure_eq {parts : List Segment} {result : Except Failure String}
    (hresult : source.Renders parts result) {failure : Failure}
    (hfailure : result = .error failure) :
    (∃ content, failure = .unresolved content) ∨
      ∃ cause, source.IsTextless cause ∧ failure = .unwritable cause := by
  induction hresult with
  | done => contradiction
  | text _ _ ih | reference _ _ _ _ ih => exact ih (Outcome.map_eq_error_iff.mp hfailure)
  | unresolved rest _ => exact .inl ⟨_, (Except.error.inj hfailure).symm⟩
  | unwritable rest hsegment =>
      obtain rfl := Except.error.inj hfailure
      cases hsegment with
      | unwritable hname hvariable hvalue hshown =>
          exact .inr ⟨_, ⟨_, _, hvalue, hshown⟩, rfl⟩
  | failed rest _ _ ih => exact ih hfailure

/-- A failure of resolving is the refusal of a value, whichever it is. -/
theorem Source.Reads.exists_refusal {segment : Segment} {reading : Reading} {failure : Failure}
    (hreading : source.Reads segment reading) (hfailure : reading.outcome resolve = .error failure)
    (hresolve : ∀ content, resolve content = .error failure →
      ∃ message, failure.misuse = .unacceptable message) :
    ∃ message, failure.misuse = .unacceptable message := by
  cases hreading with
  | reference _ _ _ _ _ => exact hresolve _ hfailure
  | unresolved _ _ _ =>
      obtain rfl := Except.error.inj hfailure
      exact ⟨_, rfl⟩
  | unwritable _ _ _ hshown =>
      obtain rfl := Except.error.inj hfailure
      obtain rfl := (Value.display_eq_error_iff.mp hshown).2
      exact ⟨_, rfl⟩
  | _ => contradiction

theorem Source.resolveWithin_refusal {levels : Nat} {content : String} {failure : Failure}
    (hfailure : source.resolveWithin levels content = .error failure) :
    ∃ message, failure.misuse = .unacceptable message := by
  induction levels generalizing content with
  | zero =>
      obtain rfl := Except.error.inj hfailure
      exact ⟨_, rfl⟩
  | succ levels ih =>
      rw [resolveWithin_succ, expandAll, Outcome.map_eq_error_iff] at hfailure
      obtain ⟨segment, -, hsegment⟩ := Outcome.exists_of_mapM_eq_error hfailure
      obtain ⟨reading, hreading⟩ := source.exists_reads segment
      rw [hreading.expand_eq] at hsegment
      exact hreading.exists_refusal hsegment fun content => ih

/-! ## Texts without placeholders -/

theorem mem_of_marks {characters : List Char} (hmarked : marks characters = true) :
    '$' ∈ characters := by
  fun_induction marks characters with
  | case1 rest => exact List.mem_cons_self
  | case2 first rest hnone ih => exact List.mem_cons_of_mem _ (ih hmarked)
  | case3 => contradiction

theorem scan_of_unmarked {characters : List Char} (hunmarked : marks characters = false) :
    scan none characters = literal characters := by
  fun_induction marks characters with
  | case1 rest => contradiction
  | case2 first rest hnone ih =>
      rw [scan, ih hunmarked]
      · rfl
      · exact hnone
  | case3 => rfl

theorem Source.expandAll_literal (source : Source) (resolve : String → Except Failure String)
    (characters : List Char) :
    source.expandAll resolve (literal characters) = .ok (String.ofList characters) := by
  induction characters with
  | nil => rfl
  | cons first rest ih =>
      have hliteral : literal (first :: rest) = .character first :: literal rest := rfl
      have hfirst : source.expand resolve (.character first) = .ok (String.singleton first) := rfl
      have hjoined :
          String.singleton first ++ String.ofList rest = String.ofList (first :: rest) := by
        rw [← String.toList_inj]
        simp
      rw [hliteral, expandAll_cons, hfirst, ih, ← hjoined]
      rfl

/-- A text without placeholders stands as it is. -/
theorem Source.resolve_of_unmarked (source : Source) {content : String}
    (hunmarked : isMarked content = false) : source.resolve content = .ok content := by
  rw [resolve, mostLevels, resolveWithin_succ, segments, scan_of_unmarked hunmarked,
    expandAll_literal, String.ofList_toList]

/-! ## Chains of references -/

/-- Within a limit that no chain of references exceeds, a text comes to what it does
without one. -/
theorem Source.renders_resolveWithin {levels : Nat} {content : String}
    (hchains : ∀ followers, (content :: followers).IsChain source.Refers →
      followers.length ≤ levels) :
    source.Renders (segments content) (source.resolveWithin (levels + 1) content) := by
  induction levels generalizing content with
  | zero =>
      rw [resolveWithin_succ]
      apply renders_expandAll
      intro segment hsegment next hnext
      have hlength := hchains [next] (by simpa using ⟨segment, hsegment, hnext⟩)
      simp at hlength
  | succ levels ih =>
      rw [resolveWithin_succ]
      apply renders_expandAll
      intro segment hsegment next hnext
      apply ih
      intro followers hfollowers
      have hlonger : (content :: next :: followers).IsChain source.Refers :=
        List.isChain_cons_cons.mpr ⟨⟨segment, hsegment, hnext⟩, hfollowers⟩
      simpa using hchains (next :: followers) hlonger

/-- A chain of references as long as the limit makes resolving fail. -/
theorem Source.resolveWithin_of_chain {levels : Nat} {content : String} {followers : List String}
    (hchain : (content :: followers).IsChain source.Refers) (hlength : levels ≤ followers.length) :
    ∃ failure, source.resolveWithin levels content = .error failure := by
  induction levels generalizing content followers with
  | zero => exact ⟨_, rfl⟩
  | succ levels ih =>
      cases followers with
      | nil => simp at hlength
      | cons next followers =>
          obtain ⟨⟨segment, hsegment, hnext⟩, hrest⟩ := List.isChain_cons_cons.mp hchain
          obtain ⟨failure, hfailure⟩ := ih hrest (by simpa using hlength)
          rw [resolveWithin_succ]
          cases hall : source.expandAll (source.resolveWithin levels) (segments content) with
          | error cause => exact ⟨cause, rfl⟩
          | ok text =>
              -- All segments would have been expanded, the failing reference among them.
              obtain ⟨texts, htexts, -⟩ := Outcome.map_eq_ok_iff.mp hall
              obtain ⟨part, hpart⟩ := Outcome.exists_of_mem_of_mapM htexts hsegment
              rw [hnext.expand_eq, Reading.outcome, hfailure] at hpart
              contradiction

/-- An endless sequence of references begins with chains of every length. -/
theorem Source.exists_chain_of_endless {chain : Nat → String}
    (hchain : ∀ step, source.Refers (chain step) (chain (step + 1))) (length : Nat) :
    ∃ followers, followers.length = length ∧ (chain 0 :: followers).IsChain source.Refers := by
  induction length generalizing chain with
  | zero => exact ⟨[], rfl, .singleton _⟩
  | succ length ih =>
      obtain ⟨followers, hlength, hfollowers⟩ := @ih (fun step => chain (step + 1)) fun step =>
        hchain (step + 1)
      exact ⟨chain 1 :: followers, by simp [hlength],
        List.isChain_cons_cons.mpr ⟨hchain 0, hfollowers⟩⟩

end Placeholder

/-! ## The answer of settings -/

namespace Settings

open Placeholder

variable {settings : Settings} {environment : Environment} {key content : String}

/-- A key that no variable overrides and that holds placeholders is answered by resolving
its text. -/
theorem get_of_marked (hvariable : environment.lookup (variableName key) = none)
    (hvalue : Tree.lookup? settings.tree key = some (.text content))
    (hmarked : isMarked content = true) (fallback : Value) :
    settings.get environment key fallback =
      ((settings.source environment).resolve content).map .text := by
  have hconfigured : (settings.source environment).configured? key = some (.text content) := by
    rw [Source.configured?, source, hvalue]
  rw [get, get?, hvariable]
  simp only [configured?, hconfigured, hmarked, if_true]
  cases (settings.source environment).resolve content <;> rfl

/-- A key that no variable overrides and whose value holds no placeholders is answered with that
value, or with what the caller falls back to. -/
theorem get_of_not_marked (hvariable : environment.lookup (variableName key) = none)
    (hunmarked : ∀ content, Tree.lookup? settings.tree key = some (.text content) →
      isMarked content = false) (fallback : Value) :
    settings.get environment key fallback =
      .ok (((settings.source environment).configured? key).getD fallback) := by
  rw [get, get?, hvariable]
  simp only [configured?, Source.configured?, source]
  cases hfound : Tree.lookup? settings.tree key with
  | none => rfl
  | some value =>
      cases value with
      | text content =>
          simp only [hunmarked content hfound]
          rfl
      | _ => rfl

/-- If every chain of references from the text of a key has ten steps at most, the key is
answered as the rules of placeholders say, and they say one thing only: a text, or the
first placeholder that is not found or that stands for a configured value without a text.
If some chain is longer, or never ends, the answer is that the text is refused. -/
theorem get_eq_unlimited (hvariable : environment.lookup (variableName key) = none)
    (hvalue : Tree.lookup? settings.tree key = some (.text content))
    (hmarked : isMarked content = true) (fallback : Value) :
    ((∀ followers, (content :: followers).IsChain (settings.source environment).Refers →
        followers.length ≤ 10) →
      ∃ result,
        (∀ other, (settings.source environment).Renders (segments content) other ↔
          other = result) ∧
        settings.get environment key fallback = result.map .text ∧
        ∀ failure, result = .error failure →
          (∃ placeholder, failure.misuse = .unacceptable
              (some ("Cannot resolve placeholder '$\x7b" ++ placeholder ++ "\x7d'"))) ∨
            ∃ cause, (settings.source environment).IsTextless cause ∧
              failure = .unwritable cause) ∧
      ((∃ chain : Nat → String, chain 0 = content ∧
          ∀ step, (settings.source environment).Refers (chain step) (chain (step + 1))) ∨
        (∃ followers, 11 ≤ followers.length ∧
          (content :: followers).IsChain (settings.source environment).Refers) →
      ∃ failure message, settings.get environment key fallback = .error failure ∧
        failure.misuse = .unacceptable message) := by
  have hget := get_of_marked hvariable hvalue hmarked fallback
  constructor
  · intro hchains
    have hrenders := Source.renders_resolveWithin hchains
    refine ⟨_, fun other => ⟨fun hother => hother.unique hrenders, ?_⟩, hget, ?_⟩
    · rintro rfl
      exact hrenders
    · intro failure hfailure
      exact (hrenders.failure_eq hfailure).imp_left fun ⟨placeholder, hunresolved⟩ =>
        ⟨placeholder, hunresolved ▸ rfl⟩
  · intro hlong
    obtain ⟨followers, hlength, hchain⟩ : ∃ followers, 11 ≤ followers.length ∧
        (content :: followers).IsChain (settings.source environment).Refers := by
      rcases hlong with ⟨chain, rfl, hendless⟩ | hlong
      · obtain ⟨followers, hlength, hchain⟩ := Source.exists_chain_of_endless hendless 11
        exact ⟨followers, hlength.ge, hchain⟩
      · exact hlong
    obtain ⟨failure, hfailure⟩ := Source.resolveWithin_of_chain hchain hlength
    obtain ⟨message, hrefused⟩ := Source.resolveWithin_refusal hfailure
    refine ⟨failure, message, hget.trans ?_, hrefused⟩
    rw [Source.resolve, mostLevels, hfailure]
    rfl

/-- An address that leads to a host by one more key, and a key that leads to itself. -/
def linked : Settings :=
  { tree := .record
      [ ("url", .text "$\x7bbase\x7d/users?page=$\x7bpage:1\x7d"),
        ("base", .text "http://$\x7bHOST\x7d"),
        ("loop", .text "again $\x7bloop\x7d") ]
    sources := [] }

def hostEnvironment : Environment := [("HOST", "grid.test")]

theorem get_eq_unlimited_linked :
    (linked.source hostEnvironment).Renders
        (segments "$\x7bbase\x7d/users?page=$\x7bpage:1\x7d")
        (.ok "http://grid.test/users?page=1") ∧
      (linked.get hostEnvironment "url" .null).toOption.map Value.plainForm =
        some "http://grid.test/users?page=1" ∧
      ∃ failure message, linked.get hostEnvironment "loop" .null = .error failure ∧
        failure.misuse = .unacceptable message := by
  have hurl : (linked.source hostEnvironment).references
      "$\x7bbase\x7d/users?page=$\x7bpage:1\x7d" = ["http://$\x7bHOST\x7d"] := by decide +kernel
  have hbase : (linked.source hostEnvironment).references "http://$\x7bHOST\x7d" = [] := by
    decide +kernel
  have hloop : (linked.source hostEnvironment).references "again $\x7bloop\x7d" =
      ["again $\x7bloop\x7d"] := by decide +kernel
  have hchains : ∀ followers, ("$\x7bbase\x7d/users?page=$\x7bpage:1\x7d" :: followers).IsChain
      (linked.source hostEnvironment).Refers → followers.length ≤ 10 := by
    rintro (_ | ⟨first, _ | ⟨second, others⟩⟩) hchain
    · exact Nat.zero_le 10
    · exact (by decide : 1 ≤ 10)
    · simp only [List.isChain_cons_cons, Source.refers_iff, hurl, List.mem_singleton] at hchain
      obtain ⟨rfl, hnext, -⟩ := hchain
      simp [hbase] at hnext
  obtain ⟨result, hrenders, hget, -⟩ :=
    (@get_eq_unlimited linked hostEnvironment "url" _ (by decide +kernel) rfl rfl .null).1 hchains
  have hanswer : (linked.get hostEnvironment "url" .null).toOption.map Value.plainForm =
      some "http://grid.test/users?page=1" := by decide +kernel
  refine ⟨(hrenders _).mpr ?_, hanswer, ?_⟩
  · rw [hget] at hanswer
    cases result with
    | error failure => cases hanswer
    | ok text => exact congrArg Except.ok (Option.some.inj hanswer).symm
  · exact (get_eq_unlimited (by decide +kernel) rfl rfl .null).2
      (.inl ⟨fun _ => "again $\x7bloop\x7d", rfl, fun _ => Source.refers_iff.mpr (by simp [hloop])⟩)

end Settings

end GridSource
