import GridSource.Proofs.Config.Placeholders

/-!
# Environment text as it is

The value of a variable stands wherever a placeholder names the variable, and it is never read
again.  So what settings answer is a text with gaps.  Around the gaps stand texts that do not
depend on the value, and where the answer is no text, or none can be given, it is the same for
every value.
-/

namespace GridSource

/-- An environment in which a variable has a value and that is otherwise like another one. -/
structure Environment.Assigns (base : Environment) (name value : String)
    (environment : Environment) : Prop where
  assigned : environment.lookup name = some value
  others : ∀ other, other ≠ name → environment.lookup other = base.lookup other

theorem Environment.lookup_without (environment : Environment) (name other : String) :
    (environment.without name).lookup other =
      if other = name then none else environment.lookup other := by
  induction environment with
  | nil => simp [without]
  | cons entry rest ih =>
      obtain ⟨first, value⟩ := entry
      rw [without, List.filter_cons, List.lookup_cons]
      by_cases hfirst : first = name
      · subst hfirst
        rw [bne_self_eq_false, if_neg Bool.false_ne_true]
        refine ih.trans ?_
        split
        · rfl
        · next hother => rw [beq_false_of_ne hother]
      · rw [bne_iff_ne.mpr hfirst, if_pos rfl, List.lookup_cons]
        cases hsame : other == first with
        | false => exact ih
        | true => rw [eq_of_beq hsame, if_neg hfirst]

/-- Setting a variable changes nothing else. -/
theorem Environment.assigns_set (base : Environment) (name value : String) :
    base.Assigns name value (base.set name value) := by
  constructor
  · rw [set, List.lookup_append, lookup_without, if_pos rfl, Option.none_or, List.lookup_cons,
      beq_self_eq_true]
  · intro other hother
    rw [set, List.lookup_append, lookup_without, if_neg hother, List.lookup_cons,
      beq_false_of_ne hother, List.lookup_nil, Option.or_none]

namespace Placeholder

/-! ## Texts around a value -/

/-- Joining two texts with gaps joins the last part of the one to the first of the other. -/
theorem intercalate_append_intercalate (value : String) (before : List String)
    (last first : String) (after : List String) :
    value.intercalate (before ++ [last]) ++ value.intercalate (first :: after) =
      value.intercalate (before ++ (last ++ first) :: after) := by
  induction before with
  | nil =>
      rw [List.nil_append, List.nil_append, String.intercalate_singleton,
        String.intercalate_cons_append]
  | cons text before ih =>
      calc value.intercalate (text :: before ++ [last]) ++ value.intercalate (first :: after)
          = text ++ value ++ (value.intercalate (before ++ [last]) ++
              value.intercalate (first :: after)) := by
            rw [List.cons_append, String.intercalate_cons_of_ne_nil (by simp), String.append_assoc]
        _ = text ++ value ++ value.intercalate (before ++ (last ++ first) :: after) := by rw [ih]
        _ = value.intercalate (text :: before ++ (last ++ first) :: after) := by
            rw [List.cons_append, String.intercalate_cons_of_ne_nil (by simp)]

/-- What depends on a variable by its value in the gaps between some texts, or not at all. -/
inductive Inserts (base : Environment) (name : String)
    (run : Environment → Except Failure String) : Prop where
  | text (texts : List String) (hsome : texts ≠ [])
      (hrun : ∀ value environment, base.Assigns name value environment →
        run environment = .ok (value.intercalate texts))
  | failure (failure : Failure)
      (hrun : ∀ value environment, base.Assigns name value environment →
        run environment = .error failure)

variable {base : Environment} {name : String}

theorem Inserts.of_const (result : Except Failure String) :
    Inserts base name fun _ => result := by
  cases result with
  | error failure => exact .failure failure fun _ _ _ => rfl
  | ok text =>
      refine .text [text] (List.cons_ne_nil _ _) fun value _ _ => ?_
      rw [String.intercalate_singleton]

theorem Inserts.congr {run other : Environment → Except Failure String}
    (hrun : Inserts base name run)
    (hsame : ∀ value environment, base.Assigns name value environment →
      other environment = run environment) :
    Inserts base name other := by
  cases hrun with
  | text texts hsome htexts =>
      apply Inserts.text texts hsome
      intro value environment hvalue
      exact (hsame value environment hvalue).trans (htexts value environment hvalue)
  | failure failure hfailure =>
      apply Inserts.failure failure
      intro value environment hvalue
      exact (hsame value environment hvalue).trans (hfailure value environment hvalue)

/-- One text after the other. -/
theorem Inserts.append {left right : Environment → Except Failure String}
    (hleft : Inserts base name left) (hright : Inserts base name right) :
    Inserts base name fun environment =>
      (left environment).bind fun text => (right environment).map (text ++ ·) := by
  cases hleft with
  | failure failure hfailure =>
      apply Inserts.failure failure
      intro value environment hvalue
      rw [hfailure value environment hvalue]
      rfl
  | text texts hsome htexts =>
      cases hright with
      | failure failure hfailure =>
          apply Inserts.failure failure
          intro value environment hvalue
          rw [htexts value environment hvalue, hfailure value environment hvalue]
          rfl
      | text others hothers hafter =>
          -- The text after the last gap of the left part meets the one before the first gap of
          -- the right part.
          obtain ⟨before, last, rfl⟩ := (List.eq_nil_or_concat' texts).resolve_left hsome
          obtain ⟨first, after, rfl⟩ := List.exists_cons_of_ne_nil hothers
          apply Inserts.text (before ++ (last ++ first) :: after) (by simp)
          intro value environment hvalue
          rw [htexts value environment hvalue, hafter value environment hvalue,
            ← intercalate_append_intercalate]
          rfl

/-! ## Resolving -/

variable {tree : Value} {value : String} {environment : Environment}

/-- A placeholder of another name asks for the same in both environments. -/
theorem Source.Reads.of_assigns {content : List Char} {reading : Reading}
    (hreading : Source.Reads { tree, environment := base } (.placeholder content) reading)
    (hother : (split content).1 ≠ name) (hvalue : base.Assigns name value environment) :
    Source.Reads { tree, environment } (.placeholder content) reading := by
  have hsame {other : String} {fallback : Option String}
      (hname : split content = (other, fallback)) :
      environment.lookup other = base.lookup other := by
    apply hvalue.others
    rwa [hname] at hother
  cases hreading with
  | environment hname hvariable => exact .environment hname ((hsame hname).trans hvariable)
  | configured hname hvariable hfound hshown hmarked =>
      exact .configured hname ((hsame hname).trans hvariable) hfound hshown hmarked
  | reference hname hvariable hfound hshown hmarked =>
      exact .reference hname ((hsame hname).trans hvariable) hfound hshown hmarked
  | unwritable hname hvariable hfound hshown =>
      exact .unwritable hname ((hsame hname).trans hvariable) hfound hshown
  | fallback hname hvariable hfound =>
      exact .fallback hname ((hsame hname).trans hvariable) hfound
  | unresolved hname hvariable hfound =>
      exact .unresolved hname ((hsame hname).trans hvariable) hfound

/-- One segment is the value itself, or the same for every value. -/
theorem inserts_expand {resolve : Environment → String → Except Failure String}
    (hresolve : ∀ content, Inserts base name fun environment => resolve environment content)
    (segment : Segment) :
    Inserts base name fun environment =>
      Source.expand { tree, environment } (resolve environment) segment := by
  cases segment with
  | character character => exact .of_const (.ok (String.singleton character))
  | placeholder content =>
      by_cases hname : (split content).1 = name
      · refine .text ["", ""] (List.cons_ne_nil _ _) fun value environment hvalue => ?_
        have hsplit : split content = (name, (split content).2) := by rw [← hname]
        have hreads : Source.Reads { tree, environment } (.placeholder content) (.text value) :=
          .environment hsplit hvalue.assigned
        rw [hreads.expand_eq, Reading.outcome]
        simp
      · obtain ⟨reading, hreading⟩ :=
          Source.exists_reads { tree, environment := base } (.placeholder content)
        have houtcome : Inserts base name fun environment =>
            reading.outcome (resolve environment) := by
          cases reading with
          | reference next => exact hresolve next
          | text _ | unresolved _ | unwritable _ => exact .of_const _
        exact houtcome.congr fun _ _ hvalue =>
          (hreading.of_assigns hname hvalue).expand_eq

theorem inserts_resolveWithin (tree : Value) (levels : Nat) (content : String) :
    Inserts base name fun environment =>
      Source.resolveWithin { tree, environment } levels content := by
  induction levels generalizing content with
  | zero => exact .of_const (.error (.tooDeep content))
  | succ levels ih =>
      have hall : ∀ parts, Inserts base name fun environment =>
          Source.expandAll { tree, environment }
            (Source.resolveWithin { tree, environment } levels) parts := by
        intro parts
        induction parts with
        | nil => exact .of_const (.ok "")
        | cons segment rest ihrest =>
            exact ((inserts_expand ih segment).append ihrest).congr fun _ _ _ =>
              Source.expandAll_cons segment rest
      exact (hall (segments content)).congr fun _ _ _ => Source.resolveWithin_succ levels content

end Placeholder

/-! ## The answer of settings -/

namespace Settings

open Placeholder

variable {settings : Settings} {environment : Environment} {key : String}

/-- Where nothing is resolved, the answer is the same for every value. -/
theorem exists_get_of_not_marked {name : String} {base : Environment}
    (hkey : name ≠ variableName key)
    (hunmarked : base.lookup (variableName key) = none →
      ∀ content, Tree.lookup? settings.tree key = some (.text content) →
        isMarked content = false) (fallback : Value) :
    ∃ answer, ∀ value environment, base.Assigns name value environment →
      settings.get environment key fallback = .ok answer := by
  cases hvariable : base.lookup (variableName key) with
  | some override =>
      refine ⟨.text override, fun value environment hassigns => ?_⟩
      rw [get, get?, hassigns.others _ hkey.symm, hvariable]
      rfl
  | none =>
      refine ⟨((settings.source base).configured? key).getD fallback, ?_⟩
      intro value environment hassigns
      apply get_of_not_marked
      · rw [hassigns.others _ hkey.symm, hvariable]
      · exact hunmarked hvariable

/-- Whatever value a variable has that does not override the key itself, the answer is that
value in the gaps between the same texts, or it is the same answer, no text or a failure. -/
theorem get_verbatim {name key : String} (hkey : name ≠ variableName key) (settings : Settings)
    (base : Environment) (fallback : Value) :
    (∃ texts : List String, texts ≠ [] ∧
        ∀ value environment, base.Assigns name value environment →
          settings.get environment key fallback = .ok (.text (value.intercalate texts))) ∨
      ∃ answer, (∀ content, answer ≠ .ok (.text content)) ∧
        ∀ value environment, base.Assigns name value environment →
          settings.get environment key fallback = answer := by
  by_cases hmarked : base.lookup (variableName key) = none ∧ ∃ content,
      Tree.lookup? settings.tree key = some (.text content) ∧ isMarked content = true
  · obtain ⟨hvariable, content, hvalue, hmarked⟩ := hmarked
    have hanswer {value : String} {environment : Environment}
        (hassigns : base.Assigns name value environment) :
        settings.get environment key fallback =
          ((settings.source environment).resolve content).map .text :=
      get_of_marked ((hassigns.others _ hkey.symm).trans hvariable) hvalue hmarked fallback
    have hresolved : Inserts base name fun environment =>
        (settings.source environment).resolve content :=
      inserts_resolveWithin settings.tree mostLevels content
    cases hresolved with
    | text texts hsome htexts =>
        refine .inl ⟨texts, hsome, fun value environment hassigns => ?_⟩
        rw [hanswer hassigns, htexts value environment hassigns]
        rfl
    | failure failure hfailure =>
        refine .inr ⟨.error failure, fun content => ?_, ?_⟩
        · simp
        · intro value environment hassigns
          rw [hanswer hassigns, hfailure value environment hassigns]
          rfl
  · obtain ⟨answer, hanswer⟩ : ∃ answer, ∀ value environment,
        base.Assigns name value environment →
          settings.get environment key fallback = .ok answer := by
      apply exists_get_of_not_marked hkey
      intro hvariable content hfound
      rw [Bool.eq_false_iff]
      intro hcontent
      exact hmarked ⟨hvariable, content, hfound, hcontent⟩
    by_cases htext : ∃ content, answer = .text content
    · obtain ⟨content, rfl⟩ := htext
      refine .inl ⟨[content], List.cons_ne_nil _ _, fun value environment hassigns => ?_⟩
      rw [hanswer value environment hassigns, String.intercalate_singleton]
    · refine .inr ⟨.ok answer, fun content hcontent => ?_, hanswer⟩
      exact htext ⟨content, Except.ok.inj hcontent⟩

/-- A host that looks like a placeholder for a key that leads to itself is shown as it is. -/
theorem get_verbatim_host :
    "HOST" ≠ variableName "url" ∧
      ∃ texts : List String,
        (∀ value, linked.get (hostEnvironment.set "HOST" value) "url" .null =
          .ok (.text (value.intercalate texts))) ∧
        "$\x7bloop\x7d".intercalate texts = "http://$\x7bloop\x7d/users?page=1" := by
  have hname : "HOST" ≠ variableName "url" := by decide +kernel
  have hloop : linked.get (hostEnvironment.set "HOST" "$\x7bloop\x7d") "url" .null =
      .ok (.text "http://$\x7bloop\x7d/users?page=1") := by
    have hresolved : (linked.source (hostEnvironment.set "HOST" "$\x7bloop\x7d")).resolve
        "$\x7bbase\x7d/users?page=$\x7bpage:1\x7d" =
          .ok "http://$\x7bloop\x7d/users?page=1" := by decide +kernel
    rw [get_of_marked (by decide +kernel) rfl rfl, hresolved]
    rfl
  refine ⟨hname, ?_⟩
  rcases get_verbatim hname linked hostEnvironment .null with
    ⟨texts, -, htexts⟩ | ⟨answer, htext, hanswer⟩
  · refine ⟨texts, fun value => htexts value _ (Environment.assigns_set ..), ?_⟩
    have hsame := (htexts _ _ (Environment.assigns_set ..)).symm.trans hloop
    exact Value.text.inj (Except.ok.inj hsame)
  · exact absurd ((hanswer _ _ (Environment.assigns_set ..)).symm.trans hloop) (htext _)

end Settings

end GridSource
