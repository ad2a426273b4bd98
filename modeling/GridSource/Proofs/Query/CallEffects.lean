import GridSource.Proofs.Query.Calls

/-!
# Values that a call stands for

Which values a call gives its parameter is said by a relation on its argument.  A call
succeeds exactly if its argument stands for values or asks for nothing.
-/

namespace GridSource

/-- The number that a value is, if it is a whole one: an integer, or a float equal to it. -/
inductive Value.IsWhole : Value → ℤ → Prop where
  | int (number : ℤ) : IsWhole (.int number) number
  | float {number : Float} {whole : ℤ}
      (hwhole : (Binary64.ofFloat number).toRat? = some (whole : ℚ)) :
      IsWhole (.float number) whole

theorem QueryBuilder.integral_eq_int_iff {value : Value} {whole : ℤ} :
    integral value = .int whole ↔ value.IsWhole whole := by
  cases value with
  | int number =>
      rw [integral, Value.int.injEq]
      · exact ⟨fun h => h ▸ .int number, fun h => by cases h; rfl⟩
      · rintro number ⟨⟩
  | float number =>
      have hinteger : integral (.float number) = .int whole ↔
          (Binary64.ofFloat number).toInt? = some whole := by
        rw [integral]
        cases (Binary64.ofFloat number).toInt? <;> simp
      rw [hinteger, Binary64.toInt?_eq_some_iff]
      exact ⟨.float, fun h => by cases h; assumption⟩
  | _ => exact iff_of_false (by simp [integral]) (by rintro ⟨⟩)

namespace BuilderCall

/-- The values that an argument stands for. -/
inductive Renders (grammar : QueryGrammar) : BuilderCall → List String → Prop where
  | search {members : Members} {text : String}
      (htext : Json.write .search (.object members) = .ok text) :
      Renders grammar (.search (.object members)) [text]
  | select {fields : Value} {names : List String}
      (hfields : QueryBuilder.chosenOf fields = .ok (names.map .text)) (hsome : names ≠ [])
      (hnames : "" ∉ names) :
      Renders grammar (.select fields) [grammar.listDelimiter.intercalate names]
  | sortBy {argument : SortArgument} {orders : List (Option SortOrder)}
      (horders : argument.elements = .ok (orders.map .ofOption))
      (hsome : orders.filterMap id ≠ []) :
      Renders grammar (.sortBy argument) ((orders.filterMap id).map fun order =>
        order.field ++ grammar.listDelimiter ++ order.direction.keyword)
  | setJoin {relations : Value} {items : List Value} {texts : List String}
      (hitems : relations.elements? = some items) (hsome : items ≠ [])
      (htexts : List.Forall₂ (RelationText grammar.relationDelimiter grammar.listDelimiter)
        items texts) :
      Renders grammar (.setJoin relations) texts
  | setCount (count : CountParameter) {value : Value} {number : ℕ} (hvalue : value.IsWhole number)
      (hdigits : (Nat.toDigits 10 number).length ≤ mostIntegerDigits) :
      Renders grammar (.setCount count value) [toString number]
  | resetCache : Renders grammar .resetCache ["0"]
  | setIncludeDeleted {included : Value} (hincluded : included.truthy = true) :
      Renders grammar (.setIncludeDeleted included) ["1"]

/-- The argument asks for nothing. -/
inductive IsIdle : BuilderCall → Prop where
  | search {tree : Value} (htree : tree.isObject = false) : IsIdle (.search tree)
  | select {fields : Value} (hfields : fields.truthy = false) : IsIdle (.select fields)
  | sortBy {argument : SortArgument} (hargument : argument.truthy = false) :
      IsIdle (.sortBy argument)
  | sortByAbsent {argument : SortArgument} {number : ℕ}
      (hargument : argument.elements = .ok (List.replicate number .absent)) :
      IsIdle (.sortBy argument)
  | setJoin {relations : Value} (hrelations : relations.truthy = false) :
      IsIdle (.setJoin relations)
  | setCount (count : CountParameter) : IsIdle (.setCount count .null)
  | setIncludeDeleted {included : Value} (hincluded : included.truthy = false) :
      IsIdle (.setIncludeDeleted included)

/-- The call succeeds with these values: the ones it renders, or none. -/
def Yields (grammar : QueryGrammar) (call : BuilderCall) (values : List String) : Prop :=
  (values = [] ∧ call.IsIdle) ∨ call.Renders grammar values

open QueryBuilder (searchOf fieldsOf countOf ordersOf relationsOf chosenOf selectedName
  liftMisuse_eq_ok_iff elements_eq_ok_iff)

variable {grammar : QueryGrammar} {values : List String}

theorem searchOf_eq_ok_iff {tree : Value} :
    searchOf tree = .ok values ↔ (search tree).Yields grammar values := by
  constructor
  · intro hvalues
    rw [searchOf] at hvalues
    split at hvalues
    · next hobject =>
        cases tree with
        | object members =>
            obtain ⟨text, htext, rfl⟩ := Outcome.map_eq_ok_iff.mp hvalues
            exact .inr (.search (liftMisuse_eq_ok_iff.mp htext))
        | _ => contradiction
    · next hnot => exact .inl ⟨(Except.ok.inj hvalues).symm, .search (by simpa using hnot)⟩
  · rintro (⟨rfl, hidle⟩ | hrenders)
    · cases hidle with
      | search htree =>
          rw [searchOf, htree]
          rfl
    · cases hrenders with
      | search htext =>
          rw [searchOf, htext]
          rfl

/-- A value with elements counts as true. -/
theorem truthy_of_elements?_ne_nil {value : Value} {items : List Value}
    (hitems : value.elements? = some items) (hsome : items ≠ []) : value.truthy = true := by
  cases value with
  | list elements | tuple elements =>
      obtain rfl := Option.some.inj hitems
      simpa [Value.truthy] using hsome
  | text content =>
      obtain rfl := Option.some.inj hitems
      simpa [Value.truthy] using hsome
  | object members =>
      obtain rfl := Option.some.inj hitems
      simpa [Value.truthy] using hsome
  | _ => contradiction

theorem truthy_of_chosenOf {fields : Value} {names : List String}
    (hfields : chosenOf fields = .ok (names.map .text)) (hsome : names ≠ [])
    (hnames : "" ∉ names) : fields.truthy = true := by
  cases fields with
  | text name =>
      have hname : [Value.text name] = names.map .text := Except.ok.inj hfields
      obtain ⟨other, rfl, hother⟩ := List.map_eq_singleton_iff.mp hname.symm
      obtain rfl := Value.text.inj hother
      rw [List.mem_singleton] at hnames
      simpa [Value.truthy] using Ne.symm hnames
  | _ =>
      have helements := elements_eq_ok_iff.mp (liftMisuse_eq_ok_iff.mp hfields)
      exact truthy_of_elements?_ne_nil helements (by simpa using hsome)

theorem mapM_selectedName_eq_ok_iff {chosen : List Value} {names : List String} :
    chosen.mapM selectedName = .ok names ↔ chosen = names.map .text ∧ "" ∉ names := by
  have hnames : (names.map Value.text).mapM selectedName = .ok names ↔ "" ∉ names := by
    rw [Outcome.mapM_eq_ok_iff, List.forall₂_map_left_iff, List.forall₂_same]
    simp only [QueryBuilder.selectedName_eq_ok_iff, true_and]
    exact ⟨fun h hmem => h "" hmem rfl, fun h name hname hempty => h (hempty ▸ hname)⟩
  constructor
  · intro hchosen
    obtain rfl := QueryBuilder.mapM_selectedName hchosen
    exact ⟨rfl, hnames.mp hchosen⟩
  · rintro ⟨rfl, hnone⟩
    exact hnames.mpr hnone

theorem fieldsOf_eq_ok_iff {fields : Value} :
    fieldsOf grammar.listDelimiter fields = .ok values ↔
      (select fields).Yields grammar values := by
  constructor
  · intro hvalues
    rw [fieldsOf] at hvalues
    split at hvalues
    · next htruthy =>
        obtain ⟨chosen, hchosen, hvalues⟩ := Outcome.bind_eq_ok_iff.mp hvalues
        obtain ⟨names, hnames, hvalues⟩ := Outcome.bind_eq_ok_iff.mp hvalues
        obtain rfl := Except.ok.inj hvalues
        obtain ⟨rfl, hnone⟩ := mapM_selectedName_eq_ok_iff.mp hnames
        refine .inr (.select hchosen ?_ hnone)
        rintro rfl
        cases fields with
        | text name => cases hchosen
        | _ =>
            have helements := elements_eq_ok_iff.mp (liftMisuse_eq_ok_iff.mp hchosen)
            rw [QueryBuilder.truthy_of_elements? helements] at htruthy
            contradiction
    · next hfalsy => exact .inl ⟨(Except.ok.inj hvalues).symm, .select (by simpa using hfalsy)⟩
  · rintro (⟨rfl, hidle⟩ | hrenders)
    · cases hidle with
      | select hfields => rw [fieldsOf, if_neg (by simp [hfields])]
    · cases hrenders with
      | select hfields hsome hnames =>
          rw [fieldsOf, if_pos (truthy_of_chosenOf hfields hsome hnames), hfields,
            Outcome.ok_bind, mapM_selectedName_eq_ok_iff.mpr ⟨rfl, hnames⟩]
          rfl

theorem render_eq_ok_iff {delimiter : String} {entry : SortEntry} {rendered : Option String} :
    entry.render delimiter = .ok rendered ↔
      ∃ order : Option SortOrder, entry = .ofOption order ∧
        rendered = order.map (·.render delimiter) := by
  constructor
  · intro hrendered
    cases entry with
    | absent => exact ⟨none, rfl, (Except.ok.inj hrendered).symm⟩
    | order found => exact ⟨some found, rfl, (Except.ok.inj hrendered).symm⟩
    | stray value => contradiction
  · rintro ⟨order, rfl, rfl⟩
    cases order <;> rfl

theorem mapM_render_eq_ok_iff {delimiter : String} {entries : List SortEntry}
    {rendered : List (Option String)} :
    entries.mapM (·.render delimiter) = .ok rendered ↔
      ∃ orders : List (Option SortOrder), entries = orders.map .ofOption ∧
        rendered = orders.map (Option.map (·.render delimiter)) := by
  rw [Outcome.mapM_eq_ok_iff]
  constructor
  · intro hrendered
    induction hrendered with
    | nil => exact ⟨[], rfl, rfl⟩
    | cons hfirst _ ih =>
        obtain ⟨order, rfl, rfl⟩ := render_eq_ok_iff.mp hfirst
        obtain ⟨orders, rfl, rfl⟩ := ih
        exact ⟨order :: orders, rfl, rfl⟩
  · rintro ⟨orders, rfl, rfl⟩
    rw [List.forall₂_map_left_iff, List.forall₂_map_right_iff, List.forall₂_same]
    exact fun order _ => render_eq_ok_iff.mpr ⟨order, rfl, rfl⟩

theorem truthy_of_elements {argument : SortArgument} {entries : List SortEntry}
    (hentries : argument.elements = .ok entries) (hsome : entries ≠ []) :
    argument.truthy = true := by
  cases argument with
  | entries listed =>
      obtain rfl := Except.ok.inj hentries
      simpa [SortArgument.truthy] using hsome
  | value given =>
      obtain ⟨items, hitems, rfl⟩ := Outcome.map_eq_ok_iff.mp hentries
      exact truthy_of_elements?_ne_nil (elements_eq_ok_iff.mp hitems) (by simpa using hsome)

theorem ordersOf_eq_ok {argument : SortArgument} {orders : List (Option SortOrder)}
    (horders : argument.elements = .ok (orders.map .ofOption)) (delimiter : String) :
    ordersOf delimiter argument = .ok ((orders.filterMap id).map (·.render delimiter)) := by
  rw [ordersOf]
  split
  · rw [horders]
    change (QueryBuilder.liftMisuse ((orders.map SortEntry.ofOption).mapM (·.render delimiter)) >>=
      fun rendered => pure (rendered.filterMap id)) = _
    rw [mapM_render_eq_ok_iff.mpr ⟨orders, rfl, rfl⟩, List.map_filterMap]
    change Except.ok (List.filterMap id (orders.map _)) = _
    rw [List.filterMap_map]
    rfl
  · next hfalsy =>
      have hnone : orders = [] := by
        by_contra hsome
        exact hfalsy (truthy_of_elements horders (by simpa using hsome))
      rw [hnone]
      rfl

theorem ordersOf_eq_ok_iff {argument : SortArgument} :
    ordersOf grammar.listDelimiter argument = .ok values ↔
      (sortBy argument).Yields grammar values := by
  constructor
  · intro hvalues
    by_cases htruthy : argument.truthy = true
    · have hworked := hvalues
      rw [ordersOf, if_pos htruthy] at hworked
      obtain ⟨entries, hentries, hworked⟩ := Outcome.bind_eq_ok_iff.mp hworked
      obtain ⟨rendered, hrendered, -⟩ := Outcome.bind_eq_ok_iff.mp hworked
      rw [liftMisuse_eq_ok_iff] at hentries hrendered
      obtain ⟨orders, rfl, -⟩ := mapM_render_eq_ok_iff.mp hrendered
      rw [ordersOf_eq_ok hentries] at hvalues
      obtain rfl := Except.ok.inj hvalues
      by_cases hnone : orders.filterMap id = []
      · have horders : orders = List.replicate orders.length none :=
          List.eq_replicate_of_mem fun order horder =>
            List.filterMap_eq_nil_iff.mp hnone order horder
        rw [horders, List.map_replicate] at hentries
        exact .inl ⟨by rw [hnone, List.map_nil], .sortByAbsent hentries⟩
      · exact .inr (.sortBy hentries hnone)
    · rw [ordersOf, if_neg htruthy] at hvalues
      exact .inl ⟨(Except.ok.inj hvalues).symm, .sortBy (by simpa using htruthy)⟩
  · rintro (⟨rfl, hidle⟩ | hrenders)
    · cases hidle with
      | sortBy hfalsy => rw [ordersOf, if_neg (by simp [hfalsy])]
      | @sortByAbsent _ number habsent =>
          have horders : argument.elements = .ok ((List.replicate number none).map .ofOption) := by
            rw [habsent, List.map_replicate]
            rfl
          rw [ordersOf_eq_ok horders]
          simp
    · cases hrenders with
      | sortBy horders hsome => exact ordersOf_eq_ok horders _

theorem relationsOf_eq_ok_iff {relations : Value} :
    relationsOf grammar relations = .ok values ↔
      (setJoin relations).Yields grammar values := by
  constructor
  · intro hvalues
    rw [relationsOf] at hvalues
    split at hvalues
    · next htruthy =>
        obtain ⟨items, hitems, hvalues⟩ := Outcome.bind_eq_ok_iff.mp hvalues
        rw [liftMisuse_eq_ok_iff, elements_eq_ok_iff] at hitems
        refine .inr (.setJoin hitems ?_ ?_)
        · rintro rfl
          rw [QueryBuilder.truthy_of_elements? hitems] at htruthy
          contradiction
        · exact (Outcome.mapM_eq_ok_iff.mp hvalues).imp fun _ _ => QueryBuilder.relation_eq_ok
    · next hfalsy => exact .inl ⟨(Except.ok.inj hvalues).symm, .setJoin (by simpa using hfalsy)⟩
  · rintro (⟨rfl, hidle⟩ | hrenders)
    · cases hidle with
      | setJoin hrelations => rw [relationsOf, if_neg (by simp [hrelations])]
    · cases hrenders with
      | setJoin hitems hsome htexts =>
          rw [relationsOf, if_pos (truthy_of_elements?_ne_nil hitems hsome),
            liftMisuse_eq_ok_iff.mpr (elements_eq_ok_iff.mpr hitems), Outcome.ok_bind,
            Outcome.mapM_eq_ok_iff]
          exact htexts.imp fun _ _ => QueryBuilder.relation_of_relationText

theorem countOf_eq_ok_iff {count : CountParameter} {name : String} {value : Value} :
    countOf name value = .ok values ↔ (setCount count value).Yields grammar values := by
  constructor
  · intro hvalues
    rw [countOf] at hvalues
    split at hvalues
    · next hnull =>
        cases value with
        | null => exact .inl ⟨(Except.ok.inj hvalues).symm, .setCount count⟩
        | _ => contradiction
    · split at hvalues
      · next whole hwhole =>
          split at hvalues
          · contradiction
          · next hnonnegative =>
              obtain ⟨number, rfl⟩ := Int.eq_ofNat_of_zero_le (not_lt.mp hnonnegative)
              obtain ⟨text, htext, rfl⟩ := Outcome.map_eq_ok_iff.mp hvalues
              rw [liftMisuse_eq_ok_iff, integerText_eq_ok_iff] at htext
              obtain ⟨hdigits, rfl⟩ := htext
              exact .inr (.setCount count (QueryBuilder.integral_eq_int_iff.mp hwhole) hdigits)
      · contradiction
  · rintro (⟨rfl, hidle⟩ | hrenders)
    · cases hidle with
      | setCount => rfl
    · cases hrenders with
      | @setCount _ _ number hvalue hdigits =>
          have hnull : ¬ value.isNull = true := by
            cases hvalue <;> exact Bool.false_ne_true
          have htext : integerText (number : ℤ) = .ok (toString number) :=
            integerText_eq_ok_iff.mpr ⟨hdigits, rfl⟩
          rw [countOf, if_neg hnull, QueryBuilder.integral_eq_int_iff.mpr hvalue]
          dsimp only
          rw [if_neg (by omega), htext]
          rfl

/-- A call works values out exactly if it asks for nothing or its argument stands for
them. -/
theorem values_eq_ok_iff {call : BuilderCall} :
    call.values grammar = .ok values ↔ call.Yields grammar values := by
  cases call with
  | search tree => exact searchOf_eq_ok_iff
  | select fields => exact fieldsOf_eq_ok_iff
  | sortBy orders => exact ordersOf_eq_ok_iff
  | setJoin relations => exact relationsOf_eq_ok_iff
  | setCount count value => exact countOf_eq_ok_iff
  | resetCache =>
      constructor
      · intro hvalues
        obtain rfl := Except.ok.inj hvalues
        exact .inr .resetCache
      · rintro (⟨-, hidle⟩ | hrenders)
        · cases hidle
        · cases hrenders
          rfl
  | setIncludeDeleted included =>
      rw [BuilderCall.values, Except.ok.injEq]
      constructor
      · rintro rfl
        split
        · next htruthy => exact .inr (.setIncludeDeleted htruthy)
        · next hfalsy => exact .inl ⟨rfl, .setIncludeDeleted (by simpa using hfalsy)⟩
      · rintro (⟨rfl, hidle⟩ | hrenders)
        · cases hidle with
          | setIncludeDeleted hfalsy => rw [hfalsy, if_neg Bool.false_ne_true]
        · cases hrenders with
          | setIncludeDeleted htruthy => rw [htruthy, if_pos rfl]

theorem Renders.ne_nil {call : BuilderCall} (hcall : call.Renders grammar values) :
    values ≠ [] := by
  cases hcall with
  | sortBy horders hsome => simpa using hsome
  | setJoin hitems hsome htexts =>
      rintro rfl
      cases htexts
      contradiction
  | _ => exact List.cons_ne_nil _ _

theorem Renders.not_isIdle {call : BuilderCall} (hcall : call.Renders grammar values) :
    ¬ call.IsIdle := by
  intro hidle
  have hvalues := values_eq_ok_iff.mpr (.inr hcall)
  rw [values_eq_ok_iff.mpr (.inl ⟨rfl, hidle⟩)] at hvalues
  exact hcall.ne_nil (Except.ok.inj hvalues).symm

end BuilderCall

namespace QueryBuilder

open BuilderCall (values_eq_ok_iff)

variable {builder : QueryBuilder} {call : BuilderCall}

theorem outcome_eq : builder.outcome call =
    (builder.settle call.parameter (call.values builder.grammar)).1 :=
  congrArg Prod.fst (call.run_action builder)

theorem after_eq : builder.after call =
    (builder.settle call.parameter (call.values builder.grammar)).2 :=
  congrArg Prod.snd (call.run_action builder)

theorem after_of_values {values : List String}
    (hvalues : call.values builder.grammar = .ok values) :
    builder.after call = builder.setAll (call.parameter.name builder.grammar) values := by
  rw [after_eq, hvalues, settle]

theorem outcome_eq_ok_iff :
    builder.outcome call = .ok () ↔
      call.IsIdle ∨ ∃ values, call.Renders builder.grammar values := by
  have hok : builder.outcome call = .ok () ↔
      ∃ values, call.values builder.grammar = .ok values := by
    rw [outcome_eq]
    cases call.values builder.grammar <;> simp [settle]
  rw [hok]
  simp only [values_eq_ok_iff, BuilderCall.Yields]
  constructor
  · rintro ⟨values, ⟨-, hidle⟩ | hrenders⟩
    · exact .inl hidle
    · exact .inr ⟨values, hrenders⟩
  · rintro (hidle | ⟨values, hrenders⟩)
    · exact ⟨[], .inl ⟨rfl, hidle⟩⟩
    · exact ⟨values, .inr hrenders⟩

theorem after_of_renders {values : List String} (hcall : call.Renders builder.grammar values) :
    builder.after call = builder.set (call.parameter.name builder.grammar) values := by
  rw [after_of_values (values_eq_ok_iff.mpr (.inr hcall)), setAll_of_ne_nil _ _ hcall.ne_nil]

/-- A call that fails or asks for nothing leaves the builder as it was. -/
theorem after_of_not_renders (hcall : ∀ values, ¬ call.Renders builder.grammar values) :
    builder.after call = builder := by
  rw [after_eq]
  cases hvalues : call.values builder.grammar with
  | error failure => rfl
  | ok values =>
      rcases values_eq_ok_iff.mp hvalues with ⟨rfl, -⟩ | hrenders
      · rfl
      · exact absurd hrenders (hcall values)

end QueryBuilder

end GridSource
