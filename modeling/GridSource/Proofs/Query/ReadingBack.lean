import GridSource.Proofs.Filter.Meaning
import GridSource.Proofs.Query.CallEffects
import GridSource.Proofs.Text.Delimited

/-!
# Reading rendered values back

A backend splits the value of a parameter at the delimiters of the grammar.  A builder joins
names by these delimiters, and checks no name for them.  The main result says for which
selections, orders and relations the backend reads what the builder was given: for those whose
names keep clear of the delimiters.
-/

namespace GridSource

open Delimited (split Separable)

namespace Parameters

@[simp]
theorem lookup_set (parameters : Parameters) (name : String) (values : List String) :
    (set parameters name values).lookup name = some values := by
  induction parameters with
  | nil => simp [set]
  | cons parameter rest ih =>
      rw [set]
      split
      · next hsame => simp [hsame]
      · next hother =>
          rw [List.lookup_cons, beq_false_of_ne (Ne.symm hother)]
          exact ih

end Parameters

/-- A relation to join is the name of a field, or an object of a field and the names that are
selected from it. -/
inductive IsRelation : Value → String × List String → Prop where
  | name (name : String) : IsRelation (.text name) (name, [])
  | part {members : Members} {field : String} {names : List String} (kind : SequenceKind)
      (hfield : Members.named? members "field" = some (.text field))
      (hselect : Members.named? members "select" = some (kind.of (names.map .text)))
      (hsome : names ≠ []) : IsRelation (.object members) (field, names)

namespace QueryGrammar

variable {grammar : QueryGrammar} {field : String} {names : List String}

/-- How a value of the join parameter is read. -/
def readRelation? (grammar : QueryGrammar) (value : String) : Option (String × List String) :=
  match split grammar.relationDelimiter value with
  | [field] => some (field, [])
  | [field, listed] => some (field, split grammar.listDelimiter listed)
  | _ => none

/-- A relation keeps clear of the delimiters. -/
def SeparableRelation (grammar : QueryGrammar) (asked : String × List String) : Prop :=
  if asked.2 = [] then Separable grammar.relationDelimiter.toList [asked.1.toList]
  else
    Separable grammar.relationDelimiter.toList
        [asked.1.toList, (grammar.listDelimiter.intercalate asked.2).toList] ∧
      Separable grammar.listDelimiter.toList (asked.2.map String.toList)

instance (grammar : QueryGrammar) (asked : String × List String) :
    Decidable (grammar.SeparableRelation asked) := by
  unfold SeparableRelation
  infer_instance

theorem readRelation?_name_iff (hrelation : grammar.relationDelimiter ≠ "") :
    grammar.readRelation? field = some (field, []) ↔ grammar.SeparableRelation (field, []) := by
  have hfield := Delimited.split_intercalate_iff hrelation [field]
  rw [String.intercalate_singleton, List.map_singleton] at hfield
  rw [SeparableRelation, if_pos rfl, ← hfield, readRelation?]
  constructor
  · intro hread
    split at hread
    · next found hfound => simpa [hfound] using hread
    · next found listed hfound => simp [Delimited.split_ne_nil] at hread
    · contradiction
  · intro hsplit
    rw [hsplit]

theorem readRelation?_part_iff (hrelation : grammar.relationDelimiter ≠ "")
    (hlist : grammar.listDelimiter ≠ "") (hnames : names ≠ []) :
    grammar.readRelation? (field ++ grammar.relationDelimiter ++
        grammar.listDelimiter.intercalate names) = some (field, names) ↔
      grammar.SeparableRelation (field, names) := by
  have hparts := Delimited.split_intercalate_iff hrelation
    [field, grammar.listDelimiter.intercalate names]
  rw [String.intercalate_cons_cons, String.intercalate_singleton] at hparts
  rw [SeparableRelation, if_neg hnames, ← Delimited.split_intercalate_iff hlist names]
  generalize hlisted : grammar.listDelimiter.intercalate names = listed at hparts ⊢
  rw [readRelation?]
  constructor
  · intro hread
    split at hread
    · simp [Ne.symm hnames] at hread
    · next found rest hfound =>
        simp only [Option.some.injEq, Prod.mk.injEq] at hread
        obtain ⟨rfl, hrest⟩ := hread
        -- The second part is what stands after the first, since the parts join to the value.
        have hvalue := Delimited.intercalate_split hrelation
          (found ++ grammar.relationDelimiter ++ listed)
        rw [hfound, String.intercalate_cons_cons, String.intercalate_singleton] at hvalue
        obtain rfl : rest = listed := by
          simpa [← String.toList_inj] using hvalue
        exact ⟨hparts.mp hfound, hrest⟩
    · contradiction
  · rintro ⟨hseparable, hnames⟩
    rw [hparts.mpr hseparable]
    simp only [hnames]

end QueryGrammar

namespace QueryBuilder

/-- The values that a builder has for a parameter. -/
def valuesOf (builder : QueryBuilder) (parameter : QueryParameter) : List String :=
  (builder.parameters.lookup (parameter.name builder.grammar)).getD []

variable {builder : QueryBuilder} {call : BuilderCall} {values : List String}

/-- A call that stands for values is accepted, and its parameter has these values. -/
theorem valuesOf_after (hcall : call.Renders builder.grammar values) :
    builder.outcome call = .ok () ∧ (builder.after call).valuesOf call.parameter = values := by
  refine ⟨outcome_eq_ok_iff.mpr (.inr ⟨values, hcall⟩), ?_⟩
  rw [after_of_renders hcall, valuesOf, set, Parameters.lookup_set]
  rfl

/-- An accepted list of names is rendered as the names joined by the list delimiter. -/
theorem renders_select (kind : SequenceKind) {names : List String} (hnames : names ≠ [])
    (haccepted : builder.outcome (.select (kind.of (names.map .text))) = .ok ()) :
    (BuilderCall.select (kind.of (names.map .text))).Renders builder.grammar
      [builder.grammar.listDelimiter.intercalate names] := by
  have hchosen : chosenOf (kind.of (names.map .text)) = .ok (names.map .text) := by
    cases kind <;> rfl
  rcases outcome_eq_ok_iff.mp haccepted with hidle | ⟨values, hrenders⟩
  · cases hidle with
    | select hfields => cases kind <;> simp [SequenceKind.of, Value.truthy, hnames] at hfields
  · cases hrenders with
    | select hfields _ hnone =>
        have hsame := Except.ok.inj (hchosen.symm.trans hfields)
        rw [List.map_inj_right fun _ _ => Value.text.inj] at hsame
        exact .select hchosen hnames (hsame ▸ hnone)

/-- Present orders are rendered one by one. -/
theorem renders_sortBy (builder : QueryBuilder) {orders : List (Option SortOrder)}
    (horders : orders.filterMap id ≠ []) :
    (BuilderCall.sortBy (.entries (orders.map .ofOption))).Renders builder.grammar
      ((orders.filterMap id).map fun order =>
        builder.grammar.listDelimiter.intercalate [order.field, order.direction.keyword]) := by
  have hrendered (order : SortOrder) :
      builder.grammar.listDelimiter.intercalate [order.field, order.direction.keyword] =
        order.field ++ builder.grammar.listDelimiter ++ order.direction.keyword := by
    rw [String.intercalate_cons_cons, String.intercalate_singleton]
  simp only [hrendered]
  exact .sortBy rfl horders

/-- Relations are rendered one by one, and each is read back exactly if it keeps clear of the
delimiters. -/
theorem renders_setJoin (hrelation : builder.grammar.relationDelimiter ≠ "")
    (hlist : builder.grammar.listDelimiter ≠ "") (kind : SequenceKind) {relations : List Value}
    {asked : List (String × List String)} (hsome : relations ≠ [])
    (hrelations : List.Forall₂ IsRelation relations asked) :
    ∃ values, (BuilderCall.setJoin (kind.of relations)).Renders builder.grammar values ∧
      List.Forall₂ (fun found value => builder.grammar.readRelation? value = some found ↔
        builder.grammar.SeparableRelation found) asked values := by
  have hitems : (kind.of relations).elements? = some relations := by cases kind <;> rfl
  suffices hvalues : ∃ values,
      List.Forall₂ (RelationText builder.grammar.relationDelimiter builder.grammar.listDelimiter)
        relations values ∧
      List.Forall₂ (fun found value => builder.grammar.readRelation? value = some found ↔
        builder.grammar.SeparableRelation found) asked values by
    obtain ⟨values, htexts, hread⟩ := hvalues
    exact ⟨values, .setJoin hitems hsome htexts, hread⟩
  clear hitems hsome
  induction hrelations with
  | nil => exact ⟨[], .nil, .nil⟩
  | cons hfirst _ ih =>
      obtain ⟨values, htexts, hread⟩ := ih
      cases hfirst with
      | name name =>
          exact ⟨name :: values, .cons (.name name) htexts,
            .cons (QueryGrammar.readRelation?_name_iff hrelation) hread⟩
      | @part members field names kind hfield hselect hnames =>
          have htruthy : (kind.of (names.map .text)).truthy = true := by
            cases kind <;> simp [SequenceKind.of, Value.truthy, hnames]
          have helements : (kind.of (names.map .text)).elements? = some (names.map .text) := by
            cases kind <;> rfl
          exact ⟨_ :: values, .cons (.part hfield hselect htruthy helements) htexts,
            .cons (QueryGrammar.readRelation?_part_iff hrelation hlist hnames) hread⟩

/-- With delimiters that are not empty, a backend reads the names of an accepted selection, an
order or a relation back from the value that the builder renders exactly if they keep clear of
the delimiters. -/
theorem reads_back_iff (builder : QueryBuilder) (hrelation : builder.grammar.relationDelimiter ≠ "")
    (hlist : builder.grammar.listDelimiter ≠ "") (kind : SequenceKind) :
    (∀ names : List String, names ≠ [] →
      builder.outcome (.select (kind.of (names.map .text))) = .ok () →
      ∃ value, (builder.after (.select (kind.of (names.map .text)))).valuesOf .fields = [value] ∧
        (split builder.grammar.listDelimiter value = names ↔
          Separable builder.grammar.listDelimiter.toList (names.map String.toList))) ∧
    (∀ orders : List (Option SortOrder), orders.filterMap id ≠ [] →
      builder.outcome (.sortBy (.entries (orders.map .ofOption))) = .ok () ∧
      List.Forall₂ (fun order value =>
          split builder.grammar.listDelimiter value = [order.field, order.direction.keyword] ↔
            Separable builder.grammar.listDelimiter.toList
              [order.field.toList, order.direction.keyword.toList])
        (orders.filterMap id)
        ((builder.after (.sortBy (.entries (orders.map .ofOption)))).valuesOf .sort)) ∧
    ∀ relations asked, relations ≠ [] → List.Forall₂ IsRelation relations asked →
      builder.outcome (.setJoin (kind.of relations)) = .ok () ∧
      List.Forall₂ (fun found value =>
          builder.grammar.readRelation? value = some found ↔
            builder.grammar.SeparableRelation found)
        asked ((builder.after (.setJoin (kind.of relations))).valuesOf .join) := by
  refine ⟨fun names hnames haccepted => ?_, fun orders horders => ?_,
    fun relations asked hsome hrelations => ?_⟩
  · exact ⟨_, (valuesOf_after (renders_select kind hnames haccepted)).2,
      Delimited.split_intercalate_iff hlist names⟩
  · obtain ⟨haccepted, hvalues⟩ := valuesOf_after (renders_sortBy builder horders)
    refine ⟨haccepted, hvalues ▸ ?_⟩
    rw [List.forall₂_map_right_iff, List.forall₂_same]
    exact fun order _ =>
      Delimited.split_intercalate_iff hlist [order.field, order.direction.keyword]
  · obtain ⟨values, hrenders, hread⟩ := renders_setJoin hrelation hlist kind hsome hrelations
    obtain ⟨haccepted, hvalues⟩ := valuesOf_after hrenders
    exact ⟨haccepted, hvalues ▸ hread⟩

/-- Two names from the roles, and one from a field that ends like a delimiter begins. -/
def barRelations : List Value :=
  [ .record [("field", .text "roles"), ("select", .tuple [.text "name", .text "id"])],
    .record [("field", .text "a|"), ("select", .tuple [.text "b"])] ]

theorem reads_back_iff_bar :
    (create .default).grammar.relationDelimiter ≠ "" ∧
      (create .default).grammar.listDelimiter ≠ "" ∧
      List.Forall₂ IsRelation barRelations [("roles", ["name", "id"]), ("a|", ["b"])] ∧
      (create .default).outcome (.select (.tuple [.text "id", .text "name"])) = .ok () ∧
      (∃ value, ((create .default).after
          (.select (.tuple [.text "id", .text "name"]))).valuesOf .fields = [value] ∧
        split "," value = ["id", "name"]) ∧
      ∃ roles bar, ((create .default).after (.setJoin (.tuple barRelations))).valuesOf .join =
          [roles, bar] ∧
        QueryGrammar.default.readRelation? roles = some ("roles", ["name", "id"]) ∧
        QueryGrammar.default.readRelation? bar ≠ some ("a|", ["b"]) := by
  have hrelations : List.Forall₂ IsRelation barRelations
      [("roles", ["name", "id"]), ("a|", ["b"])] :=
    .cons (.part .tuple rfl rfl (by decide)) (.cons (.part .tuple rfl rfl (by decide)) .nil)
  have haccepted : (create .default).outcome (.select (.tuple [.text "id", .text "name"])) =
      .ok () := rfl
  obtain ⟨hselect, -, hjoin⟩ :=
    reads_back_iff (create .default) (by decide) (by decide) .tuple
  refine ⟨by decide, by decide, hrelations, haccepted, ?_, ?_⟩
  · obtain ⟨value, hvalue, hread⟩ := hselect ["id", "name"] (by decide) haccepted
    exact ⟨value, hvalue, hread.mpr (Delimited.separable_singleton_iff.mpr (by decide))⟩
  · obtain ⟨-, hread⟩ := hjoin barRelations _ (by decide) hrelations
    obtain ⟨roles, others, hroles, hothers, hvalues⟩ := List.forall₂_cons_left_iff.mp hread
    obtain ⟨bar, rest, hbar, hrest, rfl⟩ := List.forall₂_cons_left_iff.mp hothers
    obtain rfl := List.forall₂_nil_left_iff.mp hrest
    exact ⟨roles, bar, hvalues, hroles.mpr (by decide), hbar.not.mpr (by decide)⟩

/-- A name with the list delimiter in it is accepted and read as two names. -/
theorem select_splits_name :
    (create .default).outcome (.select (.list [.text "a,b"])) = .ok () ∧
      ((create .default).after (.select (.list [.text "a,b"]))).valuesOf .fields = ["a,b"] ∧
      split (create .default).grammar.listDelimiter "a,b" = ["a", "b"] ∧
      split (create .default).grammar.listDelimiter "a,b" ≠ ["a,b"] := by
  have hsplit : split "," "a,b" = ["a", "b"] := by decide
  refine ⟨rfl, rfl, hsplit, ?_⟩
  rw [show (create .default).grammar.listDelimiter = "," from rfl, hsplit]
  decide

end QueryBuilder

end GridSource
