import GridSource.Proofs.Query.Fragments
import GridSource.Proofs.Query.OptionSpelling
import GridSource.Proofs.Value.Members
import GridSource.Store.Operation

/-!
# Counting what a page shows

The query of a count is the query of a page with a limit of one.  Working out the other
settings does not look at the limit, so a count can be asked for exactly when the page
without a limit can, and its query has the same parameters around the limit.  A limit with a
name of its own has no part in whether the query can be encoded either.
-/

namespace GridSource

namespace LoadOptions

/-! ## Options without a page size -/

/-- Only its own name stands for the page size. -/
theorem ofSpelling?_eq_take {spelling : String}
    (hspelling : LoadField.ofSpelling? spelling = some .take) : spelling = "take" := by
  have hfound := List.find?_some hspelling
  rw [Bool.or_eq_true, beq_iff_eq] at hfound
  rcases hfound with hname | halias
  · exact hname.symm
  · contradiction

theorem withTake_set {field : LoadField} (hfield : field ≠ .take) (options : LoadOptions)
    (value take : Value) : (options.set field value).withTake take =
      (options.withTake take).set field value := by
  cases field <;> first | contradiction | rfl

/-- Every entry but those of the page size has its effect also without a page size. -/
theorem setEntry_withTake {key : Value} (hkey : key ≠ .text "take") (options : LoadOptions)
    (value take : Value) :
    (options.withTake take).setEntry (key, value) =
      (options.setEntry (key, value)).withTake take := by
  cases key with
  | text spelling =>
      rw [setEntry_text, setEntry_text]
      cases hfield : LoadField.ofSpelling? spelling with
      | none => rfl
      | some field =>
          have hother : field ≠ .take := by
            rintro rfl
            exact hkey (congrArg Value.text (ofSpelling?_eq_take hfield))
          rw [Option.elim_some, Option.elim_some, ← withTake_set hother]
          split <;> rfl
  | _ => rfl

@[simp]
theorem withTake_setEntry_take (options : LoadOptions) (value take : Value) :
    (options.setEntry (.text "take", value)).withTake take = options.withTake take := by
  have hfield : LoadField.ofSpelling? "take" = some .take := by decide
  rw [setEntry_text, hfield, Option.elim_some]
  split <;> rfl

theorem foldl_setEntry_erase (members : Members) (options : LoadOptions) :
    (members.erase (.text "take")).foldl setEntry (options.withTake .null) =
      (members.foldl setEntry options).withTake .null := by
  induction members generalizing options with
  | nil => rfl
  | cons member rest ih =>
      obtain ⟨key, value⟩ := member
      rw [Members.erase, List.filter_cons]
      by_cases hkey : key = .text "take"
      · subst hkey
        simpa [Members.erase] using ih (options.setEntry (.text "take", value))
      · have hother : key.sameKey (.text "take") = false :=
          Value.sameKey_text_eq_false_iff.mpr hkey
        rw [hother, Bool.not_false, if_pos rfl, List.foldl_cons, List.foldl_cons, ← ih,
          setEntry_withTake hkey]
        rfl

end LoadOptions

/-- The same options with the page size removed. -/
def GivenOptions.withoutTake : GivenOptions → GivenOptions
  | .ready options => .ready (options.withTake .null)
  | .raw (.object members) => .raw (.object (Members.erase members (.text "take")))
  | .raw value => .raw value

theorem GivenOptions.resolve_withoutTake (given : GivenOptions) :
    given.withoutTake.resolve = (·.withTake .null) <$> given.resolve := by
  cases given with
  | ready options => rfl
  | raw value =>
      cases value with
      | object members =>
          exact congrArg Except.ok (LoadOptions.foldl_setEntry_erase members .default)
      | _ => rfl

namespace Store

variable (store : Store)

/-! ## Listings -/

/-- The request for a listing with some parameters. -/
def listingOf (items : List (String × String)) : Request :=
  { method := "GET", url := store.listingUrl (Form.encode items), body := none }

/-- The parameters of a listing with some values for the limit. -/
def itemsAround (before after : List (String × List String)) (limit : List String) :
    List (String × String) :=
  (QueryBuilder.assembled store.assembler.grammar
    (before ++ (store.assembler.grammar.limit, limit) :: after)).items

/-- Whether the parameters of a listing can be encoded. -/
def encodesItems (items : List (String × String)) : Bool :=
  items.all fun item =>
    store.assembler.alphabet.encodes item.1 && store.assembler.alphabet.encodes item.2

/-- The request for a listing with some parameters, if they can be encoded. -/
def encodedListing (items : List (String × String)) : Except CompileError Request :=
  if store.encodesItems items then .ok (store.listingOf items) else .error (.misuse .notEncodable)

theorem encodedListing_eq_ok_iff {items : List (String × String)} {request : Request} :
    store.encodedListing items = .ok request ↔
      store.encodesItems items = true ∧ store.listingOf items = request := by
  rw [encodedListing]
  cases store.encodesItems items <;> simp

theorem encodedListing_eq_error_iff {items : List (String × String)} {failure : CompileError} :
    store.encodedListing items = .error failure ↔
      store.encodesItems items = false ∧ .misuse .notEncodable = failure := by
  rw [encodedListing]
  cases store.encodesItems items <;> simp

/-- What is planned for options that are read, before and after their limit. -/
theorem listing_eq (options : LoadOptions) :
    store.listing options = (do
      let before ← store.assembler.settingsBefore options
      let limit ← QueryBuilder.countOf store.assembler.grammar.limit options.take
      let after ← store.assembler.settingsAfter
      store.encodedListing (store.itemsAround before after limit)).mapError .compile := by
  rw [listing, Assembler.outcome_query, Assembler.outcome_builder]
  cases store.assembler.settingsBefore options with
  | error failure => rfl
  | ok before =>
      cases QueryBuilder.countOf store.assembler.grammar.limit options.take with
      | error failure => rfl
      | ok limit =>
          cases store.assembler.settingsAfter with
          | error failure => rfl
          | ok after =>
              have hbuilt : (QueryBuilder.assembled store.assembler.grammar
                  (before ++ (store.assembler.grammar.limit, limit) :: after)).isEncodable
                    store.assembler.alphabet =
                  store.encodesItems (store.itemsAround before after limit) := rfl
              simp only [Outcome.ok_bind, pure_bind, encodedListing, QueryBuilder.encoded, hbuilt]
              cases store.encodesItems (store.itemsAround before after limit) <;> rfl

theorem listing_of_limit {options : LoadOptions} {limit : List String}
    (htake : QueryBuilder.countOf store.assembler.grammar.limit options.take = .ok limit) :
    store.listing options = (do
      let before ← store.assembler.settingsBefore options
      let after ← store.assembler.settingsAfter
      store.encodedListing (store.itemsAround before after limit)).mapError .compile := by
  rw [listing_eq, htake]
  rfl

@[simp]
theorem settingsBefore_withTake (options : LoadOptions) (take : Value) :
    store.assembler.settingsBefore (options.withTake take) =
      store.assembler.settingsBefore options := rfl

/-- The limit has a name of its own, and this can be encoded. -/
structure LimitIsOwn (store : Store) : Prop where
  encodes : store.assembler.alphabet.encodes store.assembler.grammar.limit = true
  other : store.assembler.grammar.limit ∉
    [store.assembler.grammar.search, store.assembler.grammar.fields, store.assembler.grammar.sort,
      store.assembler.grammar.offset, store.assembler.grammar.join,
      store.assembler.grammar.includeDeleted, store.assembler.grammar.cache]

variable {store} in
/-- Whether a query can be encoded depends on a limit of its own by its values alone. -/
theorem LimitIsOwn.encodesItems_around (hown : store.LimitIsOwn)
    {before after : List (String × List String)} {options : LoadOptions}
    (hbefore : store.assembler.settingsBefore options = .ok before)
    (hafter : store.assembler.settingsAfter = .ok after) (limit : List String) :
    store.encodesItems (store.itemsAround before after limit) =
      (store.encodesItems (store.itemsAround before after []) &&
        limit.all store.assembler.alphabet.encodes) := by
  have hother := hown.other
  simp only [List.mem_cons, not_or] at hother
  have hnotBefore : store.assembler.grammar.limit ∉ before.map Prod.fst := by
    rw [Assembler.names_settingsBefore hbefore]
    simp [hother]
  have hnotAfter : store.assembler.grammar.limit ∉ after.map Prod.fst := by
    rw [Assembler.names_settingsAfter hafter]
    simp [hother]
  obtain ⟨first, last, -, -, hitems⟩ :=
    QueryBuilder.exists_items_around store.assembler.grammar hnotBefore hnotAfter
  simp only [itemsAround, hitems, encodesItems, List.all_append, List.all_map, List.map_nil,
    Function.comp_def, hown.encodes, Bool.true_and, List.append_nil, Bool.and_right_comm]

variable {store} in
/-- A limit of one does not change whether a query can be encoded. -/
theorem LimitIsOwn.encodesItems_one (hown : store.LimitIsOwn)
    {before after : List (String × List String)} {options : LoadOptions}
    (hbefore : store.assembler.settingsBefore options = .ok before)
    (hafter : store.assembler.settingsAfter = .ok after) :
    store.encodesItems (store.itemsAround before after ["1"]) =
      store.encodesItems (store.itemsAround before after []) := by
  have hone : store.assembler.alphabet.encodes "1" = true :=
    store.assembler.alphabet.encodes_of_ascii "1" rfl
  rw [hown.encodesItems_around hbefore hafter, List.all_cons, hone]
  exact Bool.and_true _

/-- A limit that can be worked out changes neither whether a listing fails before it is
encoded, nor with what, and one with a name of its own does not change whether it can be
encoded. -/
theorem listing_withTake_eq_error_iff {options : LoadOptions} {failure : StoreError}
    (hfailure : failure ≠ .compile (.misuse .notEncodable) ∨ store.LimitIsOwn) :
    store.listing (options.withTake (.int 1)) = .error failure ↔
      store.listing (options.withTake .null) = .error failure := by
  have hone : QueryBuilder.countOf store.assembler.grammar.limit (.int 1) = .ok ["1"] := rfl
  have hnone : QueryBuilder.countOf store.assembler.grammar.limit .null = .ok [] := rfl
  rw [store.listing_of_limit hone, store.listing_of_limit hnone, settingsBefore_withTake,
    settingsBefore_withTake]
  cases hbefore : store.assembler.settingsBefore options with
  | error cause => rfl
  | ok before =>
      cases hafter : store.assembler.settingsAfter with
      | error cause => rfl
      | ok after =>
          simp only [Outcome.ok_bind, Outcome.mapError_eq_error_iff, encodedListing_eq_error_iff]
          rcases hfailure with hearly | hown
          · constructor <;>
            · rintro ⟨_, ⟨-, rfl⟩, rfl⟩
              exact absurd rfl hearly
          · rw [hown.encodesItems_one hbefore hafter]

theorem length_le_one_of_countOf {name : String} {value : Value} {values : List String}
    (hvalues : QueryBuilder.countOf name value = .ok values) : values.length ≤ 1 := by
  rw [QueryBuilder.countOf] at hvalues
  split at hvalues
  · obtain rfl := Except.ok.inj hvalues
    exact Nat.zero_le 1
  · split at hvalues
    · split at hvalues
      · contradiction
      · obtain ⟨text, -, rfl⟩ := Outcome.map_eq_ok_iff.mp hvalues
        exact le_rfl
    · contradiction

/-- A listing that is planned has its settings before and after the limit. -/
theorem exists_of_listing {options : LoadOptions} {request : Request}
    (hrequest : store.listing options = .ok request) :
    ∃ before limit after, store.assembler.settingsBefore options = .ok before ∧
      QueryBuilder.countOf store.assembler.grammar.limit options.take = .ok limit ∧
      store.assembler.settingsAfter = .ok after ∧
      store.encodesItems (store.itemsAround before after limit) = true ∧
      store.listingOf (store.itemsAround before after limit) = request := by
  rw [listing_eq, Outcome.mapError_eq_ok_iff] at hrequest
  obtain ⟨before, hbefore, hrequest⟩ := Outcome.bind_eq_ok_iff.mp hrequest
  obtain ⟨limit, hlimit, hrequest⟩ := Outcome.bind_eq_ok_iff.mp hrequest
  obtain ⟨after, hafter, hrequest⟩ := Outcome.bind_eq_ok_iff.mp hrequest
  exact ⟨before, limit, after, hbefore, hlimit, hafter,
    store.encodedListing_eq_ok_iff.mp hrequest⟩

/-- A count can be asked for exactly when the page without a limit can, and fails with the
same failure; whether the query has an encoding is the same only for a limit with a name of
its own that has one.  When the page itself can be asked for, its query and that of the count
take the same settings before and after the limit; a limit with a name of its own then stands
between the same parameters in both. -/
theorem plan_totalCount (given : GivenOptions) :
    (∀ failure, failure ≠ .compile (.misuse .notEncodable) ∨ store.LimitIsOwn →
      (store.plan (.totalCount given) = .error failure ↔
        store.plan (.load given.withoutTake) = .error failure)) ∧
    ∀ request, store.plan (.load given) = .ok request →
      ∃ before after limit,
        before.map Prod.fst = [store.assembler.grammar.search, store.assembler.grammar.fields,
          store.assembler.grammar.sort, store.assembler.grammar.offset] ∧
        after.map Prod.fst = [store.assembler.grammar.join,
          store.assembler.grammar.includeDeleted, store.assembler.grammar.cache] ∧
        limit.length ≤ 1 ∧
        request = store.listingOf (store.itemsAround before after limit) ∧
        store.plan (.totalCount given) =
          (store.encodedListing (store.itemsAround before after ["1"])).mapError .compile ∧
        (store.LimitIsOwn → store.plan (.totalCount given) =
          .ok (store.listingOf (store.itemsAround before after ["1"]))) ∧
        (store.assembler.grammar.limit ∉ before.map Prod.fst ++ after.map Prod.fst →
          ∃ first last : List (String × String),
            (∀ item ∈ first, item.1 ∈ before.map Prod.fst) ∧
            (∀ item ∈ last, item.1 ∈ after.map Prod.fst) ∧
            store.itemsAround before after limit =
              first ++ limit.map (fun value => (store.assembler.grammar.limit, value)) ++ last ∧
            store.itemsAround before after ["1"] =
              first ++ [(store.assembler.grammar.limit, "1")] ++ last) := by
  have hload : store.plan (.load given.withoutTake) =
      liftMisuse ((·.withTake .null) <$> given.resolve) >>= store.listing := by
    rw [← given.resolve_withoutTake]
    rfl
  have hcount : store.plan (.totalCount given) =
      liftMisuse given.resolve >>= fun options => store.listing (options.withTake (.int 1)) :=
    rfl
  cases hgiven : given.resolve with
  | error cause =>
      have hplan : store.plan (.load given) = .error (.misuse cause) := by
        rw [plan, hgiven]
        rfl
      rw [hload, hcount, hgiven, hplan]
      exact ⟨fun failure _ => Iff.rfl, fun request hrequest => nomatch hrequest⟩
  | ok options =>
      have hplan : store.plan (.load given) = store.listing options := by
        rw [plan, hgiven]
        rfl
      rw [hload, hcount, hgiven, hplan]
      refine ⟨fun failure => store.listing_withTake_eq_error_iff, fun request hrequest => ?_⟩
      obtain ⟨before, limit, after, hbefore, hlimit, hafter, hencodes, rfl⟩ :=
        store.exists_of_listing hrequest
      have hone : store.listing (options.withTake (.int 1)) =
          (store.encodedListing (store.itemsAround before after ["1"])).mapError .compile := by
        have hcount : QueryBuilder.countOf store.assembler.grammar.limit
            (options.withTake (.int 1)).take = .ok ["1"] := rfl
        rw [store.listing_of_limit hcount, settingsBefore_withTake, hbefore, hafter]
        rfl
      refine ⟨before, after, limit, Assembler.names_settingsBefore hbefore,
        Assembler.names_settingsAfter hafter, length_le_one_of_countOf hlimit, rfl, hone,
        fun hown => ?_, ?_⟩
      · rw [hown.encodesItems_around hbefore hafter, Bool.and_eq_true] at hencodes
        refine hone.trans (Outcome.mapError_eq_ok_iff.mpr ?_)
        rw [encodedListing_eq_ok_iff, hown.encodesItems_one hbefore hafter]
        exact ⟨hencodes.1, rfl⟩
      intro hown
      rw [List.mem_append, not_or] at hown
      obtain ⟨first, last, hfirst, hlast, hitems⟩ :=
        QueryBuilder.exists_items_around store.assembler.grammar hown.1 hown.2
      exact ⟨first, last, hfirst, hlast, hitems limit, hitems ["1"]⟩

def uncachedStore : Store :=
  { properties := { StoreProperties.default with url := .text "/users" }
    assembler := { Assembler.default with cache := false } }

/-- The third page of twenty records, in the order of the names. -/
def thirdPage : GivenOptions :=
  .raw (.record [("take", .int 20), ("skip", .int 40), ("sort", .text "name")])

theorem plan_totalCount_thirdPage :
    uncachedStore.plan (.load thirdPage) = .ok (uncachedStore.listingOf
        [("sort", "name,ASC"), ("offset", "40"), ("limit", "20"), ("cache", "0")]) ∧
      ∃ first last : List (String × String),
        (∀ item ∈ first, item.1 ∈ ["s", "fields", "sort", "offset"]) ∧
        (∀ item ∈ last, item.1 ∈ ["join", "include_deleted", "cache"]) ∧
        uncachedStore.plan (.totalCount thirdPage) =
          .ok (uncachedStore.listingOf (first ++ [("limit", "1")] ++ last)) := by
  have hload : uncachedStore.plan (.load thirdPage) = .ok (uncachedStore.listingOf
      [("sort", "name,ASC"), ("offset", "40"), ("limit", "20"), ("cache", "0")]) := rfl
  have hlimit : uncachedStore.LimitIsOwn := ⟨Alphabet.encodes_unicode _, by decide⟩
  obtain ⟨before, after, limit, hbefore, hafter, -, -, -, hcount, hown⟩ :=
    (plan_totalCount uncachedStore thirdPage).2 _ hload
  have hcount := hcount hlimit
  rw [hbefore, hafter] at hown
  obtain ⟨first, last, hfirst, hlast, -, hitems⟩ := hown (by decide)
  rw [hitems] at hcount
  exact ⟨hload, first, last, hfirst, hlast, hcount⟩

end Store

end GridSource
