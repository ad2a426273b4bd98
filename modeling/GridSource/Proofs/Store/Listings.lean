import GridSource.Proofs.Outcome
import GridSource.Proofs.Query.Fragments
import GridSource.Proofs.Url.Query
import GridSource.Store.Operation

/-!
# Parameters of a listing

A listing writes its parameters behind the address of the store.  They are the query of the
request when the address has neither a question mark nor a number sign.  Otherwise a request
with parameters does not carry them after those of the address: behind a number sign they are
all lost, and behind a question mark they run into what the address asks for itself.
-/

namespace GridSource.Store

/-- The options of the listing that an operation asks for. -/
inductive Lists (store : Store) : Operation → LoadOptions → Prop where
  | load {given : GivenOptions} {options : LoadOptions} (hgiven : given.resolve = .ok options) :
      Lists store (.load given) options
  | byKey (key : Value) : Lists store (.byKey key) (store.keyOptions key)
  | totalCount {given : GivenOptions} {options : LoadOptions}
      (hgiven : given.resolve = .ok options) :
      Lists store (.totalCount given) (options.withTake (.int 1))

variable {store : Store} {operation : Operation} {options : LoadOptions} {builder : QueryBuilder}
  {address : String}

theorem plan_of_lists (hlists : store.Lists operation options) :
    store.plan operation = store.listing options := by
  cases hlists with
  | load hgiven =>
      rw [plan, hgiven]
      rfl
  | byKey key => rfl
  | totalCount hgiven =>
      rw [plan, hgiven]
      rfl

theorem listing_of_builder (hbuilder : (store.assembler.builder options).outcome = .ok builder)
    (hencodes : builder.isEncodable store.assembler.alphabet = true) :
    store.listing options =
      .ok { method := "GET", url := store.listingUrl builder.query, body := none } := by
  have hquery : (store.assembler.query options).outcome = .ok builder.query :=
    Assembler.query_eq_ok_iff.mpr ⟨builder, hbuilder, hencodes, rfl⟩
  rw [listing, hquery]

theorem listingUrl_of_items (hurl : store.url = .text address) (hitems : builder.items ≠ []) :
    store.listingUrl builder.query = .text (address ++ "?" ++ builder.query) := by
  have hquery : builder.query.isEmpty = false := by
    rw [Bool.eq_false_iff, ne_eq, String.isEmpty_iff, QueryBuilder.query, Form.encode_eq_empty_iff]
    exact hitems
  rw [listingUrl, hquery, if_neg Bool.false_ne_true, hurl]
  rfl

theorem listingUrl_of_none (hurl : store.url = .text address) (hitems : builder.items = []) :
    store.listingUrl builder.query = .text address := by
  rw [listingUrl, QueryBuilder.query, hitems, hurl]
  rfl

/-- A listing is planned for every address once its query is assembled.  The query of the
address that is asked for has the pieces of the store's address and then those that were
assembled exactly when none were, or the address has neither a question mark nor a number sign.
Where the query of the store's address decodes, the same holds of the parameters. -/
theorem plan_lists_iff (hurl : store.url = .text address)
    (hlists : store.Lists operation options)
    (hbuilder : (store.assembler.builder options).outcome = .ok builder)
    (hencodes : builder.isEncodable store.assembler.alphabet = true) :
    ∃ listed, store.plan operation = .ok { method := "GET", url := .text listed, body := none } ∧
      (Form.pieces (Address.queryPart listed) =
          Form.pieces (Address.queryPart address) ++ Form.pieces builder.query ↔
        builder.items = [] ∨ '?' ∉ address.toList ∧ '#' ∉ address.toList) ∧
      (∀ own, Form.decode? (Address.queryPart address) = some own →
        (Form.decode? (Address.queryPart listed) = some (own ++ builder.items) ↔
          builder.items = [] ∨ '?' ∉ address.toList ∧ '#' ∉ address.toList)) ∧
      ('#' ∈ address.toList → Address.queryPart listed = Address.queryPart address) ∧
      (builder.items ≠ [] → '?' ∈ address.toList → '#' ∉ address.toList →
        Address.queryPart listed = Address.queryPart address ++ "?" ++ builder.query) := by
  rw [plan_of_lists hlists, listing_of_builder hbuilder hencodes]
  by_cases hitems : builder.items = []
  · refine ⟨address, by rw [listingUrl_of_none hurl hitems], ?_, fun own hown => ?_, fun _ => rfl,
      fun hsome => absurd hitems hsome⟩
    · rw [QueryBuilder.query, hitems]
      exact iff_of_true (List.append_nil _).symm (.inl rfl)
    · rw [hitems, List.append_nil]
      exact iff_of_true hown (.inl rfl)
  · have hquery : '#' ∉ builder.query.toList := Form.number_not_mem_encode builder.items
    rw [listingUrl_of_items hurl hitems]
    refine ⟨_, rfl, ?_, fun own hown => ?_,
      fun hnumber => Address.queryPart_append_of_number hnumber builder.query,
      fun _ hquestion hnumber => Address.queryPart_append_of_question hquestion hnumber hquery⟩
    · rw [or_iff_right hitems]
      exact Address.pieces_queryPart_iff hitems
    · rw [or_iff_right hitems]
      exact Address.decode?_queryPart_iff hown hitems

/-- A store of its own for an address. -/
def storeAt (address : String) : Store :=
  { properties := { StoreProperties.default with url := .text address }
    assembler := Assembler.default }

/-- The first five records. -/
def topFive : LoadOptions := { LoadOptions.default with take := .int 5 }

/-- A plain address carries the limit of a page, and one with a number sign loses it. -/
theorem plan_lists_iff_topFive :
    (∃ listed, (storeAt "http://x/orders").plan (.load (.ready topFive)) =
        .ok { method := "GET", url := .text listed, body := none } ∧
      Form.decode? (Address.queryPart listed) = some [("limit", "5")]) ∧
    ∃ listed, (storeAt "http://x/orders#top").plan (.totalCount (.ready topFive)) =
        .ok { method := "GET", url := .text listed, body := none } ∧
      Address.queryPart listed = "" := by
  have hfive : (Assembler.default.builder topFive).outcome =
      .ok { grammar := .default, parameters := [("limit", ["5"])] } := rfl
  have hone : (Assembler.default.builder (topFive.withTake (.int 1))).outcome =
      .ok { grammar := .default, parameters := [("limit", ["1"])] } := rfl
  constructor
  · have hlists : (storeAt "http://x/orders").Lists (.load (.ready topFive)) topFive := .load rfl
    obtain ⟨listed, hplan, -, hcarries, -⟩ :=
      plan_lists_iff rfl hlists hfive (QueryBuilder.isEncodable_unicode _)
    exact ⟨listed, hplan, (hcarries [] rfl).mpr (.inr (by decide))⟩
  · have hlists : (storeAt "http://x/orders#top").Lists (.totalCount (.ready topFive))
        (topFive.withTake (.int 1)) := .totalCount rfl
    obtain ⟨listed, hplan, -, -, hlost, -⟩ :=
      plan_lists_iff rfl hlists hone (QueryBuilder.isEncodable_unicode _)
    exact ⟨listed, hplan, hlost (by decide)⟩

/-- The limit of a page becomes a part of what the address asks for itself. -/
theorem plan_load_runs_together :
    ∃ listed builder, (Assembler.default.builder topFive).outcome = .ok builder ∧
      builder.items = [("limit", "5")] ∧
      (storeAt "http://x/orders?open=1").plan (.load (.ready topFive)) =
        .ok { method := "GET", url := .text listed, body := none } ∧
      Form.decode? (Address.queryPart "http://x/orders?open=1") = some [("open", "1")] ∧
      Form.decode? (Address.queryPart listed) = some [("open", "1?limit=5")] ∧
      Form.decode? (Address.queryPart listed) ≠ some ([("open", "1")] ++ builder.items) := by
  refine ⟨"http://x/orders?open=1?limit=5",
    { grammar := .default, parameters := [("limit", ["5"])] },
    rfl, rfl, rfl, ?_, ?_, ?_⟩
  · decide +kernel
  · decide +kernel
  · decide +kernel

end GridSource.Store
