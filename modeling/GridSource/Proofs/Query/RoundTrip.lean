import GridSource.Proofs.Query.Parameters
import GridSource.Proofs.Query.TreeValues
import GridSource.Proofs.Url.Form

/-!
# Decoding an assembled query

What an assembler makes of load options can be read from the query alone: it
decodes to the search tree, the fields, the sort orders, the page and the settings
of the store, in this order, and to nothing else.  The search tree is the one that
the filter compiles to, read back from its text.
-/

namespace GridSource

/-- A search tree is one text that reads back as the tree; what is no object is no
tree. -/
inductive SearchValues : Value → List String → Prop where
  | absent {tree : Value} (htree : tree.isObject = false) : SearchValues tree []
  | tree {tree : Value} {text : String} (htree : tree.isObject = true)
      (hread : Json.read text.toList = .ok tree.asArrays) : SearchValues tree [text]

/-- The text that is written for a plain tree reads back as the tree. -/
theorem SearchValues.of_isPlain {tree : Value} (htree : tree.IsPlain)
    (hwritten : tree.isObject = true → ∃ text, Json.write .search tree = .ok text) :
    SearchValues tree (QueryBuilder.searchText? tree).toList := by
  rw [QueryBuilder.searchText?]
  cases hobject : tree.isObject with
  | false => exact .absent hobject
  | true =>
      obtain ⟨text, htext⟩ := hwritten hobject
      rw [if_pos rfl, htext]
      exact .tree hobject (Json.read_write htree htext)

namespace Assembler

/-- The named values of a query, in their order: what each of them is for the
options and the settings of the store. -/
inductive Carries (assembler : Assembler) (options : LoadOptions) :
    List (String × String) → Prop where
  | values {tree : Value} {search fields offset limit join : List String}
      (htree : (assembler.searchTree options).outcome = .ok tree)
      (hsearch : SearchValues tree search)
      (hfields : SelectValues "," options.select fields)
      (hoffset : CountValues options.skip offset)
      (hlimit : CountValues options.take limit)
      (hjoin : JoinValues "||" "," assembler.join join) :
      Carries assembler options <|
        (search.map fun value => ("s", value)) ++
        (fields.map fun value => ("fields", value)) ++
        ((sortValues "," options.sort).map fun value => ("sort", value)) ++
        (offset.map fun value => ("offset", value)) ++
        (limit.map fun value => ("limit", value)) ++
        (join.map fun value => ("join", value)) ++
        (if assembler.includeDeleted then [("include_deleted", "1")] else []) ++
        (if assembler.cache then [] else [("cache", "0")])

/-- The steps of a builder that assembles. -/
theorem builder_eq_ok {assembler : Assembler} {options : LoadOptions} {built : QueryBuilder}
    (hfilter : options.filter.IsPlain) (hfields : options.searchFields.IsPlain)
    (hvalue : options.searchValue.IsPlain)
    (hbuilt : (assembler.builder options).outcome = .ok built) :
    ∃ tree search fields offset limit join,
      (assembler.searchTree options).outcome = .ok tree ∧
      SearchValues tree search ∧
      SelectValues assembler.grammar.listDelimiter options.select fields ∧
      CountValues options.skip offset ∧
      CountValues options.take limit ∧
      JoinValues assembler.grammar.relationDelimiter assembler.grammar.listDelimiter
        assembler.join join ∧
      built =
        [ (assembler.grammar.search, search),
          (assembler.grammar.fields, fields),
          (assembler.grammar.sort, sortValues assembler.grammar.listDelimiter options.sort),
          (assembler.grammar.offset, offset),
          (assembler.grammar.limit, limit),
          (assembler.grammar.join, join),
          (assembler.grammar.includeDeleted, if assembler.includeDeleted then ["1"] else []),
          (assembler.grammar.cache, if assembler.cache then [] else ["0"]) ].foldl
          (fun collected setting => collected.setAll setting.1 setting.2)
          (QueryBuilder.create assembler.grammar) := by
  obtain ⟨tree, fields, offset, limit, join, htree, hwritten, hselect, hoffset, hlimit, hjoin,
    hsettings⟩ := builder_eq_settings hbuilt
  have hplain := searchTree_isPlain hfilter hfields hvalue htree
  exact ⟨tree, _, fields, offset, limit, join, htree, .of_isPlain hplain hwritten, hselect,
    hoffset, hlimit, hjoin, hsettings⟩

/-- An assembled query decodes to what it carries. -/
theorem query_decodes {assembler : Assembler} {options : LoadOptions} {query : String}
    (hgrammar : assembler.grammar = .default) (hfilter : options.filter.IsPlain)
    (hfields : options.searchFields.IsPlain) (hvalue : options.searchValue.IsPlain)
    (hquery : (assembler.query options).outcome = .ok query) :
    ∃ items, Form.decode? query = some items ∧ assembler.Carries options items := by
  obtain ⟨built, hbuilt, -, rfl⟩ := query_eq_ok_iff.mp hquery
  obtain ⟨tree, search, fields, offset, limit, join, htree, hsearch, hselect, hoffset, hlimit,
    hjoin, rfl⟩ := builder_eq_ok hfilter hfields hvalue hbuilt
  rw [hgrammar] at hselect hjoin ⊢
  refine ⟨_, Form.decode?_encode _, ?_⟩
  rw [QueryBuilder.items_foldl_setAll]
  · have hcarries := Carries.values htree hsearch hselect hoffset hlimit hjoin
    have hdeleted := apply_ite (List.map fun value => ("include_deleted", value))
      (assembler.includeDeleted = true) ["1"] []
    have hcache := apply_ite (List.map fun value => ("cache", value))
      (assembler.cache = true) [] ["0"]
    simp only [List.map_cons, List.map_nil] at hdeleted hcache
    simp only [List.flatMap_cons, List.flatMap_nil, List.append_nil, QueryGrammar.default,
      hdeleted, hcache, QueryBuilder.items_create, List.nil_append]
    simpa only [List.append_assoc] using hcarries
  · simp only [List.map_cons, List.map_nil]
    decide
  · intro setting _ hmem
    contradiction

/-- A store that joins a part of a relation, passes over its cache and includes
deleted records. -/
def profileStore : Assembler :=
  { Assembler.default with
    join := .list [.object (textMembers
      [("field", .text "profile"), ("select", .list [.text "name", .text "city"])])]
    cache := false
    includeDeleted := true }

/-- The first page of a grid with a filter and a search box. -/
def firstPage : LoadOptions :=
  { LoadOptions.default with
    filter := .list [.text "name", .text "=", .text "Zoë & co"]
    sort := .list [.text "name", .object (textMembers
      [("selector", .text "age"), ("desc", .bool true)])]
    skip := .int 0
    take := .int 20
    select := .list [.text "id", .text "name"]
    searchFields := .text "title"
    searchValue := .text "100%" }

def firstPageItems : List (String × String) :=
  [ ("s", "\x7b\"$and\":[\x7b\"name\":\x7b\"$eq\":\"Zoë & co\"\x7d\x7d," ++
      "\x7b\"title\":\x7b\"$cont\":\"100%\"\x7d\x7d]\x7d"),
    ("fields", "id,name"),
    ("sort", "name,ASC"),
    ("sort", "age,DESC"),
    ("offset", "0"),
    ("limit", "20"),
    ("join", "profile||name,city"),
    ("include_deleted", "1"),
    ("cache", "0") ]

theorem query_decodes_firstPage :
    (profileStore.query firstPage).outcome = .ok (Form.encode firstPageItems) ∧
      profileStore.Carries firstPage firstPageItems := by
  have hitems : (profileStore.builder firstPage).outcome.toOption.map QueryBuilder.items =
      some firstPageItems := by decide +kernel
  have hquery : (profileStore.query firstPage).outcome = .ok (Form.encode firstPageItems) := by
    cases hbuilt : (profileStore.builder firstPage).outcome with
    | error failure => simp [hbuilt, Except.toOption] at hitems
    | ok built =>
        have hsame : built.items = firstPageItems := by
          simpa [hbuilt, Except.toOption] using hitems
        exact query_eq_ok_iff.mpr ⟨built, hbuilt, built.isEncodable_unicode, hsame ▸ rfl⟩
  have hfilter : firstPage.filter.IsPlain := by
    refine .list ?_
    intro item hitem
    simp only [List.mem_cons, List.not_mem_nil, or_false] at hitem
    rcases hitem with rfl | rfl | rfl <;> exact .text _
  obtain ⟨items, hdecoded, hcarries⟩ :=
    query_decodes rfl hfilter (.text "title") (.text "100%") hquery
  rw [Form.decode?_encode] at hdecoded
  obtain rfl := Option.some.inj hdecoded
  exact ⟨hquery, hcarries⟩

end Assembler

end GridSource
