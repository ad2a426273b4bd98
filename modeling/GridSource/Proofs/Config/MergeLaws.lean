import GridSource.Proofs.Config.Merge

/-!
# Laws of merging

Merging keeps the keys of the base in their order and puts the new keys of the overlay behind
them, in every object that both sides have.  An object without members is neutral on both sides,
and an overlay that is merged a second time changes nothing.
-/

namespace GridSource

theorem Value.IsTree.exists_entries {members : Members} (htree : (Value.object members).IsTree) :
    ∃ entries : List (String × Value),
      members = (entries.map fun (name, value) => (.text name, value)) ∧
        (entries.map Prod.fst).Nodup := by
  generalize hobject : Value.object members = tree at htree
  cases htree with
  | leaf hleaf => exact absurd hleaf (hobject ▸ Bool.noConfusion)
  | @record entries hnames hvalues => exact ⟨entries, Value.object.inj hobject, hnames⟩

namespace Tree

theorem isTree_of_find? {tree : Value} (htree : tree.IsTree) {path : List String} {value : Value}
    (hvalue : find? tree path = some value) : value.IsTree := by
  induction path generalizing tree with
  | nil =>
      obtain rfl := Option.some.inj hvalue
      exact htree
  | cons part rest ih =>
      rw [find?_cons, Option.bind_eq_some_iff] at hvalue
      obtain ⟨inner, hinner, hvalue⟩ := hvalue
      exact ih (htree.of_field? hinner) hvalue

section

variable {entries : List (String × Value)}

/-! ## The keys of a merged object -/

/-- The keys that an overlay adds to those of an object, in the order of the overlay. -/
def newKeys (base override : Members) : List Value :=
  (override.map Prod.fst).filter fun key => !Members.contains base key

/-- A name that the overlay does not have makes no difference to what it adds. -/
theorem newKeys_insert {name : String} (hname : name ∉ entries.map Prod.fst) (base : Members)
    (value : Value) :
    newKeys (Members.insert base (.text name) value)
        (entries.map fun (name, value) => (.text name, value)) =
      newKeys base (entries.map fun (name, value) => (.text name, value)) := by
  refine List.filter_congr fun key hkey => ?_
  rw [List.map_map, List.mem_map] at hkey
  obtain ⟨⟨other, _⟩, hentry, rfl⟩ := hkey
  have hother : Value.text other ≠ .text name := fun hsame =>
    hname (Value.text.inj hsame ▸ List.mem_map_of_mem hentry)
  have hkeys : Members.contains (Members.insert base (.text name) value) (.text other) = true ↔
      Members.contains base (.text other) = true := by
    rw [Members.contains_text_iff, Members.contains_text_iff, Members.map_fst_insert]
    split
    · rfl
    · simp [hother]
  exact congrArg not (Bool.eq_iff_iff.mpr hkeys)

theorem map_fst_merge (hnames : (entries.map Prod.fst).Nodup) (base : Members) :
    (merge base (entries.map fun (name, value) => (.text name, value))).map Prod.fst =
      base.map Prod.fst ++ newKeys base (entries.map fun (name, value) => (.text name, value)) := by
  induction entries generalizing base with
  | nil => simp [merge, newKeys]
  | cons entry rest ih =>
      obtain ⟨name, value⟩ := entry
      rw [List.map_cons, List.nodup_cons] at hnames
      rw [List.map_cons, merge, ih hnames.2, newKeys_insert hnames.1, Members.map_fst_insert]
      cases hpresent : Members.contains base (.text name) with
      | true => simp [newKeys, hpresent]
      | false => simp [newKeys, hpresent]

/-! ## Merging without effect -/

/-- Members of which none is there yet are put behind the others as they are. -/
theorem merge_of_absent (hnames : (entries.map Prod.fst).Nodup) {base : Members}
    (habsent : ∀ name ∈ entries.map Prod.fst, Members.named? base name = none) :
    merge base (entries.map fun (name, value) => (.text name, value)) =
      base ++ entries.map fun (name, value) => (.text name, value) := by
  induction entries generalizing base with
  | nil => exact (List.append_nil base).symm
  | cons entry rest ih =>
      obtain ⟨name, value⟩ := entry
      rw [List.map_cons, List.nodup_cons] at hnames
      rw [List.map_cons, List.forall_mem_cons] at habsent
      obtain ⟨hname, hothers⟩ := habsent
      have hnext : ∀ other ∈ rest.map Prod.fst,
          Members.named? (Members.insert base (.text name) value) other = none := by
        intro other hother
        have hne : name ≠ other := fun hsame => hnames.1 (hsame ▸ hother)
        rw [Members.named?_insert, if_neg hne, hothers other hother]
      rw [List.map_cons, merge, ← Members.named?, hname, mergeValue_none, ih hnames.2 hnext,
        Members.insert_of_named?_eq_none hname, List.append_assoc, List.singleton_append]

/-- An overlay whose values are all absorbed by those that are there changes nothing. -/
theorem merge_of_absorbed {base : Members} (habsorbed : ∀ entry ∈ entries, ∃ value,
      Members.named? base entry.1 = some value ∧ mergeValue (some value) entry.2 = value) :
    merge base (entries.map fun (name, value) => (.text name, value)) = base := by
  induction entries with
  | nil => rfl
  | cons entry rest ih =>
      obtain ⟨⟨value, hvalue, hmerged⟩, hrest⟩ := List.forall_mem_cons.mp habsorbed
      rw [List.map_cons, merge, ← Members.named?, hvalue, hmerged, Members.insert_of_named? hvalue]
      exact ih hrest

end

/-! ## Merging again -/

theorem mergeValue_self {tree : Value} (htree : tree.IsTree) :
    mergeValue (some tree) tree = tree := by
  induction htree with
  | leaf hleaf => exact mergeValue_of_not_object hleaf _
  | @record entries hnames hvalues ih =>
      refine congrArg Value.object (merge_of_absorbed fun entry hentry => ?_)
      have hvalue : (Value.record entries).field? entry.1 = some entry.2 := by
        rw [Value.field?_record, Members.lookup_of_mem hnames hentry]
      exact ⟨entry.2, hvalue, ih entry hentry⟩

/-- A tree absorbs an overlay that was merged over it before. -/
theorem mergeValue_mergeValue {override : Value} (hoverride : override.IsTree)
    (present : Option Value) :
    mergeValue (some (mergeValue present override)) override = mergeValue present override := by
  induction hoverride generalizing present with
  | leaf hleaf => rw [mergeValue_of_not_object hleaf, mergeValue_of_not_object hleaf]
  | @record entries hnames hvalues ih =>
      have hfields := field?_mergeValue hnames present
      cases hmerged : mergeValue present (.record entries) with
      | object members =>
          rw [hmerged] at hfields
          -- Under each name of the overlay stands what its value there was merged into.
          refine congrArg Value.object (merge_of_absorbed fun entry hentry => ?_)
          refine ⟨_, ?_, ih entry hentry (present.bind (·.field? entry.1))⟩
          refine (hfields entry.1).trans ?_
          rw [Members.lookup_of_mem hnames hentry, Option.map_some, Option.some_or]
      | _ =>
          have hobject := isObject_mergeValue present (.record entries)
          rw [hmerged] at hobject
          contradiction

/-! ## The laws -/

variable {base override : Members}

/-- Where both sides have an object, the merged tree has the two merged. -/
theorem find?_merge_of_objects (hoverride : (Value.object override).IsTree) {path : List String}
    {inner additions : Members} (hinner : find? (.object base) path = some (.object inner))
    (hadditions : find? (.object override) path = some (.object additions)) :
    find? (.object (merge base override)) path = some (.object (merge inner additions)) := by
  rcases merged hoverride (some (.object base)) path with
    ⟨value, hvalue, hmerged⟩ | ⟨hblocks, -⟩ | ⟨huntouched, -⟩
  · obtain rfl := Option.some.inj (hadditions.symm.trans hvalue)
    rw [Option.bind_some, hinner] at hmerged
    exact hmerged
  · rw [find?_of_blocks hblocks] at hadditions
    contradiction
  · exact absurd (.inl ⟨_, hadditions⟩) huntouched

/-- Merging has the empty object on either side as neutral element, and a tree absorbs itself
and every overlay it was merged with.  Wherever both sides have an object, the merged one has
the keys of the base in their order, then the new keys of the overlay in theirs. -/
theorem merge_laws (hbase : (Value.object base).IsTree)
    (hoverride : (Value.object override).IsTree) :
    merge base [] = base ∧ merge [] base = base ∧ merge base base = base ∧
      merge (merge base override) override = merge base override ∧
      ∀ path inner additions, find? (.object base) path = some (.object inner) →
        find? (.object override) path = some (.object additions) →
        ∃ result, find? (.object (merge base override)) path = some (.object result) ∧
          result.map Prod.fst = inner.map Prod.fst ++ newKeys inner additions := by
  refine ⟨rfl, ?_, Value.object.inj (mergeValue_self hbase),
    Value.object.inj (mergeValue_mergeValue hoverride (some (.object base))), ?_⟩
  · obtain ⟨entries, rfl, hnames⟩ := hbase.exists_entries
    exact merge_of_absent hnames fun _ _ => rfl
  · intro path inner additions hinner hadditions
    refine ⟨_, find?_merge_of_objects hoverride hinner hadditions, ?_⟩
    obtain ⟨entries, rfl, hnames⟩ := (isTree_of_find? hoverride hadditions).exists_entries
    exact map_fst_merge hnames inner

/-- A section of a store, and a level that is a text. -/
def siteMembers : Members :=
  [ (.text "store", .record [("url", .text "http://x"), ("timeout", .int 30)]),
    (.text "level", .text "INFO") ]

/-- An overlay that adds to the section and replaces a number in it, and that has an object where
the other has a text. -/
def siteOverlay : Members :=
  [ (.text "level", .record [("root", .text "DEBUG")]),
    (.text "store", .record [("join", .list []), ("timeout", .int 5), ("cache", .bool false)]) ]

theorem merge_laws_site :
    (Value.object siteMembers).IsTree ∧ (Value.object siteOverlay).IsTree ∧
      merge siteMembers siteMembers = siteMembers ∧
      merge (merge siteMembers siteOverlay) siteOverlay = merge siteMembers siteOverlay ∧
      ∃ result, find? (.object (merge siteMembers siteOverlay)) ["store"] = some (.object result) ∧
        result.map Prod.fst = [.text "url", .text "timeout", .text "join", .text "cache"] := by
  have hbase : (Value.object siteMembers).IsTree := by decide +kernel
  have hoverride : (Value.object siteOverlay).IsTree := by decide +kernel
  obtain ⟨-, -, hself, hagain, hkeys⟩ := merge_laws hbase hoverride
  have hinner : find? (.object siteMembers) ["store"] =
      some (.record [("url", .text "http://x"), ("timeout", .int 30)]) := rfl
  have hadditions : find? (.object siteOverlay) ["store"] =
      some (.record [("join", .list []), ("timeout", .int 5), ("cache", .bool false)]) := rfl
  obtain ⟨result, hresult, hnames⟩ := hkeys ["store"] _ _ hinner hadditions
  exact ⟨hbase, hoverride, hself, hagain, result, hresult, hnames⟩

end Tree

end GridSource
