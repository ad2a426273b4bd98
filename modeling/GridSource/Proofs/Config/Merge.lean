import GridSource.Config.Tree
import GridSource.Proofs.Outcome
import GridSource.Proofs.Url.Form
import GridSource.Proofs.Value.Members
import Mathlib.Data.List.Induction
import Mathlib.Data.List.Nodup

/-!
# Merging trees

A tree touches a path when it has a value there, or a value on the way that is no object
and so ends the path early.  Merging an overlay changes what is found at a path exactly
when the overlay touches the path.  So, after any number of overlays, the last tree that
touches a path decides what is found there.
-/

namespace GridSource

/-- A tree of named values: every object in it, at every depth, has text keys, none of them
twice. -/
inductive Value.IsTree : Value → Prop where
  | leaf {value : Value} (hvalue : value.isObject = false) : IsTree value
  | record {entries : List (String × Value)} (hnames : (entries.map Prod.fst).Nodup)
      (hvalues : ∀ entry ∈ entries, IsTree entry.2) : IsTree (.record entries)

/-! ## Deciding whether a value is a tree -/

mutual

def Value.isTree : Value → Bool
  | .object members => areTrees members
  | _ => true

/-- Whether members have distinct texts for keys and trees for values. -/
def Value.areTrees : List (Value × Value) → Bool
  | [] => true
  | (.text name, value) :: rest =>
      (Members.named? rest name).isNone && isTree value && areTrees rest
  | _ :: _ => false

end

theorem Value.isTree_of_isObject_eq_false {value : Value} (hvalue : value.isObject = false) :
    value.isTree = true := by
  cases value with
  | object members => contradiction
  | _ => rfl

theorem Members.named?_isNone_iff {entries : List (String × Value)} {name : String} :
    (Members.named? (entries.map fun (name, value) => (.text name, value)) name).isNone = true ↔
      name ∉ entries.map Prod.fst := by
  rw [Members.named?_map_text, Option.isNone_iff_eq_none, Members.lookup_eq_none_iff]

theorem Value.areTrees_map_iff {entries : List (String × Value)} :
    areTrees (entries.map fun (name, value) => (.text name, value)) = true ↔
      (entries.map Prod.fst).Nodup ∧ ∀ entry ∈ entries, isTree entry.2 = true := by
  induction entries with
  | nil => simp [areTrees]
  | cons entry rest ih =>
      rw [List.map_cons, areTrees, Bool.and_eq_true, Bool.and_eq_true,
        Members.named?_isNone_iff, ih, List.map_cons, List.nodup_cons, List.forall_mem_cons]
      tauto

mutual

theorem Value.isTree_of_isTree : {value : Value} → value.isTree = true → value.IsTree
  | .object members, hmembers => by
      obtain ⟨entries, rfl, hvalues⟩ := exists_entries_of_areTrees hmembers
      exact .record (areTrees_map_iff.mp hmembers).1 hvalues
  | .null, _ | .bool _, _ | .int _, _ | .float _, _ | .text _, _ => .leaf rfl
  | .list _, _ | .tuple _, _ | .foreign _, _ => .leaf rfl

theorem Value.exists_entries_of_areTrees : {members : List (Value × Value)} →
    areTrees members = true → ∃ entries : List (String × Value),
      (members = entries.map fun (name, value) => (.text name, value)) ∧
        ∀ entry ∈ entries, IsTree entry.2
  | [], _ => ⟨[], rfl, by simp⟩
  | (.text name, value) :: rest, hmembers => by
      rw [areTrees, Bool.and_eq_true, Bool.and_eq_true] at hmembers
      obtain ⟨⟨-, hvalue⟩, hrest⟩ := hmembers
      obtain ⟨entries, rfl, hvalues⟩ := exists_entries_of_areTrees hrest
      refine ⟨(name, value) :: entries, rfl, List.forall_mem_cons.mpr ⟨?_, hvalues⟩⟩
      exact isTree_of_isTree hvalue

end

theorem Value.isTree_iff {value : Value} : value.isTree = true ↔ value.IsTree := by
  refine ⟨isTree_of_isTree, fun htree => ?_⟩
  induction htree with
  | leaf hvalue => exact isTree_of_isObject_eq_false hvalue
  | record hnames hvalues ih => exact areTrees_map_iff.mpr ⟨hnames, ih⟩

instance : DecidablePred Value.IsTree := fun _ => decidable_of_iff _ Value.isTree_iff

theorem Value.IsTree.of_field? {tree inner : Value} {name : String} (htree : tree.IsTree)
    (hinner : tree.field? name = some inner) : inner.IsTree := by
  cases htree with
  | leaf hleaf =>
      rw [field?_of_not_object hleaf] at hinner
      contradiction
  | @record entries hnames hvalues =>
      rw [field?_record] at hinner
      exact hvalues (name, inner) (Members.mem_of_lookup hinner)

namespace Tree

/-! ## One overlay -/

@[simp]
theorem mergeValue_none (value : Value) : mergeValue none value = value := by
  cases value <;> rfl

theorem mergeValue_of_not_object {override : Value} (hoverride : override.isObject = false)
    (present : Option Value) : mergeValue present override = override := by
  cases override with
  | object members => contradiction
  | _ => rfl

@[simp]
theorem isObject_mergeValue (present : Option Value) (override : Value) :
    (mergeValue present override).isObject = override.isObject := by
  cases override with
  | object members =>
      cases present with
      | none => rfl
      | some old => cases old <;> rfl
  | _ => rfl

theorem mergeValues_eq {base override : Value} (hbase : base.isObject = true)
    (hoverride : override.isObject = true) :
    mergeValues base override = .ok (mergeValue (some base) override) := by
  cases base with
  | object members =>
      cases override with
      | object additions => rfl
      | _ => contradiction
  | _ => contradiction

theorem named?_merge {entries : List (String × Value)} (hnames : (entries.map Prod.fst).Nodup)
    (base : Members) (name : String) :
    Members.named? (merge base (entries.map fun (name, value) => (.text name, value))) name =
      ((entries.lookup name).map (mergeValue (Members.named? base name))).or
        (Members.named? base name) := by
  induction entries generalizing base with
  | nil => rfl
  | cons entry rest ih =>
      obtain ⟨first, value⟩ := entry
      rw [List.map_cons, List.nodup_cons] at hnames
      rw [List.map_cons, merge, ih hnames.2, Members.named?_insert, List.lookup_cons]
      by_cases hsame : name = first
      · subst hsame
        rw [Members.lookup_eq_none_iff.mpr hnames.1, if_pos rfl, beq_self_eq_true]
        rfl
      · rw [if_neg (Ne.symm hsame), beq_false_of_ne hsame]

/-- A name of a merged object stands for the values of both sides merged, where both have
one. -/
theorem field?_mergeValue {entries : List (String × Value)}
    (hnames : (entries.map Prod.fst).Nodup) (present : Option Value) (name : String) :
    (mergeValue present (.record entries)).field? name =
      ((entries.lookup name).map (mergeValue (present.bind (·.field? name)))).or
        (present.bind (·.field? name)) := by
  have halone : (Value.record entries).field? name =
      ((entries.lookup name).map (mergeValue none)).or none := by
    rw [Value.field?_record]
    cases entries.lookup name <;> simp
  cases present with
  | none => rw [mergeValue_none, halone, Option.bind_none]
  | some old =>
      cases old with
      | object members => exact named?_merge hnames members name
      | _ => exact halone

/-! ## Paths -/

/-- The tree ends a path early: on the way there is a value that is no object. -/
def Blocks (tree : Value) (path : List String) : Prop :=
  ∃ before after value, path = before ++ after ∧ after ≠ [] ∧
    find? tree before = some value ∧ value.isObject = false

/-- The tree has a value at a path or ends it early. -/
def Touches (tree : Value) (path : List String) : Prop :=
  (∃ value, find? tree path = some value) ∨ Blocks tree path

theorem parts_ne_nil (key : String) : parts key ≠ [] := by
  rw [parts, ne_eq, List.map_eq_nil_iff]
  exact Form.splitAt_ne_nil '.' key.toList

@[simp]
theorem lookup?_empty (key : String) : lookup? (.object []) key = none := by
  rw [lookup?]
  cases hparts : parts key with
  | nil => exact absurd hparts (parts_ne_nil key)
  | cons part rest => rfl

theorem find?_cons (tree : Value) (part : String) (rest : List String) :
    find? tree (part :: rest) = (tree.field? part).bind (find? · rest) := by
  rw [find?]
  cases tree.field? part <;> rfl

theorem not_blocks_nil (tree : Value) : ¬ Blocks tree [] := by
  rintro ⟨before, after, value, hpath, hafter, -⟩
  exact hafter (List.append_eq_nil_iff.mp hpath.symm).2

/-- A tree blocks a path at once, or below the first part. -/
theorem blocks_cons_iff {tree : Value} {part : String} {rest : List String} :
    Blocks tree (part :: rest) ↔
      tree.isObject = false ∨ ∃ inner, tree.field? part = some inner ∧ Blocks inner rest := by
  constructor
  · rintro ⟨before, after, value, hpath, hafter, hfound, hvalue⟩
    cases before with
    | nil =>
        obtain rfl := Option.some.inj hfound
        exact .inl hvalue
    | cons first before =>
        obtain ⟨rfl, hrest⟩ := List.cons.inj hpath
        rw [find?_cons] at hfound
        obtain ⟨inner, hinner, hfound⟩ := Option.bind_eq_some_iff.mp hfound
        exact .inr ⟨inner, hinner, before, after, value, hrest, hafter, hfound, hvalue⟩
  · rintro (htree | ⟨inner, hinner, before, after, value, rfl, hafter, hfound, hvalue⟩)
    · exact ⟨[], part :: rest, tree, rfl, by simp, rfl, htree⟩
    · refine ⟨part :: before, after, value, rfl, hafter, ?_, hvalue⟩
      rw [find?_cons, hinner]
      exact hfound

theorem find?_of_blocks {tree : Value} {path : List String} (hblocks : Blocks tree path) :
    find? tree path = none := by
  induction path generalizing tree with
  | nil => exact absurd hblocks (not_blocks_nil tree)
  | cons part rest ih =>
      rw [find?_cons]
      rcases blocks_cons_iff.mp hblocks with hleaf | ⟨inner, hinner, hrest⟩
      · rw [Value.field?_of_not_object hleaf, Option.bind_none]
      · rw [hinner]
        exact ih hrest

/-- Below a part that an object has, the tree touches what the value there touches. -/
theorem touches_cons_iff {tree inner : Value} {part : String} {rest : List String}
    (hinner : tree.field? part = some inner) :
    Touches tree (part :: rest) ↔ Touches inner rest := by
  have hobject : tree.isObject = true := by
    cases tree with
    | object members => rfl
    | _ => contradiction
  simp [Touches, blocks_cons_iff, find?_cons, hinner, hobject]

theorem not_touches_cons {tree : Value} {part : String} (hobject : tree.isObject = true)
    (hpart : tree.field? part = none) (rest : List String) : ¬ Touches tree (part :: rest) := by
  simp [Touches, blocks_cons_iff, find?_cons, hpart, hobject]

/-- What is found at a path after an overlay. -/
inductive Merged (present : Option Value) (override : Value) (path : List String) : Prop where
  /-- The overlay has a value there, which is merged with the one that was there. -/
  | found (value : Value) (hoverride : find? override path = some value)
      (hmerged : find? (mergeValue present override) path =
        some (mergeValue (present.bind (find? · path)) value))
  | blocked (hoverride : Blocks override path)
      (hmerged : find? (mergeValue present override) path = none)
  | kept (hoverride : ¬ Touches override path)
      (hmerged : find? (mergeValue present override) path = present.bind (find? · path))

theorem merged {override : Value} (hoverride : override.IsTree) (present : Option Value)
    (path : List String) : Merged present override path := by
  induction path generalizing present override with
  | nil =>
      refine .found override rfl ?_
      cases present <;> rfl
  | cons part rest ih =>
      cases hoverride with
      | leaf hleaf =>
          have hblocks : Blocks override (part :: rest) := blocks_cons_iff.mpr (.inl hleaf)
          refine .blocked hblocks ?_
          rw [mergeValue_of_not_object hleaf]
          exact find?_of_blocks hblocks
      | @record entries hnames hvalues =>
          have hpresent : present.bind (find? · (part :: rest)) =
              (present.bind (·.field? part)).bind (find? · rest) := by
            cases present with
            | none => rfl
            | some old => exact find?_cons old part rest
          have hfield := Value.field?_record entries part
          have hmerges := find?_cons (mergeValue present (.record entries)) part rest
          rw [field?_mergeValue hnames] at hmerges
          cases hpart : entries.lookup part with
          | none =>
              rw [hpart] at hfield hmerges
              exact .kept (not_touches_cons rfl hfield rest) (hmerges.trans hpresent.symm)
          | some inner =>
              rw [hpart] at hfield hmerges
              have hinner : inner.IsTree := (Value.IsTree.record hnames hvalues).of_field? hfield
              rcases ih hinner (present.bind (·.field? part)) with
                ⟨value, hvalue, hfound⟩ | ⟨hblocks, hnone⟩ | ⟨huntouched, hkept⟩
              · refine .found value ?_ ?_
                · rw [find?_cons, hfield]
                  exact hvalue
                · rw [hmerges, hpresent]
                  exact hfound
              · exact .blocked (blocks_cons_iff.mpr (.inr ⟨inner, hfield, hblocks⟩))
                  (hmerges.trans hnone)
              · refine .kept ((touches_cons_iff hfield).not.mpr huntouched) ?_
                rw [hmerges, hpresent]
                exact hkept

/-! ## Any number of overlays -/

/-- Overlays merged over a tree one after the other. -/
def overlaid (base : Value) (overlays : List Value) : Value :=
  overlays.foldl (fun tree overlay => mergeValue (some tree) overlay) base

/-- The last tree of a list that touches a path. -/
def LastTouching (trees : List Value) (path : List String) (tree : Value) : Prop :=
  ∃ before after, trees = before ++ tree :: after ∧ Touches tree path ∧
    ∀ later ∈ after, ¬ Touches later path

variable {base last : Value} {overlays : List Value} {path : List String}

theorem foldlM_mergeValues {base : Value} (hbase : base.isObject = true) {trees : List Value}
    (htrees : ∀ tree ∈ trees, tree.isObject = true) :
    trees.foldlM mergeValues base = .ok (overlaid base trees) := by
  induction trees generalizing base with
  | nil => rfl
  | cons tree rest ih =>
      obtain ⟨htree, hrest⟩ := List.forall_mem_cons.mp htrees
      rw [List.foldlM_cons, mergeValues_eq hbase htree, Outcome.ok_bind]
      exact ih (by rw [isObject_mergeValue]; exact htree) hrest

theorem overlaid_concat :
    overlaid base (overlays ++ [last]) = mergeValue (some (overlaid base overlays)) last := by
  rw [overlaid, List.foldl_append, overlaid]
  rfl

theorem lastTouching_concat {tree : Value} :
    LastTouching (overlays ++ [last]) path tree ↔
      (Touches last path ∧ tree = last) ∨
        (¬ Touches last path ∧ LastTouching overlays path tree) := by
  constructor
  · rintro ⟨before, after, htrees, htree, hlater⟩
    rcases List.eq_nil_or_concat after with rfl | ⟨others, final, rfl⟩
    · obtain ⟨-, hlast⟩ := List.append_inj' htrees rfl
      obtain rfl : last = tree := List.singleton_inj.mp hlast
      exact .inl ⟨htree, rfl⟩
    · rw [List.concat_eq_append, ← List.cons_append, ← List.append_assoc] at htrees
      obtain ⟨rfl, hlast⟩ := List.append_inj' htrees rfl
      obtain rfl : last = final := List.singleton_inj.mp hlast
      refine .inr ⟨hlater last (by simp), before, others, rfl, htree, ?_⟩
      exact fun later hmem => hlater later (by simp [hmem])
  · rintro (⟨htouches, rfl⟩ | ⟨huntouched, before, after, rfl, htree, hlater⟩)
    · exact ⟨overlays, [], rfl, htouches, by simp⟩
    · refine ⟨before, after ++ [last], by simp, htree, ?_⟩
      intro later hmem
      rcases List.mem_append.mp hmem with hafter | hlast
      · exact hlater later hafter
      · obtain rfl := List.mem_singleton.mp hlast
        exact huntouched

/-- A value that is no object is found exactly when the last tree that touches the path
has it there. -/
theorem find?_overlaid_eq_some_iff (hoverlays : ∀ overlay ∈ overlays, overlay.IsTree)
    (hbase : find? base path = none) {value : Value} (hvalue : value.isObject = false) :
    find? (overlaid base overlays) path = some value ↔
      ∃ tree, LastTouching overlays path tree ∧ find? tree path = some value := by
  induction overlays using List.reverseRecOn with
  | nil =>
      rw [overlaid, List.foldl_nil, hbase]
      simp [LastTouching]
  | append_singleton overlays last ih =>
      have hearlier := ih fun overlay hmem => hoverlays overlay (by simp [hmem])
      have hlast := merged (hoverlays last (by simp)) (some (overlaid base overlays)) path
      rw [overlaid_concat]
      simp only [lastTouching_concat]
      rcases hlast with ⟨found, hfound, hmerged⟩ | ⟨hblocks, hmerged⟩ | ⟨huntouched, hmerged⟩
      · have htouches : Touches last path := .inl ⟨found, hfound⟩
        rw [hmerged]
        constructor
        · intro hsame
          obtain rfl := Option.some.inj hsame
          rw [isObject_mergeValue] at hvalue
          rw [mergeValue_of_not_object hvalue]
          exact ⟨last, .inl ⟨htouches, rfl⟩, hfound⟩
        · rintro ⟨tree, ⟨-, rfl⟩ | ⟨huntouched, -⟩, htree⟩
          · obtain rfl := Option.some.inj (hfound.symm.trans htree)
            rw [mergeValue_of_not_object hvalue]
          · exact absurd htouches huntouched
      · have htouches : Touches last path := .inr hblocks
        simp [hmerged, htouches, find?_of_blocks hblocks]
      · simpa [hmerged, huntouched] using hearlier

/-- Nothing is found exactly when no tree touches the path, or the last one that does ends
it early. -/
theorem find?_overlaid_eq_none_iff (hoverlays : ∀ overlay ∈ overlays, overlay.IsTree)
    (hbase : find? base path = none) :
    find? (overlaid base overlays) path = none ↔
      (∀ tree ∈ overlays, ¬ Touches tree path) ∨
        ∃ tree, LastTouching overlays path tree ∧ Blocks tree path := by
  induction overlays using List.reverseRecOn with
  | nil =>
      rw [overlaid, List.foldl_nil, hbase]
      simp
  | append_singleton overlays last ih =>
      have hearlier := ih fun overlay hmem => hoverlays overlay (by simp [hmem])
      have hlast := merged (hoverlays last (by simp)) (some (overlaid base overlays)) path
      rw [overlaid_concat]
      simp only [lastTouching_concat]
      rcases hlast with ⟨found, hfound, hmerged⟩ | ⟨hblocks, hmerged⟩ | ⟨huntouched, hmerged⟩
      · have htouches : Touches last path := .inl ⟨found, hfound⟩
        have hthrough : ¬ Blocks last path := fun hblocks => by
          simp [find?_of_blocks hblocks] at hfound
        simp [hmerged, htouches, hthrough, or_imp, forall_and]
      · have htouches : Touches last path := .inr hblocks
        simp [hmerged, htouches, hblocks]
      · simpa [hmerged, huntouched, or_imp, forall_and] using hearlier

end Tree

end GridSource
