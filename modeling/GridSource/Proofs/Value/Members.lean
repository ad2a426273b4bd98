import GridSource.Value.Members
import Mathlib.Tactic.Basic

/-!
# Members with text keys

A text key is the same key as itself only.  Inserting under one name therefore leaves what
stands under every other name.
-/

namespace GridSource

@[simp]
theorem Value.sameKey_text_iff {key : Value} {name : String} :
    key.sameKey (.text name) = true ↔ key = .text name := by
  cases key <;> simp [sameKey, integerKey?]

@[simp]
theorem Value.text_sameKey_iff {key : Value} {name : String} :
    (Value.text name).sameKey key = true ↔ key = .text name := by
  cases key with
  | text other =>
      rw [sameKey, beq_iff_eq, Value.text.injEq]
      exact eq_comm
  | _ => simp [sameKey, integerKey?]

@[simp]
theorem Value.sameKey_text_eq_false_iff {key : Value} {name : String} :
    key.sameKey (.text name) = false ↔ key ≠ .text name := by
  rw [← Bool.not_eq_true, sameKey_text_iff]

@[simp]
theorem Value.text_sameKey_eq_false_iff {key : Value} {name : String} :
    (Value.text name).sameKey key = false ↔ key ≠ .text name := by
  rw [← Bool.not_eq_true, text_sameKey_iff]

namespace Members

@[simp]
theorem named?_nil (name : String) : named? [] name = none := rfl

@[simp]
theorem named?_cons_text (name : String) (value : Value) (rest : Members) :
    named? ((.text name, value) :: rest) name = some value := by
  simp [named?, get?]

theorem named?_cons_of_ne {key : Value} {name : String} (hkey : key ≠ .text name) (value : Value)
    (rest : Members) : named? ((key, value) :: rest) name = named? rest name := by
  have hother : key.sameKey (.text name) = false := Value.sameKey_text_eq_false_iff.mpr hkey
  simp [named?, get?, hother]

@[simp]
theorem insert_nil (key value : Value) : insert [] key value = [(key, value)] := rfl

@[simp]
theorem insert_cons_text (name : String) (old value : Value) (rest : Members) :
    insert ((.text name, old) :: rest) (.text name) value = (.text name, value) :: rest := by
  simp [insert]

theorem insert_cons_of_ne {present : Value} {name : String} (hpresent : present ≠ .text name)
    (old value : Value) (rest : Members) :
    insert ((present, old) :: rest) (.text name) value =
      (present, old) :: insert rest (.text name) value := by
  simp [insert, hpresent]

/-- Inserting under another key leaves a name as it was. -/
theorem named?_insert_of_ne {key : Value} {name : String} (hkey : key ≠ .text name)
    (members : Members) (value : Value) :
    named? (members.insert key value) name = named? members name := by
  induction members with
  | nil => simp [named?_cons_of_ne hkey]
  | cons member rest ih =>
      obtain ⟨present, old⟩ := member
      by_cases hpresent : present = .text name
      · subst hpresent
        simp [insert, hkey]
      · rw [insert]
        split <;> simp [named?_cons_of_ne hpresent, ih]

/-- Inserting under one name leaves every other name as it was. -/
theorem named?_insert (members : Members) (key name : String) (value : Value) :
    named? (members.insert (.text key) value) name =
      if key = name then some value else named? members name := by
  by_cases hsame : key = name
  · subst hsame
    rw [if_pos rfl]
    induction members with
    | nil => simp
    | cons member rest ih =>
        obtain ⟨present, old⟩ := member
        by_cases hpresent : present = .text key
        · simp [hpresent]
        · rw [insert_cons_of_ne hpresent, named?_cons_of_ne hpresent, ih]
  · have hkey : Value.text key ≠ .text name := by simpa using hsame
    rw [if_neg hsame, named?_insert_of_ne hkey]

@[simp]
theorem contains_text_iff {members : Members} {name : String} :
    members.contains (.text name) = true ↔ .text name ∈ members.map Prod.fst := by
  rw [contains, List.any_eq_true, List.mem_map]
  simp only [Value.sameKey_text_iff]

@[simp]
theorem named?_eq_none_iff {members : Members} {name : String} :
    named? members name = none ↔ .text name ∉ members.map Prod.fst := by
  rw [named?, get?, Option.map_eq_none_iff, List.find?_eq_none, List.mem_map]
  simp only [Value.sameKey_text_iff, not_exists, not_and]

/-- Inserting keeps the keys and their order, and puts a new key at the end. -/
theorem map_fst_insert (members : Members) (key value : Value) :
    (members.insert key value).map Prod.fst =
      if members.contains key then members.map Prod.fst
      else members.map Prod.fst ++ [key] := by
  induction members with
  | nil => rfl
  | cons member rest ih =>
      obtain ⟨present, old⟩ := member
      rw [insert, contains, List.any_cons, ← contains]
      cases hpresent : present.sameKey key with
      | true => rfl
      | false =>
          rw [if_neg Bool.false_ne_true, List.map_cons, ih, Bool.false_or]
          split <;> rfl

theorem insert_of_not_sameKey {members : Members} {key : Value} (value : Value)
    (hkey : ∀ member ∈ members, member.1.sameKey key = false) :
    members.insert key value = members ++ [(key, value)] := by
  induction members with
  | nil => rfl
  | cons member rest ih =>
      have hmember := hkey member List.mem_cons_self
      have hrest := ih fun other hother => hkey other (List.mem_cons_of_mem _ hother)
      rw [insert, if_neg (by simp [hmember]), hrest, List.cons_append]

theorem insert_of_named?_eq_none {members : Members} {name : String}
    (hname : named? members name = none) (value : Value) :
    members.insert (.text name) value = members ++ [(.text name, value)] := by
  refine insert_of_not_sameKey value fun member hmember => ?_
  rw [Value.sameKey_text_eq_false_iff]
  exact fun hkey => named?_eq_none_iff.mp hname (hkey ▸ List.mem_map_of_mem hmember)

/-- Inserting the value that a name already has changes nothing. -/
theorem insert_of_named? {members : Members} {name : String} {value : Value}
    (hvalue : named? members name = some value) : members.insert (.text name) value = members := by
  induction members with
  | nil => contradiction
  | cons member rest ih =>
      obtain ⟨present, old⟩ := member
      by_cases hpresent : present = .text name
      · subst hpresent
        simpa [eq_comm] using hvalue
      · rw [named?_cons_of_ne hpresent] at hvalue
        rw [insert_cons_of_ne hpresent, ih hvalue]

theorem mem_insert {members : Members} {key value : Value} {member : Value × Value}
    (hmember : member ∈ members.insert key value) : member ∈ members ∨ member.2 = value := by
  induction members with
  | nil =>
      rw [insert, List.mem_singleton] at hmember
      exact .inr (congrArg Prod.snd hmember)
  | cons first others ih =>
      obtain ⟨present, old⟩ := first
      rw [insert] at hmember
      split at hmember
      · rcases List.mem_cons.mp hmember with hfirst | hother
        · exact .inr (congrArg Prod.snd hfirst)
        · exact .inl (List.mem_cons_of_mem _ hother)
      · rcases List.mem_cons.mp hmember with hfirst | hother
        · exact .inl (hfirst ▸ List.mem_cons_self)
        · exact (ih hother).imp_left (List.mem_cons_of_mem _)

/-- A condition on keys stays true of all keys when one more key meets it. -/
theorem forall_keys_insert (meets : Value → Prop) {members : Members} {key : Value}
    (hmembers : ∀ member ∈ members, meets member.1) (hkey : meets key) (value : Value) :
    ∀ member ∈ members.insert key value, meets member.1 := by
  induction members with
  | nil => simpa [insert] using hkey
  | cons first others ih =>
      obtain ⟨present, old⟩ := first
      obtain ⟨hfirst, hothers⟩ := List.forall_mem_cons.mp hmembers
      rw [insert]
      split
      · exact List.forall_mem_cons.mpr ⟨hfirst, hothers⟩
      · exact List.forall_mem_cons.mpr ⟨hfirst, ih hothers⟩

/-- Inserting keeps keys distinct. -/
theorem pairwise_insert {members : Members}
    (hdistinct : (members.map Prod.fst).Pairwise fun key other => key.sameKey other = false)
    (key value : Value) :
    ((members.insert key value).map Prod.fst).Pairwise fun key other =>
      key.sameKey other = false := by
  induction members with
  | nil => exact List.pairwise_singleton _ _
  | cons member rest ih =>
      obtain ⟨present, old⟩ := member
      rw [insert]
      rw [List.map_cons, List.pairwise_cons] at hdistinct
      split
      · rwa [List.map_cons, List.pairwise_cons]
      · next hother =>
          rw [List.map_cons, List.pairwise_cons]
          refine ⟨?_, ih hdistinct.2⟩
          rw [List.forall_mem_map]
          apply forall_keys_insert fun inserted => present.sameKey inserted = false
          · exact List.forall_mem_map.mp hdistinct.1
          · exact Bool.eq_false_iff.mpr hother

/-- Where keys are distinct, a member is what its name leads to. -/
theorem named?_of_mem {members : Members}
    (hdistinct : (members.map Prod.fst).Pairwise fun key other => key.sameKey other = false)
    {name : String} {value : Value} (hmember : (.text name, value) ∈ members) :
    named? members name = some value := by
  induction members with
  | nil => contradiction
  | cons member rest ih =>
      obtain ⟨key, first⟩ := member
      rw [List.map_cons, List.pairwise_cons] at hdistinct
      rcases List.mem_cons.mp hmember with hhead | htail
      · obtain ⟨rfl, rfl⟩ := Prod.mk.inj hhead
        exact named?_cons_text name value rest
      · have hdifferent := hdistinct.1 _ (List.mem_map_of_mem htail)
        rw [named?_cons_of_ne (Value.sameKey_text_eq_false_iff.mp hdifferent)]
        exact ih hdistinct.2 htail

theorem pairwise_map_text {entries : List (String × Value)}
    (hnames : (entries.map Prod.fst).Nodup) :
    ((entries.map fun (name, value) => (Value.text name, value)).map Prod.fst).Pairwise
      fun key other => key.sameKey other = false := by
  rw [List.map_map, List.pairwise_map]
  exact (List.pairwise_map.mp hnames).imp fun hne => by simpa using hne

/-- Where keys are distinct, inserting under a name takes the place of the member of that name. -/
theorem mem_insert_text_iff {members : Members}
    (hdistinct : (members.map Prod.fst).Pairwise fun key other => key.sameKey other = false)
    {name : String} {value : Value} {member : Value × Value} :
    member ∈ members.insert (.text name) value ↔
      member = (.text name, value) ∨ (member ∈ members ∧ member.1 ≠ .text name) := by
  induction members with
  | nil => simp [insert]
  | cons first rest ih =>
      obtain ⟨present, old⟩ := first
      rw [List.map_cons, List.pairwise_cons, List.forall_mem_map] at hdistinct
      obtain ⟨hfirst, hrest⟩ := hdistinct
      by_cases hpresent : present = .text name
      · subst hpresent
        have hothers : ∀ other ∈ rest, other.1 ≠ .text name := fun other hother =>
          Value.text_sameKey_eq_false_iff.mp (hfirst other hother)
        rw [insert_cons_text, List.mem_cons, List.mem_cons]
        refine or_congr_right ⟨fun hmember => ⟨.inr hmember, hothers member hmember⟩, ?_⟩
        rintro ⟨rfl | hmember, hkey⟩
        · contradiction
        · exact hmember
      · rw [insert_cons_of_ne hpresent, List.mem_cons, List.mem_cons, ih hrest]
        constructor
        · rintro (rfl | hinserted | ⟨hmember, hkey⟩)
          · exact .inr ⟨.inl rfl, hpresent⟩
          · exact .inl hinserted
          · exact .inr ⟨.inr hmember, hkey⟩
        · rintro (hinserted | ⟨hfirst | hmember, hkey⟩)
          · exact .inr (.inl hinserted)
          · exact .inl hfirst
          · exact .inr (.inr ⟨hmember, hkey⟩)

theorem pairwise_insertAll {members : Members}
    (hdistinct : (members.map Prod.fst).Pairwise fun key other => key.sameKey other = false)
    (additions : Members) :
    ((members.insertAll additions).map Prod.fst).Pairwise fun key other =>
      key.sameKey other = false := by
  induction additions generalizing members with
  | nil => exact hdistinct
  | cons addition rest ih =>
      rw [insertAll, List.foldl_cons, ← insertAll]
      exact ih (pairwise_insert hdistinct addition.1 addition.2)

/-- Inserting many members under distinct names takes the places of the members of these names. -/
theorem mem_insertAll_iff {members : Members}
    (hdistinct : (members.map Prod.fst).Pairwise fun key other => key.sameKey other = false)
    {entries : List (String × Value)} (hnames : (entries.map Prod.fst).Nodup)
    {member : Value × Value} :
    member ∈ members.insertAll (entries.map fun (name, value) => (.text name, value)) ↔
      member ∈ (entries.map fun (name, value) => (.text name, value)) ∨
        (member ∈ members ∧ ∀ name ∈ entries.map Prod.fst, member.1 ≠ .text name) := by
  induction entries generalizing members with
  | nil => simp [insertAll]
  | cons entry rest ih =>
      obtain ⟨name, value⟩ := entry
      rw [List.map_cons, List.nodup_cons] at hnames
      rw [List.map_cons, insertAll, List.foldl_cons, ← insertAll,
        ih (pairwise_insert hdistinct _ _) hnames.2, mem_insert_text_iff hdistinct, List.mem_cons,
        List.map_cons, List.forall_mem_cons]
      have hname : ∀ other ∈ rest.map Prod.fst, Value.text name ≠ .text other := by
        intro other hother hsame
        exact hnames.1 (Value.text.inj hsame ▸ hother)
      constructor
      · rintro (hlater | ⟨rfl | ⟨hmember, hfirst⟩, hothers⟩)
        · exact .inl (.inr hlater)
        · exact .inl (.inl rfl)
        · exact .inr ⟨hmember, hfirst, hothers⟩
      · rintro ((rfl | hlater) | ⟨hmember, hfirst, hothers⟩)
        · exact .inr ⟨.inl rfl, hname⟩
        · exact .inl hlater
        · exact .inr ⟨.inr ⟨hmember, hfirst⟩, hothers⟩

/-- Members whose keys are all distinct are put one behind the other. -/
theorem insertAll_of_pairwise {members additions : Members}
    (hdistinct : ((members ++ additions).map Prod.fst).Pairwise fun key other =>
      key.sameKey other = false) :
    members.insertAll additions = members ++ additions := by
  induction additions generalizing members with
  | nil => exact (List.append_nil members).symm
  | cons addition rest ih =>
      have hnew : ∀ member ∈ members, member.1.sameKey addition.1 = false := by
        intro member hmember
        rw [List.map_append, List.pairwise_append] at hdistinct
        exact hdistinct.2.2 member.1 (List.mem_map_of_mem hmember) addition.1
          (List.mem_map_of_mem List.mem_cons_self)
      rw [insertAll, List.foldl_cons, ← insertAll, insert_of_not_sameKey _ hnew]
      rw [List.append_cons] at hdistinct
      rw [List.append_cons members addition rest]
      exact ih hdistinct

/-- Among distinct keys, a name has the value of the last member under it. -/
theorem named?_of_pairwise {members : Members}
    (hdistinct : (members.map Prod.fst).Pairwise fun key other => key.sameKey other = false)
    (name : String) :
    named? members name =
      (members.filter (·.1.sameKey (.text name))).getLast?.map Prod.snd := by
  induction members with
  | nil => rfl
  | cons member rest ih =>
      obtain ⟨key, value⟩ := member
      rw [List.map_cons, List.pairwise_cons, List.forall_mem_map] at hdistinct
      by_cases hkey : key = .text name
      · subst hkey
        have hrest : rest.filter (·.1.sameKey (.text name)) = [] := by
          rw [List.filter_eq_nil_iff]
          intro other hother hsame
          have hdifferent := Value.text_sameKey_eq_false_iff.mp (hdistinct.1 other hother)
          exact hdifferent (Value.sameKey_text_iff.mp hsame)
        simp [hrest]
      · rw [named?_cons_of_ne hkey, ih hdistinct.2]
        simp [hkey]

/-- After inserting many members, a name has the value of the last one under it. -/
theorem named?_insertAll (members additions : Members) (name : String) :
    named? (members.insertAll additions) name =
      ((additions.filter (·.1.sameKey (.text name))).getLast?.map Prod.snd).or
        (named? members name) := by
  induction additions generalizing members with
  | nil => rfl
  | cons addition rest ih =>
      obtain ⟨key, value⟩ := addition
      rw [insertAll, List.foldl_cons, ← insertAll, ih]
      by_cases hkey : key = .text name
      · subst hkey
        simp only [named?_insert, if_pos, Value.sameKey_text_iff, List.filter_cons_of_pos,
          List.getLast?_cons]
        cases (rest.filter (·.1.sameKey (.text name))).getLast? <;> rfl
      · simp [named?_insert_of_ne hkey, hkey]

end Members

@[simp]
theorem Value.field?_record (entries : List (String × Value)) (name : String) :
    (Value.record entries).field? name = entries.lookup name := by
  rw [record, field?]
  induction entries with
  | nil => rfl
  | cons entry rest ih =>
      obtain ⟨first, value⟩ := entry
      by_cases hsame : name = first
      · simp [hsame]
      · have hother : Value.text first ≠ .text name := by simpa using Ne.symm hsame
        rw [List.map_cons, Members.named?_cons_of_ne hother, ih, List.lookup_cons,
          beq_false_of_ne hsame]

@[simp]
theorem Members.named?_map_text (entries : List (String × Value)) (name : String) :
    named? (entries.map fun (name, value) => (.text name, value)) name = entries.lookup name :=
  Value.field?_record entries name

theorem Members.lookup_eq_none_iff {entries : List (String × Value)} {name : String} :
    entries.lookup name = none ↔ name ∉ entries.map Prod.fst := by
  rw [List.lookup_eq_none_iff, List.mem_map]
  constructor
  · rintro hnone ⟨entry, hentry, rfl⟩
    simpa using hnone entry hentry
  · intro hnone entry hentry
    have hne : name ≠ entry.1 := fun heq => hnone ⟨entry, hentry, heq.symm⟩
    simpa using hne

theorem Members.mem_of_lookup {entries : List (String × Value)} {name : String} {value : Value}
    (hvalue : entries.lookup name = some value) : (name, value) ∈ entries := by
  obtain ⟨before, after, rfl, -⟩ := List.lookup_eq_some_iff.mp hvalue
  exact List.mem_append_right _ List.mem_cons_self

/-- Where names are distinct, an entry is what its name leads to. -/
theorem Members.lookup_of_mem {entries : List (String × Value)}
    (hnames : (entries.map Prod.fst).Nodup) {entry : String × Value} (hentry : entry ∈ entries) :
    entries.lookup entry.1 = some entry.2 := by
  rw [← Value.field?_record]
  exact named?_of_mem (pairwise_map_text hnames) (List.mem_map_of_mem hentry)

theorem Value.field?_of_not_object {value : Value} (hvalue : value.isObject = false)
    (name : String) : value.field? name = none := by
  cases value with
  | object members => contradiction
  | _ => rfl

end GridSource
