import GridSource.Proofs.Json.Scalars
import GridSource.Proofs.Outcome
import GridSource.Proofs.Value.Members
import Mathlib.Data.List.Forall2

/-!
# Reading back written values

A plain value is one that JSON holds whole: null, booleans, integers, texts,
sequences of plain values and objects of distinct text keys and plain values.
What is written for a plain value reads back as that value, except that tuples
come back as lists.

The reader has a fuel that the length of its input bounds, and it looks one
character past a number.  `ReadsAs` says of a text what these two need of it, so
that the lemmas for sequences and objects only put texts together.
-/

namespace GridSource

/-- Members with text keys. -/
def textMembers (entries : List (String × Value)) : Members :=
  entries.map fun (name, value) => (.text name, value)

namespace Value

inductive IsPlain : Value → Prop where
  | null : IsPlain .null
  | bool (flag : Bool) : IsPlain (.bool flag)
  | int (number : Int) : IsPlain (.int number)
  | text (content : String) : IsPlain (.text content)
  | list {items : List Value} (hitems : ∀ item ∈ items, IsPlain item) : IsPlain (.list items)
  | tuple {items : List Value} (hitems : ∀ item ∈ items, IsPlain item) : IsPlain (.tuple items)
  | object {entries : List (String × Value)} (hnames : (entries.map Prod.fst).Nodup)
      (hvalues : ∀ entry ∈ entries, IsPlain entry.2) : IsPlain (.object (textMembers entries))

mutual

/-- The value with a list for every tuple inside it. -/
def asArrays : Value → Value
  | .list items | .tuple items => .list (allAsArrays items)
  | .object members => .object (membersAsArrays members)
  | value => value

def allAsArrays : List Value → List Value
  | [] => []
  | item :: rest => asArrays item :: allAsArrays rest

def membersAsArrays : List (Value × Value) → List (Value × Value)
  | [] => []
  | (key, value) :: rest => (key, asArrays value) :: membersAsArrays rest

end

@[simp]
theorem membersAsArrays_textMembers (entries : List (String × Value)) :
    membersAsArrays (textMembers entries) =
      textMembers (entries.map fun entry => (entry.1, entry.2.asArrays)) := by
  induction entries with
  | nil => rfl
  | cons entry rest ih =>
      rw [textMembers, List.map_cons, membersAsArrays, ← textMembers, ih]
      rfl

end Value

namespace Json

/-- The text begins as a value does, and it reads back as the value wherever an
item may end after it. -/
structure ReadsAs (text : List Char) (value : Value) : Prop where
  starts : ∃ first others, text = first :: others ∧
    first.toNat < 0x80 ∧ isGap first = false ∧ first ≠ ']'
  reads : ∀ {alphabet : Alphabet} fuel rest, 2 * text.length ≤ fuel → Ending rest →
    readValue alphabet fuel (text ++ rest) = .ok (value, rest)

variable {alphabet : Alphabet}

theorem skipGap_of_not_gap {first : Char} (hfirst : isGap first = false) (others : List Char) :
    skipGap (first :: others) = first :: others := by
  rw [skipGap, List.dropWhile_cons_of_neg (by simp [hfirst])]

theorem ReadsAs.skipGap {text : List Char} {value : Value} (htext : ReadsAs text value)
    (rest : List Char) : skipGap (text ++ rest) = text ++ rest := by
  obtain ⟨first, others, rfl, -, hgap, -⟩ := htext.starts
  exact skipGap_of_not_gap hgap (others ++ rest)

/-- A value begins with a character of its own kind, so one step of fuel is there. -/
theorem readsAs_of_succ {first : Char} {others : List Char} {value : Value}
    (hfirst : first.toNat < 0x80 ∧ isGap first = false ∧ first ≠ ']')
    (hreads : ∀ {alphabet : Alphabet} fuel rest, 2 * others.length ≤ fuel → Ending rest →
      readValue alphabet (fuel + 1) (first :: (others ++ rest)) = .ok (value, rest)) :
    ReadsAs (first :: others) value := by
  refine ⟨⟨first, others, rfl, hfirst⟩, ?_⟩
  intro alphabet fuel rest hfuel hrest
  rw [List.length_cons] at hfuel
  obtain ⟨less, rfl⟩ : ∃ less, fuel = less + 1 := ⟨fuel - 1, by omega⟩
  exact hreads less rest (by omega) hrest

theorem readsAs_null : ReadsAs "null".toList .null :=
  readsAs_of_succ (by decide) fun _ _ _ _ => rfl

theorem readsAs_bool (flag : Bool) :
    ReadsAs (if flag then "true" else "false").toList (.bool flag) := by
  cases flag
  · exact readsAs_of_succ (by decide) fun _ _ _ _ => rfl
  · exact readsAs_of_succ (by decide) fun _ _ _ _ => rfl

theorem readsAs_text (content : String) :
    ReadsAs (writeText false content).toList (.text content) := by
  rw [writeText, String.toList_ofList, List.cons_append]
  refine readsAs_of_succ (by decide) fun fuel rest _ _ => ?_
  rw [List.append_assoc, List.singleton_append, readValue, readText_escapes]
  rfl

theorem literal?_of_isDigit {first : Char} (hfirst : first.isDigit = true)
    (others : List Char) : literal? (first :: others) = none := by
  unfold literal?
  split <;> simp_all

theorem literal?_of_minus {first : Char} (hfirst : first.isDigit = true)
    (others : List Char) : literal? ('-' :: first :: others) = none := by
  unfold literal?
  split <;> simp_all

theorem readValue_of_number {first : Char} {others : List Char} (fuel : Nat)
    (hfirst : first = '-' ∨ first.isDigit = true)
    (hliteral : literal? (first :: others) = none) :
    readValue alphabet (fuel + 1) (first :: others) = readNumber (first :: others) := by
  have hne : first ≠ '"' ∧ first ≠ '[' ∧ first ≠ '\x7b' := by
    rcases hfirst with rfl | hdigit
    · decide
    · exact ⟨ne_of_isDigit hdigit rfl, ne_of_isDigit hdigit rfl, ne_of_isDigit hdigit rfl⟩
  rw [readValue]
  · simp only [hliteral]
  · simpa using hne.1
  · simpa using hne.2.1
  · simpa using hne.2.2

theorem starts_of_isDigit {digit : Char} (hdigit : digit.isDigit = true) :
    digit.toNat < 0x80 ∧ isGap digit = false ∧ digit ≠ ']' := by
  have hrange := Char.isDigit_iff_toNat.mp hdigit
  have hlast : '9'.toNat = 57 := rfl
  have hspace : digit ≠ ' ' := ne_of_isDigit hdigit rfl
  have htab : digit ≠ '\t' := ne_of_isDigit hdigit rfl
  have hline : digit ≠ '\n' := ne_of_isDigit hdigit rfl
  have hreturn : digit ≠ '\r' := ne_of_isDigit hdigit rfl
  exact ⟨by omega, by simp [isGap, hspace, htab, hline, hreturn], ne_of_isDigit hdigit rfl⟩

theorem readsAs_int {number : Int}
    (hlength : (Nat.toDigits 10 number.natAbs).length ≤ mostIntegerDigits) :
    ReadsAs (toString number).toList (.int number) := by
  obtain ⟨digit, digits, hdigits, hdigit, -⟩ := toDigits_eq_cons number.natAbs
  have hnumber := fun (rest : List Char) (hrest : Ending rest) =>
    readNumber_toString hrest hlength
  rw [toList_toString_int, hdigits] at hnumber ⊢
  by_cases hnegative : number < 0
  · rw [if_pos hnegative] at hnumber ⊢
    refine readsAs_of_succ (by decide) fun fuel rest _ hrest => ?_
    have hliteral := literal?_of_minus hdigit (digits ++ rest)
    exact (readValue_of_number fuel (.inl rfl) hliteral).trans (hnumber rest hrest)
  · rw [if_neg hnegative] at hnumber ⊢
    refine readsAs_of_succ (starts_of_isDigit hdigit) fun fuel rest _ hrest => ?_
    have hliteral := literal?_of_isDigit hdigit (digits ++ rest)
    exact (readValue_of_number fuel (.inr hdigit) hliteral).trans (hnumber rest hrest)

/-! ## Sequences -/

theorem intercalate_starts {texts : List (List Char)} {values : List Value}
    (htexts : List.Forall₂ ReadsAs texts values) (hsome : texts ≠ []) (rest : List Char) :
    ∃ first others, [','].intercalate texts ++ rest = first :: others ∧
      isGap first = false ∧ first ≠ ']' := by
  cases htexts with
  | nil => exact absurd rfl hsome
  | cons htext _ =>
      obtain ⟨first, others, rfl, -, hgap, hbracket⟩ := htext.starts
      rw [List.intercalate_cons_cons_left]
      exact ⟨first, _, rfl, hgap, hbracket⟩

theorem skipGap_intercalate {texts : List (List Char)} {values : List Value}
    (htexts : List.Forall₂ ReadsAs texts values) (hsome : texts ≠ []) (rest : List Char) :
    skipGap ([','].intercalate texts ++ rest) = [','].intercalate texts ++ rest := by
  obtain ⟨first, others, htext, hgap, -⟩ := intercalate_starts htexts hsome rest
  rw [htext, skipGap_of_not_gap hgap]

theorem readValue_list {first : Char} (hgap : isGap first = false) (hbracket : first ≠ ']')
    (fuel : Nat) (others : List Char) :
    readValue alphabet (fuel + 1) ('[' :: first :: others) =
      readItems alphabet fuel [] (first :: others) := by
  rw [readValue, skipGap_of_not_gap hgap]
  split
  · next heq => exact absurd (List.cons.inj heq).1 hbracket
  · rfl

theorem readItems_last {text : List Char} {value : Value} (htext : ReadsAs text value)
    {fuel : Nat} (hfuel : 2 * text.length ≤ fuel) (done : List Value) (rest : List Char) :
    readItems alphabet (fuel + 1) done (text ++ ']' :: rest) =
      .ok (.list (value :: done).reverse, rest) := by
  rw [readItems, htext.reads fuel _ hfuel (.bracket rest)]
  rfl

theorem readItems_next {text : List Char} {value : Value} (htext : ReadsAs text value)
    {fuel : Nat} (hfuel : 2 * text.length ≤ fuel) (done : List Value) (rest : List Char) :
    readItems alphabet (fuel + 1) done (text ++ ',' :: rest) =
      readItems alphabet fuel (value :: done) (skipGap rest) := by
  rw [readItems, htext.reads fuel _ hfuel (.comma rest)]
  rfl

theorem readItems_of_readsAs {texts : List (List Char)} {values : List Value}
    (htexts : List.Forall₂ ReadsAs texts values) (hsome : texts ≠ []) (fuel : Nat)
    (done : List Value) (rest : List Char)
    (hfuel : 2 * ([','].intercalate texts).length + 1 ≤ fuel) :
    readItems alphabet fuel done ([','].intercalate texts ++ ']' :: rest) =
      .ok (.list (done.reverse ++ values), rest) := by
  induction htexts generalizing fuel done with
  | nil => exact absurd rfl hsome
  | @cons text value texts values htext htexts ih =>
      obtain ⟨less, rfl⟩ : ∃ less, fuel = less + 1 := ⟨fuel - 1, by omega⟩
      by_cases hothers : texts = []
      · subst hothers
        cases htexts
        rw [List.intercalate_singleton] at hfuel ⊢
        rw [readItems_last htext (by omega), List.reverse_cons]
      · rw [List.intercalate_cons_of_ne_nil hothers] at hfuel ⊢
        simp only [List.length_append, List.length_singleton] at hfuel
        have hnext := ih hothers less (value :: done) (by omega)
        calc
          readItems alphabet (less + 1) done
              (text ++ [','] ++ [','].intercalate texts ++ ']' :: rest) =
              readItems alphabet (less + 1) done
                (text ++ ',' :: ([','].intercalate texts ++ ']' :: rest)) := by
            simp only [List.append_assoc, List.cons_append, List.nil_append]
          _ = readItems alphabet less (value :: done)
                (skipGap ([','].intercalate texts ++ ']' :: rest)) :=
            readItems_next htext (by omega) done _
          _ = readItems alphabet less (value :: done) ([','].intercalate texts ++ ']' :: rest) := by
            rw [skipGap_intercalate htexts hothers]
          _ = .ok (.list ((value :: done).reverse ++ values), rest) := hnext
          _ = .ok (.list (done.reverse ++ value :: values), rest) := by simp

theorem readsAs_list {texts : List (List Char)} {values : List Value}
    (htexts : List.Forall₂ ReadsAs texts values) :
    ReadsAs ('[' :: ([','].intercalate texts ++ [']'])) (.list values) := by
  refine readsAs_of_succ (by decide) fun {alphabet} fuel rest hfuel _ => ?_
  rw [List.append_assoc, List.singleton_append]
  by_cases hsome : texts = []
  · subst hsome
    cases htexts
    rfl
  · simp only [List.length_append, List.length_singleton] at hfuel
    have hitems := @readItems_of_readsAs alphabet _ _ htexts hsome fuel [] rest (by omega)
    obtain ⟨first, others, htext, hgap, hbracket⟩ :=
      intercalate_starts htexts hsome (']' :: rest)
    rw [htext] at hitems ⊢
    rw [readValue_list hgap hbracket, hitems]
    rfl

/-! ## Objects -/

/-- The text is a written name, a colon and what reads as the value. -/
def ReadsAsMember (text : List Char) (entry : String × Value) : Prop :=
  ∃ content, text = (writeText false entry.1).toList ++ ':' :: content ∧
    ReadsAs content entry.2

theorem readMembers_eq {content : List Char} {value : Value} (hcontent : ReadsAs content value)
    {fuel : Nat} (hfuel : 2 * content.length ≤ fuel) (name : String) (done : Members)
    {rest : List Char} (hrest : Ending rest) :
    readMembers alphabet (fuel + 1) done
        ((writeText false name).toList ++ ':' :: content ++ rest) =
      match skipGap rest with
      | '\x7d' :: after => .ok (.object (Members.insert done (.text name) value), after)
      | ',' :: after =>
          readMembers alphabet fuel (Members.insert done (.text name) value) (skipGap after)
      | after => .error (.expectingComma, after) := by
  rw [writeText, String.toList_ofList]
  simp only [List.cons_append, List.append_assoc, List.nil_append]
  rw [readMembers, readText_escapes, Outcome.ok_bind]
  change readValue alphabet fuel (skipGap (content ++ rest)) >>= _ = _
  rw [hcontent.skipGap, hcontent.reads fuel rest hfuel hrest, Outcome.ok_bind]
  rfl

theorem insert_textMembers {done : List (String × Value)} {name : String} (value : Value)
    (hname : name ∉ done.map Prod.fst) :
    Members.insert (textMembers done) (.text name) value =
      textMembers (done ++ [(name, value)]) := by
  have hkeys : ∀ member ∈ textMembers done, member.1.sameKey (.text name) = false := by
    intro member hmember
    obtain ⟨entry, hentry, rfl⟩ := List.mem_map.mp hmember
    have hne : entry.1 ≠ name := by
      rintro rfl
      exact hname (List.mem_map_of_mem hentry)
    simpa [Value.sameKey] using hne
  rw [Members.insert_of_not_sameKey value hkeys, textMembers, textMembers, List.map_append]
  rfl

/-- A member begins with the quote of its name. -/
theorem intercalate_members_starts {texts : List (List Char)} {entries : List (String × Value)}
    (htexts : List.Forall₂ ReadsAsMember texts entries) (hsome : texts ≠ [])
    (rest : List Char) :
    ∃ others, [','].intercalate texts ++ rest = '"' :: others := by
  cases htexts with
  | nil => exact absurd rfl hsome
  | cons htext _ =>
      obtain ⟨content, rfl, -⟩ := htext
      rw [writeText, String.toList_ofList, List.cons_append, List.cons_append,
        List.intercalate_cons_cons_left]
      exact ⟨_, rfl⟩

theorem readMembers_last {text : List Char} {entry : String × Value}
    (htext : ReadsAsMember text entry) {fuel : Nat} (hfuel : 2 * text.length ≤ fuel)
    {done : List (String × Value)} (hname : entry.1 ∉ done.map Prod.fst) (rest : List Char) :
    readMembers alphabet (fuel + 1) (textMembers done) (text ++ '\x7d' :: rest) =
      .ok (.object (textMembers (done ++ [entry])), rest) := by
  obtain ⟨content, rfl, hcontent⟩ := htext
  simp only [List.length_append, List.length_cons] at hfuel
  rw [readMembers_eq hcontent (by omega) _ _ (.brace rest), insert_textMembers _ hname]
  rfl

theorem readMembers_next {text : List Char} {entry : String × Value}
    (htext : ReadsAsMember text entry) {fuel : Nat} (hfuel : 2 * text.length ≤ fuel)
    {done : List (String × Value)} (hname : entry.1 ∉ done.map Prod.fst) (rest : List Char) :
    readMembers alphabet (fuel + 1) (textMembers done) (text ++ ',' :: rest) =
      readMembers alphabet fuel (textMembers (done ++ [entry])) (skipGap rest) := by
  obtain ⟨content, rfl, hcontent⟩ := htext
  simp only [List.length_append, List.length_cons] at hfuel
  rw [readMembers_eq hcontent (by omega) _ _ (.comma rest), insert_textMembers _ hname]
  rfl

theorem readMembers_of_readsAs {texts : List (List Char)} {entries : List (String × Value)}
    (htexts : List.Forall₂ ReadsAsMember texts entries) (hsome : texts ≠ []) (fuel : Nat)
    (done : List (String × Value)) (rest : List Char)
    (hnames : ((done ++ entries).map Prod.fst).Nodup)
    (hfuel : 2 * ([','].intercalate texts).length + 1 ≤ fuel) :
    readMembers alphabet fuel (textMembers done) ([','].intercalate texts ++ '\x7d' :: rest) =
      .ok (.object (textMembers (done ++ entries)), rest) := by
  induction htexts generalizing fuel done with
  | nil => exact absurd rfl hsome
  | @cons text entry texts entries htext htexts ih =>
      obtain ⟨less, rfl⟩ : ∃ less, fuel = less + 1 := ⟨fuel - 1, by omega⟩
      have hname : entry.1 ∉ done.map Prod.fst := by
        rw [List.map_append, List.nodup_append] at hnames
        intro hmem
        exact hnames.2.2 _ hmem _ (List.mem_map_of_mem List.mem_cons_self) rfl
      by_cases hothers : texts = []
      · subst hothers
        cases htexts
        rw [List.intercalate_singleton] at hfuel ⊢
        exact readMembers_last htext (by omega) hname rest
      · rw [List.intercalate_cons_of_ne_nil hothers] at hfuel ⊢
        simp only [List.length_append, List.length_singleton] at hfuel
        have hnext := ih hothers less (done ++ [entry]) (by simpa using hnames) (by omega)
        obtain ⟨others, hstart⟩ :=
          intercalate_members_starts htexts hothers ('\x7d' :: rest)
        calc
          readMembers alphabet (less + 1) (textMembers done)
                (text ++ [','] ++ [','].intercalate texts ++ '\x7d' :: rest) =
              readMembers alphabet (less + 1) (textMembers done)
                (text ++ ',' :: ([','].intercalate texts ++ '\x7d' :: rest)) := by
            simp only [List.append_assoc, List.cons_append, List.nil_append]
          _ = readMembers alphabet less (textMembers (done ++ [entry]))
                (skipGap ([','].intercalate texts ++ '\x7d' :: rest)) :=
            readMembers_next htext (by omega) hname _
          _ = readMembers alphabet less (textMembers (done ++ [entry]))
                ([','].intercalate texts ++ '\x7d' :: rest) := by
            rw [hstart]
            rfl
          _ = .ok (.object (textMembers (done ++ [entry] ++ entries)), rest) := hnext
          _ = .ok (.object (textMembers (done ++ entry :: entries)), rest) := by
            rw [List.append_assoc, List.singleton_append]

theorem readsAs_object {texts : List (List Char)} {entries : List (String × Value)}
    (htexts : List.Forall₂ ReadsAsMember texts entries)
    (hnames : (entries.map Prod.fst).Nodup) :
    ReadsAs ('\x7b' :: ([','].intercalate texts ++ ['\x7d']))
      (.object (textMembers entries)) := by
  refine readsAs_of_succ (by decide) fun {alphabet} fuel rest hfuel _ => ?_
  rw [List.append_assoc, List.singleton_append]
  by_cases hsome : texts = []
  · subst hsome
    cases htexts
    rfl
  · simp only [List.length_append, List.length_singleton] at hfuel
    have hmembers :=
      @readMembers_of_readsAs alphabet _ _ htexts hsome fuel [] rest hnames (by omega)
    obtain ⟨others, hstart⟩ := intercalate_members_starts htexts hsome ('\x7d' :: rest)
    rw [hstart] at hmembers ⊢
    exact hmembers

/-! ## Plain values -/

theorem writeItems_eq_ok {style : JsonStyle} {items : List Value} {texts : List String}
    (hwritten : writeItems style items = .ok texts) :
    List.Forall₂ (fun item text => write style item = .ok text) items texts := by
  induction items generalizing texts with
  | nil =>
      obtain rfl : [] = texts := Except.ok.inj hwritten
      exact .nil
  | cons item items ih =>
      rw [writeItems] at hwritten
      obtain ⟨text, htext, hwritten⟩ := Outcome.bind_eq_ok_iff.mp hwritten
      obtain ⟨others, hothers, hwritten⟩ := Outcome.bind_eq_ok_iff.mp hwritten
      obtain rfl : text :: others = texts := Except.ok.inj hwritten
      exact .cons htext (ih hothers)

theorem writeMembers_eq_ok {style : JsonStyle} {entries : List (String × Value)}
    {texts : List String} (hwritten : writeMembers style (textMembers entries) = .ok texts) :
    List.Forall₂ (fun entry text => ∃ content, write style entry.2 = .ok content ∧
      text = writeText style.asciiOnly entry.1 ++ style.memberSeparator ++ content)
      entries texts := by
  induction entries generalizing texts with
  | nil =>
      obtain rfl : [] = texts := Except.ok.inj hwritten
      exact .nil
  | cons entry entries ih =>
      rw [textMembers, List.map_cons, ← textMembers, writeMembers, memberName,
        Outcome.ok_bind] at hwritten
      obtain ⟨content, hcontent, hwritten⟩ := Outcome.bind_eq_ok_iff.mp hwritten
      obtain ⟨others, hothers, hwritten⟩ := Outcome.bind_eq_ok_iff.mp hwritten
      obtain rfl := Except.ok.inj hwritten
      exact .cons ⟨content, hcontent, rfl⟩ (ih hothers)

theorem readsAs_of_writeItems {items : List Value} {texts : List String}
    (hitems : ∀ item ∈ items, ∀ {written : String}, write .search item = .ok written →
      ReadsAs written.toList item.asArrays)
    (hwritten : writeItems .search items = .ok texts) :
    List.Forall₂ ReadsAs (texts.map String.toList) (Value.allAsArrays items) := by
  have hforall := writeItems_eq_ok hwritten
  clear hwritten
  induction hforall with
  | nil => exact .nil
  | cons htext _ ih =>
      refine .cons (hitems _ List.mem_cons_self htext) (ih ?_)
      exact fun item hitem => hitems item (List.mem_cons_of_mem _ hitem)

theorem readsAs_of_writeMembers {entries : List (String × Value)} {texts : List String}
    (hentries : ∀ entry ∈ entries, ∀ {written : String}, write .search entry.2 = .ok written →
      ReadsAs written.toList entry.2.asArrays)
    (hwritten : writeMembers .search (textMembers entries) = .ok texts) :
    List.Forall₂ ReadsAsMember (texts.map String.toList)
      (entries.map fun entry => (entry.1, entry.2.asArrays)) := by
  have hforall := writeMembers_eq_ok hwritten
  clear hwritten
  induction hforall with
  | nil => exact .nil
  | cons htext _ ih =>
      obtain ⟨content, hcontent, rfl⟩ := htext
      refine .cons ⟨content.toList, ?_, hentries _ List.mem_cons_self hcontent⟩ (ih ?_)
      · simp [JsonStyle.search, String.toList_append]
      · exact fun entry hentry => hentries entry (List.mem_cons_of_mem _ hentry)

theorem toList_enclosed (opening closing : String) (texts : List String) :
    (opening ++ ",".intercalate texts ++ closing).toList =
      opening.toList ++ ([','].intercalate (texts.map String.toList) ++ closing.toList) := by
  simp [String.toList_append, String.toList_intercalate]

theorem write_readsAs {value : Value} (hvalue : value.IsPlain) {written : String}
    (hwritten : write .search value = .ok written) :
    ReadsAs written.toList value.asArrays := by
  induction hvalue generalizing written with
  | null =>
      obtain rfl := Except.ok.inj hwritten
      exact readsAs_null
  | bool flag =>
      obtain rfl := Except.ok.inj hwritten
      exact readsAs_bool flag
  | int number =>
      obtain ⟨hlength, rfl⟩ := integerText_eq_ok_iff.mp hwritten
      exact readsAs_int hlength
  | text content =>
      obtain rfl := Except.ok.inj hwritten
      exact readsAs_text content
  | list _ ih | tuple _ ih =>
      rw [write] at hwritten
      obtain ⟨texts, htexts, hwritten⟩ := Outcome.bind_eq_ok_iff.mp hwritten
      obtain rfl := Except.ok.inj hwritten
      rw [Value.asArrays]
      have hlist := readsAs_list (readsAs_of_writeItems ih htexts)
      exact toList_enclosed "[" "]" texts ▸ hlist
  | @object entries hnames _ ih =>
      rw [write] at hwritten
      obtain ⟨texts, htexts, hwritten⟩ := Outcome.bind_eq_ok_iff.mp hwritten
      obtain rfl := Except.ok.inj hwritten
      have hkeys : ((entries.map fun entry => (entry.1, entry.2.asArrays)).map Prod.fst).Nodup := by
        rw [List.map_map]
        exact hnames
      rw [Value.asArrays, Value.membersAsArrays_textMembers]
      have hobject := readsAs_object (readsAs_of_writeMembers ih htexts) hkeys
      exact toList_enclosed "\x7b" "\x7d" texts ▸ hobject

/-- A text that reads as a value is a document of that value. -/
theorem ReadsAs.read {text : List Char} {value : Value} (htext : ReadsAs text value) :
    read text alphabet = .ok value := by
  have hreads := @htext.reads alphabet (enough text) [] (by rw [enough]; omega) .nothing
  have hskip := htext.skipGap []
  rw [List.append_nil] at hreads hskip
  have hwhole : readWhole text alphabet = .ok value := by
    rw [readWhole]
    simp only [hskip, hreads, Outcome.ok_bind]
    rfl
  obtain ⟨first, others, rfl, hascii, -⟩ := htext.starts
  rw [Json.read]
  · rw [hwhole]
    rfl
  · rintro rest heq
    obtain ⟨rfl, -⟩ := List.cons.inj heq
    exact absurd hascii (by decide)

/-- What is written for a plain value reads back as it, with lists for its tuples. -/
theorem read_write {value : Value} (hvalue : value.IsPlain) {written : String}
    (hwritten : write .search value = .ok written) :
    read written.toList alphabet = .ok value.asArrays :=
  (write_readsAs hvalue hwritten).read

end Json

end GridSource
