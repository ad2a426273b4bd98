import GridSource.Proofs.Config.ClosedTexts
import GridSource.Proofs.Config.Merge

/-!
# Values shown as text

A configured value takes the place of a placeholder as the text it is shown as.  Lists and objects
show their texts between quotes, with some characters escaped.  None of these characters belongs
to a placeholder, and no escape holds a dollar sign.  So a value whose texts are all well nested is
shown as a closed text.
-/

namespace GridSource

/-- Every text in a value is of some kind, keys and the labels of foreign values included. -/
inductive Value.HasTexts (meets : String → Prop) : Value → Prop where
  | null : HasTexts meets .null
  | bool (flag : Bool) : HasTexts meets (.bool flag)
  | int (number : Int) : HasTexts meets (.int number)
  | float (number : Float) : HasTexts meets (.float number)
  | text {content : String} (hcontent : meets content) : HasTexts meets (.text content)
  | foreign {label : String} (hlabel : meets label) : HasTexts meets (.foreign label)
  | list {items : List Value} (hitems : ∀ item ∈ items, HasTexts meets item) :
      HasTexts meets (.list items)
  | tuple {items : List Value} (hitems : ∀ item ∈ items, HasTexts meets item) :
      HasTexts meets (.tuple items)
  | object {members : List (Value × Value)} (hkeys : ∀ member ∈ members, HasTexts meets member.1)
      (hvalues : ∀ member ∈ members, HasTexts meets member.2) : HasTexts meets (.object members)

/-! ## Escapes -/

namespace Quoted

theorem hexDigit_ne_dollar {digit : Nat} (hdigit : digit < 16) : hexDigit digit ≠ '$' := by
  have hall : ∀ digit < 16, hexDigit digit ≠ '$' := by decide
  exact hall digit hdigit

theorem dollar_not_mem_hex (width value : Nat) : '$' ∉ hex width value := by
  induction width generalizing value with
  | zero => exact List.not_mem_nil
  | succ width ih =>
      rw [hex, List.mem_append, List.mem_singleton, not_or]
      exact ⟨ih _, Ne.symm (hexDigit_ne_dollar (Nat.mod_lt _ (by decide)))⟩

/-- A character stands for itself, or it is escaped and then belongs to no placeholder. -/
theorem escape_cases {quote : Char} (hquote : quote = '\'' ∨ quote = '"') (character : Char) :
    escape quote character = [character] ∨
      ∃ code, escape quote character = '\\' :: code ∧ '$' ∉ code ∧
        character ≠ '$' ∧ character ≠ '\x7b' ∧ character ≠ '\x7d' := by
  have hplain (hunprintable : isUnprintable character = true) :
      character ≠ '$' ∧ character ≠ '\x7b' ∧ character ≠ '\x7d' := by
    refine ⟨?_, ?_, ?_⟩
    all_goals
      rintro rfl
      revert hunprintable
      decide
  rw [escape]
  split_ifs with hescaped hline hreturn htab hunprintable
  · refine .inr ⟨_, rfl, ?_⟩
    rcases hquote with rfl | rfl <;> rcases hescaped with rfl | rfl <;> decide
  · exact .inr ⟨_, rfl, by decide, by subst hline; decide⟩
  · exact .inr ⟨_, rfl, by decide, by subst hreturn; decide⟩
  · exact .inr ⟨_, rfl, by decide, by subst htab; decide⟩
  · refine .inr ?_
    dsimp only
    split_ifs
    all_goals exact ⟨_, rfl, by simp [dollar_not_mem_hex], hplain hunprintable⟩
  · exact .inl rfl

variable {quote : Char}

theorem closed_escape (hquote : quote = '\'' ∨ quote = '"') {character : Char}
    (hcharacter : character ≠ '$') : Placeholder.Closed (escape quote character) := by
  apply Placeholder.Closed.of_not_mem
  rcases escape_cases hquote character with hitself | ⟨code, hcode, hdollar, -⟩
  · rw [hitself, List.mem_singleton]
    exact hcharacter.symm
  · rw [hcode, List.mem_cons, not_or]
    exact ⟨by decide, hdollar⟩

/-- The characters of placeholders are not escaped. -/
theorem escape_of_mem (hquote : quote = '\'' ∨ quote = '"') {character : Char}
    (hcharacter : character = '$' ∨ character = '\x7b' ∨ character = '\x7d') :
    escape quote character = [character] := by
  rcases escape_cases hquote character with hitself | ⟨_, _, _, hdollar, hopening, hclosing⟩
  · exact hitself
  · rcases hcharacter with rfl | rfl | rfl <;> contradiction

theorem exists_escape_eq_cons (hquote : quote = '\'' ∨ quote = '"') {character : Char}
    (hcharacter : character ≠ '\x7d') :
    ∃ first rest, escape quote character = first :: rest ∧ first ≠ '\x7d' := by
  rcases escape_cases hquote character with hitself | ⟨code, hcode, -⟩
  · exact ⟨character, [], hitself, hcharacter⟩
  · exact ⟨'\\', code, hcode, by decide⟩

/-- A closed text is closed when it is quoted, too. -/
theorem closed_flatMap_escape (hquote : quote = '\'' ∨ quote = '"') {characters : List Char}
    (hclosed : Placeholder.Closed characters) :
    Placeholder.Closed (characters.flatMap (escape quote)) := by
  induction hclosed with
  | nil => exact .nil
  | character hfirst _ ih =>
      rw [List.flatMap_cons]
      exact (closed_escape hquote hfirst).append ih
  | @placeholder first rest hfirst hclosing _ ih =>
      obtain ⟨start, others, hescape, hstart⟩ := exists_escape_eq_cons hquote hfirst
      have hbrace : '\x7d' ∈ others ++ rest.flatMap (escape quote) := by
        refine List.mem_append_right _ (List.mem_flatMap.mpr ⟨_, hclosing, ?_⟩)
        rw [escape_of_mem hquote (.inr (.inr rfl))]
        exact List.mem_singleton_self _
      rw [List.flatMap_cons, hescape] at ih
      rw [List.flatMap_cons, List.flatMap_cons, List.flatMap_cons, hescape,
        escape_of_mem hquote (.inl rfl), escape_of_mem hquote (.inr (.inl rfl))]
      exact .placeholder hstart hbrace ih

theorem quoteFor_eq (characters : List Char) :
    quoteFor characters = '\'' ∨ quoteFor characters = '"' := by
  rw [quoteFor]
  split
  · exact .inr rfl
  · exact .inl rfl

theorem closed_encode {characters : List Char} (hclosed : Placeholder.Closed characters) :
    Placeholder.Closed (encode characters) := by
  have hquote := quoteFor_eq characters
  have hne : quoteFor characters ≠ '$' := by
    rcases hquote with hquote | hquote <;> rw [hquote] <;> decide
  exact .character hne ((closed_flatMap_escape hquote hclosed).append
    (.character hne .nil))

end Quoted

/-! ## Numbers -/

/-- A written number has no dollar sign. -/
theorem dollar_not_mem_toDigits (number : Nat) : '$' ∉ Nat.toDigits 10 number :=
  fun hdollar => ne_of_isDigit (isDigit_of_mem_toDigits hdollar) rfl rfl

theorem dollar_not_mem_toString_nat (number : Nat) : '$' ∉ (toString number).toList := by
  rw [Nat.toString_eq_repr, Nat.toList_repr]
  exact dollar_not_mem_toDigits number

theorem dollar_not_mem_toString_int (number : Int) : '$' ∉ (toString number).toList := by
  rw [toList_toString_int, List.mem_append, not_or]
  refine ⟨?_, dollar_not_mem_toDigits _⟩
  split <;> decide

namespace Decimal

theorem dollar_not_mem_positional {digits : String} (hdigits : '$' ∉ digits.toList)
    (leading : Int) : '$' ∉ (positional digits leading).toList := by
  have hzeros (count : Nat) : '$' ∉ (zeros count).toList := by
    rw [zeros, String.toList_ofList, List.mem_replicate]
    rintro ⟨-, hzero⟩
    exact absurd hzero (by decide)
  have htake (count : Nat) : '$' ∉ digits.toList.take count :=
    fun hdollar => hdigits (List.mem_of_mem_take hdollar)
  have hdrop (count : Nat) : '$' ∉ digits.toList.drop count :=
    fun hdollar => hdigits (List.mem_of_mem_drop hdollar)
  rw [positional]
  split_ifs
  · simp [String.toList_append, hzeros, hdigits]
  · dsimp only
    split_ifs
    · simp [String.toList_append, hzeros, hdigits]
    · simp [String.toList_append, htake, hdrop]

theorem dollar_not_mem_writtenExponent (exponent : Int) :
    '$' ∉ (writtenExponent exponent).toList := by
  have hdigits := dollar_not_mem_toString_nat exponent.natAbs
  rw [writtenExponent, String.toList_append, List.mem_append, not_or]
  constructor
  · split_ifs <;> decide
  · split_ifs
    · rw [String.toList_append, List.mem_append, not_or]
      exact ⟨by decide, hdigits⟩
    · exact hdigits

theorem dollar_not_mem_scientific {digits : String} (hdigits : '$' ∉ digits.toList)
    (leading : Int) : '$' ∉ (scientific digits leading).toList := by
  have htake : '$' ∉ digits.toList.take 1 := fun hdollar => hdigits (List.mem_of_mem_take hdollar)
  have hdrop : '$' ∉ digits.toList.tail := fun hdollar => hdigits (List.mem_of_mem_tail hdollar)
  rw [scientific, String.toList_append, List.mem_append, not_or]
  refine ⟨?_, dollar_not_mem_writtenExponent leading⟩
  split_ifs
  · exact hdigits
  · simp [String.toList_append, htake, hdrop]

theorem dollar_not_mem_write (notationOf : DecimalNotation) (decimal : Decimal) :
    '$' ∉ (decimal.write notationOf).toList := by
  have hdigits := dollar_not_mem_toString_nat decimal.digits
  rw [write]
  split_ifs
  · exact dollar_not_mem_positional hdigits _
  · exact dollar_not_mem_scientific hdigits _

end Decimal

theorem dollar_not_mem_writeFloat (number : Float) : '$' ∉ (writeFloat .plain number).toList := by
  have hsign (negative : Bool) : '$' ∉ (if negative then "-" else "").toList := by
    cases negative <;> decide
  rw [writeFloat]
  cases Binary64.ofFloat number with
  | notANumber => exact (by decide : '$' ∉ "nan".toList)
  | infinite negative =>
      rw [Binary64.write, String.toList_append, List.mem_append, not_or]
      exact ⟨hsign negative, by decide⟩
  | finite negative mantissa exponent =>
      rw [Binary64.write, String.toList_append, List.mem_append, not_or]
      refine ⟨hsign negative, ?_⟩
      split_ifs
      · decide
      · exact Decimal.dollar_not_mem_write _ _

/-! ## Values -/

namespace Value

open Placeholder

theorem quotedForms_eq_map (items : List Value) : quotedForms items = items.map quotedForm := by
  induction items with
  | nil => rfl
  | cons item rest ih => rw [quotedForms, List.map_cons, ih]

theorem memberForms_eq_map (members : List (Value × Value)) :
    memberForms members =
      members.map fun member => quotedForm member.1 ++ ": " ++ quotedForm member.2 := by
  induction members with
  | nil => rfl
  | cons member rest ih => rw [memberForms, List.map_cons, ih]

theorem closed_intercalate {texts : List String} (htexts : ∀ text ∈ texts, Closed text.toList) :
    Closed (", ".intercalate texts).toList := by
  rw [String.toList_intercalate]
  apply Closed.intercalate (.of_not_mem (by decide))
  intro characters hcharacters
  obtain ⟨text, htext, rfl⟩ := List.mem_map.mp hcharacters
  exact htexts text htext

/-- What stands between two texts without a dollar sign is closed with them. -/
theorem closed_between {left right text : String} (hleft : '$' ∉ left.toList)
    (hright : '$' ∉ right.toList) (htext : Closed text.toList) :
    Closed (left ++ text ++ right).toList := by
  rw [String.toList_append, String.toList_append]
  exact ((Closed.of_not_mem hleft).append htext).append (.of_not_mem hright)

theorem closed_quotedForm {value : Value}
    (htexts : value.HasTexts fun content => Closed content.toList) :
    Closed value.quotedForm.toList := by
  induction htexts with
  | null => exact .of_not_mem (by decide)
  | bool flag => cases flag <;> exact .of_not_mem (by decide)
  | int number => exact .of_not_mem (dollar_not_mem_toString_int number)
  | float number => exact .of_not_mem (dollar_not_mem_writeFloat number)
  | text hcontent =>
      rw [quotedForm, GridSource.quoted, String.toList_ofList]
      exact Quoted.closed_encode hcontent
  | foreign hlabel => exact closed_between (by decide) (by decide) hlabel
  | @list items _ ih =>
      apply closed_between (by decide) (by decide)
      apply closed_intercalate
      rw [quotedForms_eq_map, List.forall_mem_map]
      exact ih
  | @tuple items _ ih =>
      have hitems : Closed (", ".intercalate (quotedForms items)).toList := by
        apply closed_intercalate
        rw [quotedForms_eq_map, List.forall_mem_map]
        exact ih
      rcases items with _ | ⟨item, _ | ⟨next, rest⟩⟩
      · exact .of_not_mem (by decide)
      · exact closed_between (by decide) (by decide) (ih item List.mem_cons_self)
      · exact closed_between (by decide) (by decide) hitems
  | @object members _ _ ihkeys ihvalues =>
      apply closed_between (by decide) (by decide)
      apply closed_intercalate
      rw [memberForms_eq_map, List.forall_mem_map]
      intro member hmember
      rw [String.toList_append, String.toList_append]
      exact ((ihkeys member hmember).append (.of_not_mem (by decide))).append
        (ihvalues member hmember)

theorem closed_of_display {value : Value} {shown : String}
    (htexts : value.HasTexts fun content => Closed content.toList)
    (hshown : value.display = .ok shown) : Closed shown.toList := by
  obtain ⟨-, rfl⟩ := display_eq_ok_iff.mp hshown
  have hquoted := closed_quotedForm htexts
  cases htexts with
  | text hcontent => exact hcontent
  | foreign hlabel => exact hlabel
  | _ => exact hquoted

/-! ## Values of keys -/

theorem HasTexts.mono {meets implied : String → Prop} (himplied : ∀ content, meets content →
    implied content) {value : Value} (htexts : value.HasTexts meets) : value.HasTexts implied := by
  induction htexts with
  | null => exact .null
  | bool flag => exact .bool flag
  | int number => exact .int number
  | float number => exact .float number
  | text hcontent => exact .text (himplied _ hcontent)
  | foreign hlabel => exact .foreign (himplied _ hlabel)
  | list _ ih => exact .list ih
  | tuple _ ih => exact .tuple ih
  | object _ _ ihkeys ihvalues => exact .object ihkeys ihvalues

variable {meets : String → Prop}

theorem HasTexts.of_field? {value inner : Value} (htexts : value.HasTexts meets) {name : String}
    (hinner : value.field? name = some inner) : inner.HasTexts meets := by
  cases htexts with
  | object _ hvalues =>
      rw [field?, Members.named?, Members.get?, Option.map_eq_some_iff] at hinner
      obtain ⟨member, hmember, rfl⟩ := hinner
      exact hvalues member (List.mem_of_find?_eq_some hmember)
  | _ => contradiction

theorem HasTexts.of_find? {tree value : Value} (htexts : tree.HasTexts meets) {path : List String}
    (hvalue : Tree.find? tree path = some value) : value.HasTexts meets := by
  induction path generalizing tree with
  | nil => exact Option.some.inj hvalue ▸ htexts
  | cons part rest ih =>
      rw [Tree.find?_cons] at hvalue
      obtain ⟨inner, hinner, hvalue⟩ := Option.bind_eq_some_iff.mp hvalue
      exact ih (htexts.of_field? hinner) hvalue

end Value

namespace Placeholder

theorem Source.hasTexts_of_configured? {source : Source} {meets : String → Prop}
    (htree : source.tree.HasTexts meets) {key : String} {value : Value}
    (hvalue : source.configured? key = some value) : value.HasTexts meets := by
  rw [configured?] at hvalue
  split at hvalue
  · contradiction
  · contradiction
  · next hfound =>
      obtain rfl := Option.some.inj hvalue
      exact htree.of_find? hfound

end Placeholder

end GridSource
