import GridSource.Proofs.Json.Documents
import GridSource.Proofs.Json.RoundTrip
import GridSource.Proofs.Query.OptionSpelling
import GridSource.Proofs.Query.TreeValues
import GridSource.Query.Builder
import Mathlib.Data.Nat.Digits.Defs

/-!
# Values that can be written

A value can be written when none of the integers in it is too long and its keys are
scalars.  Every part of such a value can be written too, so the search tree of options that
can be written can be written.
-/

namespace GridSource

namespace Value

def IsWritable (value : Value) : Prop := ∃ written, Json.write .search value = .ok written

/-- A key that names a member can be written by itself. -/
theorem isWritable_of_memberName {key : Value} {name : String}
    (hname : Json.memberName .search key = .ok name) : key.IsWritable := by
  cases key with
  | text content => exact ⟨_, rfl⟩
  | null | bool flag | int number | float number => exact ⟨name, hname⟩
  | _ => contradiction

theorem isWritable_of_writeMembers {members : Members} {written : List String}
    (hwritten : Json.writeMembers .search members = .ok written) :
    ∀ member ∈ members, member.1.IsWritable ∧ member.2.IsWritable := by
  induction members generalizing written with
  | nil => simp
  | cons member rest ih =>
      obtain ⟨key, value⟩ := member
      rw [Json.writeMembers] at hwritten
      obtain ⟨name, hname, hwritten⟩ := Outcome.bind_eq_ok_iff.mp hwritten
      obtain ⟨content, hcontent, hwritten⟩ := Outcome.bind_eq_ok_iff.mp hwritten
      obtain ⟨others, hothers, -⟩ := Outcome.bind_eq_ok_iff.mp hwritten
      exact List.forall_mem_cons.mpr
        ⟨⟨isWritable_of_memberName hname, content, hcontent⟩, ih hothers⟩

theorem IsWritable.member {members : Members} (hmembers : (object members).IsWritable) :
    ∀ member ∈ members, member.1.IsWritable ∧ member.2.IsWritable := by
  obtain ⟨written, hwritten⟩ := hmembers
  rw [Json.write] at hwritten
  obtain ⟨texts, htexts, -⟩ := Outcome.bind_eq_ok_iff.mp hwritten
  exact isWritable_of_writeMembers htexts

theorem isWritable_of_writeItems {items : List Value} {written : List String}
    (hwritten : Json.writeItems .search items = .ok written) : ∀ item ∈ items, item.IsWritable := by
  intro item hitem
  have hforall := Json.writeItems_eq_ok hwritten
  obtain ⟨index, hindex, rfl⟩ := List.getElem_of_mem hitem
  exact ⟨_, hforall.get hindex (hforall.length_eq ▸ hindex)⟩

theorem isHereditary_isWritable : IsHereditary IsWritable where
  null := ⟨_, rfl⟩
  element {value item items} hvalue hitems hitem := by
    cases value with
    | list inner | tuple inner =>
        obtain rfl := Option.some.inj hitems
        obtain ⟨written, hwritten⟩ := hvalue
        rw [Json.write] at hwritten
        obtain ⟨texts, htexts, -⟩ := Outcome.bind_eq_ok_iff.mp hwritten
        exact isWritable_of_writeItems htexts item hitem
    | text content =>
        obtain rfl := Option.some.inj hitems
        obtain ⟨character, -, rfl⟩ := List.mem_map.mp hitem
        exact ⟨_, rfl⟩
    | object members =>
        obtain rfl := Option.some.inj hitems
        obtain ⟨member, hmember, rfl⟩ := List.mem_map.mp hitem
        exact (hvalue.member member hmember).1
    | _ => simp [Value.elements?] at hitems
  single name {value} hvalue := by
    obtain ⟨written, hwritten⟩ := hvalue
    simp only [IsWritable, Json.write, Json.writeMembers, Json.memberName, hwritten]
    exact ⟨_, rfl⟩
  pair {left right} hleft hright := by
    obtain ⟨first, hfirst⟩ := hleft
    obtain ⟨second, hsecond⟩ := hright
    simp only [IsWritable, Json.write, Json.writeItems, hfirst, hsecond]
    exact ⟨_, rfl⟩

theorem exists_writeItems {items : List Value} (hitems : ∀ item ∈ items, item.IsWritable) :
    ∃ written, Json.writeItems .search items = .ok written := by
  induction items with
  | nil => exact ⟨[], rfl⟩
  | cons item rest ih =>
      obtain ⟨⟨written, hwritten⟩, hrest⟩ := List.forall_mem_cons.mp hitems
      obtain ⟨others, hothers⟩ := ih hrest
      rw [Json.writeItems, hwritten, hothers]
      exact ⟨_, rfl⟩

theorem exists_writeMembers {members : Members}
    (hkeys : ∀ member ∈ members, ∃ name, member.1 = .text name)
    (hvalues : ∀ member ∈ members, member.2.IsWritable) :
    ∃ written, Json.writeMembers .search members = .ok written := by
  induction members with
  | nil => exact ⟨[], rfl⟩
  | cons member rest ih =>
      obtain ⟨⟨name, hname⟩, hnames⟩ := List.forall_mem_cons.mp hkeys
      obtain ⟨⟨written, hwritten⟩, hrest⟩ := List.forall_mem_cons.mp hvalues
      obtain ⟨others, hothers⟩ := ih hnames hrest
      obtain ⟨key, value⟩ := member
      obtain rfl : key = .text name := hname
      rw [Json.writeMembers, Json.memberName, hwritten, hothers]
      exact ⟨_, rfl⟩

/-- What is read can be written. -/
theorem isReadable_isWritable : Json.IsReadable IsWritable where
  null := ⟨_, rfl⟩
  bool _ := ⟨_, rfl⟩
  int hnumber := ⟨_, integerText_eq_ok_iff.mpr ⟨decimalLength_eq _ ▸ hnumber, rfl⟩⟩
  float number := by
    refine ⟨writeFloat .json number, ?_⟩
    rw [Json.write, Json.writeNumber]
    simp [JsonStyle.search]
  text _ := ⟨_, rfl⟩
  list hitems := by
    obtain ⟨written, hwritten⟩ := exists_writeItems hitems
    rw [IsWritable, Json.write, hwritten]
    exact ⟨_, rfl⟩
  object hkeys hvalues := by
    obtain ⟨written, hwritten⟩ := exists_writeMembers hkeys hvalues
    rw [IsWritable, Json.write, hwritten]
    exact ⟨_, rfl⟩

end Value

/-! ## What can be written can be shown -/

theorem hasText_of_integerText {number : Int} {written : String}
    (hwritten : integerText number = .ok written) : hasText number = true := by
  rw [integerText] at hwritten
  split at hwritten
  · assumption
  · contradiction

namespace Value

@[simp]
theorem arePrintable_iff {items : List Value} :
    arePrintable items = true ↔ ∀ item ∈ items, item.isPrintable = true := by
  induction items with
  | nil => simp [arePrintable]
  | cons item rest ih => simp [arePrintable, ih]

@[simp]
theorem membersPrintable_iff {members : Members} :
    membersPrintable members = true ↔
      ∀ member ∈ members, member.1.isPrintable = true ∧ member.2.isPrintable = true := by
  induction members with
  | nil => simp [membersPrintable]
  | cons member rest ih => simp [membersPrintable, ih]

theorem isHereditary_isPrintable : IsHereditary fun value => value.isPrintable = true where
  null := rfl
  element {value item items} hvalue hitems hitem := by
    cases value with
    | list inner | tuple inner =>
        obtain rfl := Option.some.inj hitems
        exact arePrintable_iff.mp hvalue item hitem
    | text content =>
        obtain rfl := Option.some.inj hitems
        obtain ⟨character, -, rfl⟩ := List.mem_map.mp hitem
        rfl
    | object members =>
        obtain rfl := Option.some.inj hitems
        obtain ⟨member, hmember, rfl⟩ := List.mem_map.mp hitem
        exact (membersPrintable_iff.mp hvalue member hmember).1
    | _ => simp [Value.elements?] at hitems
  single name {value} hvalue := by simp [isPrintable, membersPrintable, hvalue]
  pair hleft hright := by simp [isPrintable, arePrintable, hleft, hright]

theorem isPrintable_of_memberName {key : Value} {name : String}
    (hname : Json.memberName .search key = .ok name) : key.isPrintable = true := by
  cases key with
  | int number => exact hasText_of_integerText hname
  | null | bool flag | float number | text content => rfl
  | _ => contradiction

mutual

theorem isPrintable_of_write {value : Value} {written : String}
    (hwritten : Json.write .search value = .ok written) : value.isPrintable = true := by
  match value with
  | .int number => exact hasText_of_integerText hwritten
  | .list items | .tuple items =>
      rw [Json.write] at hwritten
      obtain ⟨texts, htexts, -⟩ := Outcome.bind_eq_ok_iff.mp hwritten
      exact arePrintable_of_writeItems htexts
  | .object members =>
      rw [Json.write] at hwritten
      obtain ⟨texts, htexts, -⟩ := Outcome.bind_eq_ok_iff.mp hwritten
      exact membersPrintable_of_writeMembers htexts
  | .null | .bool _ | .float _ | .text _ | .foreign _ => rfl

theorem arePrintable_of_writeItems {items : List Value} {written : List String}
    (hwritten : Json.writeItems .search items = .ok written) : arePrintable items = true := by
  match items with
  | [] => rfl
  | item :: rest =>
      rw [Json.writeItems] at hwritten
      obtain ⟨first, hfirst, hwritten⟩ := Outcome.bind_eq_ok_iff.mp hwritten
      obtain ⟨others, hothers, -⟩ := Outcome.bind_eq_ok_iff.mp hwritten
      rw [arePrintable, isPrintable_of_write hfirst, arePrintable_of_writeItems hothers]
      rfl

theorem membersPrintable_of_writeMembers {members : Members} {written : List String}
    (hwritten : Json.writeMembers .search members = .ok written) :
    membersPrintable members = true := by
  match members with
  | [] => rfl
  | (key, value) :: rest =>
      rw [Json.writeMembers] at hwritten
      obtain ⟨name, hname, hwritten⟩ := Outcome.bind_eq_ok_iff.mp hwritten
      obtain ⟨content, hcontent, hwritten⟩ := Outcome.bind_eq_ok_iff.mp hwritten
      obtain ⟨others, hothers, -⟩ := Outcome.bind_eq_ok_iff.mp hwritten
      rw [membersPrintable, isPrintable_of_memberName hname, isPrintable_of_write hcontent,
        membersPrintable_of_writeMembers hothers]
      rfl

end

theorem IsWritable.isPrintable {value : Value} (hvalue : value.IsWritable) :
    value.isPrintable = true :=
  hvalue.elim fun _ hwritten => isPrintable_of_write hwritten

end Value

/-! ## Integers that can be written -/

namespace Binary64

/-- The parts of a double are bounded. -/
theorem bounds_of_ofFloat {number : Float} {negative : Bool} {mantissa : Nat} {exponent : Int}
    (hnumber : ofFloat number = .finite negative mantissa exponent) :
    mantissa < 2 ^ 53 ∧ exponent ≤ 1000 := by
  have hfraction : number.toBits.toNat % Nat.pow 2 52 < Nat.pow 2 52 :=
    Nat.mod_lt _ (by decide)
  have hbiased : number.toBits.toNat / Nat.pow 2 52 % Nat.pow 2 11 < Nat.pow 2 11 :=
    Nat.mod_lt _ (by decide)
  have hpower : Nat.pow 2 52 = 4503599627370496 := rfl
  have hpower' : Nat.pow 2 11 = 2048 := rfl
  simp only [ofFloat] at hnumber
  split at hnumber
  · split at hnumber <;> contradiction
  · split at hnumber
    · obtain ⟨-, rfl, rfl⟩ := Binary64.finite.inj hnumber
      exact ⟨by omega, by decide⟩
    · obtain ⟨-, rfl, rfl⟩ := Binary64.finite.inj hnumber
      rw [hiddenBit, leastExponent, Int.ofNat_eq_natCast]
      exact ⟨by omega, by omega⟩

theorem natAbs_lt_of_toInt? {number : Float} {whole : Int}
    (hwhole : (ofFloat number).toInt? = some whole) : whole.natAbs < 2 ^ mostIntegerDigits := by
  cases hnumber : ofFloat number with
  | finite negative mantissa exponent =>
      obtain ⟨hmantissa, hexponent⟩ := bounds_of_ofFloat hnumber
      rw [hnumber] at hwhole
      obtain ⟨integer, hinteger, rfl⟩ := Option.map_eq_some_iff.mp hwhole
      obtain ⟨size, hsize, hsame⟩ := Option.bind_eq_some_iff.mp hinteger
      obtain rfl := Option.some.inj hsame
      obtain ⟨shift, hshift, hbound⟩ : ∃ shift, shift ≤ 1000 ∧ size ≤ mantissa * 2 ^ shift := by
        split at hsize
        · obtain rfl := Option.some.inj hsize
          exact ⟨exponent.toNat, by omega, Nat.le_refl _⟩
        · split at hsize
          · obtain rfl := Option.some.inj hsize
            exact ⟨0, by omega, by simpa using Nat.div_le_self mantissa _⟩
          · contradiction
      have habs : (if negative = true then -(size : Int) else size).natAbs = size := by
        cases negative <;> simp
      rw [habs]
      have hdigits : 53 + shift ≤ mostIntegerDigits := by
        rw [mostIntegerDigits]
        omega
      calc size ≤ mantissa * 2 ^ shift := hbound
        _ < 2 ^ 53 * 2 ^ shift := Nat.mul_lt_mul_of_pos_right hmantissa (Nat.two_pow_pos _)
        _ = 2 ^ (53 + shift) := (Nat.pow_add ..).symm
        _ ≤ 2 ^ mostIntegerDigits := Nat.pow_le_pow_right (by decide) hdigits
  | _ =>
      rw [hnumber] at hwhole
      contradiction

end Binary64

/-- An integer equal to a double is not too long to be written. -/
theorem decimalLength_le_of_lt {number : Nat} (hnumber : number < 2 ^ mostIntegerDigits) :
    decimalLength number ≤ mostIntegerDigits := by
  have hpower : 2 ^ mostIntegerDigits ≤ 10 ^ mostIntegerDigits :=
    Nat.pow_le_pow_left (by decide) mostIntegerDigits
  rw [decimalLength_eq]
  exact Nat.toDigits_length 10 number mostIntegerDigits (by decide) (hnumber.trans_le hpower)

/-- A value that can be written is no count that is too long: an integer is written as it
is, and a double has few digits. -/
theorem Value.IsWritable.decimalLength_le {value : Value} (hvalue : value.IsWritable)
    {number : Int} (hnumber : QueryBuilder.integral value = .int number) :
    decimalLength number.natAbs ≤ mostIntegerDigits := by
  cases value with
  | int whole =>
      obtain rfl := Value.int.inj hnumber
      obtain ⟨written, hwritten⟩ := hvalue
      rw [decimalLength_eq]
      exact (integerText_eq_ok_iff.mp hwritten).1
  | float double =>
      rw [QueryBuilder.integral] at hnumber
      split at hnumber
      · next whole hwhole =>
          obtain rfl := Value.int.inj hnumber
          exact decimalLength_le_of_lt (Binary64.natAbs_lt_of_toInt? hwhole)
      · contradiction
  | _ => contradiction

/-! ## Options that can be written -/

namespace LoadOptions

/-- The options of an object hold its values, or those they begin with. -/
theorem forall_get_ofMembers {holds : Value → Prop} (hdefault : ∀ field, holds (default.get field))
    {members : Members} (hmembers : ∀ member ∈ members, holds member.2) :
    ∀ field, holds ((ofMembers members).get field) := by
  intro field
  rw [get_ofMembers]
  cases hlast : (members.filter field.counts).getLast? with
  | none => exact hdefault field
  | some member => exact hmembers member (List.mem_of_mem_filter (List.mem_of_getLast? hlast))

theorem isWritable_get_ofMembers {members : Members}
    (hmembers : (Value.object members).IsWritable) :
    ∀ field, ((ofMembers members).get field).IsWritable := by
  refine forall_get_ofMembers (fun field => ?_) fun member hmember =>
    (hmembers.member member hmember).2
  cases field <;> exact ⟨_, rfl⟩

end LoadOptions

end GridSource
