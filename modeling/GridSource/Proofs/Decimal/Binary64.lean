import GridSource.Decimal.Binary64
import Mathlib.Algebra.Order.Field.Rat
import Mathlib.Tactic.NormNum

/-!
# The rational a double stands for

A finite double is a rational number.  The integer that is read off a double is that
number, and an integer is read off whenever the number is one.
-/

namespace GridSource.Binary64

def sign (negative : Bool) : ℤ := if negative then -1 else 1

def toRat? : Binary64 → Option ℚ
  | .finite negative mantissa exponent => some (sign negative * mantissa * 2 ^ exponent)
  | _ => none

theorem isUnit_sign (negative : Bool) : IsUnit (sign negative) := by
  cases negative
  · exact isUnit_one
  · exact isUnit_one.neg

theorem signed_eq (negative : Bool) (size : ℕ) :
    (if negative then -(size : ℤ) else size) = sign negative * size := by
  cases negative <;> simp [sign]

variable {negative : Bool} {mantissa : ℕ} {exponent whole : ℤ}

theorem toInt?_of_nonneg (hexponent : 0 ≤ exponent) :
    toInt? (.finite negative mantissa exponent) =
      some (sign negative * (mantissa * 2 ^ exponent.toNat : ℕ)) := by
  rw [← signed_eq]
  simp only [toInt?, if_pos hexponent]
  rfl

theorem toInt?_of_dvd (hexponent : exponent < 0) {size : ℕ}
    (hmantissa : mantissa = 2 ^ (-exponent).toNat * size) :
    toInt? (.finite negative mantissa exponent) = some (sign negative * size) := by
  have hmod : mantissa % Nat.pow 2 (-exponent).toNat = 0 := by
    rw [hmantissa]
    exact Nat.mul_mod_right _ _
  have hdiv : mantissa / Nat.pow 2 (-exponent).toNat = size := by
    rw [hmantissa]
    exact Nat.mul_div_cancel_left size (Nat.two_pow_pos _)
  rw [← signed_eq]
  simp only [toInt?, if_neg (Int.not_le.mpr hexponent), if_pos hmod, hdiv]
  rfl

theorem toInt?_of_not_dvd (hexponent : exponent < 0)
    (hmantissa : ¬ 2 ^ (-exponent).toNat ∣ mantissa) :
    toInt? (.finite negative mantissa exponent) = none := by
  have hmod : mantissa % Nat.pow 2 (-exponent).toNat ≠ 0 := fun hzero =>
    hmantissa (Nat.dvd_of_mod_eq_zero hzero)
  simp only [toInt?, if_neg (Int.not_le.mpr hexponent), if_neg hmod]
  rfl

theorem div_eq_int_iff (power : ℕ) :
    (sign negative * mantissa * (2 ^ power)⁻¹ : ℚ) = whole ↔
      sign negative * mantissa = whole * 2 ^ power := by
  have hpower : (2 ^ power : ℚ) ≠ 0 := pow_ne_zero _ two_ne_zero
  rw [← div_eq_mul_inv, div_eq_iff hpower]
  exact_mod_cast Iff.rfl

theorem toInt?_eq_some_iff {number : Binary64} :
    number.toInt? = some whole ↔ number.toRat? = some (whole : ℚ) := by
  cases number with
  | infinite => simp [toInt?, toRat?]
  | notANumber => simp [toInt?, toRat?]
  | finite negative mantissa exponent =>
      rw [toRat?, Option.some.injEq]
      rcases Int.lt_or_le exponent 0 with hexponent | hexponent
      · obtain ⟨power, rfl⟩ : ∃ power : ℕ, exponent = -power := ⟨(-exponent).toNat, by omega⟩
        have hpower : (- -(power : ℤ)).toNat = power := by omega
        rw [zpow_neg, zpow_natCast, div_eq_int_iff]
        by_cases hdivides : 2 ^ power ∣ mantissa
        · obtain ⟨size, rfl⟩ := hdivides
          rw [toInt?_of_dvd hexponent (by rw [hpower]), Option.some.injEq]
          push_cast
          rw [mul_left_comm, mul_comm whole, mul_right_inj' (pow_ne_zero _ two_ne_zero)]
        · rw [toInt?_of_not_dvd hexponent (by rwa [hpower])]
          refine iff_of_false (by simp) fun hwhole => hdivides ?_
          have hproduct : (2 ^ power : ℤ) ∣ sign negative * mantissa :=
            ⟨whole, hwhole.trans (mul_comm _ _)⟩
          rw [(isUnit_sign negative).dvd_mul_left] at hproduct
          exact_mod_cast hproduct
      · obtain ⟨power, rfl⟩ : ∃ power : ℕ, exponent = power := ⟨exponent.toNat, by omega⟩
        rw [toInt?_of_nonneg hexponent, zpow_natCast, Option.some.injEq, Int.toNat_natCast,
          mul_assoc]
        exact_mod_cast Iff.rfl

end GridSource.Binary64
