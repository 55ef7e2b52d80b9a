import Mathlib.Data.Nat.Digits.Defs
import Mathlib.Tactic.Common

/-! # Decimal texts

The text of a number by repeated division, with a bound on the number of digits. With enough digits the
text determines the number.
-/

namespace Sloppy.Lib.Decimal

open List

def reversedDigits : Nat → Nat → List Nat
  | 0, _ => []
  | bound + 1, value =>
    value % 10 :: (if value / 10 = 0 then [] else reversedDigits bound (value / 10))

def digitByte (digit : Nat) : UInt8 := UInt8.ofNat (48 + digit)

def decimal (bound value : Nat) : List UInt8 := ((reversedDigits bound value).map digitByte).reverse

variable {bound value : Nat}

lemma ofDigits_reversedDigits (h : value < 10 ^ bound) : Nat.ofDigits 10 (reversedDigits bound value) = value := by
  induction bound generalizing value with
  | zero =>
    rw [Nat.pow_zero, Nat.lt_one_iff] at h
    rw [h]
    rfl
  | succ bound ih =>
    rw [reversedDigits, Nat.ofDigits_cons]
    split
    · exact (Nat.add_zero _).trans (Nat.mod_eq_of_lt (by omega))
    · rw [ih (by omega)]
      exact Nat.mod_add_div value 10

lemma lt_ten_of_mem_reversedDigits {digit : Nat} (h : digit ∈ reversedDigits bound value) : digit < 10 := by
  induction bound generalizing value with
  | zero => cases h
  | succ bound ih =>
    rw [reversedDigits, mem_cons] at h
    obtain rfl | h := h
    · exact Nat.mod_lt _ (by omega)
    · split at h
      · cases h
      · exact ih h

lemma reversedDigits_bound {other : Nat} (h : value < 10 ^ bound) (hOther : value < 10 ^ other) (hBound : 0 < bound)
    (hOtherBound : 0 < other) : reversedDigits bound value = reversedDigits other value := by
  induction bound generalizing other value with
  | zero => exact absurd hBound (Nat.lt_irrefl 0)
  | succ bound ih =>
    obtain ⟨other, rfl⟩ := Nat.exists_eq_succ_of_ne_zero (Nat.ne_of_gt hOtherBound)
    rw [reversedDigits, reversedDigits]
    split
    · rfl
    have hPositive : 0 < bound := by
      rcases bound with _ | bound
      · omega
      · exact Nat.succ_pos _
    have hOtherPositive : 0 < other := by
      rcases other with _ | other
      · omega
      · exact Nat.succ_pos _
    rw [ih (by omega) (by omega) hPositive hOtherPositive]

def readDecimal (text : List UInt8) : Nat := Nat.ofDigits 10 (text.reverse.map fun b => b.toNat - 48)

lemma readDecimal_decimal {bound value : Nat} (h : value < 10 ^ bound) :
    readDecimal (decimal bound value) = value := by
  have hDigits : (reversedDigits bound value).map ((fun b => b.toNat - 48) ∘ digitByte) =
      reversedDigits bound value := by
    conv_rhs => rw [← map_id (reversedDigits bound value)]
    apply map_congr_left
    intro digit hDigit
    have hLess := lt_ten_of_mem_reversedDigits hDigit
    rw [Function.comp_apply, digitByte, UInt8.toNat_ofNat', id]
    omega
  rw [readDecimal, decimal, reverse_reverse, map_map, hDigits, ofDigits_reversedDigits h]

lemma decimal_bound {bound other value : Nat} (h : value < 10 ^ bound) (hOther : value < 10 ^ other)
    (hBound : 0 < bound) (hOtherBound : 0 < other) : decimal bound value = decimal other value := by
  rw [decimal, decimal, reversedDigits_bound h hOther hBound hOtherBound]

lemma length_decimal_le (bound value : Nat) : (decimal bound value).length ≤ bound := by
  rw [decimal, length_reverse, length_map]
  induction bound generalizing value with
  | zero => exact Nat.le_refl 0
  | succ bound ih =>
    rw [reversedDigits, length_cons]
    split
    · exact Nat.succ_le_succ (Nat.zero_le _)
    · exact Nat.succ_le_succ (ih _)

lemma mem_decimal {b : UInt8} (h : b ∈ decimal bound value) : 48 ≤ b ∧ b ≤ 57 := by
  rw [decimal, mem_reverse, mem_map] at h
  obtain ⟨digit, hDigit, rfl⟩ := h
  have hLess := lt_ten_of_mem_reversedDigits hDigit
  rw [digitByte, UInt8.le_iff_toNat_le, UInt8.le_iff_toNat_le, UInt8.toNat_ofNat']
  simp only [UInt8.toNat_ofNat]
  omega

end Sloppy.Lib.Decimal
