import Mathlib.Algebra.Group.Nat.Defs
import Mathlib.Tactic.Common

/-! # Status codes and checked size arithmetic

The runtime's fallible functions return a status; the model returns `Except` with the code of a
failed status. The sizes below are those of the 64-bit targets the repository builds for.
-/

namespace Sloppy

inductive StatusCode where
  | invalidArgument | outOfMemory | overflow | outOfRange | assertionFailed | internal | unsupported | invalidState
  | capacityExceeded | staleResource | wrongResourceKind | cancelled | deadlineExceeded
  deriving DecidableEq

def uint32Max : Nat := 4294967295

def sizeMax : Nat := 18446744073709551615

def checkedAddSize (a b : Nat) : Except StatusCode Nat :=
  if sizeMax - b < a then .error .overflow else .ok (a + b)

def checkedMulSize (a b : Nat) : Except StatusCode Nat :=
  if a ≠ 0 ∧ sizeMax / a < b then .error .overflow else .ok (a * b)

lemma checkedAddSize_ok {a b r : Nat} (h : checkedAddSize a b = .ok r) : r = a + b := by
  unfold checkedAddSize at h
  split at h
  · cases h
  · exact (Except.ok.inj h).symm

lemma checkedAddSize_le {a b r : Nat} (h : checkedAddSize a b = .ok r) (hb : b ≤ sizeMax) : a + b ≤ sizeMax := by
  unfold checkedAddSize at h
  split at h
  · cases h
  · omega

lemma checkedAddSize_of_le {a b : Nat} (h : a + b ≤ sizeMax) : checkedAddSize a b = .ok (a + b) := by
  rw [checkedAddSize, if_neg (by omega)]

lemma checkedMulSize_ok {a b r : Nat} (h : checkedMulSize a b = .ok r) : r = a * b ∧ a * b ≤ sizeMax := by
  unfold checkedMulSize at h
  split at h
  · cases h
  rename_i hFits
  refine ⟨(Except.ok.inj h).symm, ?_⟩
  by_cases hZero : a = 0
  · rw [hZero, Nat.zero_mul]
    exact Nat.zero_le _
  have hLe : b ≤ sizeMax / a := by
    by_contra hLt
    exact hFits ⟨hZero, Nat.lt_of_not_le hLt⟩
  rw [Nat.mul_comm]
  exact (Nat.le_div_iff_mul_le (Nat.pos_of_ne_zero hZero)).mp hLe

lemma checkedMulSize_of_le {a b : Nat} (h : a * b ≤ sizeMax) : checkedMulSize a b = .ok (a * b) := by
  rw [checkedMulSize, if_neg]
  rintro ⟨hZero, hLt⟩
  have hLe := (Nat.le_div_iff_mul_le (Nat.pos_of_ne_zero hZero)).mpr (Nat.mul_comm a b ▸ h)
  omega

lemma exists_ok {ε α : Type} {result : Except ε α} {test : α → Bool} (h : result.toOption.any test = true) :
    ∃ value, result = .ok value ∧ test value = true := by
  cases result with
  | error => cases h
  | ok value => exact ⟨value, rfl, h⟩

end Sloppy
