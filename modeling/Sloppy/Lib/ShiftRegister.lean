import Mathlib.Data.List.Basic
import Mathlib.Logic.Function.Iterate

/-! # Feedback shift registers

A register that moves down by one bit and takes up a polynomial for every bit that falls out. Steps are linear in
exclusive or, so many of them are those of the bits that fall out, beside the others moved down.
-/

namespace Sloppy.Lib.ShiftRegister

variable {w : Nat} (poly : BitVec w)

def step (x : BitVec w) : BitVec w := (x >>> 1) ^^^ if x.getLsbD 0 then poly else 0

/-- A step that takes in a bit of a message. -/
def shiftIn (x : BitVec w) (bit : Bool) : BitVec w := (x >>> 1) ^^^ if x.getLsbD 0 ^^ bit then poly else 0

def lowBits (n : Nat) (y : BitVec w) : List Bool := (List.range n).map y.getLsbD

variable {poly} {x y : BitVec w}

lemma step_xor : step poly (x ^^^ y) = step poly x ^^^ step poly y := by
  simp only [step, BitVec.getLsbD_xor, BitVec.ushiftRight_xor_distrib]
  ext i
  cases x.getLsbD 0 <;> cases y.getLsbD 0 <;> simp [Bool.xor_comm, Bool.xor_left_comm]

lemma iterate_step_xor (n : Nat) : (step poly)^[n] (x ^^^ y) = (step poly)^[n] x ^^^ (step poly)^[n] y := by
  induction n generalizing x y with
  | zero => rfl
  | succ n ih =>
    rw [Function.iterate_succ_apply, step_xor, ih, ← Function.iterate_succ_apply, ← Function.iterate_succ_apply]

lemma iterate_step_clear {n : Nat} (h : ∀ i < n, x.getLsbD i = false) : (step poly)^[n] x = x >>> n := by
  induction n with
  | zero => simp
  | succ n ih =>
    rw [Function.iterate_succ_apply', ih fun i hi => h i (Nat.lt_succ_of_lt hi), step]
    simp [h n (Nat.lt_succ_self n), BitVec.shiftRight_add]

lemma iterate_step_masked {n : Nat} {mask : BitVec w} (h : ∀ i < w, mask.getLsbD i = decide (i < n)) :
    (step poly)^[n] x = (x >>> n) ^^^ (step poly)^[n] (x &&& mask) := by
  have hSplit : x = (x &&& ~~~mask) ^^^ (x &&& mask) := by
    ext i
    simp only [BitVec.getElem_xor, BitVec.getElem_and, BitVec.getElem_not]
    cases x[i] <;> cases mask[i] <;> rfl
  have hClear : ∀ i < n, (x &&& ~~~mask).getLsbD i = false := by
    intro i hi
    by_cases hw : i < w
    · simp [h i hw, hi]
    · simp [BitVec.getLsbD_of_ge x i (Nat.le_of_not_lt hw)]
  have hHigh : (x &&& ~~~mask) >>> n = x >>> n := by
    ext i
    by_cases hw : n + i < w
    · rw [BitVec.getElem_ushiftRight, BitVec.getElem_ushiftRight, BitVec.getLsbD_and, BitVec.getLsbD_not, h _ hw]
      simp [hw]
    · simp [BitVec.getLsbD_of_ge x _ (Nat.le_of_not_lt hw)]
  conv_lhs => rw [hSplit, iterate_step_xor, iterate_step_clear hClear, hHigh]

lemma lowBits_succ (n : Nat) : lowBits (n + 1) y = y.getLsbD 0 :: lowBits n (y >>> 1) := by
  simp [lowBits, List.range_succ_eq_map, Function.comp_def, Nat.add_comm]

lemma iterate_step_shiftIn (n : Nat) :
    (step poly)^[n] (x ^^^ y) = (lowBits n y).foldl (shiftIn poly) x ^^^ (y >>> n) := by
  induction n generalizing x y with
  | zero => simp [lowBits]
  | succ n ih =>
    have hStep : step poly (x ^^^ y) = shiftIn poly x (y.getLsbD 0) ^^^ (y >>> 1) := by
      rw [step, shiftIn, BitVec.getLsbD_xor, BitVec.ushiftRight_xor_distrib]
      ac_rfl
    rw [Function.iterate_succ_apply, hStep, ih, lowBits_succ, List.foldl_cons, ← BitVec.shiftRight_add, Nat.add_comm 1]

end Sloppy.Lib.ShiftRegister
