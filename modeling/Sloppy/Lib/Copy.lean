import Mathlib.Data.List.Basic
import Mathlib.Tactic.Common

/-! # Copies into and inside a buffer

The element loops of a `memmove`: storing outside elements, and moving a range of the buffer up or down. Where source
and destination overlap, the direction decides whether an element is read before it is overwritten.
-/

namespace Sloppy.Lib.Copy

open List

universe u

variable {α : Type u}

def store (buffer : List α) (position : Nat) : List α → List α
  | [] => buffer
  | x :: rest => store (buffer.set position x) (position + 1) rest

def copyOne (buffer : List α) (dst src : Nat) : List α :=
  match buffer[src]? with
  | none => buffer
  | some x => buffer.set dst x

def moveUp (buffer : List α) (dst src : Nat) : Nat → List α
  | 0 => buffer
  | n + 1 => moveUp (copyOne buffer dst src) (dst + 1) (src + 1) n

def moveDown (buffer : List α) (dst src : Nat) : Nat → List α
  | 0 => buffer
  | n + 1 => moveDown (copyOne buffer (dst + n) (src + n)) dst src n

section

variable (buf : List α)

@[simp] lemma store_length (pos : Nat) (xs : List α) : (store buf pos xs).length = buf.length := by
  induction xs generalizing buf pos with
  | nil => rfl
  | cons x rest ih => rw [store, ih, length_set]

@[simp] lemma copyOne_length (buf : List α) (dst src : Nat) : (copyOne buf dst src).length = buf.length := by
  unfold copyOne
  split
  · rfl
  · exact length_set

@[simp] lemma moveUp_length (dst src n : Nat) : (moveUp buf dst src n).length = buf.length := by
  induction n generalizing buf dst src with
  | zero => rfl
  | succ n ih => rw [moveUp, ih, copyOne_length]

@[simp] lemma moveDown_length (buf : List α) (dst src n : Nat) : (moveDown buf dst src n).length = buf.length := by
  induction n generalizing buf with
  | zero => rfl
  | succ n ih => rw [moveDown, ih, copyOne_length]

lemma store_getElem? (buf : List α) (pos : Nat) (xs : List α) (hFit : pos + xs.length ≤ buf.length) (i : Nat) :
    (store buf pos xs)[i]? =
      if pos ≤ i ∧ i < pos + xs.length then xs[i - pos]? else buf[i]? := by
  induction xs generalizing buf pos with
  | nil =>
    rw [store, if_neg]
    simp only [length_nil]
    omega
  | cons x rest ih =>
    rw [length_cons] at hFit
    rw [store, ih (buf.set pos x) (pos + 1) (by rw [length_set]; omega), length_cons, getElem?_set]
    by_cases hHere : i = pos
    · subst hHere
      rw [if_neg (by omega), if_pos rfl, if_pos (by omega), if_pos (by omega), Nat.sub_self, getElem?_cons_zero]
    · rw [if_neg (Ne.symm hHere)]
      by_cases hIn : pos + 1 ≤ i ∧ i < pos + 1 + rest.length
      · rw [if_pos hIn, if_pos (by omega), show i - pos = (i - (pos + 1)) + 1 by omega, getElem?_cons_succ]
      · rw [if_neg hIn, if_neg (by omega)]

lemma copyOne_getElem? (dst src : Nat) (hSrc : src < buf.length) (hDst : dst < buf.length) (i : Nat) :
    (copyOne buf dst src)[i]? = if i = dst then buf[src]? else buf[i]? := by
  unfold copyOne
  rw [getElem?_eq_getElem hSrc]
  simp only [getElem?_set]
  by_cases hHere : dst = i
  · rw [if_pos hHere, if_pos hDst, if_pos hHere.symm]
  · rw [if_neg hHere, if_neg (Ne.symm hHere)]

lemma moveUp_getElem? (dst src n : Nat) (hApart : dst ≤ src ∨ src + n ≤ dst)
    (hSrc : src + n ≤ buf.length) (hDst : dst + n ≤ buf.length) (i : Nat) :
    (moveUp buf dst src n)[i]? =
      if dst ≤ i ∧ i < dst + n then buf[src + (i - dst)]? else buf[i]? := by
  induction n generalizing buf dst src with
  | zero =>
    rw [moveUp, if_neg]
    omega
  | succ n ih =>
    rw [moveUp, ih _ _ _ (by omega) (by rw [copyOne_length]; omega) (by rw [copyOne_length]; omega),
      copyOne_getElem? _ _ _ (by omega) (by omega), copyOne_getElem? _ _ _ (by omega) (by omega)]
    by_cases hHere : i = dst
    · subst hHere
      rw [if_neg (by omega), if_pos rfl, if_pos (by omega), Nat.sub_self, Nat.add_zero]
    by_cases hIn : dst + 1 ≤ i ∧ i < dst + 1 + n
    · rw [if_pos hIn, if_neg (by omega), if_pos (by omega),
        show src + 1 + (i - (dst + 1)) = src + (i - dst) by omega]
    · rw [if_neg hIn, if_neg hHere, if_neg (by omega)]

lemma moveDown_getElem? (dst src n : Nat) (hLe : src ≤ dst) (hFit : dst + n ≤ buf.length) (i : Nat) :
    (moveDown buf dst src n)[i]? =
      if dst ≤ i ∧ i < dst + n then buf[src + (i - dst)]? else buf[i]? := by
  induction n generalizing buf with
  | zero =>
    rw [moveDown, if_neg]
    omega
  | succ n ih =>
    rw [moveDown, ih _ (by rw [copyOne_length]; omega),
      copyOne_getElem? _ _ _ (by omega) (by omega), copyOne_getElem? _ _ _ (by omega) (by omega)]
    by_cases hHere : i = dst + n
    · subst hHere
      rw [if_neg (by omega), if_pos rfl, if_pos (by omega), show dst + n - dst = n by omega]
    · by_cases hIn : dst ≤ i ∧ i < dst + n
      · rw [if_pos hIn, if_neg (by omega), if_pos (by omega)]
      · rw [if_neg hIn, if_neg hHere, if_neg (by omega)]

lemma store_take (pos : Nat) (xs : List α) (hFit : pos + xs.length ≤ buf.length) :
    (store buf pos xs).take (pos + xs.length) = buf.take pos ++ xs := by
  apply ext_getElem?
  intro i
  rw [getElem?_take, store_getElem? _ _ _ hFit, getElem?_append, getElem?_take, length_take, Nat.min_eq_left (by omega)]
  by_cases hBefore : i < pos
  · rw [if_pos hBefore, if_pos hBefore, if_pos (by omega), if_neg (by omega)]
  rw [if_neg hBefore]
  by_cases hIn : i < pos + xs.length
  · rw [if_pos hIn, if_pos (by omega)]
  · rw [if_neg hIn, getElem?_eq_none (by omega)]

end

lemma take_drop_of_getElem? {buf result : List α} {src n : Nat}
    (h : ∀ i, result[i]? = if 0 ≤ i ∧ i < 0 + n then buf[src + (i - 0)]? else buf[i]?) :
    result.take n = (buf.take (src + n)).drop src := by
  apply ext_getElem?
  intro i
  rw [getElem?_take, h, getElem?_drop, getElem?_take, Nat.sub_zero]
  by_cases hIn : i < n
  · rw [if_pos hIn, if_pos (by omega), if_pos (by omega)]
  · rw [if_neg hIn, if_neg (by omega)]

end Sloppy.Lib.Copy
