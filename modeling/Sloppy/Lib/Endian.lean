import Mathlib.Data.List.Basic
import Mathlib.Data.Nat.Bitwise
import Mathlib.Tactic.Common
import Mathlib.Tactic.Ring

/-! # Words as bytes

A number is written as a fixed count of bytes, least significant first, or most significant first as on the wire.
Reading what was written gives the number modulo the word size.
-/

namespace Sloppy.Lib.LittleEndian

open List

def toBytes : Nat → Nat → List UInt8
  | 0, _ => []
  | width + 1, n => UInt8.ofNat n :: toBytes width (n / 256)

def fromBytes : List UInt8 → Nat
  | [] => 0
  | b :: rest => b.toNat + 256 * fromBytes rest

@[simp] lemma toBytes_length (width n : Nat) : (toBytes width n).length = width := by
  induction width generalizing n with
  | zero => rfl
  | succ width ih => rw [toBytes, length_cons, ih]

lemma fromBytes_lt (bytes : List UInt8) : fromBytes bytes < 256 ^ bytes.length := by
  induction bytes with
  | nil => exact Nat.one_pos
  | cons b =>
    have hByte := b.toNat_lt
    rw [fromBytes, length_cons, Nat.pow_succ]
    omega

lemma fromBytes_toBytes (width n : Nat) : fromBytes (toBytes width n) = n % 256 ^ width := by
  induction width generalizing n with
  | zero => rw [Nat.pow_zero, Nat.mod_one, toBytes, fromBytes]
  | succ width ih =>
    have hLow : (UInt8.ofNat n).toNat = n % 256 := UInt8.toNat_ofNat'
    rw [toBytes, fromBytes, ih, hLow, Nat.pow_succ', Nat.mod_mul]

lemma fromBytes_toBytes_of_lt {width n : Nat} (h : n < 256 ^ width) : fromBytes (toBytes width n) = n := by
  rw [fromBytes_toBytes, Nat.mod_eq_of_lt h]

lemma toBytes_fromBytes (bytes : List UInt8) : toBytes bytes.length (fromBytes bytes) = bytes := by
  induction bytes with
  | nil => rfl
  | cons b rest ih =>
    have hByte := b.toNat_lt
    have hLow : UInt8.ofNat (b.toNat + 256 * fromBytes rest) = b := by
      apply UInt8.toNat_inj.mp
      rw [UInt8.toNat_ofNat']
      omega
    have hHigh : (b.toNat + 256 * fromBytes rest) / 256 = fromBytes rest := by omega
    rw [length_cons, toBytes, fromBytes, hLow, hHigh, ih]

lemma fromBytes_append (low high : List UInt8) :
    fromBytes (low ++ high) = fromBytes low + 256 ^ low.length * fromBytes high := by
  induction low with
  | nil => rw [nil_append, fromBytes, length_nil, Nat.pow_zero, Nat.one_mul, Nat.zero_add]
  | cons b rest ih =>
    rw [cons_append, fromBytes, fromBytes, ih, length_cons, Nat.pow_succ]
    ring

lemma or_shiftLeft {low high bits : Nat} (h : low < 2 ^ bits) :
    low ||| (high <<< bits) = low + 2 ^ bits * high := by
  rw [Nat.or_comm, ← Nat.shiftLeft_add_eq_or_of_lt h, Nat.shiftLeft_eq]
  ring

end Sloppy.Lib.LittleEndian

namespace Sloppy.Lib.BigEndian

open List

def toBytes (width n : Nat) : List UInt8 := (LittleEndian.toBytes width n).reverse

def fromBytes (bytes : List UInt8) : Nat := LittleEndian.fromBytes bytes.reverse

lemma toBytes_zero (n : Nat) : toBytes 0 n = [] := rfl

lemma toBytes_succ (width n : Nat) : toBytes (width + 1) n = toBytes width (n / 256) ++ [UInt8.ofNat n] := by
  rw [toBytes, LittleEndian.toBytes, reverse_cons, toBytes]

lemma fromBytes_nil : fromBytes [] = 0 := rfl

lemma fromBytes_concat (bytes : List UInt8) (b : UInt8) :
    fromBytes (bytes ++ [b]) = fromBytes bytes * 256 + b.toNat := by
  rw [fromBytes, reverse_concat, LittleEndian.fromBytes, fromBytes, Nat.add_comm, Nat.mul_comm]

lemma fromBytes_cons (b : UInt8) (bytes : List UInt8) :
    fromBytes (b :: bytes) = b.toNat * 256 ^ bytes.length + fromBytes bytes := by
  rw [fromBytes, reverse_cons, LittleEndian.fromBytes_append, length_reverse,
    LittleEndian.fromBytes, LittleEndian.fromBytes, fromBytes, Nat.add_comm, Nat.mul_zero, Nat.add_zero,
    Nat.mul_comm]

lemma fromBytes_lt (bytes : List UInt8) : fromBytes bytes < 256 ^ bytes.length := by
  have hLess := LittleEndian.fromBytes_lt bytes.reverse
  rwa [length_reverse] at hLess

lemma fromBytes_toBytes {width n : Nat} (h : n < 256 ^ width) : fromBytes (toBytes width n) = n := by
  rw [fromBytes, toBytes, reverse_reverse, LittleEndian.fromBytes_toBytes_of_lt h]

lemma toBytes_fromBytes (bytes : List UInt8) : toBytes bytes.length (fromBytes bytes) = bytes := by
  have hBack := LittleEndian.toBytes_fromBytes bytes.reverse
  rw [length_reverse] at hBack
  rw [toBytes, fromBytes, hBack, reverse_reverse]

end Sloppy.Lib.BigEndian
