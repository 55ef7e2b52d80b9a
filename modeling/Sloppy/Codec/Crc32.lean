import Sloppy.Lib.ShiftRegister

/-! # CRC-32

`crc32` of `codec.js` with its table, and CRC-32/ISO-HDLC a bit at a time. The numbers are those of the bitwise
operators, which know only the lowest 32 bits.
-/

namespace Sloppy.Codec

open Lib.ShiftRegister

def crc32Polynomial : BitVec 32 := 0xedb88320

def makeCrc32Table : List (BitVec 32) :=
  (List.range 256).map fun index =>
    (List.range 8).foldl (fun value _ => (value >>> 1) ^^^ if value &&& 1 ≠ 0 then crc32Polynomial else 0)
      (BitVec.ofNat 32 index)

/-- The body of the loop. -/
def crc32Byte (crc : BitVec 32) (byte : UInt8) : BitVec 32 :=
  (crc >>> 8) ^^^ makeCrc32Table.getD ((crc ^^^ byte.toBitVec.setWidth 32) &&& 0xff).toNat 0

def crc32 (bytes : List UInt8) : BitVec 32 := bytes.foldl crc32Byte 0xffffffff ^^^ 0xffffffff

/-- The register starts with ones, takes in the bits of every byte from the lowest on, and is complemented. -/
def crc32Bitwise (bytes : List UInt8) : BitVec 32 :=
  ~~~(bytes.flatMap fun byte => lowBits 8 byte.toBitVec).foldl (shiftIn crc32Polynomial) (BitVec.allOnes 32)

lemma getD_makeCrc32Table {index : Nat} (h : index < 256) :
    makeCrc32Table.getD index 0 = (step crc32Polynomial)^[8] (BitVec.ofNat 32 index) := by
  have hBit (value : BitVec 32) : (value &&& 1 ≠ 0) = (value.getLsbD 0 = true) := by
    rw [show (1 : BitVec 32) = 1#32 from rfl, BitVec.and_one_eq_setWidth_ofBool_getLsbD]
    cases value.getLsbD 0 <;> decide
  simp only [makeCrc32Table, hBit]
  simp [List.getD_eq_getElem?_getD, h]
  rfl

lemma crc32Byte_eq (crc : BitVec 32) (byte : UInt8) :
    crc32Byte crc byte = (lowBits 8 byte.toBitVec).foldl (shiftIn crc32Polynomial) crc := by
  have hLow : ((crc ^^^ byte.toBitVec.setWidth 32) &&& 0xff).toNat < 256 := by
    exact Nat.and_lt_two_pow _ (by decide : _ < 2 ^ 8)
  have hSmall : byte.toBitVec.setWidth 32 >>> 8 = 0#32 := by
    ext i
    simp
  have hBits : lowBits 8 (byte.toBitVec.setWidth 32) = lowBits 8 byte.toBitVec := by
    simp only [lowBits, List.map_inj_left, List.mem_range, BitVec.getLsbD_setWidth]
    intro i hi
    rw [decide_eq_true (by omega), Bool.true_and]
  have hSteps := @iterate_step_shiftIn 32 crc32Polynomial crc (byte.toBitVec.setWidth 32) 8
  rw [hSmall, BitVec.xor_zero, hBits, @iterate_step_masked 32 _ _ 8 0xff (by decide), BitVec.ushiftRight_xor_distrib,
    hSmall, BitVec.xor_zero] at hSteps
  rw [crc32Byte, getD_makeCrc32Table hLow, BitVec.ofNat_toNat, BitVec.setWidth_eq, hSteps]

theorem crc32_eq_bitwise (bytes : List UInt8) : crc32 bytes = crc32Bitwise bytes := by
  have hFold : ∀ crc, bytes.foldl crc32Byte crc =
      (bytes.flatMap fun byte => lowBits 8 byte.toBitVec).foldl (shiftIn crc32Polynomial) crc := by
    induction bytes with
    | nil => exact fun _ => rfl
    | cons byte bytes ih =>
      intro crc
      rw [List.foldl_cons, List.flatMap_cons, List.foldl_append, crc32Byte_eq, ih]
  rw [crc32, crc32Bitwise, hFold]
  exact BitVec.xor_allOnes

end Sloppy.Codec
