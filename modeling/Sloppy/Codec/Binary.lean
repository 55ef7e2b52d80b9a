import Mathlib.Data.List.Induction
import Sloppy.Lib.Action
import Sloppy.Lib.Endian

/-! # Binary readers and writers

`BinaryReader` and `BinaryWriter` of `codec.js`. Whether memory can be allocated is given for every write. What a
writer has accepted stands one field after the other in its output, and the same reads give it back.
-/

namespace Sloppy.Codec

open Lib List

inductive BinaryField where
  | u8 | i8 | u16le | u16be | i16le | i16be | u32le | u32be | i32le | i32be | u64le | u64be | i64le | i64be
  deriving DecidableEq

namespace BinaryField

def width : BinaryField → Nat
  | u8 | i8 => 1
  | u16le | u16be | i16le | i16be => 2
  | u32le | u32be | i32le | i32be => 4
  | u64le | u64be | i64le | i64be => 8

def signed : BinaryField → Bool
  | i8 | i16le | i16be | i32le | i32be | i64le | i64be => true
  | _ => false

def littleEndian : BinaryField → Bool
  | u16le | i16le | u32le | i32le | u64le | i64le => true
  | _ => false

def range (field : BinaryField) : Int × Int :=
  if field.signed then (-2 ^ (field.width * 8 - 1), 2 ^ (field.width * 8 - 1) - 1) else (0, 2 ^ (field.width * 8) - 1)

def name (field : BinaryField) : String :=
  (if field.signed then ".i" else ".u") ++ toString (field.width * 8) ++
    if field.width = 1 then "" else if field.littleEndian then "le" else "be"

end BinaryField

def binaryBoundsError (message : String) : String := "SLOPPY_E_CODEC_BINARY_READ_OUT_OF_BOUNDS: " ++ message

def binaryFieldError (message : String) : String := "SLOPPY_E_CODEC_BINARY_INVALID_ENDIAN_OR_FIELD_SIZE: " ++ message

/-! ## Reading -/

/-- `index` is the exponent of the first byte. -/
def readUnsignedNumber (value index : Nat) : List UInt8 → Nat
  | [] => value
  | byte :: rest => readUnsignedNumber (value + byte.toNat * 2 ^ (8 * index)) (index + 1) rest

def readUnsignedBigInt (bytes : List UInt8) : Nat := bytes.foldl (fun value byte => (value <<< 8) ||| byte.toNat) 0

structure BinaryReader where
  bytes : List UInt8
  offset : Nat

namespace BinaryReader

def remaining (reader : BinaryReader) : Nat := reader.bytes.length - reader.offset

/-- `#reserve`, with the bytes that it reserves. -/
def reserve (length : Nat) (operation : String) : Action BinaryReader String (List UInt8) := fun reader =>
  if length > reader.remaining then
    (reader, .error (binaryBoundsError ("BinaryReader" ++ operation ++ " requires " ++ toString length ++
      " byte(s), but only " ++ toString reader.remaining ++ " remain.")))
  else ({ reader with offset := reader.offset + length }, .ok ((reader.bytes.drop reader.offset).take length))

end BinaryReader

/-- `#readNumber` and `#readBigInt` on the bytes they reserve. -/
def BinaryField.value (field : BinaryField) (bytes : List UInt8) : Int :=
  let unsigned : Int :=
    if field.width = 8 then readUnsignedBigInt (if field.littleEndian then bytes.reverse else bytes)
    else readUnsignedNumber 0 0 (if field.littleEndian then bytes else bytes.reverse)
  if field.signed ∧ unsigned ≥ 2 ^ (field.width * 8 - 1) then unsigned - 2 ^ (field.width * 8) else unsigned

/-! ## Writing -/

def writeUnsignedNumber (width value : Nat) : List UInt8 :=
  (range width).map fun index => UInt8.ofNat (value / 2 ^ (8 * index) &&& 0xff)

def writeUnsignedBigInt (width value : Nat) : List UInt8 :=
  (range width).map fun index => UInt8.ofNat ((value >>> (8 * index)) &&& 0xff)

structure BinaryWriter where
  bytes : List UInt8
  length : Nat
  maxCapacity : Nat

/-- The loop of `#ensureCapacity`. Every round doubles, so `required` rounds are enough. -/
def doubled (required maxCapacity : Nat) : Nat → Nat → Nat
  | 0, next => next
  | rounds + 1, next =>
    if next < required then
      if next * 2 > maxCapacity then maxCapacity else doubled required maxCapacity rounds (next * 2)
    else next

namespace BinaryWriter

def defaultCapacity : Nat := 64

def defaultMaxCapacity : Nat := 64 * 1024 * 1024

def new (allocates : Bool) (initialCapacity maxCapacity : Option Nat) : Except String BinaryWriter :=
  let initial := initialCapacity.getD defaultCapacity
  let most := maxCapacity.getD defaultMaxCapacity
  if initial > defaultMaxCapacity then
    .error (binaryFieldError "Binary.writer initialCapacity must not exceed the Binary.writer runtime maximum.")
  else if most > defaultMaxCapacity then
    .error (binaryFieldError "Binary.writer maxCapacity must not exceed the Binary.writer runtime maximum.")
  else if initial > most then .error (binaryFieldError "Binary.writer initialCapacity must not exceed maxCapacity.")
  else if allocates then .ok ⟨replicate initial 0, 0, most⟩
  else .error (binaryFieldError "Binary.writer initialCapacity could not be allocated.")

def toBytes (writer : BinaryWriter) : List UInt8 := writer.bytes.take writer.length

def ensureCapacity (allocates : Bool) (required : Nat) (operation : String) : Action BinaryWriter String Unit :=
  fun writer =>
  if required ≤ writer.bytes.length then (writer, .ok ())
  else if allocates then
    let next := doubled required writer.maxCapacity required (max 1 writer.bytes.length)
    ({ writer with bytes := writer.toBytes ++ replicate (next - writer.toBytes.length) 0 }, .ok ())
  else (writer, .error (binaryFieldError ("BinaryWriter" ++ operation ++ " could not grow Binary.writer capacity.")))

def reserve (allocates : Bool) (length : Nat) (operation : String) : Action BinaryWriter String Nat := fun writer =>
  if length > writer.maxCapacity - writer.length then
    (writer, .error (binaryFieldError ("BinaryWriter" ++ operation ++ " would exceed Binary.writer maxCapacity.")))
  else
    match ensureCapacity allocates (writer.length + length) operation writer with
    | (grown, .error error) => (grown, .error error)
    | (grown, .ok ()) => ({ grown with length := writer.length + length }, .ok writer.length)

/-- Reserves the place of the bytes and sets them there. -/
def append (allocates : Bool) (bytes : List UInt8) (operation : String) : Action BinaryWriter String Unit := do
  let offset ← reserve allocates bytes.length operation
  fun writer =>
    ({ writer with bytes := writer.bytes.take offset ++ bytes ++ writer.bytes.drop (offset + bytes.length) }, .ok ())

end BinaryWriter

/-- A write of a field, with the value if it is an integer of the kind of the field, or of bytes. -/
inductive Write where
  | number (field : BinaryField) (value : Option Int)
  | bytes (data : List UInt8)

namespace Write

def unsigned (field : BinaryField) (value : Int) : Nat :=
  (if value < 0 then value + 2 ^ (field.width * 8) else value).toNat

/-- What `#writeNumber` and `#writeBigInt` write for a value in the range. A single byte counts as little endian. -/
def encoded (field : BinaryField) (value : Int) : List UInt8 :=
  let bytes :=
    if field.width = 8 then writeUnsignedBigInt 8 (unsigned field value)
    else writeUnsignedNumber field.width (unsigned field value)
  if field.littleEndian ∨ field.width = 1 then bytes else bytes.reverse

def run (allocates : Bool) : Write → Action BinaryWriter String Unit
  | .number field value =>
    match value.filter fun value => field.range.1 ≤ value ∧ value ≤ field.range.2 with
    | none =>
      Action.fail (binaryFieldError ("BinaryWriter" ++ field.name ++ " value is outside the supported field range."))
    | some value => BinaryWriter.append allocates (encoded field value) field.name
  | .bytes data => BinaryWriter.append allocates data ".bytes"

def width : Write → Nat
  | .number field _ => field.width
  | .bytes data => data.length

/-- The read of the same type, with what it gives. -/
def read : Write → Action BinaryReader String Write
  | .number field _ => do
    let bytes ← BinaryReader.reserve field.width field.name
    return .number field (some (field.value bytes))
  | .bytes data => do
    let bytes ← BinaryReader.reserve data.length ".bytes"
    return .bytes bytes

end Write

/-- A series of writes, and those that are accepted. -/
def writeAll : BinaryWriter → List (Write × Bool) → BinaryWriter × List Write
  | writer, [] => (writer, [])
  | writer, (write, allocates) :: rest =>
    match write.run allocates writer with
    | (writer, .ok ()) => ((writeAll writer rest).1, write :: (writeAll writer rest).2)
    | (writer, .error _) => writeAll writer rest

def readAll : List Write → Action BinaryReader String (List Write)
  | [] => pure []
  | write :: rest => do
    let first ← write.read
    let others ← readAll rest
    return first :: others

/-! ## Words -/

lemma readUnsignedNumber_eq (value index : Nat) (bytes : List UInt8) :
    readUnsignedNumber value index bytes = value + 2 ^ (8 * index) * LittleEndian.fromBytes bytes := by
  induction bytes generalizing value index with
  | nil => rfl
  | cons byte rest ih =>
    rw [readUnsignedNumber, ih, LittleEndian.fromBytes, Nat.mul_succ, Nat.pow_add]
    ring

lemma readUnsignedBigInt_eq (bytes : List UInt8) : readUnsignedBigInt bytes = BigEndian.fromBytes bytes := by
  induction bytes using reverseRecOn with
  | nil => rfl
  | append_singleton front byte ih =>
    rw [readUnsignedBigInt] at ih
    rw [readUnsignedBigInt, foldl_append, ih, foldl_cons, foldl_nil, BigEndian.fromBytes_concat,
      ← Nat.shiftLeft_add_eq_or_of_lt byte.toNat_lt, Nat.shiftLeft_eq]

lemma writeUnsignedNumber_eq (width value : Nat) :
    writeUnsignedNumber width value = LittleEndian.toBytes width value := by
  induction width generalizing value with
  | zero => rfl
  | succ width ih =>
    have hByte : UInt8.ofNat (value / 2 ^ (8 * 0) &&& 0xff) = UInt8.ofNat value := by
      apply UInt8.toNat_inj.mp
      rw [Nat.and_two_pow_sub_one_eq_mod _ 8, UInt8.toNat_ofNat', UInt8.toNat_ofNat']
      omega
    rw [LittleEndian.toBytes, ← ih, writeUnsignedNumber, range_succ_eq_map, map_cons, hByte, map_map]
    simp only [Function.comp_def, Nat.mul_succ, Nat.pow_add, Nat.mul_comm _ (2 ^ 8), ← Nat.div_div_eq_div_mul]
    rfl

lemma writeUnsignedBigInt_eq (width value : Nat) :
    writeUnsignedBigInt width value = LittleEndian.toBytes width value := by
  simp only [writeUnsignedBigInt, Nat.shiftRight_eq_div_pow]
  exact writeUnsignedNumber_eq width value

section Fields

variable {field : BinaryField} {value : Int}

lemma encoded_eq : Write.encoded field value =
    if field.littleEndian then LittleEndian.toBytes field.width (Write.unsigned field value)
    else BigEndian.toBytes field.width (Write.unsigned field value) := by
  cases field <;> simp [Write.encoded, writeUnsignedBigInt_eq, writeUnsignedNumber_eq, BinaryField.width,
    BinaryField.littleEndian, LittleEndian.toBytes, BigEndian.toBytes]

lemma unsigned_lt (h : field.range.1 ≤ value ∧ value ≤ field.range.2) :
    Write.unsigned field value < 256 ^ field.width ∧
      (if field.signed ∧ (Write.unsigned field value : Int) ≥ 2 ^ (field.width * 8 - 1) then
        (Write.unsigned field value : Int) - 2 ^ (field.width * 8) else Write.unsigned field value) = value := by
  rw [Write.unsigned]
  cases field <;> simp [BinaryField.range, BinaryField.width, BinaryField.signed] at h ⊢ <;> split <;> omega

lemma length_encoded : (Write.encoded field value).length = field.width := by
  rw [encoded_eq]
  split <;> simp [BigEndian.toBytes]

lemma reader_reserve (front data rest : List UInt8) (operation : String) :
    BinaryReader.reserve data.length operation ⟨front ++ (data ++ rest), front.length⟩ =
      (⟨front ++ (data ++ rest), front.length + data.length⟩, .ok data) := by
  rw [BinaryReader.reserve, if_neg (by simp [BinaryReader.remaining]), drop_left, take_left]

lemma value_encoded (h : field.range.1 ≤ value ∧ value ≤ field.range.2) :
    field.value (Write.encoded field value) = value := by
  obtain ⟨hLt, hValue⟩ := unsigned_lt h
  have hWord := LittleEndian.fromBytes_toBytes_of_lt hLt
  rw [BinaryField.value, encoded_eq]
  cases field.littleEndian <;>
    simpa [readUnsignedBigInt_eq, readUnsignedNumber_eq, BigEndian.fromBytes, BigEndian.toBytes, hWord] using hValue

end Fields

/-! ## Runs -/

structure BinaryWriter.Fits (writer : BinaryWriter) : Prop where
  length_le : writer.length ≤ writer.bytes.length
  capped : writer.bytes.length ≤ writer.maxCapacity

lemma doubled_fits {required most : Nat} (hRequired : required ≤ most) (rounds : Nat) {next : Nat} (hPos : 1 ≤ next)
    (hRounds : required ≤ rounds + next) (hNext : next ≤ most) :
    required ≤ doubled required most rounds next ∧ doubled required most rounds next ≤ most := by
  induction rounds generalizing next with
  | zero => exact ⟨by rwa [Nat.zero_add] at hRounds, hNext⟩
  | succ rounds ih =>
    rw [doubled]
    split
    · split
      · exact ⟨hRequired, le_rfl⟩
      · exact ih (by omega) (by omega) (by omega)
    · exact ⟨by omega, hNext⟩

section Writers

variable {writer : BinaryWriter}

lemma reserve_cases (h : writer.Fits) (allocates : Bool) (length : Nat) (operation : String) :
    (∃ error, writer.reserve allocates length operation = (writer, .error error)) ∨
      ∃ bytes, BinaryWriter.reserve allocates length operation writer =
        (⟨bytes, writer.length + length, writer.maxCapacity⟩, .ok writer.length) ∧
        bytes.take writer.length = writer.toBytes ∧ writer.length + length ≤ bytes.length ∧
        bytes.length ≤ writer.maxCapacity := by
  obtain ⟨hLength, hCapped⟩ := h
  rw [BinaryWriter.reserve]
  split
  · exact .inl ⟨_, rfl⟩
  rw [BinaryWriter.ensureCapacity]
  split_ifs with hEnough hAllocates
  · exact .inr ⟨writer.bytes, rfl, rfl, hEnough, hCapped⟩
  · right
    have hTaken : writer.toBytes.length = writer.length := length_take_of_le hLength
    obtain ⟨hLow, hHigh⟩ := @doubled_fits (writer.length + length) writer.maxCapacity (by omega)
      (writer.length + length) (max 1 writer.bytes.length) (by omega) (by omega) (by omega)
    refine ⟨_, rfl, take_left' hTaken, ?_, ?_⟩
    · rw [length_append, length_replicate]
      omega
    · rw [length_append, length_replicate]
      omega
  · exact .inl ⟨_, rfl⟩

lemma append_cases (h : writer.Fits) (allocates : Bool) (data : List UInt8) (operation : String) :
    (∃ error, BinaryWriter.append allocates data operation writer = (writer, .error error)) ∨
      ∃ after, BinaryWriter.append allocates data operation writer = (after, .ok ()) ∧ after.Fits ∧
        after.toBytes = writer.toBytes ++ data := by
  obtain ⟨error, hError⟩ | ⟨bytes, hReserve, hTaken, hLength, hCapped⟩ :=
    reserve_cases h allocates data.length operation
  · exact .inl ⟨error, Action.bind_eq_of_error hError⟩
  · refine .inr ⟨_, Action.bind_eq_of_ok hReserve, ⟨?_, ?_⟩, ?_⟩
    · simp
      omega
    · simp
      omega
    · rw [BinaryWriter.toBytes, hTaken]
      exact take_left' (by rw [length_append, BinaryWriter.toBytes, length_take_of_le h.length_le])

/-- The bytes are those of the write, and reading them at any place gives it back. -/
def Write.Decodes (write : Write) (data : List UInt8) : Prop :=
  data.length = write.width ∧ ∀ front rest, write.read ⟨front ++ (data ++ rest), front.length⟩ =
    (⟨front ++ (data ++ rest), front.length + data.length⟩, .ok write)

lemma run_cases (h : writer.Fits) (allocates : Bool) (write : Write) :
    (∃ error, write.run allocates writer = (writer, .error error)) ∨
      ∃ after data, write.run allocates writer = (after, .ok ()) ∧ after.Fits ∧
        after.toBytes = writer.toBytes ++ data ∧ write.Decodes data := by
  cases write with
  | number field value =>
    cases hNumber : value.filter fun value => field.range.1 ≤ value ∧ value ≤ field.range.2 with
    | none => exact .inl ⟨_, by rw [Write.run, hNumber]; rfl⟩
    | some number =>
      obtain ⟨rfl, hRange⟩ := Option.filter_eq_some_iff.mp hNumber
      rw [Write.run, hNumber]
      refine (append_cases h allocates (Write.encoded field number) field.name).imp_right ?_
      rintro ⟨after, hRun, hFits, hBytes⟩
      refine ⟨after, _, hRun, hFits, hBytes, length_encoded, fun front rest => ?_⟩
      have hReserve := reader_reserve front (Write.encoded field number) rest field.name
      rw [length_encoded] at hReserve ⊢
      rw [Write.read, Action.bind_eq_of_ok hReserve, value_encoded (of_decide_eq_true hRange)]
      rfl
  | bytes data =>
    refine (append_cases h allocates data ".bytes").imp_right ?_
    rintro ⟨after, hRun, hFits, hBytes⟩
    exact ⟨after, data, hRun, hFits, hBytes, rfl,
      fun front rest => Action.bind_eq_of_ok (reader_reserve front data rest _)⟩

lemma writeAll_spec (h : writer.Fits) (attempts : List (Write × Bool)) :
    (writeAll writer attempts).1.Fits ∧ ∃ data, (writeAll writer attempts).1.toBytes = writer.toBytes ++ data ∧
      data.length = ((writeAll writer attempts).2.map Write.width).sum ∧
      ∀ front, readAll (writeAll writer attempts).2 ⟨front ++ data, front.length⟩ =
        (⟨front ++ data, front.length + data.length⟩, .ok (writeAll writer attempts).2) := by
  induction attempts generalizing writer with
  | nil => exact ⟨h, [], (append_nil _).symm, rfl, fun _ => rfl⟩
  | cons attempt rest ih =>
    obtain ⟨write, allocates⟩ := attempt
    obtain ⟨error, hError⟩ | ⟨after, data, hRun, hFits, hBytes, hWidth, hRead⟩ := run_cases h allocates write
    · rw [writeAll, hError]
      exact ih h
    obtain ⟨hFinal, others, hOthers, hLength, hReads⟩ := ih hFits
    rw [writeAll, hRun]
    refine ⟨hFinal, data ++ others, ?_, ?_, fun front => ?_⟩
    · rw [hOthers, hBytes, append_assoc]
    · rw [length_append, hWidth, hLength, map_cons, sum_cons]
    · have hRest := hReads (front ++ data)
      rw [append_assoc, length_append] at hRest
      rw [readAll, Action.bind_eq_of_ok (hRead front others), Action.bind_eq_of_ok hRest, length_append,
        ← Nat.add_assoc]
      rfl

end Writers

/-- Reading the output of a writer with the reads of the accepted writes gives them back and ends at its end. A rejected
write changes nothing. -/
theorem binary_round_trip (allocates : Bool) (initialCapacity maxCapacity : Option Nat) (writer : BinaryWriter)
    (hWriter : BinaryWriter.new allocates initialCapacity maxCapacity = .ok writer) (attempts : List (Write × Bool)) :
    let final := (writeAll writer attempts).1
    let accepted := (writeAll writer attempts).2
    readAll accepted ⟨final.toBytes, 0⟩ = (⟨final.toBytes, final.toBytes.length⟩, .ok accepted) ∧
      final.toBytes.length = (accepted.map Write.width).sum ∧
      ∀ write enough error, (Write.run enough write final).2 = .error error →
        (Write.run enough write final).1 = final := by
  have hFits : writer.Fits ∧ writer.toBytes = [] := by
    rw [BinaryWriter.new] at hWriter
    split_ifs at hWriter with h1 h2 h3 h4
    cases hWriter
    exact ⟨⟨Nat.zero_le _, length_replicate.trans_le (Nat.le_of_not_lt h3)⟩, rfl⟩
  obtain ⟨hFits, hEmpty⟩ := hFits
  obtain ⟨hFinal, data, hData, hLength, hRead⟩ := writeAll_spec hFits attempts
  have hReadAll := hRead []
  rw [hEmpty, nil_append] at hData
  rw [nil_append, length_nil, Nat.zero_add] at hReadAll
  refine ⟨hData ▸ hReadAll, hData ▸ hLength, fun write enough error hError => ?_⟩
  obtain ⟨other, hRun⟩ | ⟨after, -, hRun, -⟩ := run_cases hFinal enough write
  · rw [hRun]
  · rw [hRun] at hError
    cases hError

theorem binary_round_trip_grown : ∃ writer, BinaryWriter.new true (some 1) (some 3) = .ok writer ∧
      let attempts := [(Write.number .i16be (some (-2)), true), (.number .u16le (some 7), true), (.bytes [9], true)]
      (writeAll writer attempts).1.toBytes = [255, 254, 9] ∧
        readAll (writeAll writer attempts).2 ⟨(writeAll writer attempts).1.toBytes, 0⟩ =
          (⟨(writeAll writer attempts).1.toBytes, (writeAll writer attempts).1.toBytes.length⟩,
            .ok (writeAll writer attempts).2) :=
  ⟨_, rfl, by decide +kernel, (binary_round_trip true (some 1) (some 3) _ rfl _).1⟩

end Sloppy.Codec
