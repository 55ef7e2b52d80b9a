import Sloppy.Core.Status
import Sloppy.Lib.Endian

/-! # The frame codec

Frames as the frame module itself parses, validates and writes them, with header fields as wide as they are in memory.
Reading and writing undo each other but for the reserved bit in front of the stream identifier.
-/

namespace Sloppy.Http2.Codec

open Lib List

section

structure FrameHeader where
  length : UInt32
  type : UInt8
  flags : UInt8
  streamId : UInt32
  deriving DecidableEq

structure Frame where
  header : FrameHeader
  payload : List UInt8
  deriving DecidableEq

def frameHeaderBytes : Nat := 9

def minMaxFrameSize : UInt32 := 16384

def maxMaxFrameSize : UInt32 := 16777215

def flagEndStream : UInt8 := 0x1

def flagAck : UInt8 := 0x1

def flagEndHeaders : UInt8 := 0x4

def flagPadded : UInt8 := 0x8

def flagPriority : UInt8 := 0x20

def validFrameSize (maxFrameSize : UInt32) : Bool :=
  minMaxFrameSize ≤ maxFrameSize && maxFrameSize ≤ maxMaxFrameSize

def readU24 (b0 b1 b2 : UInt8) : UInt32 :=
  (b0.toUInt32 <<< 16) ||| (b1.toUInt32 <<< 8) ||| b2.toUInt32

def readU32 (b0 b1 b2 b3 : UInt8) : UInt32 :=
  (b0.toUInt32 <<< 24) ||| (b1.toUInt32 <<< 16) ||| (b2.toUInt32 <<< 8) ||| b3.toUInt32

def writeU24 (value : UInt32) : List UInt8 :=
  [((value >>> 16) &&& 0xff).toUInt8, ((value >>> 8) &&& 0xff).toUInt8, (value &&& 0xff).toUInt8]

def writeU32 (value : UInt32) : List UInt8 :=
  [((value >>> 24) &&& 0xff).toUInt8, ((value >>> 16) &&& 0xff).toUInt8, ((value >>> 8) &&& 0xff).toUInt8,
    (value &&& 0xff).toUInt8]

def payloadU31 (payload : List UInt8) (offset : Nat) : UInt32 :=
  match payload.drop offset with
  | b0 :: b1 :: b2 :: b3 :: _ => readU32 b0 b1 b2 b3 &&& 0x7fffffff
  | _ => 0

def FrameHeader.has (header : FrameHeader) (flag : UInt8) : Bool := header.flags &&& flag != 0

/-- Some flag is set that the frame type does not define. -/
def FrameHeader.hasOutside (header : FrameHeader) (allowed : UInt8) : Bool :=
  header.flags &&& ~~~allowed != 0

def invalid : Except StatusCode Unit := .error .invalidArgument

variable (frame : Frame)

def payloadHasPadding (bytesAfterPadLength : Nat) : Bool :=
  if !frame.header.has flagPadded then true
  else
    match frame.payload with
    | [] => false
    | padLength :: rest =>
      bytesAfterPadLength ≤ rest.length && padLength.toNat ≤ rest.length - bytesAfterPadLength

def validateData : Except StatusCode Unit :=
  if frame.header.streamId == 0 || frame.header.hasOutside 0x9 then invalid
  else if payloadHasPadding frame 0 then .ok () else invalid

def validateHeaders : Except StatusCode Unit :=
  let padded := frame.header.has flagPadded
  let priority := frame.header.has flagPriority
  if frame.header.streamId == 0 ||
      frame.header.hasOutside (flagEndStream ||| flagEndHeaders ||| flagPadded ||| flagPriority) then
    invalid
  else if frame.payload.length < (if padded then 1 else 0) + (if priority then 5 else 0) then invalid
  else if !payloadHasPadding frame (if priority then 5 else 0) then invalid
  else if priority && payloadU31 frame.payload (if padded then 1 else 0) == frame.header.streamId then
    invalid
  else .ok ()

def validatePriority : Except StatusCode Unit :=
  if frame.header.streamId == 0 || frame.payload.length != 5 || frame.header.flags != 0 then invalid
  else if payloadU31 frame.payload 0 == frame.header.streamId then invalid
  else .ok ()

def validateRstStream : Except StatusCode Unit :=
  if frame.header.streamId == 0 || frame.payload.length != 4 || frame.header.flags != 0 then invalid
  else .ok ()

def validateSettings : Except StatusCode Unit :=
  if frame.header.streamId != 0 || frame.header.hasOutside flagAck then invalid
  else if frame.header.has flagAck then if frame.payload.length == 0 then .ok () else invalid
  else if frame.payload.length % 6 != 0 then invalid
  else .ok ()

def validatePushPromise : Except StatusCode Unit :=
  let padded := frame.header.has flagPadded
  if frame.header.streamId == 0 || frame.header.hasOutside (flagEndHeaders ||| flagPadded) then invalid
  else if frame.payload.length < 4 + (if padded then 1 else 0) || !payloadHasPadding frame 4 then invalid
  else if payloadU31 frame.payload (if padded then 1 else 0) == 0 then invalid
  else .ok ()

def validatePing : Except StatusCode Unit :=
  if frame.header.streamId != 0 || frame.payload.length != 8 || frame.header.hasOutside flagAck then invalid
  else .ok ()

def validateGoaway : Except StatusCode Unit :=
  if frame.header.streamId != 0 || frame.payload.length < 8 || frame.header.flags != 0 then invalid
  else .ok ()

def validateWindowUpdate : Except StatusCode Unit :=
  if frame.payload.length != 4 || frame.header.flags != 0 then invalid
  else if payloadU31 frame.payload 0 == 0 then invalid
  else .ok ()

def validateContinuation : Except StatusCode Unit :=
  if frame.header.streamId == 0 || frame.header.hasOutside flagEndHeaders then invalid
  else .ok ()

def frameValidate (maxFrameSize : UInt32) : Except StatusCode Unit :=
  if !validFrameSize maxFrameSize || frame.header.length.toNat != frame.payload.length ||
      maxFrameSize < frame.header.length then invalid
  else
    match frame.header.type.toNat with
    | 0 => validateData frame
    | 1 => validateHeaders frame
    | 2 => validatePriority frame
    | 3 => validateRstStream frame
    | 4 => validateSettings frame
    | 5 => validatePushPromise frame
    | 6 => validatePing frame
    | 7 => validateGoaway frame
    | 8 => validateWindowUpdate frame
    | 9 => validateContinuation frame
    | _ => .ok ()

def frameHeaderParse : List UInt8 → Except StatusCode FrameHeader
  | b0 :: b1 :: b2 :: type :: flags :: b5 :: b6 :: b7 :: b8 :: _ =>
    .ok ⟨readU24 b0 b1 b2, type, flags, readU32 b5 b6 b7 b8 &&& 0x7fffffff⟩
  | _ => .error .invalidArgument

def frameHeaderWrite (header : FrameHeader) (capacity : Nat) : Except StatusCode (List UInt8) :=
  if capacity < frameHeaderBytes || maxMaxFrameSize < header.length || header.streamId &&& 0x80000000 != 0
  then .error .invalidArgument
  else .ok (writeU24 header.length ++ [header.type, header.flags] ++ writeU32 header.streamId)

def frameParse (bytes : List UInt8) (maxFrameSize : UInt32) : Except StatusCode Frame :=
  if !validFrameSize maxFrameSize then .error .invalidArgument
  else
    match frameHeaderParse bytes with
    | .error code => .error code
    | .ok header =>
      if maxFrameSize < header.length || bytes.length < frameHeaderBytes + header.length.toNat then
        .error .invalidArgument
      else
        let frame : Frame := ⟨header, (bytes.drop frameHeaderBytes).take header.length.toNat⟩
        match frameValidate frame maxFrameSize with
        | .error code => .error code
        | .ok () => .ok frame

def frameWrite (capacity : Nat) : Except StatusCode (List UInt8) :=
  if frame.header.length.toNat != frame.payload.length ||
      capacity < frameHeaderBytes + frame.payload.length then .error .invalidArgument
  else
    match frameHeaderWrite frame.header capacity with
    | .error code => .error code
    | .ok header => .ok (header ++ frame.payload)

def Frame.size : Nat := frameHeaderBytes + frame.payload.length

end

section Words

variable {bits : UInt32}

lemma shiftLeft_toNat (b : UInt8) (h : bits.toNat ≤ 24) : (b.toUInt32 <<< bits).toNat = b.toNat <<< bits.toNat := by
  have hByte := b.toNat_lt
  have hPower : 2 ^ bits.toNat ≤ 2 ^ 24 := Nat.pow_le_pow_right (by decide) h
  have hSmall : b.toNat * 2 ^ bits.toNat ≤ 255 * 2 ^ 24 := Nat.mul_le_mul (by omega) hPower
  rw [UInt32.toNat_shiftLeft, UInt8.toNat_toUInt32, Nat.mod_eq_of_lt (show bits.toNat < 32 by omega),
    Nat.shiftLeft_eq, Nat.mod_eq_of_lt (by omega)]

lemma shiftLeft_or {high low bits : Nat} (h : low < 2 ^ bits) :
    (high <<< bits) ||| low = high * 2 ^ bits + low := by
  rw [← Nat.shiftLeft_add_eq_or_of_lt h, Nat.shiftLeft_eq]

lemma readU24_toNat (b0 b1 b2 : UInt8) : (readU24 b0 b1 b2).toNat = BigEndian.fromBytes [b0, b1, b2] := by
  have h1 := b1.toNat_lt
  have h2 := b2.toNat_lt
  rw [readU24, UInt32.toNat_or, UInt32.toNat_or, shiftLeft_toNat _ (by decide),
    shiftLeft_toNat _ (by decide), UInt8.toNat_toUInt32, Nat.or_assoc]
  change b0.toNat <<< 16 ||| (b1.toNat <<< 8 ||| b2.toNat) = _
  rw [@shiftLeft_or b1.toNat b2.toNat 8 (by omega), shiftLeft_or (by omega)]
  simp [BigEndian.fromBytes_cons, BigEndian.fromBytes_nil]

lemma readU32_toNat (b0 b1 b2 b3 : UInt8) : (readU32 b0 b1 b2 b3).toNat = BigEndian.fromBytes [b0, b1, b2, b3] := by
  have h1 := b1.toNat_lt
  have h2 := b2.toNat_lt
  have h3 := b3.toNat_lt
  rw [readU32, UInt32.toNat_or, UInt32.toNat_or, UInt32.toNat_or, shiftLeft_toNat _ (by decide),
    shiftLeft_toNat _ (by decide), shiftLeft_toNat _ (by decide), UInt8.toNat_toUInt32, Nat.or_assoc,
    Nat.or_assoc]
  change b0.toNat <<< 24 ||| (b1.toNat <<< 16 ||| (b2.toNat <<< 8 ||| b3.toNat)) = _
  rw [@shiftLeft_or b2.toNat b3.toNat 8 (by omega), @shiftLeft_or b1.toNat _ 16 (by omega), shiftLeft_or (by omega)]
  simp [BigEndian.fromBytes_cons, BigEndian.fromBytes_nil]

lemma byteAbove (value : UInt32) (h : bits.toNat < 32) :
    ((value >>> bits) &&& 0xff).toUInt8 = UInt8.ofNat (value.toNat / 2 ^ bits.toNat) := by
  apply UInt8.toNat_inj.mp
  rw [UInt32.toNat_toUInt8, UInt32.toNat_and, UInt32.toNat_shiftRight, UInt8.toNat_ofNat',
    Nat.mod_eq_of_lt h, Nat.shiftRight_eq_div_pow]
  change (_ &&& (2 ^ 8 - 1)) % 2 ^ 8 = _
  rw [Nat.and_two_pow_sub_one_eq_mod, Nat.mod_mod]

lemma lowByte (value : UInt32) : (value &&& 0xff).toUInt8 = UInt8.ofNat value.toNat := by
  have hByte := byteAbove value (show (0 : UInt32).toNat < 32 by decide)
  rw [UInt32.shiftRight_zero] at hByte
  rw [hByte]
  exact congrArg UInt8.ofNat (Nat.div_one _)

lemma writeU24_eq (value : UInt32) : writeU24 value = BigEndian.toBytes 3 value.toNat := by
  rw [writeU24, byteAbove value (by decide), byteAbove value (by decide), lowByte,
    BigEndian.toBytes_succ, BigEndian.toBytes_succ, BigEndian.toBytes_succ, BigEndian.toBytes_zero,
    Nat.div_div_eq_div_mul]
  rfl

lemma writeU32_eq (value : UInt32) : writeU32 value = BigEndian.toBytes 4 value.toNat := by
  rw [writeU32, byteAbove value (by decide), byteAbove value (by decide), byteAbove value (by decide),
    lowByte, BigEndian.toBytes_succ, BigEndian.toBytes_succ, BigEndian.toBytes_succ,
    BigEndian.toBytes_succ, BigEndian.toBytes_zero, Nat.div_div_eq_div_mul, Nat.div_div_eq_div_mul,
    Nat.div_div_eq_div_mul]
  rfl

lemma writeU24_readU24 (b0 b1 b2 : UInt8) : writeU24 (readU24 b0 b1 b2) = [b0, b1, b2] := by
  rw [writeU24_eq, readU24_toNat]
  exact BigEndian.toBytes_fromBytes [b0, b1, b2]

lemma writeU32_readU32 (b0 b1 b2 b3 : UInt8) : writeU32 (readU32 b0 b1 b2 b3) = [b0, b1, b2, b3] := by
  rw [writeU32_eq, readU32_toNat]
  exact BigEndian.toBytes_fromBytes [b0, b1, b2, b3]

variable {value : UInt32}

lemma readU24_of_writeU24 {b0 b1 b2 : UInt8} (hSmall : value.toNat < 2 ^ 24) (h : writeU24 value = [b0, b1, b2]) :
    readU24 b0 b1 b2 = value := by
  apply UInt32.toNat_inj.mp
  rw [readU24_toNat, ← h, writeU24_eq, BigEndian.fromBytes_toBytes hSmall]

lemma readU32_of_writeU32 {b0 b1 b2 b3 : UInt8} (h : writeU32 value = [b0, b1, b2, b3]) :
    readU32 b0 b1 b2 b3 = value := by
  apply UInt32.toNat_inj.mp
  rw [readU32_toNat, ← h, writeU32_eq, BigEndian.fromBytes_toBytes value.toNat_lt]

lemma readU32_masked (b0 b1 b2 b3 : UInt8) :
    readU32 b0 b1 b2 b3 &&& 0x7fffffff = readU32 (b0 &&& 0x7f) b1 b2 b3 := by
  have h1 := b1.toNat_lt
  have h2 := b2.toNat_lt
  have h3 := b3.toNat_lt
  apply UInt32.toNat_inj.mp
  have hByte : (b0 &&& 0x7f).toNat = b0.toNat % 2 ^ 7 := by
    exact Nat.and_two_pow_sub_one_eq_mod b0.toNat 7
  have hWord : (readU32 b0 b1 b2 b3 &&& 0x7fffffff).toNat = (readU32 b0 b1 b2 b3).toNat % 2 ^ 31 := by
    exact Nat.and_two_pow_sub_one_eq_mod _ 31
  rw [hWord, readU32_toNat, readU32_toNat]
  simp only [BigEndian.fromBytes_cons, BigEndian.fromBytes_nil, length_cons, length_nil, hByte]
  omega

lemma masked_toNat (value : UInt32) : (value &&& 0x7fffffff).toNat = value.toNat % 2 ^ 31 := by
  exact Nat.and_two_pow_sub_one_eq_mod _ 31

lemma reserved_eq_zero_iff (value : UInt32) : value &&& 0x80000000 = 0 ↔ value.toNat < 2 ^ 31 := by
  have hWord := value.toNat_lt
  have hBit : (value &&& 0x80000000).toNat = (value.toNat.testBit 31).toNat * 2 ^ 31 := by
    exact Nat.and_two_pow value.toNat 31
  rw [← UInt32.toNat_inj, hBit, Nat.testBit_eq_decide_div_mod_eq]
  rcases Nat.lt_or_ge value.toNat (2 ^ 31) with hSmall | hLarge
  · rw [decide_eq_false (by omega)]
    exact iff_of_true (Nat.zero_mul _) hSmall
  · rw [decide_eq_true (by omega)]
    exact iff_of_false (by decide) (Nat.not_lt.mpr hLarge)

lemma masked_eq_self (h : value &&& 0x80000000 = 0) : value &&& 0x7fffffff = value := by
  apply UInt32.toNat_inj.mp
  rw [masked_toNat, Nat.mod_eq_of_lt ((reserved_eq_zero_iff value).mp h)]

lemma masked_reserved (value : UInt32) : value &&& 0x7fffffff &&& 0x80000000 = 0 := by
  rw [reserved_eq_zero_iff, masked_toNat]
  exact Nat.mod_lt _ (by decide)

end Words

def Frame.wire (frame : Frame) : List UInt8 :=
  writeU24 frame.header.length ++ [frame.header.type, frame.header.flags] ++ writeU32 frame.header.streamId ++
    frame.payload

lemma Frame.wire_length (frame : Frame) : frame.wire.length = frame.size := by
  simp [Frame.wire, Frame.size, frameHeaderBytes, writeU24, writeU32]
  omega

variable {hdr : FrameHeader} {cap : Nat} {written : List UInt8}

lemma frameHeaderWrite_ok_iff : frameHeaderWrite hdr cap = .ok written ↔
      frameHeaderBytes ≤ cap ∧ hdr.length ≤ maxMaxFrameSize ∧ hdr.streamId &&& 0x80000000 = 0 ∧
        writeU24 hdr.length ++ [hdr.type, hdr.flags] ++ writeU32 hdr.streamId = written := by
  rw [frameHeaderWrite]
  split
  next hRefused =>
    simp only [Bool.or_eq_true, bne_iff_ne, ne_eq, decide_eq_true_eq] at hRefused
    refine iff_of_false (fun h => nomatch h) ?_
    rintro ⟨hRoom, hLen, hStream, -⟩
    rcases hRefused with (hShort | hLong) | hReserved
    · exact Nat.not_lt.mpr hRoom hShort
    · exact UInt32.not_lt.mpr hLen hLong
    · exact hReserved hStream
  next hTaken =>
    simp only [Bool.or_eq_true, bne_iff_ne, ne_eq, decide_eq_true_eq, not_or, not_not, Nat.not_lt,
      UInt32.not_lt] at hTaken
    simp only [Except.ok.injEq, hTaken, true_and]

variable {frame : Frame}

lemma frameWrite_ok_iff :
    frameWrite frame cap = .ok written ↔ frame.header.length.toNat = frame.payload.length ∧ frame.size ≤ cap ∧
        frame.header.length ≤ maxMaxFrameSize ∧ frame.header.streamId &&& 0x80000000 = 0 ∧
        frame.wire = written := by
  rw [frameWrite, Frame.size]
  split
  next hRefused =>
    simp only [Bool.or_eq_true, bne_iff_ne, ne_eq, decide_eq_true_eq] at hRefused
    refine iff_of_false (fun h => nomatch h) ?_
    rintro ⟨hLen, hRoom, -⟩
    rcases hRefused with hOther | hShort
    · exact hOther hLen
    · exact Nat.not_lt.mpr hRoom hShort
  next hTaken =>
    simp only [Bool.or_eq_true, bne_iff_ne, ne_eq, decide_eq_true_eq, not_or, not_not, Nat.not_lt] at hTaken
    have hRoom : frameHeaderBytes ≤ cap := Nat.le_trans (Nat.le_add_right _ _) hTaken.2
    split
    next hFailed =>
      refine iff_of_false (fun h => nomatch h) ?_
      rintro ⟨-, -, hLen, hStream, -⟩
      rw [frameHeaderWrite_ok_iff.mpr ⟨hRoom, hLen, hStream, rfl⟩] at hFailed
      cases hFailed
    next hHdr =>
      obtain ⟨-, hLen, hStream, rfl⟩ := frameHeaderWrite_ok_iff.mp hHdr
      simp only [Except.ok.injEq, hTaken, hLen, hStream, true_and, Frame.wire]

lemma frameHeaderParse_wire (hLen : frame.header.length ≤ maxMaxFrameSize)
    (hStream : frame.header.streamId &&& 0x80000000 = 0) (behind : List UInt8) :
    frameHeaderParse (frame.wire ++ behind) = .ok frame.header := by
  have hSmall : frame.header.length.toNat < 2 ^ 24 := Nat.lt_succ_of_le (UInt32.le_iff_toNat_le.mp hLen)
  obtain ⟨b0, b1, b2, hLow⟩ : ∃ b0 b1 b2, writeU24 frame.header.length = [b0, b1, b2] := ⟨_, _, _, rfl⟩
  obtain ⟨b5, b6, b7, b8, hHigh⟩ : ∃ b5 b6 b7 b8, writeU32 frame.header.streamId = [b5, b6, b7, b8] := ⟨_, _, _, _, rfl⟩
  rw [Frame.wire, hLow, hHigh]
  simp only [cons_append, nil_append, frameHeaderParse]
  rw [readU24_of_writeU24 hSmall hLow, readU32_of_writeU32 hHigh, masked_eq_self hStream]

variable {maxFrameSize : UInt32}

lemma frameValidate_ok (h : frameValidate frame maxFrameSize = .ok ()) :
    validFrameSize maxFrameSize = true ∧ frame.header.length.toNat = frame.payload.length ∧
      frame.header.length ≤ maxFrameSize := by
  rw [frameValidate] at h
  split at h
  · cases h
  next hSizes =>
    simp only [Bool.or_eq_true, Bool.not_eq_true', bne_iff_ne, ne_eq, decide_eq_true_eq, not_or,
      Bool.not_eq_false, not_not, UInt32.not_lt] at hSizes
    exact ⟨hSizes.1.1, hSizes.1.2, hSizes.2⟩

variable {bytes : List UInt8}

lemma frameParse_ok_iff :
    frameParse bytes maxFrameSize = .ok frame ↔ frameHeaderParse bytes = .ok frame.header ∧ frame.size ≤ bytes.length ∧
        (bytes.drop frameHeaderBytes).take frame.header.length.toNat = frame.payload ∧
        frameValidate frame maxFrameSize = .ok () := by
  constructor
  · intro h
    rw [frameParse] at h
    split at h
    · cases h
    split at h
    · cases h
    rename_i hHdr
    split at h
    · cases h
    rename_i hTaken
    simp only [Bool.or_eq_true, decide_eq_true_eq, not_or, Nat.not_lt] at hTaken
    dsimp only at h
    split at h
    · cases h
    rename_i hValid
    cases h
    refine ⟨hHdr, ?_, rfl, hValid⟩
    rw [Frame.size, ← (frameValidate_ok hValid).2.1]
    exact hTaken.2
  · rintro ⟨hHdr, hFits, hPayload, hValid⟩
    obtain ⟨hMax, hLen, hShort⟩ := frameValidate_ok hValid
    have hRoom : ¬ bytes.length < frameHeaderBytes + frame.header.length.toNat := by
      rw [hLen]
      exact Nat.not_lt.mpr hFits
    have hFrame : Frame.mk frame.header ((bytes.drop frameHeaderBytes).take frame.header.length.toNat) =
        frame := by rw [hPayload]
    rw [frameParse, hMax, hHdr]
    simp only [hFrame, hValid, hRoom, UInt32.not_lt.mpr hShort, Bool.not_true, Bool.false_eq_true,
      decide_false, Bool.or_false, if_false]

lemma validFrameSize_le (h : validFrameSize maxFrameSize = true) : maxFrameSize ≤ maxMaxFrameSize :=
  of_decide_eq_true (Bool.and_eq_true_iff.mp h).2

/-- Written frames are parsed as themselves, whatever follows them. -/
lemma frameParse_wire (hValid : frameValidate frame maxFrameSize = .ok ())
    (hStream : frame.header.streamId &&& 0x80000000 = 0) (behind : List UInt8) :
    frameParse (frame.wire ++ behind) maxFrameSize = .ok frame := by
  obtain ⟨hMax, hLen, hShort⟩ := frameValidate_ok hValid
  have hHdr := UInt32.le_trans hShort (validFrameSize_le hMax)
  refine frameParse_ok_iff.mpr ⟨frameHeaderParse_wire hHdr hStream behind, ?_, ?_, hValid⟩
  · rw [length_append, frame.wire_length]
    exact Nat.le_add_right _ _
  · have hDrop : (frame.wire ++ behind).drop frameHeaderBytes = frame.payload ++ behind := rfl
    rw [hDrop, hLen, take_left]

lemma frameHeaderParse_reserved (h : frameHeaderParse bytes = .ok hdr) : hdr.streamId &&& 0x80000000 = 0 := by
  rw [frameHeaderParse.eq_def] at h
  split at h
  · cases h
    exact masked_reserved _
  · cases h

def clearReserved (bytes : List UInt8) : List UInt8 := bytes.modify 5 (· &&& 0x7f)

lemma wire_of_frameHeaderParse (hHdr : frameHeaderParse bytes = .ok frame.header)
    (hLen : frame.header.length.toNat = frame.payload.length)
    (hPayload : (bytes.drop frameHeaderBytes).take frame.header.length.toNat = frame.payload) :
    frame.wire = clearReserved (bytes.take frame.size) := by
  rw [frameHeaderParse.eq_def] at hHdr
  split at hHdr
  next b0 b1 b2 type flags b5 b6 b7 b8 rest =>
    have hFields := (Except.ok.inj hHdr).symm
    have hTake : (b0 :: b1 :: b2 :: type :: flags :: b5 :: b6 :: b7 :: b8 :: rest).take frame.size =
        [b0, b1, b2, type, flags, b5, b6, b7, b8] ++ frame.payload := by
      rw [Frame.size, ← hLen, ← hPayload, Nat.add_comm]
      rfl
    rw [hTake, Frame.wire, hFields, readU32_masked, writeU24_readU24, writeU32_readU32]
    rfl
  · cases hHdr

/-- A frame that passes validation can be written into a buffer that holds it exactly if its stream
identifier has the reserved bit clear, and then parsing gives it back and goes over the bytes written.
What is parsed is written as the bytes it was parsed from, with the reserved bit cleared. -/
theorem frame_roundTrip (maxFrameSize : UInt32) :
    (∀ frame : Frame, frameValidate frame maxFrameSize = .ok () → ∀ capacity : Nat,
      ((∃ written, frameWrite frame capacity = .ok written) ↔
        frame.header.streamId &&& 0x80000000 = 0 ∧ frame.size ≤ capacity) ∧
      ∀ written, frameWrite frame capacity = .ok written → ∀ extra : List UInt8,
        frameParse (written ++ extra) maxFrameSize = .ok frame ∧ frame.size = written.length) ∧
    (∀ (bytes : List UInt8) (frame : Frame), frameParse bytes maxFrameSize = .ok frame →
      frame.size ≤ bytes.length ∧ ∀ capacity : Nat, frame.size ≤ capacity →
        frameWrite frame capacity = .ok (clearReserved (bytes.take frame.size))) := by
  constructor
  · intro frame hValid capacity
    obtain ⟨hMax, hLength, hShort⟩ := frameValidate_ok hValid
    have hHeader := UInt32.le_trans hShort (validFrameSize_le hMax)
    constructor
    · constructor
      · rintro ⟨written, hWritten⟩
        obtain ⟨-, hRoom, -, hStream, -⟩ := frameWrite_ok_iff.mp hWritten
        exact ⟨hStream, hRoom⟩
      · rintro ⟨hStream, hRoom⟩
        exact ⟨frame.wire, frameWrite_ok_iff.mpr ⟨hLength, hRoom, hHeader, hStream, rfl⟩⟩
    · intro written hWritten extra
      obtain ⟨-, -, -, hStream, rfl⟩ := frameWrite_ok_iff.mp hWritten
      exact ⟨frameParse_wire hValid hStream extra, frame.wire_length.symm⟩
  · intro bytes frame hParsed
    obtain ⟨hHeader, hFits, hPayload, hValid⟩ := frameParse_ok_iff.mp hParsed
    obtain ⟨hMax, hLength, hShort⟩ := frameValidate_ok hValid
    refine ⟨hFits, fun capacity hRoom => frameWrite_ok_iff.mpr ⟨hLength, hRoom, ?_, ?_, ?_⟩⟩
    · exact UInt32.le_trans hShort (validFrameSize_le hMax)
    · exact frameHeaderParse_reserved hHeader
    · exact wire_of_frameHeaderParse hHeader hLength hPayload

/-- HEADERS with priority and two bytes of padding, there and back, and a WINDOW_UPDATE whose reserved
bit is set on the wire. -/
theorem frame_roundTrip_paddedHeaders :
    (frameParse ((Frame.mk ⟨9, 1, 0x2c, 3⟩ [2, 0, 0, 0, 1, 16, 0x82, 0, 0]).wire ++ [0xff]) 16384 =
      .ok ⟨⟨9, 1, 0x2c, 3⟩, [2, 0, 0, 0, 1, 16, 0x82, 0, 0]⟩) ∧
    frameWrite ⟨⟨4, 8, 0, 1⟩, [0, 0, 0, 5]⟩ 64 =
      .ok (clearReserved ([0, 0, 4, 8, 0, 0x80, 0, 0, 1, 0, 0, 0, 5, 7].take 13)) := by
  constructor
  · exact (((frame_roundTrip 16384).1 _ (by decide) 64).2 _ (by decide) [0xff]).1
  · exact ((frame_roundTrip 16384).2 [0, 0, 4, 8, 0, 0x80, 0, 0, 1, 0, 0, 0, 5, 7]
      ⟨⟨4, 8, 0, 1⟩, [0, 0, 0, 5]⟩ (by decide)).2 64 (by decide)

end Sloppy.Http2.Codec
