import Mathlib.Data.List.Induction
import Sloppy.WebSocket.Frame

/-! # WebSocket frames there and back

What the writer appends is a header of two bytes, a length in one of three forms, and the payload with
its mask on. Each part is read back by its part of the parser, whatever follows it.
-/

namespace Sloppy.WebSocket

open Lib Growing List

lemma applyMask_length (key : MaskKey) (payload : List UInt8) :
    (applyMask key payload).length = payload.length := by
  rw [applyMask, length_mapIdx]

lemma applyMask_applyMask (key : MaskKey) (payload : List UInt8) :
    applyMask key (applyMask key payload) = payload := by
  apply ext_getElem?
  intro index
  rw [applyMask, applyMask, getElem?_mapIdx, getElem?_mapIdx]
  cases payload[index]? with
  | none => rfl
  | some => rw [Option.map_some, Option.map_some, UInt8.xor_assoc, UInt8.xor_self, UInt8.xor_zero]

lemma readU16_eq (b0 b1 : UInt8) : readU16 b0 b1 = BigEndian.fromBytes [b0, b1] := by
  have hByte := b1.toNat_lt
  rw [readU16, ← Nat.shiftLeft_add_eq_or_of_lt (by omega), Nat.shiftLeft_eq]
  simp [BigEndian.fromBytes_cons, BigEndian.fromBytes_nil]

lemma readU64_eq {bytes : List UInt8} (h : bytes.length ≤ 8) : readU64 bytes = BigEndian.fromBytes bytes := by
  induction bytes using reverseRecOn with
  | nil => rfl
  | append_singleton front byte ih =>
    rw [length_append, length_singleton] at h
    have hByte := byte.toNat_lt
    have hFront : BigEndian.fromBytes front < 256 ^ 7 :=
      Nat.lt_of_lt_of_le (BigEndian.fromBytes_lt front) (Nat.pow_le_pow_right (by decide) (by omega))
    have hStep : readU64 (front ++ [byte]) = ((readU64 front <<< 8) ||| byte.toNat) % 2 ^ 64 := by
      rw [readU64, foldl_append]
      rfl
    rw [hStep, ih (by omega), ← Nat.shiftLeft_add_eq_or_of_lt (by omega), Nat.shiftLeft_eq, BigEndian.fromBytes_concat]
    omega

lemma byte_of_masked (value : Nat) : UInt8.ofNat (value &&& 0xFF) = UInt8.ofNat value := by
  apply UInt8.toNat_inj.mp
  rw [UInt8.toNat_ofNat', UInt8.toNat_ofNat', show value &&& 0xFF = value % 2 ^ 8 from
    Nat.and_two_pow_sub_one_eq_mod value 8, Nat.mod_mod]

lemma writeU16_eq (value : Nat) : writeU16 value = BigEndian.toBytes 2 value := by
  rw [writeU16, byte_of_masked, byte_of_masked, Nat.shiftRight_eq_div_pow, BigEndian.toBytes_succ,
    BigEndian.toBytes_succ, BigEndian.toBytes_zero]
  rfl

lemma writeU64_eq (value : Nat) : writeU64 value = BigEndian.toBytes 8 value := by
  simp only [writeU64, map_cons, map_nil, byte_of_masked, Nat.shiftRight_eq_div_pow,
    BigEndian.toBytes_succ, BigEndian.toBytes_zero, Nat.div_div_eq_div_mul, Nat.pow_zero, Nat.div_one]
  rfl

lemma signBit_clear {value : Nat} (h : value < 128) : UInt8.ofNat value &&& 0x80 = 0 := by
  have hAll : ∀ value : Fin 128, UInt8.ofNat value.val &&& 0x80 = 0 := by decide +kernel
  exact hAll ⟨value, h⟩

def lengthCode (length : Nat) : Nat × List UInt8 :=
  if length ≤ 125 then (length, [])
  else if length ≤ 65535 then (126, writeU16 length)
  else (127, writeU64 length)

lemma lengthCode_lt (len : Nat) : (lengthCode len).1 < 128 := by
  rw [lengthCode]
  split
  · omega
  · split
    · exact Nat.lt_of_sub_eq_succ rfl
    · exact Nat.lt_of_sub_eq_succ rfl

lemma parseLength_code {len : Nat} (h : len ≤ ptrdiffMax) (behind : List UInt8) :
    parseLength (lengthCode len).1 ((lengthCode len).2 ++ behind) = .ok (len, behind) := by
  rw [ptrdiffMax] at h
  rw [lengthCode]
  split
  next hShort =>
    rw [parseLength.eq_def, if_neg (Nat.ne_of_lt (Nat.lt_succ_of_le hShort)),
      if_neg (Nat.ne_of_lt (Nat.lt_succ_of_le (Nat.le_succ_of_le hShort)))]
    rfl
  next hLong =>
    split
    · obtain ⟨b0, b1, hBytes⟩ : ∃ b0 b1, writeU16 len = [b0, b1] := ⟨_, _, rfl⟩
      have hRead : readU16 b0 b1 = len := by
        rw [readU16_eq, ← hBytes, writeU16_eq, BigEndian.fromBytes_toBytes (by omega)]
      rw [parseLength.eq_def, if_pos rfl, hBytes]
      simp only [cons_append, nil_append, hRead, if_neg hLong]
    next hEight =>
      obtain ⟨b0, b1, b2, b3, b4, b5, b6, b7, hBytes⟩ :
          ∃ b0 b1 b2 b3 b4 b5 b6 b7, writeU64 len = [b0, b1, b2, b3, b4, b5, b6, b7] :=
        ⟨_, _, _, _, _, _, _, _, rfl⟩
      have hRead : readU64 [b0, b1, b2, b3, b4, b5, b6, b7] = len := by
        rw [readU64_eq (show List.length [_, _, _, _, _, _, _, _] ≤ 8 from Nat.le_refl 8), ← hBytes, writeU64_eq,
          BigEndian.fromBytes_toBytes (by omega)]
      have hFirst : b0 = UInt8.ofNat (len / 2 ^ 56) := by
        rw [← byte_of_masked, ← Nat.shiftRight_eq_div_pow]
        exact (List.cons.inj hBytes).1.symm
      have hSign : b0 &&& 0x80 = 0 := by
        rw [hFirst]
        exact signBit_clear (by omega)
      rw [parseLength.eq_def, if_neg (show ¬ 127 = 126 by decide), if_pos rfl, hBytes]
      simp only [cons_append, nil_append, hRead, if_neg hEight, hSign, ne_eq, not_true_eq_false, if_false]

variable (options : FrameWriteOptions)

def firstByte : UInt8 := (if options.fin then 0x80 else 0) ||| options.opcode

def secondByte : UInt8 :=
  (if options.mask then 0x80 else 0) ||| UInt8.ofNat (lengthCode options.payload.length).1

def maskedPart : List UInt8 :=
  if options.mask then options.maskKey.bytes ++ applyMask options.maskKey options.payload
  else options.payload

def frameWire : List UInt8 :=
  firstByte options :: secondByte options :: ((lengthCode options.payload.length).2 ++ maskedPart options)

lemma flatten_singletons (bytes : List UInt8) : (bytes.map fun byte => [byte]).flatten = bytes := by
  rw [← flatMap_def, flatMap_singleton']

lemma lengthSpans_flatten (maskBit : UInt8) (len : Nat) : (if len ≤ 125 then [[maskBit ||| UInt8.ofNat len]]
      else if len ≤ 65535 then [maskBit ||| 126] :: (writeU16 len).map fun byte => [byte]
      else [maskBit ||| 127] :: (writeU64 len).map fun byte => [byte]).flatten =
    (maskBit ||| UInt8.ofNat (lengthCode len).1) :: (lengthCode len).2 := by
  rw [lengthCode]
  split
  · rfl
  · split
    · rfl
    · rfl

lemma payloadSpans_flatten (opts : FrameWriteOptions) : (if opts.mask then
      opts.maskKey.bytes :: (applyMask opts.maskKey opts.payload).map fun byte => [byte]
      else [opts.payload]).flatten = maskedPart opts := by
  rw [maskedPart]
  split
  · rw [flatten_cons, flatten_singletons]
  · rw [flatten_cons, flatten_nil, append_nil]

lemma frameSpans_flatten (opts : FrameWriteOptions) : (frameSpans opts).flatten = frameWire opts := by
  rw [frameSpans, flatten_append, flatten_append, lengthSpans_flatten, payloadSpans_flatten]
  rfl

lemma firstByte_read {fin : Bool} {opcode : UInt8} (h : opcodeValid opcode = true) :
    ((if fin then 0x80 else 0) ||| opcode) &&& 0x70 = 0 ∧ ((if fin then 0x80 else 0) ||| opcode) &&& 0x0F = opcode ∧
      (((if fin then 0x80 else 0) ||| opcode) &&& 0x80 != 0) = fin := by
  simp only [opcodeValid, Bool.or_eq_true, beq_iff_eq] at h
  rcases h with ((((rfl | rfl) | rfl) | rfl) | rfl) | rfl
  all_goals cases fin <;> decide

lemma secondByte_read (mask : Bool) {code : Nat} (h : code < 128) :
    (((if mask then 0x80 else 0) ||| UInt8.ofNat code) &&& 0x80 != 0) = mask ∧
      (((if mask then 0x80 else 0) ||| UInt8.ofNat code) &&& 0x7F).toNat = code := by
  have hAll : ∀ (mask : Bool) (code : Fin 128),
      (((if mask then 0x80 else 0) ||| UInt8.ofNat code.val) &&& 0x80 != 0) = mask ∧
        (((if mask then 0x80 else 0) ||| UInt8.ofNat code.val) &&& 0x7F).toNat = code.val := by
    decide +kernel
  exact hAll mask ⟨code, h⟩

/-- Frames the writer takes: what it checks before it appends anything. -/
structure Writable (options : FrameWriteOptions) : Prop where
  opcode : opcodeValid options.opcode = true
  fin : opcodeControl options.opcode = true → options.fin = true
  short : opcodeControl options.opcode = true → options.payload.length ≤ 125

variable {opts : FrameWriteOptions}

lemma writeFrame_ok {state after : BuilderState} (h : writeFrame state opts = (after, .ok ())) :
    Writable opts ∧ after.builder.content = state.builder.content ++ frameWire opts := by
  rw [writeFrame] at h
  split at h
  · cases h
  rename_i hOpcode
  split at h
  · cases h
  rename_i hWhole
  split at h
  · cases h
  rename_i hShort
  split at h
  · cases h
  rename_i hAppend
  cases h
  have hContent := byteBuilderAppendAll_content (congrArg Prod.snd hAppend)
  rw [hAppend, frameSpans_flatten] at hContent
  refine ⟨⟨?_, ?_, ?_⟩, hContent⟩
  · simpa using hOpcode
  · intro hControl
    simpa [hControl] using hWhole
  · intro hControl
    simpa [hControl] using hShort

lemma checkFrameStart_written (h : Writable opts) {requireMask : Bool} (hMask : requireMask = true → opts.mask = true) :
    checkFrameStart (firstByte opts) opts.mask requireMask = .ok () := by
  obtain ⟨hReserved, hOpcode, hFin⟩ := @firstByte_read opts.fin opts.opcode h.opcode
  have hWhole : (opcodeControl opts.opcode && firstByte opts &&& 0x80 == 0) = false := by
    cases hControl : opcodeControl opts.opcode with
    | false => rfl
    | true =>
      rw [h.fin hControl, bne, Bool.not_eq_true'] at hFin
      rw [firstByte, h.fin hControl, Bool.true_and, hFin]
  have hMasked : (requireMask && !opts.mask) = false := by
    cases requireMask with
    | false => rfl
    | true => rw [hMask rfl]; rfl
  rw [firstByte] at hWhole
  rw [checkFrameStart, firstByte, hReserved, hOpcode, h.opcode, hMasked, hWhole]
  rfl

lemma checkFrameLength_written (h : Writable opts) {maxPayloadBytes : Nat}
    (hMax : opts.payload.length ≤ maxPayloadBytes) :
    checkFrameLength opts.opcode opts.payload.length maxPayloadBytes = .ok () := by
  have hMemory := opts.payloadInMemory
  rw [ptrdiffMax] at hMemory
  rw [checkFrameLength, if_neg, if_neg]
  · rw [sizeMax]
    omega
  · rintro ⟨hControl, hLong⟩
    exact Nat.not_lt.mpr (h.short hControl) hLong

def keyRead : MaskKey :=
  if options.mask then options.maskKey else ⟨0, 0, 0, 0⟩

def payloadOnWire : List UInt8 :=
  if options.mask then applyMask options.maskKey options.payload else options.payload

lemma payloadOnWire_length (opts : FrameWriteOptions) : (payloadOnWire opts).length = opts.payload.length := by
  rw [payloadOnWire]
  split
  · exact applyMask_length _ _
  · rfl

lemma payloadOnWire_le_maskedPart (opts : FrameWriteOptions) :
    (payloadOnWire opts).length ≤ (maskedPart opts).length := by
  rw [payloadOnWire, maskedPart]
  split
  · rw [length_append]
    exact Nat.le_add_left _ _
  · exact Nat.le_refl _

lemma parseMaskKey_written (opts : FrameWriteOptions) (behind : List UInt8) :
    parseMaskKey opts.mask (maskedPart opts ++ behind) = .ok (keyRead opts, payloadOnWire opts ++ behind) := by
  rw [parseMaskKey.eq_def, maskedPart, keyRead, payloadOnWire]
  split
  · rfl
  · rfl

lemma parseHead_written (h : Writable opts) {parseOptions : FrameParseOptions}
    (hMask : parseOptions.requireMask = true → opts.mask = true)
    (hMax : opts.payload.length ≤ parseOptions.effectiveMax) (extra : List UInt8) :
    parseHead (frameWire opts ++ extra) parseOptions =
      .ok ⟨opts.fin, opts.mask, opts.opcode, keyRead opts, payloadOnWire opts, (frameWire opts).length⟩ := by
  obtain ⟨-, hOpcode, hFin⟩ : _ ∧ firstByte opts &&& 0x0F = opts.opcode ∧
      (firstByte opts &&& 0x80 != 0) = opts.fin := firstByte_read h.opcode
  obtain ⟨hMasked, hCode⟩ : (secondByte opts &&& 0x80 != 0) = opts.mask ∧
      (secondByte opts &&& 0x7F).toNat = (lengthCode opts.payload.length).1 :=
    secondByte_read opts.mask (lengthCode_lt opts.payload.length)
  have hStart := checkFrameStart_written h hMask
  have hLen := parseLength_code opts.payloadInMemory (maskedPart opts ++ extra)
  have hBounds := checkFrameLength_written h hMax
  have hKey := parseMaskKey_written opts extra
  have hPayload := payloadOnWire_length opts
  rw [parseHead.eq_def, frameWire]
  simp only [cons_append, append_assoc, hMasked, hCode, hOpcode, hFin, hStart, hLen, hBounds, hKey, bind, Except.bind]
  have hEnough : ¬ (payloadOnWire opts ++ extra).length < opts.payload.length := by
    rw [length_append, hPayload]
    omega
  have hKeyLength := payloadOnWire_le_maskedPart opts
  rw [if_neg hEnough, ← hPayload, take_left]
  simp only [length_cons, length_append, Except.ok.injEq, FrameHead.mk.injEq, true_and]
  omega

lemma copyPayload_written (opts : FrameWriteOptions) (arena : Arena)
    (hRoom : opts.payload ≠ [] → ∃ addr, (arenaAlloc arena opts.payload.length 1).2 = .ok addr) :
    ∃ after, copyPayload arena (payloadOnWire opts) opts.mask (keyRead opts) = (after, .ok opts.payload) := by
  rw [copyPayload, payloadOnWire_length]
  split
  next hEmpty =>
    rw [length_eq_zero_iff.mp hEmpty]
    exact ⟨arena, rfl⟩
  next hBytes =>
    obtain ⟨addr, hAddr⟩ := hRoom (fun hEmpty => hBytes (length_eq_zero_iff.mpr hEmpty))
    obtain ⟨after, hAlloc⟩ : ∃ after, arenaAlloc arena opts.payload.length 1 = (after, .ok addr) :=
      ⟨_, Prod.ext rfl hAddr⟩
    rw [hAlloc, payloadOnWire, keyRead]
    refine ⟨after, ?_⟩
    cases opts.mask with
    | false => rfl
    | true => exact congrArg (fun payload => (after, Except.ok payload)) (applyMask_applyMask _ _)

/-- Close payloads as the protocol wants them: nothing, or a code in use and a reason in UTF-8. -/
def CloseWellFormed (payload : List UInt8) : Prop :=
  payload = [] ∨ ∃ b0 b1 reason, payload = b0 :: b1 :: reason ∧ closeCodeValid (readU16 b0 b1) = true ∧ IsUtf8 reason

variable {payload : List UInt8}

lemma checkClosePayload_ok (h : CloseWellFormed payload) : checkClosePayload payload = .ok () := by
  rcases h with rfl | ⟨b0, b1, reason, rfl, hCode, hReason⟩
  · rfl
  · have hValid : utf8Valid reason = true := (utf8Valid_iff reason).mpr hReason
    rw [checkClosePayload, if_neg (by simp)]
    simp only [closeCodeOf, hCode, drop_succ_cons, drop_zero, hValid, Bool.not_true, Bool.false_eq_true, if_false]

lemma checkPayload_ok {fin : Bool} {opcode : UInt8} (hText : opcode = opcodeText → fin = true → IsUtf8 payload)
    (hClose : opcode = opcodeClose → CloseWellFormed payload) : checkPayload fin opcode payload = .ok () := by
  have hSecond : ¬ (opcode = opcodeText ∧ fin = true ∧ (!utf8Valid payload) = true) := by
    rintro ⟨hOpcode, hFin, hInvalid⟩
    rw [(utf8Valid_iff payload).mpr (hText hOpcode hFin)] at hInvalid
    cases hInvalid
  rw [checkPayload, if_neg hSecond]
  split
  next hOpcode =>
    rw [checkClosePayload_ok (hClose hOpcode)]
    rfl
  · rfl

/-- What the writer appends for a frame, followed by any bytes, is parsed as the frame. Final text
payloads are UTF-8 and close payloads well formed; the parser allows the length, wants no mask that
was not put on, and its arena has room for the payload. -/
theorem parseFrame_writeFrame {state after : BuilderState} {options : FrameWriteOptions}
    (hWrite : writeFrame state options = (after, .ok ())) {parseOptions : FrameParseOptions}
    (hMask : parseOptions.requireMask = true → options.mask = true)
    (hMax : options.payload.length ≤ parseOptions.effectiveMax)
    (hText : options.opcode = opcodeText → options.fin = true → IsUtf8 options.payload)
    (hClose : options.opcode = opcodeClose → CloseWellFormed options.payload) {arena : Arena}
    (hRoom : options.payload ≠ [] → ∃ address, (arenaAlloc arena options.payload.length 1).2 = .ok address) :
    ∃ produced, after.builder.content = state.builder.content ++ produced ∧
      ∀ extra : List UInt8, ∃ result : FrameParseResult,
        (parseFrame arena (produced ++ extra) parseOptions).2 = .ok result ∧
        result.frame = ⟨options.fin, options.mask, options.opcode, options.payload⟩ ∧
        result.consumed = produced.length := by
  obtain ⟨hWritable, hContent⟩ := writeFrame_ok hWrite
  refine ⟨frameWire options, hContent, fun extra => ?_⟩
  obtain ⟨afterCopy, hCopy⟩ := copyPayload_written options arena hRoom
  have hHead := parseHead_written hWritable hMask hMax extra
  have hChecked := checkPayload_ok hText hClose
  rw [parseFrame, hHead]
  simp only [hCopy, hChecked]
  exact ⟨_, rfl, rfl, rfl⟩

/-- A masked text frame of two characters, one of them outside ASCII, for a parser that wants masks. -/
theorem parseFrame_writeFrame_maskedText : ∃ produced, [0x81, 0x83, 1, 2, 3, 4, 0x40, 0xC1, 0xAA] = [] ++ produced ∧
      ∀ extra : List UInt8, ∃ result : FrameParseResult,
        (parseFrame ⟨16, 64, 0, 0, 1⟩ (produced ++ extra) ⟨true, 0⟩).2 = .ok result ∧
        result.frame = ⟨true, true, opcodeText, [0x41, 0xC3, 0xA9]⟩ ∧ result.consumed = produced.length :=
  @parseFrame_writeFrame ⟨⟨[], 16, 16, .fixed⟩, ⟨16, 64, 0, 0, 1⟩⟩
    ⟨⟨[0x81, 0x83, 1, 2, 3, 4, 0x40, 0xC1, 0xAA], 16, 16, .fixed⟩, ⟨16, 64, 0, 0, 1⟩⟩
    ⟨true, true, opcodeText, [0x41, 0xC3, 0xA9], ⟨1, 2, 3, 4⟩, by decide⟩ (by decide) ⟨true, 0⟩ (fun _ => rfl)
    (by decide) (fun _ _ => ⟨['A', 'é'], by decide⟩) (fun h => absurd h (by decide)) ⟨16, 64, 0, 0, 1⟩
    (fun _ => ⟨16, by decide⟩)

end Sloppy.WebSocket
