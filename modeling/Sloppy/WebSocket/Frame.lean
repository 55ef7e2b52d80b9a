import Sloppy.Lib.Endian
import Sloppy.Core.Growing

/-! # WebSocket frames

The UTF-8 check, the frame parser and the frame writer of `websocket.c`. The parser copies the payload into an arena;
the writer appends to a builder. A failed parse gives a status, a close code and the text of a diagnostic.
-/

namespace Sloppy.WebSocket

open Growing List

section

/-- The bits of a first byte that belong to the code point, and the number of bytes to follow. -/
def utf8Lead (ch : Nat) : Option (Nat × Nat) :=
  if 0xC2 ≤ ch ∧ ch ≤ 0xDF then some (ch &&& 0x1F, 1)
  else if 0xE0 ≤ ch ∧ ch ≤ 0xEF then some (ch &&& 0x0F, 2)
  else if 0xF0 ≤ ch ∧ ch ≤ 0xF4 then some (ch &&& 0x07, 3)
  else none

def utf8Tails : Nat → List UInt8 → Option Nat
  | codepoint, [] => some codepoint
  | codepoint, tail :: rest =>
    if tail.toNat &&& 0xC0 ≠ 0x80 then none
    else utf8Tails ((codepoint <<< 6) ||| (tail.toNat &&& 0x3F)) rest

def utf8Refused (needed codepoint : Nat) : Prop :=
  (needed = 2 ∧ codepoint < 0x800) ∨ (needed = 3 ∧ codepoint < 0x10000) ∨ codepoint > 0x10FFFF ∨
    (codepoint ≥ 0xD800 ∧ codepoint ≤ 0xDFFF)

instance (needed codepoint : Nat) : Decidable (utf8Refused needed codepoint) :=
  inferInstanceAs (Decidable (_ ∨ _))

def utf8Step : List UInt8 → Option (List UInt8)
  | [] => none
  | ch :: rest =>
    if ch.toNat ≤ 0x7F then some rest
    else
      match utf8Lead ch.toNat with
      | none => none
      | some (codepoint, needed) =>
        if rest.length < needed then none
        else
          match utf8Tails codepoint (rest.take needed) with
          | none => none
          | some codepoint => if utf8Refused needed codepoint then none else some (rest.drop needed)

def utf8ValidFrom : Nat → List UInt8 → Bool
  | _, [] => true
  | 0, _ :: _ => false
  | fuel + 1, ch :: rest =>
    match utf8Step (ch :: rest) with
    | none => false
    | some rest => utf8ValidFrom fuel rest

def utf8Valid (bytes : List UInt8) : Bool := utf8ValidFrom bytes.length bytes

/-- The encodings of lists of characters. -/
def IsUtf8 (bytes : List UInt8) : Prop := ∃ chars : List Char, chars.flatMap String.utf8EncodeChar = bytes

lemma and_continuation {byte : Nat} (h : byte < 256) : byte &&& 0xC0 = 0x80 ↔ byte / 64 = 2 := by
  have hAll : ∀ value : Fin 256, value.val &&& 0xC0 = 0x80 ↔ value.val / 64 = 2 := by decide +kernel
  exact hAll ⟨byte, h⟩

variable {rest : List UInt8}

lemma utf8Tails_cons_eq_some_iff {bits cp : Nat} {tail : UInt8} : utf8Tails bits (tail :: rest) = some cp ↔
      tail.toNat / 64 = 2 ∧ utf8Tails (bits * 64 + tail.toNat % 64) rest = some cp := by
  have hMask : tail.toNat &&& 0x3F = tail.toNat % 64 := Nat.and_two_pow_sub_one_eq_mod _ 6
  have hJoin : (bits <<< 6) ||| (tail.toNat % 64) = bits * 64 + tail.toNat % 64 := by
    rw [← Nat.shiftLeft_add_eq_or_of_lt (Nat.mod_lt _ (by decide)), Nat.shiftLeft_eq]
  rw [utf8Tails, hMask, hJoin, ← and_continuation tail.toNat_lt]
  split
  next hOther =>
    exact iff_of_false (fun h => nomatch h) (fun h => hOther h.1)
  next hContinues =>
    rw [ne_eq, not_not] at hContinues
    rw [and_iff_right hContinues]

lemma utf8Lead_eq_some_iff {ch bits needed : Nat} :
    utf8Lead ch = some (bits, needed) ↔ (0xC2 ≤ ch ∧ ch ≤ 0xDF ∧ bits = ch - 0xC0 ∧ needed = 1) ∨
      (0xE0 ≤ ch ∧ ch ≤ 0xEF ∧ bits = ch - 0xE0 ∧ needed = 2) ∨
      (0xF0 ≤ ch ∧ ch ≤ 0xF4 ∧ bits = ch - 0xF0 ∧ needed = 3) := by
  have hFive : ch &&& 0x1F = ch % 32 := Nat.and_two_pow_sub_one_eq_mod ch 5
  have hFour : ch &&& 0x0F = ch % 16 := Nat.and_two_pow_sub_one_eq_mod ch 4
  have hThree : ch &&& 0x07 = ch % 8 := Nat.and_two_pow_sub_one_eq_mod ch 3
  rw [utf8Lead, hFive, hFour, hThree]
  split
  · simp only [Option.some.injEq, Prod.mk.injEq]
    omega
  split
  · simp only [Option.some.injEq, Prod.mk.injEq]
    omega
  split
  · simp only [Option.some.injEq, Prod.mk.injEq]
    omega
  · refine iff_of_false (fun h => nomatch h) ?_
    omega

lemma utf8Step_eq_some_iff {bytes : List UInt8} :
    utf8Step bytes = some rest ↔ (∃ ch : UInt8, ch.toNat ≤ 0x7F ∧ bytes = ch :: rest) ∨
      ∃ (ch : UInt8) (tails : List UInt8) (bits cp : Nat), 0x7F < ch.toNat ∧
        utf8Lead ch.toNat = some (bits, tails.length) ∧ utf8Tails bits tails = some cp ∧
        ¬ utf8Refused tails.length cp ∧ bytes = ch :: (tails ++ rest) := by
  constructor
  · intro h
    rw [utf8Step.eq_def] at h
    split at h
    · cases h
    rename_i ch behind
    split at h
    next hAscii =>
      exact Or.inl ⟨ch, hAscii, by rw [Option.some.inj h]⟩
    rename_i hWide
    split at h
    · cases h
    rename_i bits needed hLead
    split at h
    · cases h
    have hLen : (behind.take needed).length = needed := by
      rw [length_take]
      omega
    split at h
    · cases h
    rename_i cp hTails
    split at h
    · cases h
    refine Or.inr ⟨ch, behind.take needed, bits, cp, Nat.lt_of_not_le hWide, ?_, hTails, ?_, ?_⟩
    · rw [hLen, hLead]
    · rwa [hLen]
    · rw [← Option.some.inj h, take_append_drop]
  · rintro (⟨ch, hAscii, rfl⟩ | ⟨ch, tails, bits, cp, hWide, hLead, hTails, hTaken, rfl⟩)
    · rw [utf8Step, if_pos hAscii]
    · rw [utf8Step, if_neg (Nat.not_le.mpr hWide), hLead]
      simp only [take_left, drop_left, hTails, if_neg hTaken, length_append]
      rw [if_neg (by omega)]

variable {value : Nat}

lemma byte_toNat (h : value < 256) : (UInt8.ofNat value).toNat = value := by
  exact Nat.mod_eq_of_lt h

lemma utf8Step_encode (c : Char) (rest : List UInt8) : utf8Step (String.utf8EncodeChar c ++ rest) = some rest := by
  have hScalar : c.val.toNat < 0xD800 ∨ 0xDFFF < c.val.toNat ∧ c.val.toNat < 0x110000 := c.valid
  rw [utf8Step_eq_some_iff, String.utf8EncodeChar]
  obtain ⟨v, hv⟩ : ∃ v, v = c.val.toNat := ⟨_, rfl⟩
  simp only [← hv] at hScalar ⊢
  split
  · exact Or.inl ⟨UInt8.ofNat v, by rw [byte_toNat (by omega)]; assumption, rfl⟩
  refine Or.inr ?_
  split
  · refine ⟨_, [UInt8.ofNat (v % 64 + 128)], v / 64, v, ?_, ?_, ?_, ?_, rfl⟩
    · rw [byte_toNat (by omega)]
      omega
    · rw [utf8Lead_eq_some_iff, byte_toNat (by omega)]
      exact Or.inl ⟨by omega, by omega, by omega, rfl⟩
    · rw [utf8Tails_cons_eq_some_iff, byte_toNat (by omega), utf8Tails, Option.some.injEq]
      omega
    · simp only [utf8Refused, length_cons, length_nil]
      omega
  · split
    · refine ⟨_, [UInt8.ofNat (v / 64 % 64 + 128), UInt8.ofNat (v % 64 + 128)], v / 4096, v, ?_, ?_, ?_, ?_, rfl⟩
      · rw [byte_toNat (by omega)]
        omega
      · rw [utf8Lead_eq_some_iff, byte_toNat (by omega)]
        exact Or.inr (Or.inl ⟨by omega, by omega, by omega, rfl⟩)
      · rw [utf8Tails_cons_eq_some_iff, byte_toNat (by omega), utf8Tails_cons_eq_some_iff,
          byte_toNat (by omega), utf8Tails, Option.some.injEq]
        omega
      · simp only [utf8Refused, length_cons, length_nil]
        omega
    · refine ⟨_, [UInt8.ofNat (v / 4096 % 64 + 128), UInt8.ofNat (v / 64 % 64 + 128), UInt8.ofNat (v % 64 + 128)],
        v / 262144, v, ?_, ?_, ?_, ?_, rfl⟩
      · rw [byte_toNat (by omega)]
        omega
      · rw [utf8Lead_eq_some_iff, byte_toNat (by omega)]
        exact Or.inr (Or.inr ⟨by omega, by omega, by omega, rfl⟩)
      · rw [utf8Tails_cons_eq_some_iff, byte_toNat (by omega), utf8Tails_cons_eq_some_iff,
          byte_toNat (by omega), utf8Tails_cons_eq_some_iff, byte_toNat (by omega), utf8Tails,
          Option.some.injEq]
        omega
      · simp only [utf8Refused, length_cons, length_nil]
        omega

lemma exists_char {cp : Nat} (h : cp < 0xD800 ∨ 0xDFFF < cp ∧ cp < 0x110000) :
    ∃ c : Char, c.val.toNat = cp := ⟨Char.ofNatAux cp h, rfl⟩

lemma byte_eq {byte : UInt8} (h : byte.toNat = value) : byte = UInt8.ofNat value := by
  rw [← h, UInt8.ofNat_toNat]

lemma encode_of_utf8Step {bytes : List UInt8} (h : utf8Step bytes = some rest) :
    ∃ c : Char, bytes = String.utf8EncodeChar c ++ rest := by
  rcases utf8Step_eq_some_iff.mp h with ⟨ch, hAscii, rfl⟩ | ⟨ch, tails, bits, cp, hWide, hLead, hTails, hTaken, rfl⟩
  · obtain ⟨c, hc⟩ := @exists_char ch.toNat (by omega)
    refine ⟨c, ?_⟩
    rw [String.utf8EncodeChar, hc]
    simp only [if_pos hAscii, UInt8.ofNat_toNat, cons_append, nil_append]
  · rw [utf8Refused] at hTaken
    obtain ⟨c, hc⟩ := @exists_char cp (by omega)
    refine ⟨c, ?_⟩
    rw [String.utf8EncodeChar, hc]
    rw [← cons_append]
    rcases utf8Lead_eq_some_iff.mp hLead with ⟨hLow, hHigh, hBits, hCount⟩ | ⟨hLow, hHigh, hBits, hCount⟩ |
      ⟨hLow, hHigh, hBits, hCount⟩
    · obtain ⟨t1, rfl⟩ := List.length_eq_one_iff.mp hCount
      rw [utf8Tails_cons_eq_some_iff, utf8Tails, Option.some.injEq] at hTails
      rw [if_neg (by omega), if_pos (by omega), byte_eq (show ch.toNat = cp / 64 % 32 + 192 by omega),
        byte_eq (show t1.toNat = cp % 64 + 128 by omega)]
    · obtain ⟨t1, t2, rfl⟩ := length_eq_two.mp hCount
      rw [utf8Tails_cons_eq_some_iff, utf8Tails_cons_eq_some_iff, utf8Tails, Option.some.injEq] at hTails
      rw [if_neg (by omega), if_neg (by omega), if_pos (by omega),
        byte_eq (show ch.toNat = cp / 4096 % 16 + 224 by omega),
        byte_eq (show t1.toNat = cp / 64 % 64 + 128 by omega),
        byte_eq (show t2.toNat = cp % 64 + 128 by omega)]
    · obtain ⟨t1, t2, t3, rfl⟩ := length_eq_three.mp hCount
      rw [utf8Tails_cons_eq_some_iff, utf8Tails_cons_eq_some_iff, utf8Tails_cons_eq_some_iff, utf8Tails,
        Option.some.injEq] at hTails
      rw [if_neg (by omega), if_neg (by omega), if_neg (by omega),
        byte_eq (show ch.toNat = cp / 262144 % 8 + 240 by omega),
        byte_eq (show t1.toNat = cp / 4096 % 64 + 128 by omega),
        byte_eq (show t2.toNat = cp / 64 % 64 + 128 by omega),
        byte_eq (show t3.toNat = cp % 64 + 128 by omega)]

lemma encode_ne_nil (c : Char) : String.utf8EncodeChar c ≠ [] := by
  intro hEmpty
  have hStep := utf8Step_encode c []
  rw [hEmpty] at hStep
  cases hStep

lemma utf8ValidFrom_iff (fuel : Nat) (bytes : List UInt8) (h : bytes.length ≤ fuel) :
    utf8ValidFrom fuel bytes = true ↔ IsUtf8 bytes := by
  induction fuel generalizing bytes with
  | zero =>
    rw [length_eq_zero_iff.mp (Nat.le_zero.mp h)]
    exact iff_of_true rfl ⟨[], rfl⟩
  | succ fuel ih =>
    cases bytes with
    | nil => exact iff_of_true rfl ⟨[], rfl⟩
    | cons ch behind =>
      rw [utf8ValidFrom]
      constructor
      · intro hValid
        split at hValid
        · cases hValid
        rename_i rest hStep
        obtain ⟨c, hFront⟩ := encode_of_utf8Step hStep
        have hShorter : rest.length < (ch :: behind).length := by
          rw [hFront, length_append]
          have hTaken := length_pos_iff.mpr (encode_ne_nil c)
          omega
        obtain ⟨chars, hChars⟩ := (ih rest (by omega)).mp hValid
        exact ⟨c :: chars, by rw [flatMap_cons, hChars, ← hFront]⟩
      · rintro ⟨chars, hChars⟩
        cases chars with
        | nil => cases hChars
        | cons c chars =>
          rw [flatMap_cons] at hChars
          rw [← hChars, utf8Step_encode]
          refine (ih _ ?_).mpr ⟨chars, rfl⟩
          have hLen := congrArg List.length hChars
          have hTaken := length_pos_iff.mpr (encode_ne_nil c)
          rw [length_append] at hLen
          omega

lemma utf8Valid_iff (bytes : List UInt8) : utf8Valid bytes = true ↔ IsUtf8 bytes :=
  utf8ValidFrom_iff bytes.length bytes (Nat.le_refl _)

/-- A byte string passes the loop of the source if and only if it is the encoding of a list of scalar values. -/
theorem utf8Valid_exactly_encodings (bytes : List UInt8) :
    utf8Valid bytes = true ↔ ∃ scalars : List Char, bytes = scalars.flatMap String.utf8EncodeChar := by
  rw [utf8Valid_iff]
  constructor
  · rintro ⟨scalars, hEncoded⟩
    exact ⟨scalars, hEncoded.symm⟩
  · rintro ⟨scalars, rfl⟩
    exact ⟨scalars, rfl⟩

end

def opcodeContinuation : UInt8 := 0x0

def opcodeText : UInt8 := 0x1

def opcodeBinary : UInt8 := 0x2

def opcodeClose : UInt8 := 0x8

def opcodePing : UInt8 := 0x9

def opcodePong : UInt8 := 0xA

def opcodeValid (opcode : UInt8) : Bool :=
  opcode == opcodeContinuation || opcode == opcodeText || opcode == opcodeBinary || opcode == opcodeClose ||
    opcode == opcodePing || opcode == opcodePong

def opcodeControl (opcode : UInt8) : Bool :=
  opcode == opcodeClose || opcode == opcodePing || opcode == opcodePong

structure MaskKey where
  b0 : UInt8
  b1 : UInt8
  b2 : UInt8
  b3 : UInt8
  deriving DecidableEq

def MaskKey.bytes (key : MaskKey) : List UInt8 := [key.b0, key.b1, key.b2, key.b3]

def MaskKey.at (key : MaskKey) (index : Nat) : UInt8 :=
  match index % 4 with
  | 0 => key.b0
  | 1 => key.b1
  | 2 => key.b2
  | _ => key.b3

def applyMask (key : MaskKey) (payload : List UInt8) : List UInt8 :=
  payload.mapIdx fun index byte => byte ^^^ key.at index

/-- No object has more bytes than a pointer difference can say. -/
def ptrdiffMax : Nat := 9223372036854775807

structure FrameWriteOptions where
  fin : Bool
  mask : Bool
  opcode : UInt8
  payload : List UInt8
  maskKey : MaskKey
  payloadInMemory : payload.length ≤ ptrdiffMax
  deriving DecidableEq

structure FrameParseOptions where
  requireMask : Bool
  maxPayloadBytes : Nat
  deriving DecidableEq

structure ParsedFrame where
  fin : Bool
  masked : Bool
  opcode : UInt8
  payload : List UInt8
  deriving DecidableEq

structure FrameParseResult where
  frame : ParsedFrame
  consumed : Nat
  closeCode : Nat
  deriving DecidableEq

structure FrameFailure where
  code : StatusCode
  closeCode : Nat
  message : Option String
  deriving DecidableEq

/-- The default limit stands for a limit of 0. -/
def FrameParseOptions.effectiveMax (options : FrameParseOptions) : Nat :=
  if options.maxPayloadBytes = 0 then 65536 else options.maxPayloadBytes

def FrameFailure.refused (message : String) : FrameFailure := ⟨.invalidArgument, 1002, some message⟩

def FrameFailure.short : FrameFailure := ⟨.outOfRange, 1002, none⟩

def readU16 (b0 b1 : UInt8) : Nat := (b0.toNat <<< 8) ||| b1.toNat

def readU64 (bytes : List UInt8) : Nat :=
  bytes.foldl (fun value byte => ((value <<< 8) ||| byte.toNat) % 2 ^ 64) 0

def writeU16 (value : Nat) : List UInt8 :=
  [UInt8.ofNat ((value >>> 8) &&& 0xFF), UInt8.ofNat (value &&& 0xFF)]

def writeU64 (value : Nat) : List UInt8 :=
  [56, 48, 40, 32, 24, 16, 8, 0].map fun shift => UInt8.ofNat ((value >>> shift) &&& 0xFF)

def closeCodeValid (code : Nat) : Bool :=
  if 1000 ≤ code ∧ code ≤ 1015 then code ≠ 1004 ∧ code ≠ 1005 ∧ code ≠ 1006 ∧ code ≠ 1015
  else 3000 ≤ code ∧ code ≤ 4999

/-- The payload length and the bytes behind it, from the low bits of the second byte on. -/
def parseLength (short : Nat) (bytes : List UInt8) : Except FrameFailure (Nat × List UInt8) :=
  if short = 126 then
    match bytes with
    | b0 :: b1 :: rest =>
      if readU16 b0 b1 ≤ 125 then .error (.refused "WebSocket frame length is not minimally encoded")
      else .ok (readU16 b0 b1, rest)
    | _ => .error .short
  else if short = 127 then
    match bytes with
    | b0 :: b1 :: b2 :: b3 :: b4 :: b5 :: b6 :: b7 :: rest =>
      if b0 &&& 0x80 ≠ 0 then .error (.refused "WebSocket frame length exceeds signed bounds")
      else if readU64 [b0, b1, b2, b3, b4, b5, b6, b7] ≤ 65535 then
        .error (.refused "WebSocket frame length is not minimally encoded")
      else .ok (readU64 [b0, b1, b2, b3, b4, b5, b6, b7], rest)
    | _ => .error .short
  else .ok (short, bytes)

def parseMaskKey (masked : Bool) (bytes : List UInt8) : Except FrameFailure (MaskKey × List UInt8) :=
  if masked then
    match bytes with
    | b0 :: b1 :: b2 :: b3 :: rest => .ok (⟨b0, b1, b2, b3⟩, rest)
    | _ => .error .short
  else .ok (⟨0, 0, 0, 0⟩, bytes)

def checkFrameStart (first : UInt8) (masked requireMask : Bool) : Except FrameFailure Unit :=
  if first &&& 0x70 ≠ 0 then .error (.refused "WebSocket RSV bits are not supported")
  else if !opcodeValid (first &&& 0x0F) then .error (.refused "WebSocket frame opcode is invalid")
  else if requireMask && !masked then .error (.refused "client WebSocket frames must be masked")
  else if opcodeControl (first &&& 0x0F) && first &&& 0x80 == 0 then
    .error (.refused "WebSocket control frames must not be fragmented")
  else .ok ()

def checkFrameLength (opcode : UInt8) (payloadLength maxPayloadBytes : Nat) : Except FrameFailure Unit :=
  if opcodeControl opcode ∧ payloadLength > 125 then
    .error (.refused "WebSocket control frame payload is too large")
  else if payloadLength > maxPayloadBytes ∨ payloadLength > sizeMax then
    .error ⟨.capacityExceeded, 1009, some "WebSocket frame payload is too large"⟩
  else .ok ()

def copyPayload (arena : Arena) (payload : List UInt8) (masked : Bool) (key : MaskKey) :
    Arena × Except FrameFailure (List UInt8) :=
  if payload.length = 0 then (arena, .ok [])
  else
    match arenaAlloc arena payload.length 1 with
    | (arena, .error code) => (arena, .error ⟨code, 1002, none⟩)
    | (arena, .ok _) => (arena, .ok (if masked then applyMask key payload else payload))

def closeCodeOf : List UInt8 → Option Nat
  | b0 :: b1 :: _ => some (readU16 b0 b1)
  | _ => none

def checkClosePayload (payload : List UInt8) : Except FrameFailure Unit :=
  if payload.length = 1 then .error (.refused "WebSocket close payload is malformed")
  else
    match closeCodeOf payload with
    | none => .ok ()
    | some code =>
      if !closeCodeValid code then .error (.refused "WebSocket close code is invalid")
      else if !utf8Valid (payload.drop 2) then
        .error ⟨.invalidArgument, 1007, some "WebSocket close reason is not valid UTF-8"⟩
      else .ok ()

def checkPayload (fin : Bool) (opcode : UInt8) (payload : List UInt8) : Except FrameFailure Unit := do
  if opcode = opcodeClose then checkClosePayload payload
  if opcode = opcodeText ∧ fin ∧ !utf8Valid payload then
    .error ⟨.invalidArgument, 1007, some "WebSocket text payload is not valid UTF-8"⟩

/-- What stands before the payload, and the payload as it is on the wire. -/
structure FrameHead where
  fin : Bool
  masked : Bool
  opcode : UInt8
  maskKey : MaskKey
  payload : List UInt8
  consumed : Nat
  deriving DecidableEq

def parseHead (bytes : List UInt8) (options : FrameParseOptions) : Except FrameFailure FrameHead :=
  match bytes with
  | first :: second :: rest => do
    let masked := second &&& 0x80 != 0
    checkFrameStart first masked options.requireMask
    let (payloadLength, rest) ← parseLength (second &&& 0x7F).toNat rest
    checkFrameLength (first &&& 0x0F) payloadLength options.effectiveMax
    let (maskKey, rest) ← parseMaskKey masked rest
    if rest.length < payloadLength then .error .short
    else
      .ok ⟨first &&& 0x80 != 0, masked, first &&& 0x0F, maskKey, rest.take payloadLength,
        bytes.length - rest.length + payloadLength⟩
  | _ => .error ⟨.outOfRange, 0, none⟩

def parseFrame (arena : Arena) (bytes : List UInt8) (options : FrameParseOptions) :
    Arena × Except FrameFailure FrameParseResult :=
  match parseHead bytes options with
  | .error failure => (arena, .error failure)
  | .ok head =>
    match copyPayload arena head.payload head.masked head.maskKey with
    | (arena, .error failure) => (arena, .error failure)
    | (arena, .ok payload) =>
      match checkPayload head.fin head.opcode payload with
      | .error failure => (arena, .error failure)
      | .ok () =>
        let closeCode := if head.opcode = opcodeClose then (closeCodeOf payload).getD 0 else 0
        (arena, .ok ⟨⟨head.fin, head.masked, head.opcode, payload⟩, head.consumed, closeCode⟩)

/-- The appends of a frame, one byte or one span each. -/
def frameSpans (options : FrameWriteOptions) : List (List UInt8) :=
  let length := options.payload.length
  let maskBit : UInt8 := if options.mask then 0x80 else 0
  [[(if options.fin then 0x80 else 0) ||| options.opcode]] ++
  (if length ≤ 125 then [[maskBit ||| UInt8.ofNat length]]
    else if length ≤ 65535 then [maskBit ||| 126] :: (writeU16 length).map fun byte => [byte]
    else [maskBit ||| 127] :: (writeU64 length).map fun byte => [byte]) ++
  (if options.mask then
    options.maskKey.bytes :: (applyMask options.maskKey options.payload).map fun byte => [byte]
    else [options.payload])

def writeFrame (state : BuilderState) (options : FrameWriteOptions) : BuilderState × Except FrameFailure Unit :=
  let failed (message : String) := (state, .error ⟨.invalidArgument, 0, some message⟩)
  if !opcodeValid options.opcode then failed "WebSocket frame opcode is invalid"
  else if opcodeControl options.opcode && !options.fin then
    failed "WebSocket control frames must not be fragmented"
  else if opcodeControl options.opcode && options.payload.length > 125 then
    failed "WebSocket control frame payload is too large"
  else
    match byteBuilderAppendAll state (frameSpans options) with
    | (state, .error code) => (state, .error ⟨code, 0, none⟩)
    | (state, .ok ()) => (state, .ok ())

end Sloppy.WebSocket
