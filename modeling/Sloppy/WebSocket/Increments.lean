import Sloppy.WebSocket.Frame

/-! # Frames that arrive in pieces

The parser is called again when more bytes have come. What it found in the bytes before it finds again, and it
asks for more bytes only if more bytes can help.
-/

namespace Sloppy.WebSocket

open List

def FrameFailure.wantsMore (failure : FrameFailure) : Prop := failure.code = .outOfRange

def Steady {α : Type} (read : List UInt8 → Except FrameFailure (α × List UInt8)) : Prop :=
  ∀ bytes extra, read bytes = .error .short ∨
    read (bytes ++ extra) = (read bytes).map fun taken => (taken.1, taken.2 ++ extra)

lemma steady_parseLength (short : Nat) : Steady (parseLength short) := by
  intro bytes extra
  rw [parseLength.eq_def, parseLength.eq_def]
  split
  · rcases bytes with _ | ⟨b0, _ | ⟨b1, rest⟩⟩
    · exact .inl rfl
    · exact .inl rfl
    · refine .inr ?_
      simp only [cons_append]
      split <;> rfl
  · split
    · rcases bytes with _ | ⟨b0, _ | ⟨b1, _ | ⟨b2, _ | ⟨b3, _ | ⟨b4, _ | ⟨b5, _ | ⟨b6, _ | ⟨b7, rest⟩⟩⟩⟩⟩⟩⟩⟩
      case cons.cons.cons.cons.cons.cons.cons.cons =>
        refine .inr ?_
        simp only [cons_append]
        split
        · rfl
        · split <;> rfl
      all_goals exact .inl rfl
    · exact .inr rfl

lemma steady_parseMaskKey (masked : Bool) : Steady (parseMaskKey masked) := by
  intro bytes extra
  rw [parseMaskKey.eq_def, parseMaskKey.eq_def]
  split
  · rcases bytes with _ | ⟨b0, _ | ⟨b1, _ | ⟨b2, _ | ⟨b3, rest⟩⟩⟩⟩
    case cons.cons.cons.cons => exact .inr rfl
    all_goals exact .inl rfl
  · exact .inr rfl

lemma parseLength_long {short : Nat} {bytes : List UInt8} (h : 8 ≤ bytes.length) :
    (∃ message, parseLength short bytes = .error (.refused message)) ∨
      ∃ length rest, parseLength short bytes = .ok (length, rest) ∧ bytes.length ≤ rest.length + 8 := by
  rw [parseLength.eq_def]
  split
  · rcases bytes with _ | ⟨b0, _ | ⟨b1, rest⟩⟩
    case cons.cons =>
      simp only [length_cons]
      split
      · exact .inl ⟨_, rfl⟩
      · exact .inr ⟨_, rest, rfl, by omega⟩
    all_goals simp at h
  · split
    · rcases bytes with _ | ⟨b0, _ | ⟨b1, _ | ⟨b2, _ | ⟨b3, _ | ⟨b4, _ | ⟨b5, _ | ⟨b6, _ | ⟨b7, rest⟩⟩⟩⟩⟩⟩⟩⟩
      case cons.cons.cons.cons.cons.cons.cons.cons =>
        simp only [length_cons]
        split
        · exact .inl ⟨_, rfl⟩
        · split
          · exact .inl ⟨_, rfl⟩
          · exact .inr ⟨_, rest, rfl, by omega⟩
      all_goals simp at h
    · exact .inr ⟨short, bytes, rfl, by omega⟩

lemma parseMaskKey_long (masked : Bool) {bytes : List UInt8} (h : 4 ≤ bytes.length) :
    ∃ key rest, parseMaskKey masked bytes = .ok (key, rest) ∧ bytes.length ≤ rest.length + 4 := by
  rw [parseMaskKey.eq_def]
  split
  · rcases bytes with _ | ⟨b0, _ | ⟨b1, _ | ⟨b2, _ | ⟨b3, rest⟩⟩⟩⟩
    case cons.cons.cons.cons => exact ⟨_, rest, rfl, by simp only [length_cons]; omega⟩
    all_goals simp at h
  · exact ⟨_, bytes, rfl, by omega⟩

variable {failure : FrameFailure} {masked : Bool}

lemma checkFrameStart_error {first : UInt8} {requireMask : Bool}
    (h : checkFrameStart first masked requireMask = .error failure) : ¬failure.wantsMore := by
  unfold checkFrameStart at h
  repeat' split at h
  all_goals cases h
  all_goals exact StatusCode.noConfusion

lemma checkFrameLength_cases (opcode : UInt8) (payloadLength maxPayloadBytes : Nat) :
    (∃ failure, checkFrameLength opcode payloadLength maxPayloadBytes = .error failure ∧ ¬failure.wantsMore) ∨
      checkFrameLength opcode payloadLength maxPayloadBytes = .ok () ∧ payloadLength ≤ maxPayloadBytes := by
  rw [checkFrameLength]
  split
  · exact .inl ⟨_, rfl, StatusCode.noConfusion⟩
  split
  · exact .inl ⟨_, rfl, StatusCode.noConfusion⟩
  · exact .inr ⟨rfl, by omega⟩

lemma parseHead_append {bytes : List UInt8} {opts : FrameParseOptions}
    (h : ∀ failure, parseHead bytes opts = .error failure → ¬failure.wantsMore) (extra : List UInt8) :
    parseHead (bytes ++ extra) opts = parseHead bytes opts := by
  rcases bytes with _ | ⟨first, _ | ⟨second, bytes⟩⟩
  · exact absurd rfl (h _ rfl)
  · exact absurd rfl (h _ rfl)
  · simp only [parseHead, cons_append, bind, Except.bind] at h ⊢
    cases hStart : checkFrameStart first (second &&& 0x80 != 0) opts.requireMask with
    | error => rfl
    | ok done =>
      simp only [hStart] at h ⊢
      rcases steady_parseLength (second &&& 0x7F).toNat bytes extra with hShort | hLength
      · rw [hShort] at h
        exact absurd rfl (h _ rfl)
      rw [hLength]
      cases hTaken : parseLength (second &&& 0x7F).toNat bytes with
      | error => rfl
      | ok taken =>
        obtain ⟨length, rest⟩ := taken
        simp only [hTaken, Except.map] at h ⊢
        cases hFits : checkFrameLength (first &&& 0x0F) length opts.effectiveMax with
        | error => rfl
        | ok =>
          simp only [hFits] at h ⊢
          rcases steady_parseMaskKey (second &&& 0x80 != 0) rest extra with hShort | hKey
          · rw [hShort] at h
            exact absurd rfl (h _ rfl)
          rw [hKey]
          cases hMask : parseMaskKey (second &&& 0x80 != 0) rest with
          | error => rfl
          | ok taken =>
            obtain ⟨key, payload⟩ := taken
            simp only [hMask, Except.map] at h ⊢
            by_cases hPart : payload.length < length
            · rw [if_pos hPart] at h
              exact absurd rfl (h _ rfl)
            have hWhole : ¬(payload ++ extra).length < length := by
              rw [length_append]
              omega
            rw [if_neg hPart, if_neg hWhole, take_append_of_le_length (Nat.le_of_not_lt hPart)]
            congr 2
            simp only [length_cons, length_append]
            omega

variable {bytes : List UInt8} {opts : FrameParseOptions}

lemma parseHead_long (h : 14 + opts.effectiveMax ≤ bytes.length)
    (hFailed : parseHead bytes opts = .error failure) : ¬failure.wantsMore := by
  rcases bytes with _ | ⟨first, _ | ⟨second, bytes⟩⟩
  · rw [length_nil] at h
    omega
  · rw [length_singleton] at h
    omega
  · rw [length_cons, length_cons] at h
    simp only [parseHead, bind, Except.bind] at hFailed
    cases hStart : checkFrameStart first (second &&& 0x80 != 0) opts.requireMask with
    | error =>
      rw [hStart] at hFailed
      cases hFailed
      exact checkFrameStart_error hStart
    | ok =>
      simp only [hStart] at hFailed
      rcases @parseLength_long (second &&& 0x7F).toNat bytes (by omega) with ⟨message, hLength⟩ |
        ⟨length, rest, hLength, hRest⟩
      · rw [hLength] at hFailed
        cases hFailed
        exact StatusCode.noConfusion
      · simp only [hLength] at hFailed
        rcases checkFrameLength_cases (first &&& 0x0F) length opts.effectiveMax with ⟨other, hFits, hOther⟩ |
          ⟨hFits, hMax⟩
        · rw [hFits] at hFailed
          cases hFailed
          exact hOther
        · simp only [hFits] at hFailed
          obtain ⟨key, payload, hKey, hPayload⟩ := @parseMaskKey_long (second &&& 0x80 != 0) rest (by omega)
          simp only [hKey] at hFailed
          rw [if_neg (by omega)] at hFailed
          cases hFailed

variable {code : StatusCode}

lemma checkedAddSize_error {a b : Nat} (h : checkedAddSize a b = .error code) : code ≠ .outOfRange := by
  rw [checkedAddSize] at h
  split at h
  · cases h
    exact StatusCode.noConfusion
  · cases h

variable {arena : Arena} {align : Nat}

lemma arenaAlignmentPadding_error (h : arenaAlignmentPadding arena align = .error code) : code ≠ .outOfRange := by
  rw [arenaAlignmentPadding] at h
  split at h
  · cases h
    exact StatusCode.noConfusion
  split at h
  · cases h
    exact StatusCode.noConfusion
  · cases h

variable {after : Arena}

lemma arenaAlloc_error {size : Nat} (h : arenaAlloc arena size align = (after, .error code)) :
    code ≠ .outOfRange := by
  unfold arenaAlloc at h
  repeat' split at h
  all_goals cases h
  all_goals first
    | exact StatusCode.noConfusion
    | exact arenaAlignmentPadding_error (by assumption)
    | exact checkedAddSize_error (by assumption)

variable {payload : List UInt8}

lemma copyPayload_error {key : MaskKey} (h : copyPayload arena payload masked key = (after, .error failure)) :
    ¬failure.wantsMore := by
  unfold copyPayload at h
  split at h
  · cases h
  split at h
  next hAlloc =>
    cases h
    exact arenaAlloc_error hAlloc
  · cases h

lemma checkClosePayload_error (h : checkClosePayload payload = .error failure) : ¬failure.wantsMore := by
  unfold checkClosePayload at h
  repeat' split at h
  all_goals cases h
  all_goals exact StatusCode.noConfusion

lemma checkPayload_error {fin : Bool} {opcode : UInt8} (h : checkPayload fin opcode payload = .error failure) :
    ¬failure.wantsMore := by
  simp only [checkPayload, bind, Except.bind, pure, Except.pure] at h
  repeat' split at h
  all_goals cases h
  all_goals first
    | exact StatusCode.noConfusion
    | exact checkClosePayload_error (by assumption)

lemma parseFrame_wantsMore (h : (parseFrame arena bytes opts).2 = .error failure) (hMore : failure.wantsMore) :
    parseHead bytes opts = .error failure := by
  unfold parseFrame at h
  split at h
  next hHead =>
    cases h
    exact hHead
  · split at h
    next hCopy =>
      cases h
      exact absurd hMore (copyPayload_error hCopy)
    · split at h
      next hCheck =>
        cases h
        exact absurd hMore (checkPayload_error hCheck)
      · cases h

lemma parseFrame_append (h : ∀ failure, (parseFrame arena bytes opts).2 = .error failure → ¬failure.wantsMore)
    (extra : List UInt8) : parseFrame arena (bytes ++ extra) opts = parseFrame arena bytes opts := by
  have hHead := @parseHead_append bytes opts (fun failure hFailed =>
    h failure (by rw [parseFrame, hFailed])) extra
  rw [parseFrame, parseFrame, hHead]

/-- A frame that was parsed is parsed again with any bytes behind it, an error other than the want of bytes stays
the same error, and more bytes are asked for only if some bytes give a frame or another error. -/
theorem parseFrame_increments (arena : Arena) (bytes : List UInt8) (options : FrameParseOptions) :
    (∀ result, (parseFrame arena bytes options).2 = .ok result → ∀ extra,
      (parseFrame arena (bytes ++ extra) options).2 = .ok result) ∧
    (∀ failure, (parseFrame arena bytes options).2 = .error failure → ¬failure.wantsMore → ∀ extra,
      (parseFrame arena (bytes ++ extra) options).2 = .error failure) ∧
    ((∃ failure, (parseFrame arena bytes options).2 = .error failure ∧ failure.wantsMore) → ∃ extra, ∀ failure,
      (parseFrame arena (bytes ++ extra) options).2 = .error failure → ¬failure.wantsMore) := by
  refine ⟨fun result hParsed extra => ?_, fun failure hFailed hOther extra => ?_, fun _ => ?_⟩
  · rw [parseFrame_append (fun failure hFailed => ?_), hParsed]
    rw [hParsed] at hFailed
    cases hFailed
  · rw [parseFrame_append (fun other hError => ?_), hFailed]
    rw [hFailed] at hError
    cases hError
    exact hOther
  · refine ⟨replicate (14 + options.effectiveMax) 0, fun failure hFailed hMore => ?_⟩
    refine parseHead_long ?_ (parseFrame_wantsMore hFailed hMore) hMore
    rw [length_append, length_replicate]
    exact Nat.le_add_left _ _

end Sloppy.WebSocket
