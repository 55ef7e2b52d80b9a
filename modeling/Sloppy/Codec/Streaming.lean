import Sloppy.Codec.Utf8

/-! # Streams of UTF-8 bytes

`decodeUtf8Bytes` with its two options and `Utf8StreamingDecoder`, which keeps the bytes of a character that is not yet
complete. What the decoder does with bytes that suffice for it stays the same when more of them follow.
-/

namespace Sloppy.Codec

open List

def emit (point : Nat) (decoded : List Nat × List UInt8) : List Nat × List UInt8 := (point :: decoded.1, decoded.2)

/-- The text and the bytes that remain. -/
def decodeUtf8Bytes (fatal stream : Bool) : List UInt8 → Except String (List Nat × List UInt8)
  | [] => .ok ([], [])
  | b0 :: rest =>
    match utf8Round b0 rest with
    | .char point taken => (decodeUtf8Bytes fatal stream (rest.drop (taken - 1))).map (emit point)
    | .malformed message taken =>
      if fatal then .error message
      else (decodeUtf8Bytes fatal stream (rest.drop (taken - 1))).map (emit replacement)
    | .incomplete =>
      if stream then .ok ([], b0 :: rest)
      else if fatal then .error "UTF-8 input ended with an incomplete sequence."
      else .ok ([replacement], [])
termination_by bytes => bytes.length

structure Utf8StreamingDecoder where
  fatal : Bool
  pending : List UInt8
  deriving DecidableEq

def Utf8StreamingDecoder.decode (decoder : Utf8StreamingDecoder) (chunk : List UInt8) (stream : Bool) :
    Except String (List Nat × Utf8StreamingDecoder) :=
  (decodeUtf8Bytes decoder.fatal stream (decoder.pending ++ chunk)).map fun decoded =>
    (decoded.1, { decoder with pending := decoded.2 })

def Utf8StreamingDecoder.finish (decoder : Utf8StreamingDecoder) : Except String (List Nat × Utf8StreamingDecoder) :=
  (decodeUtf8Bytes decoder.fatal false decoder.pending).map fun decoded => (decoded.1, { decoder with pending := [] })

/-- The chunks one after the other with `stream`, then `finish`: the texts returned, or what is thrown first. -/
def Utf8StreamingDecoder.decodeAll : Utf8StreamingDecoder → List (List UInt8) → Except String (List Nat)
  | decoder, [] => decoder.finish.map Prod.fst
  | decoder, chunk :: chunks =>
    match decoder.decode chunk true with
    | .error message => .error message
    | .ok (text, next) => (next.decodeAll chunks).map (text ++ ·)

def textDecode (fatal : Bool) (bytes : List UInt8) : Except String (List Nat) :=
  (decodeUtf8Bytes fatal false bytes).map Prod.fst

lemma continueCodePoint_le {bytes : List UInt8} {point index stop : Nat}
    (h : continueCodePoint point index bytes = .error stop) : stop < index + bytes.length := by
  induction bytes generalizing point index with
  | nil => cases h
  | cons next rest ih =>
    rw [continueCodePoint] at h
    rw [List.length_cons]
    split at h
    · have := ih h
      omega
    · cases h
      omega

/-- A round without bytes enough says so, and any other does the same when more bytes follow. -/
lemma utf8Round_cases (b0 : UInt8) (rest : List UInt8) : utf8Round b0 rest = .incomplete ∨
    (∃ point taken, taken ≤ rest.length + 1 ∧ ∀ more, utf8Round b0 (rest ++ more) = .char point taken) ∨
    ∃ message taken, taken ≤ rest.length + 1 ∧ ∀ more, utf8Round b0 (rest ++ more) = .malformed message taken := by
  simp only [utf8Round]
  split
  · exact .inr (.inl ⟨_, 1, by omega, fun _ => rfl⟩)
  cases utf8LeadByte b0.toNat with
  | none => exact .inr (.inr ⟨_, 1, by omega, fun _ => rfl⟩)
  | some lead =>
    obtain ⟨needed, bits, low, high⟩ := lead
    cases rest with
    | nil => exact .inl rfl
    | cons b1 rest =>
      simp only [cons_append, length_append, length_cons]
      split
      · exact .inr (.inr ⟨_, 1, by omega, fun _ => rfl⟩)
      split
      · exact .inl rfl
      have hSame (more : List UInt8) : (rest ++ more).take (needed - 2) = rest.take (needed - 2) :=
        take_append_of_le_length (by omega)
      have hLong (more : List UInt8) : ¬needed > rest.length + more.length + 2 := by omega
      simp only [hSame, hLong, if_false]
      cases hMore : continueCodePoint ((bits <<< 6) ||| (b1.toNat &&& 0x3f)) 2 (rest.take (needed - 2)) with
      | error index =>
        have hIndex := continueCodePoint_le hMore
        rw [length_take] at hIndex
        exact .inr (.inr ⟨_, index, by omega, fun _ => rfl⟩)
      | ok point => exact .inr (.inl ⟨point, needed, by omega, fun _ => rfl⟩)

lemma decodeUtf8Bytes_append (fatal : Bool) (bytes more : List UInt8) :
    decodeUtf8Bytes fatal false (bytes ++ more) =
      match decodeUtf8Bytes fatal true bytes with
      | .error message => .error message
      | .ok (text, remaining) =>
        (decodeUtf8Bytes fatal false (remaining ++ more)).map fun decoded => (text ++ decoded.1, decoded.2) := by
  induction hLength : bytes.length using Nat.strongRecOn generalizing bytes with
  | ind length ih =>
  cases bytes with
  | nil =>
    simp only [decodeUtf8Bytes, nil_append]
    cases decodeUtf8Bytes fatal false more <;> rfl
  | cons b0 rest =>
    subst hLength
    -- The bytes behind the ones that a round takes, with what follows them.
    have hNext {point taken : Nat} (hTaken : taken ≤ rest.length + 1) :
        (decodeUtf8Bytes fatal false ((rest ++ more).drop (taken - 1))).map (emit point) =
          match (decodeUtf8Bytes fatal true (rest.drop (taken - 1))).map (emit point) with
          | .error message => .error message
          | .ok (text, remaining) =>
            (decodeUtf8Bytes fatal false (remaining ++ more)).map fun decoded => (text ++ decoded.1, decoded.2) := by
      rw [drop_append_of_le_length (by omega), ih _ _ (rest.drop (taken - 1)) rfl]
      · cases decodeUtf8Bytes fatal true (rest.drop (taken - 1)) with
        | error => rfl
        | ok decoded =>
          simp only [Except.map, emit]
          cases decodeUtf8Bytes fatal false (decoded.2 ++ more) <;> rfl
      · rw [length_drop, length_cons]
        omega
    obtain hRound | ⟨point, taken, hTaken, hRound⟩ | ⟨message, taken, hTaken, hRound⟩ := utf8Round_cases b0 rest
    · rw [show decodeUtf8Bytes fatal true (b0 :: rest) = .ok ([], b0 :: rest) by rw [decodeUtf8Bytes, hRound]; rfl]
      dsimp only
      cases decodeUtf8Bytes fatal false (b0 :: rest ++ more) <;> rfl
    · have hOwn := hRound []
      rw [append_nil] at hOwn
      rw [cons_append, decodeUtf8Bytes, decodeUtf8Bytes, hRound, hOwn]
      exact hNext hTaken
    · have hOwn := hRound []
      rw [append_nil] at hOwn
      rw [cons_append, decodeUtf8Bytes, decodeUtf8Bytes, hRound, hOwn]
      cases fatal with
      | true => rfl
      | false => exact hNext hTaken

lemma decodeAll_eq (decoder : Utf8StreamingDecoder) (chunks : List (List UInt8)) :
    decoder.decodeAll chunks = textDecode decoder.fatal (decoder.pending ++ chunks.flatten) := by
  induction chunks generalizing decoder with
  | nil =>
    rw [Utf8StreamingDecoder.decodeAll, Utf8StreamingDecoder.finish, textDecode, flatten_nil, append_nil]
    cases decodeUtf8Bytes decoder.fatal false decoder.pending <;> rfl
  | cons chunk chunks ih =>
    rw [Utf8StreamingDecoder.decodeAll, Utf8StreamingDecoder.decode, textDecode, flatten_cons, ← append_assoc,
      decodeUtf8Bytes_append]
    cases decodeUtf8Bytes decoder.fatal true (decoder.pending ++ chunk) with
    | error => rfl
    | ok decoded =>
      simp only [Except.map, ih, textDecode]
      cases decodeUtf8Bytes decoder.fatal false (decoded.2 ++ chunks.flatten) <;> rfl

lemma decodeUtf8Bytes_encodeUtf8 {text : List Nat} (h : ∀ point ∈ text, IsScalar point) (fatal : Bool) :
    decodeUtf8Bytes fatal false (encodeUtf8 text) = .ok (text, []) := by
  induction text with
  | nil => simp [encodeUtf8, decodeUtf8Bytes]
  | cons point text ih =>
    obtain ⟨b0, more, hEncode, hRound⟩ := encodeUtf8_cons (forall_mem_cons.mp h).1 text
    rw [hEncode, decodeUtf8Bytes, hRound]
    simp only [Nat.add_sub_cancel, drop_left, ih (forall_mem_cons.mp h).2]
    rfl

/-- However the bytes are cut, the texts of the chunks are the text of the whole, or the same error is thrown. -/
theorem streaming_decoder_exact (fatal : Bool) (chunks : List (List UInt8)) :
    Utf8StreamingDecoder.decodeAll ⟨fatal, []⟩ chunks = textDecode fatal chunks.flatten ∧
      ∀ text, (∀ point ∈ text, IsScalar point) → chunks.flatten = encodeUtf8 text →
        Utf8StreamingDecoder.decodeAll ⟨fatal, []⟩ chunks = .ok text := by
  have hWhole := decodeAll_eq ⟨fatal, []⟩ chunks
  refine ⟨hWhole, fun text hText hBytes => ?_⟩
  rw [hWhole, hBytes, List.nil_append, textDecode, decodeUtf8Bytes_encodeUtf8 hText]
  rfl

theorem streaming_decoder_exact_cut :
    Utf8StreamingDecoder.decodeAll ⟨true, []⟩ [[0xf0, 0x9f], [], [0x98, 0x80, 0x41]] = .ok [0x1f600, 0x41] :=
  (streaming_decoder_exact true [[0xf0, 0x9f], [], [0x98, 0x80, 0x41]]).2 [0x1f600, 0x41] (by simp [IsScalar])
    (by decide)

end Sloppy.Codec
