import Sloppy.Codec.Percent
import Sloppy.Codec.Utf8
import Sloppy.Core.Builder

/-! # Escaped strings

The string writer of `json_writer.c`. Bytes that need no escape go to the sink in runs; every other byte goes to it as
its escape. What a sink collects is a JSON string that reads back as the text, of the length that is computed for it.
-/

namespace Sloppy.JsonWriter

open List

def quote : UInt8 := 34

def backslash : UInt8 := 92

def stringNeedsEscape (text : List UInt8) : Bool := text.any fun ch => ch == quote || ch == backslash || ch < 0x20

def namedEscapeAllowed (ch : UInt8) : Bool := ch == 8 || ch == 12 || ch == 10 || ch == 13 || ch == 9

def escapeLetter (ch : UInt8) : UInt8 :=
  if ch = 8 then 98 else if ch = 12 then 102 else if ch = 10 then 110 else if ch = 13 then 114
  else if ch = 9 then 116 else 0

variable (codepointControls : Bool)

def additional (ch : UInt8) : Nat :=
  if ch = quote ∨ ch = backslash ∨ namedEscapeAllowed ch ∧ !codepointControls then 2 else if ch < 0x20 then 6 else 1

/-- The loop of the length functions. -/
def lengthFrom (codepointControls : Bool) : Nat → List UInt8 → Except StatusCode Nat
  | length, [] => .ok length
  | length, ch :: rest =>
    match checkedAddSize length (additional codepointControls ch) with
    | .error code => .error code
    | .ok length => lengthFrom codepointControls length rest

def escapedStringLength (text : List UInt8) : Except StatusCode Nat :=
  lengthFrom codepointControls 2 text

def hexDigit (value : UInt8) : UInt8 := if value < 10 then 48 + value else 87 + value

def codepointEscape (ch : UInt8) : List UInt8 :=
  [backslash, 117, 48, 48, hexDigit (ch >>> 4 &&& 15), hexDigit (ch &&& 15)]

/-- What is written for a byte that does not go on with a run. -/
def escapeOf (ch : UInt8) : Option (List UInt8) :=
  if ch = quote then some [backslash, quote]
  else if ch = backslash then some [backslash, backslash]
  else if namedEscapeAllowed ch then
    some (if codepointControls then codepointEscape ch else [backslash, escapeLetter ch])
  else if 0x20 ≤ ch then none
  else some (codepointEscape ch)

def runSpan (text : List UInt8) (runStart index : Nat) : List (List UInt8) :=
  if runStart < index then [(text.drop runStart).take (index - runStart)] else []

def escapeLoop (codepointControls : Bool) (text : List UInt8) (runStart index : Nat) : List UInt8 → List (List UInt8)
  | [] => runSpan text runStart index
  | ch :: rest =>
    match escapeOf codepointControls ch with
    | none => escapeLoop codepointControls text runStart (index + 1) rest
    | some escaped =>
      runSpan text runStart index ++ escaped :: escapeLoop codepointControls text (index + 1) (index + 1) rest

/-- What the sink is called with. -/
def escapedSpans (text : List UInt8) : List (List UInt8) :=
  if stringNeedsEscape text then [quote] :: escapeLoop codepointControls text 0 0 text ++ [[quote]]
  else [[quote], text, [quote]]

section Sinks

variable {σ : Type}

def sinkAll (sink : σ → List UInt8 → σ × Option StatusCode) (state : σ) : List (List UInt8) → σ × Option StatusCode
  | [] => (state, none)
  | span :: rest =>
    match sink state span with
    | (state, some code) => (state, some code)
    | (state, none) => sinkAll sink state rest

def sinkEscapedString (codepointControls : Bool) (text : List UInt8) (sink : σ → List UInt8 → σ × Option StatusCode)
    (state : σ) : σ × Option StatusCode :=
  sinkAll sink state (escapedSpans codepointControls text)

def collect (seen span : List UInt8) : List UInt8 × Option StatusCode := (seen ++ span, none)

end Sinks

def builderSink (builder : ByteBuilder) (bytes : List UInt8) : ByteBuilder × Option StatusCode :=
  match byteBuilderAppendBytes builder (.outside bytes) with
  | .error code => (builder, some code)
  | .ok builder => (builder, none)

structure Writer where
  data : List UInt8
  capacity : Nat
  length : Nat

def writeString (writer : Writer) (text : List UInt8) : Writer × Option StatusCode :=
  if writer.capacity < writer.length then (writer, some .invalidArgument)
  else
    let builder := byteBuilderInitFixed (writer.data.drop writer.length) (writer.capacity - writer.length)
    match sinkEscapedString false text builderSink builder with
    | (builder, some code) => ({ writer with data := writer.data.take writer.length ++ builder.data }, some code)
    | (builder, none) =>
      ({ writer with
        data := writer.data.take writer.length ++ builder.data
        length := writer.length + builder.length }, none)

/-! ## Reading a string -/

def unescapeLetter (letter : UInt8) : Option UInt8 :=
  [(34, 34), (92, 92), (47, 47), (98, 8), (102, 12), (110, 10), (114, 13), (116, 9)].lookup letter

def hexUnit (digits : List UInt8) : Option Nat :=
  digits.foldlM (fun value digit => (Percent.hexValue digit).map (value * 16 + ·)) 0

def pointBytes (point : Nat) : List UInt8 := (Codec.encodeCodePoint point).map UInt8.ofNat

/-- The text between the quotes of a JSON string. A control byte, a quote and a lone surrogate are no part of one. -/
def unescape : List UInt8 → Option (List UInt8)
  | [] => some []
  | 92 :: 117 :: a :: b :: c :: d :: rest => do
    let unit ← hexUnit [a, b, c, d]
    if unit < 0xd800 ∨ 0xe000 ≤ unit then (← unescape rest) |> (pointBytes unit ++ ·) |> some
    else
      match rest with
      | 92 :: 117 :: e :: f :: g :: h :: rest =>
        let low ← hexUnit [e, f, g, h]
        if unit < 0xdc00 ∧ 0xdc00 ≤ low ∧ low < 0xe000 then
          (unescape rest).map (pointBytes (0x10000 + (unit - 0xd800) * 0x400 + (low - 0xdc00)) ++ ·)
        else none
      | _ => none
  | 92 :: letter :: rest => do
    let ch ← unescapeLetter letter
    (unescape rest).map (ch :: ·)
  | ch :: rest => if ch < 0x20 ∨ ch = quote ∨ ch = backslash then none else (unescape rest).map (ch :: ·)

section Escapes

variable {mode : Bool}

def escapeByte (mode : Bool) (ch : UInt8) : List UInt8 := (escapeOf mode ch).getD [ch]

lemma runSpan_flatten (front rest : List UInt8) {runStart : Nat} (h : runStart ≤ front.length) :
    (runSpan (front ++ rest) runStart front.length).flatten = front.drop runStart := by
  rw [runSpan, drop_append_of_le_length h]
  split
  · simp
  · simp
    omega

/-- The run and the bytes that are left make up what is still to be written. -/
lemma escapeLoop_flatten (front rest : List UInt8) {runStart : Nat} (h : runStart ≤ front.length) :
    (escapeLoop mode (front ++ rest) runStart front.length rest).flatten =
      front.drop runStart ++ rest.flatMap (escapeByte mode) := by
  induction rest generalizing front runStart with
  | nil => simpa [escapeLoop] using runSpan_flatten front [] h
  | cons ch rest ih =>
    have hNext := @ih (front ++ [ch])
    rw [append_assoc, singleton_append, length_append, length_singleton] at hNext
    rw [escapeLoop, flatMap_cons, escapeByte]
    cases escapeOf mode ch with
    | none =>
      rw [hNext (Nat.le_succ_of_le h), drop_append_of_le_length h]
      simp
    | some =>
      rw [flatten_append, runSpan_flatten front _ h, flatten_cons, hNext le_rfl]
      simp

lemma forall_byte {test : UInt8 → Prop} (h : ∀ value < 256, test (UInt8.ofNat value)) (byte : UInt8) : test byte := by
  simpa using h byte.toNat byte.toNat_lt

lemma escapeByte_printable (ch : UInt8) (mode : Bool) : ∀ byte ∈ escapeByte mode ch, 0x20 ≤ byte := by
  have hAll : ∀ (ch : UInt8) (mode : Bool), (escapeByte mode ch).all (0x20 ≤ ·) = true :=
    forall_byte (by decide +kernel)
  simpa using hAll ch mode

lemma escapeByte_length : ∀ (ch : UInt8) (mode : Bool), (escapeByte mode ch).length = additional mode ch :=
  forall_byte (by decide +kernel)

/-- A byte stands for itself, or is written with a letter or with its number. -/
lemma escapeByte_cases : ∀ (ch : UInt8) (mode : Bool),
    escapeByte mode ch = [ch] ∧ 0x20 ≤ ch ∧ ch ≠ quote ∧ ch ≠ backslash ∨ stringNeedsEscape [ch] = true ∧
        ((∃ letter ∈ escapeByte mode ch, escapeByte mode ch = [backslash, letter] ∧ letter ≠ 117 ∧
          unescapeLetter letter = some ch) ∨
        escapeByte mode ch = codepointEscape ch ∧ hexUnit ((codepointEscape ch).drop 2) = some ch.toNat ∧
          ch.toNat < 0x80) :=
  forall_byte (by decide +kernel)

lemma escapedSpans_flatten (text : List UInt8) :
    (escapedSpans mode text).flatten = quote :: text.flatMap (escapeByte mode) ++ [quote] := by
  rw [escapedSpans]
  split
  · simpa using @escapeLoop_flatten mode [] text 0 (Nat.zero_le _)
  rename_i hPlain
  have hSame : text.flatMap (escapeByte mode) = text := by
    induction text with
    | nil => rfl
    | cons ch text ih =>
      rw [stringNeedsEscape, any_cons, Bool.or_eq_true, not_or] at hPlain
      obtain ⟨hByte, -⟩ | ⟨hNeeds, -⟩ := escapeByte_cases ch mode
      · rw [flatMap_cons, hByte, ih hPlain.2, singleton_append]
      · rw [stringNeedsEscape, any_cons, any_nil, Bool.or_false] at hNeeds
        exact absurd hNeeds hPlain.1
  simp [hSame]

lemma unescape_escapeByte (ch : UInt8) (rest : List UInt8) :
    unescape (escapeByte mode ch ++ rest) = (unescape rest).map (ch :: ·) := by
  obtain ⟨hByte, hPrintable, hQuote, hBackslash⟩ |
    ⟨-, ⟨letter, -, hByte, hLetter, hUnescaped⟩ | ⟨hByte, hUnit, hAscii⟩⟩ := escapeByte_cases ch mode
  · conv_lhs => unfold unescape
    simp_all [backslash, UInt8.not_lt.mpr hPrintable]
  · conv_lhs => unfold unescape
    simp_all [backslash]
  · have hPoint : pointBytes ch.toNat = [ch] := by
      rw [pointBytes, Codec.encodeCodePoint, if_pos (Nat.le_of_lt_succ hAscii), map_singleton, UInt8.ofNat_toNat]
    rw [codepointEscape, drop_succ_cons, drop_succ_cons, drop_zero] at hUnit
    rw [hByte, codepointEscape]
    conv_lhs => unfold unescape
    simp only [backslash, cons_append, nil_append, hUnit, Option.bind_eq_bind, Option.bind_some]
    rw [if_pos (by omega), hPoint]
    cases unescape rest <;> rfl

lemma lengthFrom_eq (len : Nat) (text : List UInt8) (h : len ≤ sizeMax) :
    lengthFrom mode len text = if len + (text.flatMap (escapeByte mode)).length ≤ sizeMax then
      .ok (len + (text.flatMap (escapeByte mode)).length) else .error .overflow := by
  induction text generalizing len with
  | nil => simp [lengthFrom, h]
  | cons ch text ih =>
    rw [lengthFrom, flatMap_cons, length_append, escapeByte_length]
    have hSmall : additional mode ch ≤ sizeMax := by
      rw [additional, sizeMax]
      split_ifs <;> omega
    by_cases hFits : len + additional mode ch ≤ sizeMax
    · simp only [checkedAddSize_of_le hFits, ih _ hFits, Nat.add_assoc]
    · rw [if_neg (by omega), checkedAddSize, if_pos (by omega)]

lemma sinkAll_collect (seen : List UInt8) (spans : List (List UInt8)) :
    sinkAll collect seen spans = (seen ++ spans.flatten, none) := by
  induction spans generalizing seen with
  | nil => simp [sinkAll]
  | cons span spans ih => simp [sinkAll, collect, ih]

lemma sinkAll_builder (builder : ByteBuilder) (spans : List (List UInt8))
    (h : (sinkAll builderSink builder spans).2 = none) :
    (sinkAll builderSink builder spans).1.length = builder.length + spans.flatten.length := by
  induction spans generalizing builder with
  | nil => simp [sinkAll]
  | cons span spans ih =>
    rw [sinkAll, builderSink] at h ⊢
    cases hAppend : byteBuilderAppendBytes builder (.outside span) with
    | error => simp [hAppend] at h
    | ok =>
      obtain ⟨-, rfl⟩ := byteBuilderAppendBytes_ok hAppend
      simp only [hAppend] at h ⊢
      rw [ih _ h, flatten_cons, length_append]
      simp [ByteSpan.length, Nat.add_assoc]

end Escapes

/-- What a sink collects is a quoted string that reads back as the text and has the length computed for it; a string
that does not fit leaves the length of the writer as it was. -/
theorem escaped_string_round_trip (text : List UInt8) :
    (∃ inner, sinkEscapedString codepointControls text collect [] = (quote :: inner ++ [quote], none) ∧
      (∀ byte ∈ inner, 0x20 ≤ byte) ∧ unescape inner = some text ∧
      escapedStringLength codepointControls text = if inner.length + 2 ≤ sizeMax then .ok (inner.length + 2)
        else .error .overflow) ∧
    ∀ writer, (writeString writer text).1.length = if (writeString writer text).2.isSome then writer.length
      else writer.length + (sinkEscapedString false text collect []).1.length := by
  refine ⟨⟨text.flatMap (escapeByte codepointControls), ?_, ?_, ?_, ?_⟩, fun writer => ?_⟩
  · rw [sinkEscapedString, sinkAll_collect, escapedSpans_flatten, nil_append]
  · intro byte hByte
    obtain ⟨ch, -, hByte⟩ := mem_flatMap.mp hByte
    exact escapeByte_printable ch codepointControls byte hByte
  · induction text with
    | nil => rfl
    | cons ch text ih => rw [flatMap_cons, unescape_escapeByte, ih, Option.map_some]
  · rw [escapedStringLength, lengthFrom_eq 2 text (by decide), Nat.add_comm]
  · rw [writeString]
    split
    · rfl
    have hLength := sinkAll_builder (byteBuilderInitFixed (writer.data.drop writer.length)
      (writer.capacity - writer.length)) (escapedSpans false text)
    simp only [sinkEscapedString, sinkAll_collect, nil_append]
    generalize sinkAll builderSink _ (escapedSpans false text) = result at hLength ⊢
    obtain ⟨builder, _ | code⟩ := result
    · simpa [byteBuilderInitFixed] using hLength rfl
    · rfl

end Sloppy.JsonWriter
