import Sloppy.Core.Plan

/-! # Percent coding

The decoder of query components and the encoder of generated URLs. A text decodes if each of its escapes is
followed by two hexadecimal digits; what is encoded decodes to itself.
-/

namespace Sloppy.Percent

open List

def percent : UInt8 := '%'.toUInt8

def plus : UInt8 := '+'.toUInt8

def space : UInt8 := ' '.toUInt8

def hexValue (b : UInt8) : Option Nat :=
  if '0'.toUInt8 ≤ b ∧ b ≤ '9'.toUInt8 then some (b.toNat - '0'.toNat)
  else if 'A'.toUInt8 ≤ b ∧ b ≤ 'F'.toUInt8 then some (b.toNat - 'A'.toNat + 10)
  else if 'a'.toUInt8 ≤ b ∧ b ≤ 'f'.toUInt8 then some (b.toNat - 'a'.toNat + 10)
  else none

/-- The loop of `sl_http_query_decode`; `none` for an escape that is not one. -/
def decode : List UInt8 → Option (List UInt8)
  | [] => some []
  | b :: rest =>
    if b = plus then (decode rest).map (space :: ·)
    else if b = percent then
      match rest with
      | high :: low :: rest =>
        match hexValue high, hexValue low with
        | some high, some low => (decode rest).map (UInt8.ofNat (high <<< 4 ||| low) :: ·)
        | _, _ => none
      | _ => none
    else (decode rest).map (b :: ·)

def HexPair : List UInt8 → Prop
  | high :: low :: _ => (hexValue high).isSome = true ∧ (hexValue low).isSome = true
  | _ => False

/-- Every percent sign is followed by two hexadecimal digits. -/
def Escapes (text : List UInt8) : Prop := ∀ rest, percent :: rest <:+ text → HexPair rest

lemma escapes_nil : Escapes [] := fun _ h => absurd (suffix_nil.mp h) (cons_ne_nil _ _)

variable {b : UInt8}

lemma escapes_cons {text : List UInt8} : Escapes (b :: text) ↔ (b = percent → HexPair text) ∧ Escapes text := by
  constructor
  · intro h
    refine ⟨?_, fun rest hRest => h rest (hRest.trans (suffix_cons _ _))⟩
    rintro rfl
    exact h text suffix_rfl
  · rintro ⟨hFirst, hMore⟩ rest hRest
    rcases suffix_cons_iff.mp hRest with hHere | hLater
    · cases hHere
      exact hFirst rfl
    · exact hMore rest hLater

lemma not_percent_of_hex (h : (hexValue b).isSome = true) : b ≠ percent := by
  rintro rfl
  cases h

lemma escapes_append {separator : UInt8} (hPercent : separator ≠ percent) (hHex : hexValue separator = none)
    (left right : List UInt8) : Escapes (left ++ separator :: right) ↔ Escapes left ∧ Escapes right := by
  induction left with
  | nil =>
    rw [nil_append, escapes_cons]
    exact ⟨fun h => ⟨escapes_nil, h.2⟩, fun h => ⟨fun hSame => absurd hSame hPercent, h.2⟩⟩
  | cons b left ih =>
    have hPair : HexPair (left ++ separator :: right) ↔ HexPair left := by
      rcases left with _ | ⟨high, _ | ⟨low, left⟩⟩
      · cases right <;> simp [HexPair, hHex]
      · simp [HexPair, hHex]
      · rfl
    rw [cons_append, escapes_cons, escapes_cons, ih, hPair, and_assoc]

lemma decode_plus (rest : List UInt8) : decode (plus :: rest) = (decode rest).map (space :: ·) := by
  rw [decode.eq_def]
  exact if_pos rfl

lemma decode_plain (hPlus : b ≠ plus) (hPercent : b ≠ percent) (rest : List UInt8) :
    decode (b :: rest) = (decode rest).map (b :: ·) := by
  rw [decode.eq_def]
  exact (if_neg hPlus).trans (if_neg hPercent)

lemma decode_isSome (text : List UInt8) : (decode text).isSome = true ↔ Escapes text := by
  induction text using decode.induct with
  | case1 => exact ⟨fun _ => escapes_nil, fun _ => rfl⟩
  | case2 rest ih =>
    rw [decode_plus, Option.isSome_map, ih, escapes_cons]
    exact ⟨fun h => ⟨fun hSame => absurd hSame (by decide), h⟩, fun h => h.2⟩
  | case3 high low rest highValue lowValue hLow hHigh hPlus ih =>
    have hHighSome : (hexValue high).isSome = true := by rw [hHigh]; rfl
    have hLowSome : (hexValue low).isSome = true := by rw [hLow]; rfl
    have hDecoded : decode (percent :: high :: low :: rest) =
        (decode rest).map (UInt8.ofNat (highValue <<< 4 ||| lowValue) :: ·) := by
      rw [decode, if_neg hPlus, if_pos rfl, hHigh, hLow]
    rw [hDecoded, Option.isSome_map, ih, escapes_cons, escapes_cons, escapes_cons]
    constructor
    · intro h
      exact ⟨fun _ => ⟨hHighSome, hLowSome⟩, fun hSame => absurd hSame (not_percent_of_hex hHighSome),
        fun hSame => absurd hSame (not_percent_of_hex hLowSome), h⟩
    · exact fun h => h.2.2.2
  | case4 high low rest hNone hPlus =>
    have hDecoded : decode (percent :: high :: low :: rest) = none := by
      rw [decode, if_neg hPlus, if_pos rfl]
      cases hHigh : hexValue high with
      | none => rfl
      | some highValue =>
        cases hLow : hexValue low with
        | none => rfl
        | some lowValue => exact absurd hLow (hNone highValue lowValue hHigh)
    rw [hDecoded, escapes_cons]
    refine ⟨nofun, fun h => ?_⟩
    obtain ⟨hHigh, hLow⟩ := h.1 rfl
    obtain ⟨highValue, hHigh⟩ := Option.isSome_iff_exists.mp hHigh
    obtain ⟨lowValue, hLow⟩ := Option.isSome_iff_exists.mp hLow
    exact absurd hLow (hNone highValue lowValue hHigh)
  | case5 rest hShort =>
    rw [escapes_cons]
    rcases rest with _ | ⟨high, _ | ⟨low, rest⟩⟩
    · exact ⟨nofun, fun h => absurd (h.1 rfl) id⟩
    · exact ⟨nofun, fun h => absurd (h.1 rfl) id⟩
    · exact absurd rfl (hShort high low rest)
  | case6 b rest hPlus hPercent ih =>
    rw [decode_plain hPlus hPercent, Option.isSome_map, ih, escapes_cons]
    exact ⟨fun h => ⟨fun hSame => absurd hSame hPercent, h⟩, fun h => h.2⟩

def urlUnreserved (b : UInt8) : Bool :=
  ('A'.toUInt8 ≤ b && b ≤ 'Z'.toUInt8) || ('a'.toUInt8 ≤ b && b ≤ 'z'.toUInt8) ||
    ('0'.toUInt8 ≤ b && b ≤ '9'.toUInt8) || b == '-'.toUInt8 || b == '.'.toUInt8 || b == '_'.toUInt8 ||
    b == '~'.toUInt8

def hexDigit (value : Nat) : UInt8 := (ascii "0123456789ABCDEF".toList).getD value 0

def encodeByte (b : UInt8) : List UInt8 :=
  if urlUnreserved b then [b] else [percent, hexDigit (b.toNat >>> 4 &&& 15), hexDigit (b.toNat &&& 15)]

def encode (value : List UInt8) : List UInt8 := value.flatMap encodeByte

lemma decode_encodeByte (b : UInt8) (rest : List UInt8) :
    decode (encodeByte b ++ rest) = (decode rest).map (b :: ·) := by
  rw [encodeByte]
  split
  next hPlain =>
    apply decode_plain
    · rintro rfl
      exact absurd hPlain (by decide)
    · rintro rfl
      exact absurd hPlain (by decide)
  · have hDigit : ∀ value < 16, hexValue (hexDigit value) = some value := by decide +kernel
    have hByte : ∀ value < 256, (value >>> 4 &&& 15) < 16 ∧ (value &&& 15) < 16 ∧
        (value >>> 4 &&& 15) <<< 4 ||| (value &&& 15) = value := by decide +kernel
    obtain ⟨hHigh, hLow, hJoined⟩ := hByte b.toNat b.toNat_lt
    rw [cons_append, cons_append, singleton_append, decode, if_neg (by decide), if_pos rfl,
      hDigit _ hHigh, hDigit _ hLow]
    simp only [hJoined, UInt8.ofNat_toNat]

lemma decode_encode (value : List UInt8) : decode (encode value) = some value := by
  induction value with
  | nil => rfl
  | cons b value ih => rw [encode, flatMap_cons, decode_encodeByte, ← encode, ih, Option.map_some]

lemma mem_encode {value : List UInt8} (h : b ∈ encode value) : urlUnreserved b = true ∨ b = percent := by
  have hDigit : ∀ value < 256, urlUnreserved (hexDigit (value >>> 4 &&& 15)) = true ∧
      urlUnreserved (hexDigit (value &&& 15)) = true := by decide +kernel
  obtain ⟨original, -, hByte⟩ := mem_flatMap.mp h
  rw [encodeByte] at hByte
  split at hByte
  · obtain rfl := mem_singleton.mp hByte
    exact Or.inl (by assumption)
  simp only [mem_cons, not_mem_nil, or_false] at hByte
  rcases hByte with rfl | rfl | rfl
  · exact Or.inr rfl
  · exact Or.inl (hDigit _ original.toNat_lt).1
  · exact Or.inl (hDigit _ original.toNat_lt).2

end Sloppy.Percent
