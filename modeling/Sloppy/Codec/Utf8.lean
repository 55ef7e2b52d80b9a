import Mathlib.Data.Nat.Bitwise
import Mathlib.Data.List.Basic
import Mathlib.Tactic.Common

/-! # UTF-8 texts

The text codec of `codec.js`. A text is the list of its code points; the encoder replaces lone surrogates,
and the decoder puts U+FFFD where it cannot read on. Texts of scalar values are read back as they were.
-/

namespace Sloppy.Codec

open List

def replacement : Nat := 0xfffd

def encodeCodePoint (point : Nat) : List Nat :=
  if point ≤ 0x7f then [point]
  else if point ≤ 0x7ff then [0xc0 ||| (point >>> 6), 0x80 ||| (point &&& 0x3f)]
  else if point ≤ 0xffff then
    [0xe0 ||| (point >>> 12), 0x80 ||| ((point >>> 6) &&& 0x3f), 0x80 ||| (point &&& 0x3f)]
  else
    [0xf0 ||| (point >>> 18), 0x80 ||| ((point >>> 12) &&& 0x3f), 0x80 ||| ((point >>> 6) &&& 0x3f),
      0x80 ||| (point &&& 0x3f)]

def encodeUtf8 (text : List Nat) : List UInt8 :=
  text.flatMap fun point =>
    (encodeCodePoint (if 0xd800 ≤ point ∧ point ≤ 0xdfff then replacement else point)).map UInt8.ofNat

/-- What a first byte says: how many bytes there are, its own bits, and the range of the second byte. -/
def utf8LeadByte (b0 : Nat) : Option (Nat × Nat × Nat × Nat) :=
  if 0xc2 ≤ b0 ∧ b0 ≤ 0xdf then some (2, b0 &&& 0x1f, 0x80, 0xbf)
  else if 0xe0 ≤ b0 ∧ b0 ≤ 0xef then
    some (3, b0 &&& 0x0f, if b0 = 0xe0 then 0xa0 else 0x80, if b0 = 0xed then 0x9f else 0xbf)
  else if 0xf0 ≤ b0 ∧ b0 ≤ 0xf4 then
    some (4, b0 &&& 0x07, if b0 = 0xf0 then 0x90 else 0x80, if b0 = 0xf4 then 0x8f else 0xbf)
  else none

def isContinuation (b : Nat) : Bool := decide (0x80 ≤ b) && decide (b ≤ 0xbf)

def continueCodePoint : Nat → Nat → List UInt8 → Except Nat Nat
  | point, _, [] => .ok point
  | point, index, next :: rest =>
    if isContinuation next.toNat then continueCodePoint ((point <<< 6) ||| (next.toNat &&& 0x3f)) (index + 1) rest
    else .error index

def decodeCodePoint (b0 : UInt8) (rest : List UInt8) : Nat × Nat :=
  if b0.toNat ≤ 0x7f then (b0.toNat, 1)
  else
    match utf8LeadByte b0.toNat with
    | none => (replacement, 1)
    | some (needed, bits, minSecond, maxSecond) =>
      match rest with
      | [] => (replacement, 1)
      | b1 :: more =>
        if b1.toNat < minSecond ∨ maxSecond < b1.toNat then (replacement, 1)
        else if needed > more.length + 2 then (replacement, more.length + 2)
        else
          match continueCodePoint ((bits <<< 6) ||| (b1.toNat &&& 0x3f)) 2 (more.take (needed - 2)) with
          | .error index => (replacement, index)
          | .ok point => (point, needed)

def decodeUtf8From : Nat → List UInt8 → List Nat
  | 0, _ | _ + 1, [] => []
  | fuel + 1, b0 :: rest =>
    (decodeCodePoint b0 rest).1 :: decodeUtf8From fuel (rest.drop ((decodeCodePoint b0 rest).2 - 1))

def decodeUtf8 (bytes : List UInt8) : List Nat := decodeUtf8From bytes.length bytes

/-- What the loop of the decoder does with the bytes from one place on. -/
inductive Utf8Round where
  | char (point taken : Nat)
  | malformed (message : String) (taken : Nat)
  | incomplete
  deriving DecidableEq

def utf8Round (b0 : UInt8) (rest : List UInt8) : Utf8Round :=
  if b0.toNat ≤ 0x7f then .char b0.toNat 1
  else
    match utf8LeadByte b0.toNat with
    | none => .malformed "UTF-8 input contains an invalid leading byte." 1
    | some (needed, bits, minSecond, maxSecond) =>
      match rest with
      | [] => .incomplete
      | b1 :: more =>
        if b1.toNat < minSecond ∨ maxSecond < b1.toNat then
          .malformed "UTF-8 input contains an invalid continuation byte." 1
        else if needed > more.length + 2 then .incomplete
        else
          match continueCodePoint ((bits <<< 6) ||| (b1.toNat &&& 0x3f)) 2 (more.take (needed - 2)) with
          | .error index => .malformed "UTF-8 input contains an invalid continuation byte." index
          | .ok point => .char point needed

/-- A Unicode scalar value. -/
def IsScalar (point : Nat) : Prop := point < 0xd800 ∨ 0xdfff < point ∧ point < 0x110000

section Bits

variable {x : Nat}

lemma or_c0 (h : x < 32) : 0xc0 ||| x = 0xc0 + x := (@Nat.two_pow_add_eq_or_of_lt 5 x h 6).symm

lemma or_e0 (h : x < 16) : 0xe0 ||| x = 0xe0 + x := (@Nat.two_pow_add_eq_or_of_lt 4 x h 14).symm

lemma or_f0 (h : x < 8) : 0xf0 ||| x = 0xf0 + x := (@Nat.two_pow_add_eq_or_of_lt 3 x h 30).symm

lemma or_80 (x : Nat) : 0x80 ||| (x &&& 0x3f) = 0x80 + x % 64 := by
  rw [Nat.and_two_pow_sub_one_eq_mod x 6]
  exact (@Nat.two_pow_add_eq_or_of_lt 6 _ (Nat.mod_lt _ (by decide)) 2).symm

lemma push_six (bits next : Nat) : (bits <<< 6) ||| (next &&& 0x3f) = bits * 64 + next % 64 := by
  rw [Nat.and_two_pow_sub_one_eq_mod next 6, ← Nat.shiftLeft_add_eq_or_of_lt (Nat.mod_lt _ (by decide)),
    Nat.shiftLeft_eq]

lemma byte_of_lt (h : x < 256) : (UInt8.ofNat x).toNat = x := by
  rw [UInt8.toNat_ofNat', Nat.mod_eq_of_lt h]

end Bits

variable {point : Nat}

lemma encodeCodePoint_cases (h : IsScalar point) : (point ≤ 0x7f ∧ encodeCodePoint point = [point]) ∨
    (0x7f < point ∧ point ≤ 0x7ff ∧ encodeCodePoint point = [0xc0 + point / 64, 0x80 + point % 64]) ∨
    (0x7ff < point ∧ point ≤ 0xffff ∧
      encodeCodePoint point = [0xe0 + point / 4096, 0x80 + point / 64 % 64, 0x80 + point % 64]) ∨
    (0xffff < point ∧ point < 0x110000 ∧ encodeCodePoint point =
      [0xf0 + point / 262144, 0x80 + point / 4096 % 64, 0x80 + point / 64 % 64, 0x80 + point % 64]) := by
  rw [IsScalar] at h
  rw [encodeCodePoint]
  simp only [or_80, Nat.shiftRight_eq_div_pow]
  split
  · exact Or.inl ⟨by assumption, rfl⟩
  split
  · refine Or.inr (Or.inl ⟨by omega, by assumption, ?_⟩)
    rw [or_c0 (by omega)]
  split
  · refine Or.inr (Or.inr (Or.inl ⟨by omega, by assumption, ?_⟩))
    rw [or_e0 (by omega)]
  · refine Or.inr (Or.inr (Or.inr ⟨by omega, by omega, ?_⟩))
    rw [or_f0 (by omega)]

variable {x : Nat}

lemma utf8LeadByte_two (hLow : 2 ≤ x) (hHigh : x < 32) : utf8LeadByte (0xc0 + x) = some (2, x, 0x80, 0xbf) := by
  rw [utf8LeadByte, if_pos (by omega), Nat.and_two_pow_sub_one_eq_mod _ 5]
  rw [show (0xc0 + x) % 2 ^ 5 = x by omega]

lemma utf8LeadByte_three (hHigh : x < 16) :
    utf8LeadByte (0xe0 + x) = some (3, x, if x = 0 then 0xa0 else 0x80, if x = 13 then 0x9f else 0xbf) := by
  rw [utf8LeadByte, if_neg (by omega), if_pos (by omega), Nat.and_two_pow_sub_one_eq_mod _ 4]
  rw [show (0xe0 + x) % 2 ^ 4 = x by omega]
  simp only [show (0xe0 + x = 0xe0) ↔ x = 0 by omega, show (0xe0 + x = 0xed) ↔ x = 13 by omega]

lemma utf8LeadByte_four (hHigh : x < 5) :
    utf8LeadByte (0xf0 + x) = some (4, x, if x = 0 then 0x90 else 0x80, if x = 4 then 0x8f else 0xbf) := by
  rw [utf8LeadByte, if_neg (by omega), if_neg (by omega), if_pos (by omega), Nat.and_two_pow_sub_one_eq_mod _ 3]
  rw [show (0xf0 + x) % 2 ^ 3 = x by omega]
  simp only [show (0xf0 + x = 0xf0) ↔ x = 0 by omega, show (0xf0 + x = 0xf4) ↔ x = 4 by omega]

lemma continueCodePoint_cons {next : UInt8} (hNext : next.toNat = 0x80 + x) (hBound : x < 64) (point index : Nat)
    (rest : List UInt8) :
    continueCodePoint point index (next :: rest) = continueCodePoint (point * 64 + x) (index + 1) rest := by
  have hContinues : isContinuation next.toNat = true := by
    rw [isContinuation, hNext, Bool.and_eq_true, decide_eq_true_eq, decide_eq_true_eq]
    omega
  rw [continueCodePoint, if_pos hContinues, push_six, hNext]
  rw [show (0x80 + x) % 64 = x by omega]

lemma utf8Round_encode (h : IsScalar point) (rest : List UInt8) :
    ∃ b0 more, (encodeCodePoint point).map UInt8.ofNat = b0 :: more ∧
      utf8Round b0 (more ++ rest) = .char point (more.length + 1) := by
  have hScalar := h
  rw [IsScalar] at hScalar
  obtain ⟨hBound, hBytes⟩ | ⟨hLow, hBound, hBytes⟩ | ⟨hLow, hBound, hBytes⟩ | ⟨hLow, hBound, hBytes⟩ :=
    encodeCodePoint_cases h
  · refine ⟨UInt8.ofNat point, [], by rw [hBytes]; rfl, ?_⟩
    rw [utf8Round, byte_of_lt (by omega), if_pos hBound]
    rfl
  · refine ⟨_, _, by rw [hBytes]; rfl, ?_⟩
    rw [utf8Round, byte_of_lt (by omega), if_neg (by omega), utf8LeadByte_two (by omega) (by omega)]
    simp only [map_cons, map_nil, cons_append, nil_append]
    rw [byte_of_lt (by omega), if_neg (by omega), if_neg (by omega)]
    simp only [Nat.sub_self, take_zero, continueCodePoint, push_six]
    congr 1
    omega
  · refine ⟨_, _, by rw [hBytes]; rfl, ?_⟩
    rw [utf8Round, byte_of_lt (by omega), if_neg (by omega), utf8LeadByte_three (by omega)]
    simp only [map_cons, map_nil, cons_append, nil_append]
    rw [byte_of_lt (by omega), if_neg (by split <;> split <;> omega), if_neg (by rw [length_cons]; omega)]
    simp only [take_succ_cons, take_zero, Nat.reduceSub]
    rw [continueCodePoint_cons (byte_of_lt (by omega)) (by omega), continueCodePoint, push_six]
    dsimp only
    congr 1
    omega
  · refine ⟨_, _, by rw [hBytes]; rfl, ?_⟩
    rw [utf8Round, byte_of_lt (by omega), if_neg (by omega), utf8LeadByte_four (by omega)]
    simp only [map_cons, map_nil, cons_append, nil_append]
    rw [byte_of_lt (by omega), if_neg (by split <;> split <;> omega), if_neg (by rw [length_cons, length_cons]; omega)]
    simp only [take_succ_cons, take_zero, Nat.reduceSub]
    rw [continueCodePoint_cons (byte_of_lt (by omega)) (by omega),
      continueCodePoint_cons (byte_of_lt (by omega)) (by omega), continueCodePoint, push_six]
    dsimp only
    congr 1
    omega

lemma decodeCodePoint_eq (b0 : UInt8) (rest : List UInt8) : decodeCodePoint b0 rest =
      match utf8Round b0 rest with
      | .char point taken => (point, taken)
      | .malformed _ taken => (replacement, taken)
      | .incomplete => (replacement, rest.length + 1) := by
  rw [decodeCodePoint, utf8Round]
  split
  · rfl
  cases utf8LeadByte b0.toNat with
  | none => rfl
  | some lead =>
    cases rest with
    | nil => rfl
    | cons b1 more =>
      dsimp only
      split
      · rfl
      · split
        · rfl
        · cases continueCodePoint ((lead.2.1 <<< 6) ||| (b1.toNat &&& 0x3f)) 2 (more.take (lead.1 - 2)) <;> rfl

lemma encodeUtf8_cons (h : IsScalar point) (text : List Nat) :
    ∃ b0 more, encodeUtf8 (point :: text) = b0 :: (more ++ encodeUtf8 text) ∧
      utf8Round b0 (more ++ encodeUtf8 text) = .char point (more.length + 1) := by
  obtain ⟨b0, more, hBytes, hRound⟩ := utf8Round_encode h (encodeUtf8 text)
  refine ⟨b0, more, ?_, hRound⟩
  rw [IsScalar] at h
  rw [encodeUtf8, flatMap_cons, if_neg (by omega), hBytes, cons_append]
  rfl

variable {text : List Nat} {fuel : Nat}

lemma decodeUtf8From_encodeUtf8 (h : ∀ point ∈ text, IsScalar point) (hFuel : (encodeUtf8 text).length ≤ fuel) :
    decodeUtf8From fuel (encodeUtf8 text) = text := by
  induction text generalizing fuel with
  | nil => cases fuel <;> rfl
  | cons point text ih =>
    obtain ⟨b0, more, hEncode, hRound⟩ := encodeUtf8_cons (h point (mem_cons_self ..)) text
    rw [hEncode, length_cons, length_append] at hFuel
    obtain ⟨fuel, rfl⟩ : ∃ left, fuel = left + 1 := ⟨fuel - 1, by omega⟩
    rw [hEncode, decodeUtf8From, decodeCodePoint_eq, hRound]
    rw [Nat.add_sub_cancel, drop_left, ih (fun other hOther => h other (mem_cons_of_mem _ hOther)) (by omega)]

lemma decodeUtf8_encodeUtf8 (h : ∀ point ∈ text, IsScalar point) : decodeUtf8 (encodeUtf8 text) = text :=
  decodeUtf8From_encodeUtf8 h (Nat.le_refl _)

variable {bytes : List UInt8}

section

variable (h : ∀ b ∈ bytes, b.toNat ≤ 0x7f)
include h

lemma decodeUtf8From_ascii (hFuel : bytes.length ≤ fuel) : decodeUtf8From fuel bytes = bytes.map UInt8.toNat := by
  induction bytes generalizing fuel with
  | nil => cases fuel <;> rfl
  | cons b bytes ih =>
    rw [length_cons] at hFuel
    obtain ⟨fuel, rfl⟩ : ∃ left, fuel = left + 1 := ⟨fuel - 1, by omega⟩
    rw [decodeUtf8From, decodeCodePoint, if_pos (h b (mem_cons_self ..)), Nat.sub_self, drop_zero]
    rw [ih (fun other hOther => h other (mem_cons_of_mem _ hOther)) (by omega), map_cons]

lemma decodeUtf8_ascii : decodeUtf8 bytes = bytes.map UInt8.toNat :=
  decodeUtf8From_ascii h (Nat.le_refl _)

lemma encodeUtf8_ascii : encodeUtf8 (bytes.map UInt8.toNat) = bytes := by
  induction bytes with
  | nil => rfl
  | cons b bytes ih =>
    have hAscii := h b (mem_cons_self ..)
    have hRest := ih fun other hOther => h other (mem_cons_of_mem _ hOther)
    rw [encodeUtf8] at hRest
    rw [encodeUtf8, map_cons, flatMap_cons, hRest, if_neg (by omega), encodeCodePoint, if_pos hAscii]
    rw [map_cons, map_nil, UInt8.ofNat_toNat]
    rfl

end

end Sloppy.Codec
