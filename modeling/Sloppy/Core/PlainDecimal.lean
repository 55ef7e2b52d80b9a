import Mathlib.Algebra.Order.Field.Rat
import Mathlib.Tactic.FieldSimp
import Mathlib.Tactic.Ring
import Sloppy.Core.Status

/-! # Plain forms of printed floating-point numbers

`sl_string_format_rewrite_ryu_plain` of `builder.c`, from the exponent form that Ryu prints. The two local arrays hold
25 bytes, and a write behind their end is a value of the model.
-/

namespace Sloppy.PlainDecimal

open List

def minus : UInt8 := '-'.toUInt8

def point : UInt8 := '.'.toUInt8

def zero : UInt8 := '0'.toUInt8

def exponentMark : UInt8 := 'E'.toUInt8

def formatF64Capacity : Nat := 25

inductive Failure where
  | outside | rejected

inductive Precision where
  | single | double

def Precision.maxPlainExponent : Precision → Int
  | .single => 9
  | .double => 17

def push (array bytes : List UInt8) : Except Failure (List UInt8) :=
  if array.length + bytes.length ≤ formatF64Capacity then .ok (array ++ bytes) else .error .outside

def readExponent : Int → List UInt8 → Option Int
  | exponent, [] => some exponent
  | exponent, b :: rest => if b < 48 ∨ 57 < b then none else readExponent (exponent * 10 + (b.toNat - 48 : Nat)) rest

def plainDigits (digits : List UInt8) (decimalPos : Int) : List UInt8 :=
  if decimalPos ≤ 0 then zero :: point :: (List.replicate (-decimalPos).toNat zero ++ digits)
  else if digits.length ≤ decimalPos.toNat then digits ++ List.replicate (decimalPos.toNat - digits.length) zero
  else digits.take decimalPos.toNat ++ point :: digits.drop decimalPos.toNat

def rewritePlain (capacity : Nat) (sign mantissa : List UInt8) (exponent : Int) : Except Failure (List UInt8) := do
  let digits ← push [] (mantissa.filter (· != point))
  let rewritten ← push sign (plainDigits digits (exponent + 1))
  if capacity ≤ rewritten.length then .error .rejected else .ok rewritten

def rewriteRyuPlain (capacity : Nat) (precision : Precision) (text : List UInt8) : Except Failure (List UInt8) :=
  match text.dropWhile (· != exponentMark) with
  | [] => .ok text
  | _ :: tail =>
    let negative := tail.head? == some minus
    match readExponent 0 (if negative then tail.tail else tail) with
    | none => .error .rejected
    | some magnitude =>
      let exponent := if negative then -magnitude else magnitude
      if exponent < -4 ∨ precision.maxPlainExponent ≤ exponent then .ok text
      else
        let sign := if text.head? == some minus then [minus] else []
        rewritePlain capacity sign ((text.takeWhile (· != exponentMark)).drop sign.length) exponent

/-! ## Numerals -/

def digitByte (digit : Fin 10) : UInt8 := UInt8.ofNat (48 + digit)

def digitsFrom (value : Nat) (digits : List (Fin 10)) : Nat :=
  digits.foldl (fun value digit => value * 10 + digit.val) value

def digitsValue (digits : List (Fin 10)) : Nat := digitsFrom 0 digits

def signBytes (negative : Bool) : List UInt8 := if negative then [minus] else []

structure Decimal where
  negative : Bool
  whole : List (Fin 10)
  fraction : Option (List (Fin 10))
  exponent : Option (Bool × List (Fin 10))

def Decimal.digits (decimal : Decimal) : List (Fin 10) := decimal.whole ++ decimal.fraction.getD []

def Decimal.power (decimal : Decimal) : Int :=
  decimal.exponent.elim 0 fun exponent => if exponent.1 then -(digitsValue exponent.2) else digitsValue exponent.2

def Decimal.text (decimal : Decimal) : List UInt8 :=
  signBytes decimal.negative ++ decimal.whole.map digitByte ++
    (decimal.fraction.elim [] fun digits => point :: digits.map digitByte) ++
    decimal.exponent.elim [] fun exponent => exponentMark :: (signBytes exponent.1 ++ exponent.2.map digitByte)

def Decimal.value (decimal : Decimal) : ℚ :=
  (if decimal.negative then -1 else 1) * digitsValue decimal.digits *
    10 ^ (decimal.power - (decimal.fraction.getD []).length)

/-- What Ryu prints for a double. An exponent of three digits is far from the limits of `int32_t`. -/
structure Printed extends Decimal where
  first : Fin 10
  oneDigit : whole = [first]
  short : (fraction.getD []).length ≤ 16
  hasExponent : ∃ printed ∈ exponent, printed.2.length ≤ 3

section Values

lemma digitByte_facts : ∀ digit : Fin 10, digitByte digit ≠ exponentMark ∧ digitByte digit ≠ minus ∧
    digitByte digit ≠ point ∧ ¬(digitByte digit < 48 ∨ 57 < digitByte digit) ∧
      (digitByte digit).toNat - 48 = digit := by
  decide

lemma readExponent_digits (exponent : Nat) (digits : List (Fin 10)) :
    readExponent exponent (digits.map digitByte) = some (digitsFrom exponent digits : Int) := by
  induction digits generalizing exponent with
  | nil => rfl
  | cons digit digits ih =>
    obtain ⟨-, -, -, hDigit, hValue⟩ := digitByte_facts digit
    rw [map_cons, readExponent, if_neg hDigit, hValue, digitsFrom, foldl_cons]
    exact_mod_cast ih (exponent * 10 + digit.val)

lemma digitsFrom_eq (value : Nat) (digits : List (Fin 10)) :
    digitsFrom value digits = value * 10 ^ digits.length + digitsValue digits := by
  induction digits generalizing value with
  | nil => simp [digitsFrom, digitsValue]
  | cons digit digits ih =>
    have hFirst := ih (0 * 10 + digit.val)
    have hNext := ih (value * 10 + digit.val)
    simp only [digitsValue, digitsFrom, foldl_cons, length_cons] at hFirst hNext ⊢
    rw [hFirst, hNext]
    ring

lemma digitsValue_append (left right : List (Fin 10)) :
    digitsValue (left ++ right) = digitsValue left * 10 ^ right.length + digitsValue right := by
  rw [← digitsFrom_eq, digitsValue, digitsValue, digitsFrom, foldl_append]
  rfl

lemma digitsValue_zeros (count : Nat) : digitsValue (List.replicate count 0) = 0 := by
  induction count with
  | zero => rfl
  | succ count ih => simpa [digitsValue, digitsFrom, replicate_succ] using ih

/-- The plain numeral of digits with the point behind so many of them. -/
def plainOf (negative : Bool) (digits : List (Fin 10)) (decimalPos : Int) : Decimal :=
  if decimalPos ≤ 0 then ⟨negative, [0], some (List.replicate (-decimalPos).toNat 0 ++ digits), none⟩
  else if digits.length ≤ decimalPos.toNat then
    ⟨negative, digits ++ List.replicate (decimalPos.toNat - digits.length) 0, none, none⟩
  else ⟨negative, digits.take decimalPos.toNat, some (digits.drop decimalPos.toNat), none⟩

lemma plainOf_text (negative : Bool) (digits : List (Fin 10)) (decimalPos : Int) :
    (plainOf negative digits decimalPos).text =
      signBytes negative ++ plainDigits (digits.map digitByte) decimalPos := by
  have hZero : digitByte 0 = zero := rfl
  unfold plainOf plainDigits
  split
  · simp [Decimal.text, hZero]
  · rw [length_map]
    split <;> simp [Decimal.text, hZero]

lemma plainOf_value (negative : Bool) (digits : List (Fin 10)) (decimalPos : Int) :
    (plainOf negative digits decimalPos).value =
      (if negative then -1 else 1) * digitsValue digits * 10 ^ (decimalPos - digits.length) := by
  unfold plainOf
  split
  · have hDigits : digitsValue ([0] ++ (replicate (-decimalPos).toNat 0 ++ digits)) = digitsValue digits := by
      rw [digitsValue_append, digitsValue_append, digitsValue_zeros]
      simp [digitsValue, digitsFrom]
    rw [Decimal.value, Decimal.digits, Option.getD_some, hDigits, Decimal.power, Option.elim_none, length_append,
      length_replicate]
    congr 2
    omega
  · split
    · rw [Decimal.value, Decimal.digits, Option.getD_none, append_nil, digitsValue_append, digitsValue_zeros,
        length_replicate, Decimal.power, Option.elim_none, length_nil,
        show decimalPos - digits.length = (decimalPos.toNat - digits.length : Nat) by omega, zpow_natCast]
      simp
    · rw [Decimal.value, Decimal.digits, Option.getD_some, take_append_drop, Decimal.power, Option.elim_none,
        length_drop]
      congr 2
      omega

variable {negative : Bool} {digits : List (Fin 10)} {decimalPos : Int}

lemma plainOf_exponent : (plainOf negative digits decimalPos).exponent = none := by
  unfold plainOf
  split_ifs <;> rfl

lemma plainOf_whole (h : digits ≠ []) : (plainOf negative digits decimalPos).whole ≠ [] := by
  unfold plainOf
  split_ifs
  · simp
  · simp [h]
  · simp [h]
    omega

lemma plainDigits_length {digits : List UInt8} {decimalPos : Int} (hDigits : digits.length ≤ 17)
    (hLow : -4 < decimalPos)
    (hHigh : decimalPos ≤ 17) : (plainDigits digits decimalPos).length ≤ 22 := by
  unfold plainDigits
  split
  · simp
    omega
  split
  · simp
    omega
  · simp
    omega

end Values

section Texts

variable {decimal : Decimal}

def Decimal.mantissa (decimal : Decimal) : List UInt8 :=
  decimal.whole.map digitByte ++ decimal.fraction.elim [] fun digits => point :: digits.map digitByte

lemma mem_mantissa {b : UInt8} (h : b ∈ decimal.mantissa) : b ≠ exponentMark := by
  have hDigits (digits : List (Fin 10)) : b ∈ digits.map digitByte → b ≠ exponentMark := by
    rintro hMem
    obtain ⟨digit, -, rfl⟩ := mem_map.mp hMem
    exact (digitByte_facts digit).1
  rcases mem_append.mp h with hMem | hMem
  · exact hDigits _ hMem
  cases hFraction : decimal.fraction with
  | none => simp [hFraction] at hMem
  | some =>
    rw [hFraction, Option.elim_some, mem_cons] at hMem
    rcases hMem with rfl | hMem
    · decide
    · exact hDigits _ hMem

lemma mantissa_digits : decimal.mantissa.filter (· != point) = decimal.digits.map digitByte := by
  have hDigits (digits : List (Fin 10)) : (digits.map digitByte).filter (· != point) = digits.map digitByte := by
    rw [filter_eq_self]
    intro b hMem
    obtain ⟨digit, -, rfl⟩ := mem_map.mp hMem
    simpa using (digitByte_facts digit).2.2.1
  rw [Decimal.mantissa, Decimal.digits, filter_append, hDigits, map_append]
  cases decimal.fraction with
  | none => rfl
  | some => simp [hDigits]

lemma signed_head (sign : Bool) {digits : List (Fin 10)} {rest : List UInt8}
    (h : digits = [] → rest.head? ≠ some minus) :
    ((signBytes sign ++ (digits.map digitByte ++ rest)).head? == some minus) = sign := by
  cases sign with
  | true => rfl
  | false =>
    cases digits with
    | nil => simpa [signBytes] using h rfl
    | cons digit => simpa [signBytes] using (digitByte_facts digit).2.1

/-- The exponent is found where it was printed. -/
lemma rewriteRyuPlain_text (cap : Nat) (precision : Precision) {sign : Bool} {digits : List (Fin 10)}
    (hExponent : decimal.exponent = some (sign, digits)) (hWhole : decimal.whole ≠ []) :
    rewriteRyuPlain cap precision decimal.text =
      if decimal.power < -4 ∨ precision.maxPlainExponent ≤ decimal.power then .ok decimal.text
      else rewritePlain cap (signBytes decimal.negative) decimal.mantissa decimal.power := by
  have hText : decimal.text = (signBytes decimal.negative ++ decimal.mantissa) ++
      exponentMark :: (signBytes sign ++ digits.map digitByte) := by
    simp [Decimal.text, Decimal.mantissa, hExponent]
  have hFront : ∀ b ∈ signBytes decimal.negative ++ decimal.mantissa, (b != exponentMark) = true := by
    intro b hMem
    rw [bne_iff_ne]
    rcases mem_append.mp hMem with hSign | hMantissa
    · cases hNegative : decimal.negative with
      | true =>
        rw [hNegative, signBytes, if_pos rfl, mem_singleton] at hSign
        rw [hSign]
        decide
      | false => simp [hNegative, signBytes] at hSign
    · exact mem_mantissa hMantissa
  have hHead : (decimal.text.head? == some minus) = decimal.negative := by
    have hSigned := @signed_head decimal.negative decimal.whole ((decimal.fraction.elim [] fun digits =>
      point :: digits.map digitByte) ++ exponentMark :: (signBytes sign ++ digits.map digitByte)) fun hEmpty =>
        absurd hEmpty hWhole
    rw [hText, Decimal.mantissa]
    simpa only [append_assoc] using hSigned
  have hTail : ((signBytes sign ++ digits.map digitByte).head? == some minus) = sign := by
    simpa using @signed_head sign digits [] (by simp)
  have hMagnitude : readExponent 0 (if sign then (signBytes sign ++ digits.map digitByte).tail
      else signBytes sign ++ digits.map digitByte) = some (digitsValue digits : Int) := by
    cases sign <;> exact readExponent_digits 0 digits
  rw [rewriteRyuPlain, hHead]
  nth_rewrite 1 [hText]
  rw [dropWhile_append_of_pos hFront, dropWhile_cons_of_neg (by simp)]
  dsimp only
  rw [hTail, hMagnitude]
  dsimp only
  have hPower : decimal.power = if sign then -(digitsValue digits : Int) else digitsValue digits := by
    rw [Decimal.power, hExponent]
    rfl
  rw [← hPower]
  rw [hText, takeWhile_append_of_pos hFront, takeWhile_cons_of_neg (by simp), append_nil, ← signBytes, drop_left]

end Texts

/-- A printed number is rejected or written in a form of the same value, within the two arrays and the buffer. -/
theorem rewrite_ryu_plain_exact (capacity : Nat) (precision : Precision) (printed : Printed) :
    rewriteRyuPlain capacity precision printed.text = .error .rejected ∨
    ∃ decimal : Decimal, rewriteRyuPlain capacity precision printed.text = .ok decimal.text ∧
      decimal.value = printed.value ∧ (decimal = printed.toDecimal ∨
        decimal.exponent = none ∧ decimal.whole ≠ [] ∧ decimal.text.length < capacity) := by
  obtain ⟨⟨sign, digits⟩, hExponent, -⟩ := printed.hasExponent
  rw [rewriteRyuPlain_text capacity precision hExponent (by simp [printed.oneDigit])]
  split
  · exact Or.inr ⟨printed.toDecimal, rfl, rfl, Or.inl rfl⟩
  have hShort := printed.short
  have hMax : precision.maxPlainExponent ≤ 17 := by cases precision <;> decide
  have hLength : printed.digits.length = (printed.fraction.getD []).length + 1 := by
    simp [Decimal.digits, printed.oneDigit, Nat.add_comm]
  have hSign : (signBytes printed.negative).length ≤ 1 := by
    rw [signBytes]
    split <;> simp
  have hPlain := @plainDigits_length (printed.digits.map digitByte) (printed.power + 1) (by simp; omega) (by omega)
    (by omega)
  rw [rewritePlain, mantissa_digits, push, if_pos (by simp [formatF64Capacity]; omega), nil_append]
  simp only [bind, Except.bind]
  rw [push, if_pos (by rw [formatF64Capacity]; omega), ← plainOf_text]
  simp only
  split
  · exact Or.inl rfl
  rename_i hFits
  refine Or.inr ⟨_, rfl, ?_, Or.inr ⟨plainOf_exponent, plainOf_whole ?_, not_le.mp hFits⟩⟩
  · rw [plainOf_value, Decimal.value, hLength]
    congr 2
    push_cast
    ring
  · simp [Decimal.digits, printed.oneDigit]

def printedEighth : Printed := ⟨⟨true, [1], some [2, 5], some (true, [1])⟩, 1, rfl, by decide, _, rfl, by decide⟩

/-- What is printed as -1.25E-1 is written as -0.125. -/
theorem rewrite_ryu_plain_exact_eighth :
    rewriteRyuPlain 25 .double printedEighth.text = .ok [minus, zero, point, 49, 50, 53] ∧
      ∃ decimal : Decimal, rewriteRyuPlain 25 .double printedEighth.text = .ok decimal.text ∧
        decimal.value = printedEighth.value := by
  refine ⟨rfl, ?_⟩
  rcases rewrite_ryu_plain_exact 25 .double printedEighth with hRejected | ⟨decimal, hText, hValue, -⟩
  · cases hRejected
  · exact ⟨decimal, hText, hValue⟩

end Sloppy.PlainDecimal
