import Mathlib.Data.UInt
import Mathlib.Tactic.Common

/-! # Texts of code units

The strings of JavaScript: lists of UTF-16 code units, how many bytes one takes in UTF-8, and numbers written with
hexadecimal digits.
-/

namespace Sloppy.Lib.CodeUnits

abbrev Text := List UInt16

def asciiText (literal : String) : Text := literal.toList.map fun c => UInt16.ofNat c.toNat

/-- What `\s` of a regular expression matches. -/
def isSpace (point : Nat) : Bool :=
  (decide (9 ≤ point) && decide (point ≤ 13)) || point == 0x20 || point == 0xa0 || point == 0x1680 ||
    (decide (0x2000 ≤ point) && decide (point ≤ 0x200a)) || point == 0x2028 || point == 0x2029 ||
    point == 0x202f || point == 0x205f || point == 0x3000 || point == 0xfeff

def hexDigit (n : Nat) : UInt16 := UInt16.ofNat (if n < 10 then 48 + n else 87 + n)

def hexDigits : Nat → Nat → Text
  | 0, _ => []
  | width + 1, n => hexDigits width (n / 16) ++ [hexDigit (n % 16)]

def isHighSurrogate (unit : UInt16) : Bool := 0xD800 ≤ unit && unit < 0xDC00

def isLowSurrogate (unit : UInt16) : Bool := 0xDC00 ≤ unit && unit < 0xE000

/-- The units, and whether each belongs to a surrogate pair. -/
def marked : Text → List (UInt16 × Bool)
  | [] => []
  | [unit] => [(unit, false)]
  | high :: low :: rest =>
    if isHighSurrogate high && isLowSurrogate low then (high, true) :: (low, true) :: marked rest
    else (high, false) :: marked (low :: rest)

/-- The bytes of a text in UTF-8; a lone surrogate is written as the replacement character. -/
def utf8Length (text : Text) : Nat :=
  ((marked text).map fun unit =>
    if unit.1 < 0x80 then 1 else if unit.1 < 0x800 then 2 else if unit.2 then 2 else 3).sum

end Sloppy.Lib.CodeUnits
