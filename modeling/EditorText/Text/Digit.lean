import EditorText.Text.Property

/-!
# Decimal digits

The decimal digits of all scripts come in rows of ten, zero first.
-/

set_option autoImplicit false

namespace EditorText

/-- The zeros of the rows of decimal digits. -/
def digitZeros : List Code := [
  48, 1632, 1776, 1984, 2406, 2534, 2662, 2790, 2918, 3046, 3174, 3302, 3430, 3558, 3664, 3792,
  3872, 4160, 4240, 6112, 6160, 6470, 6608, 6784, 6800, 6992, 7088, 7232, 7248, 42528, 43216, 43264,
  43472, 43504, 43600, 44016, 65296, 66720, 68912, 69734, 69872, 69942, 70096, 70384, 70736, 70864,
  71248, 71360, 71472, 71904, 72016, 72784, 73040, 73120, 92768, 92864, 93008, 120782, 120792,
  120802, 120812, 120822, 123200, 123632, 125264, 130032]

/-- The value of a decimal digit of any script. -/
def digitValue? (c : Code) : Option Nat :=
  if c < 128 then (if 48 ≤ c && c ≤ 57 then some (c - 48) else none)
  else (digitZeros.find? fun z => z ≤ c && c < z + 10).map (c - ·)

/-- A decimal digit of any script. -/
def isDigit (c : Code) : Bool :=
  (digitValue? c).isSome

/-- One of `0` to `9`. -/
def isAsciiDigit (c : Code) : Bool :=
  48 ≤ c && c ≤ 57

/-- The value of a digit of a base up to sixteen, in either case. -/
def hexValue? (c : Code) : Option Nat :=
  if 48 ≤ c && c ≤ 57 then some (c - 48)
  else if 65 ≤ c && c ≤ 70 then some (c - 55)
  else if 97 ≤ c && c ≤ 102 then some (c - 87)
  else none

/-- One of `0` to `9`, `a` to `f` and `A` to `F`. -/
def isHexDigit (c : Code) : Bool :=
  (hexValue? c).isSome

/-- One of `0` to `7`. -/
def isOctalDigit (c : Code) : Bool :=
  48 ≤ c && c ≤ 55

end EditorText
