import EditorText.Text.Blank
import EditorText.Text.Digit

/-!
# Reading whole numbers

A numeral may stand between blanks, may carry a sign, and may have single underscores between its
digits. Decimal digits of every script count by their value. `readInt` refuses decimal numerals of
more than `digitLimit` digits.
-/

set_option autoImplicit false

namespace EditorText.Text

/-- The value of one digit in a base up to sixteen. -/
def baseDigit? (base : Nat) (c : Code) : Option Nat :=
  match (hexValue? c).or (digitValue? c) with
  | some v => if v < base then some v else none
  | none => none

/-- Reads on after a digit: further digits, each after at most one underscore. -/
def digitsFrom? (base value : Nat) : Text → Option Nat
  | [] => some value
  | Code.underscore :: c :: t =>
    match baseDigit? base c with
    | some v => digitsFrom? base (value * base + v) t
    | none => none
  | c :: t =>
    match baseDigit? base c with
    | some v => digitsFrom? base (value * base + v) t
    | none => none

/-- A run of digits, at least one, with single underscores inside it. -/
def digits? (base : Nat) : Text → Option Nat
  | [] => none
  | c :: t =>
    match baseDigit? base c with
    | some v => digitsFrom? base v t
    | none => none

/-- The letters that may announce a base behind a leading zero. -/
def baseMarks : Nat → List Code
  | 2 => [66, 98]
  | 8 => [79, 111]
  | 16 => [88, 120]
  | _ => []

/-- The digits behind an optional announcement of the base, such as `0x`. -/
def withoutBaseMark (base : Nat) : Text → Text
  | 48 :: m :: t =>
    if (baseMarks base).contains m then
      match t with
      | Code.underscore :: r => r
      | _ => t
    else 48 :: m :: t
  | t => t

/-- Takes a sign off the front; the flag says that it was a minus. -/
def unsigned : Text → Bool × Text
  | Code.dash :: t => (true, t)
  | Code.plus :: t => (false, t)
  | t => (false, t)

/-- A blank that may stand around a number: any but the four information separators. -/
def isNumeralBlank (c : Code) : Bool :=
  isBlank c && !(28 ≤ c && c ≤ 31)

/-- The text without the blanks that may stand around a number. -/
def numeralBody (t : Text) : Text :=
  ((t.dropWhile isNumeralBlank).reverse.dropWhile isNumeralBlank).reverse

/-- Reads a whole number in a base. -/
def int? (base : Nat) (t : Text) : Option Int :=
  let (negative, body) := unsigned (numeralBody t)
  (digits? base (withoutBaseMark base body)).map fun n => if negative then -(n : Int) else n

/-- A decimal number may not have more digits than this. -/
def digitLimit : Nat := 4300

/-- Why a text is read as no number. -/
inductive NumeralError where
  | malformed
  | tooManyDigits (digits : Nat)
  deriving DecidableEq, Repr

/-- How many digits stand at the start of a numeral. -/
def leadingDigits (t : Text) : Nat :=
  ((unsigned (numeralBody t)).2.takeWhile isDigit).length

/-- Reads a whole number in a base. Whether a decimal number has too many digits is decided before
what follows them is looked at. -/
def readInt (base : Nat) (t : Text) : Except NumeralError Int :=
  if base = 10 ∧ digitLimit < leadingDigits t then .error (.tooManyDigits (leadingDigits t))
  else match int? base t with
    | some n => .ok n
    | none => .error .malformed

/-- The value of digits of a base, where all are known to be such digits. -/
def natOf (base : Nat) (t : Text) : Nat :=
  t.foldl (fun n c => n * base + ((hexValue? c).getD 0)) 0

end EditorText.Text
