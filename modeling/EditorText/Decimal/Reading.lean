import EditorText.Text.Numeral

/-!
# Reading decimals

A decimal is a sign, digits with an optional point, and an optional power of ten; or one of the
words for infinity and for no number. Underscores may stand singly between digits, and blanks
around the whole.
-/

set_option autoImplicit false

namespace EditorText.Decimal

/-- Takes digits off the front, with single underscores between them. The answer holds their value,
their number and what follows. -/
def takeDigits (value count : Nat) : Text → Nat × Nat × Text
  | [] => (value, count, [])
  | c :: t =>
    match digitValue? c with
    | some v => takeDigits (value * 10 + v) (count + 1) t
    | none =>
      if c = Code.underscore ∧ 0 < count then
        match t with
        | d :: r =>
          match digitValue? d with
          | some v => takeDigits (value * 10 + v) (count + 1) r
          | none => (value, count, c :: t)
        | [] => (value, count, c :: t)
      else (value, count, c :: t)

/-- The power of ten at the end of a decimal; nothing may follow it. -/
def exponent? : Text → Option Int
  | [] => some 0
  | c :: t =>
    if c = 101 ∨ c = 69 then
      let (negative, body) := Text.unsigned t
      match takeDigits 0 0 body with
      | (v, n, []) => if n = 0 then none else some (if negative then -(v : Int) else v)
      | _ => none
    else none

/-- The number `value * 10 ^ e`, rounded to the nearest. Powers beyond the range of the numbers give
zero and infinity without being computed. -/
def nearest (value : Nat) (e : Int) : Float :=
  if value = 0 then 0
  else if (Nat.toDigits 10 value).length + e > 400 then 1 / 0
  else if (Nat.toDigits 10 value).length + e < -400 then 0
  else match e with
    | .ofNat k => Float.ofScientific value false k
    | .negSucc k => Float.ofScientific value true (k + 1)

/-- An unsigned decimal in digits. -/
def plain? (t : Text) : Option Float :=
  let (whole, wholeCount, rest) := takeDigits 0 0 t
  let (value, fractionCount, tail) :=
    match rest with
    | Code.dot :: r =>
      match r with
      | Code.underscore :: _ => (whole, 0, r)
      | _ =>
        let (v, n, tail) := takeDigits 0 0 r
        (whole * Nat.pow 10 n + v, n, tail)
    | _ => (whole, 0, rest)
  if wholeCount + fractionCount = 0 then none
  else (exponent? tail).map fun e => nearest value (e - fractionCount)

/-- Reads a floating-point number. -/
def read? (t : Text) : Option Float :=
  let (negative, body) := Text.unsigned (Text.numeralBody t)
  let small := body.map fun c => if 65 ≤ c && c ≤ 90 then c + 32 else c
  let size :=
    if small = Text.ofString "inf" ∨ small = Text.ofString "infinity" then some (1 / 0)
    else if small = Text.ofString "nan" then some (0 / 0)
    else plain? body
  size.map fun x => if negative then -x else x

end EditorText.Decimal
