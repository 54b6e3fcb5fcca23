import EditorText.Text.Basic

/-!
# Shortest decimals

The decimal text of a floating-point number: the fewest digits that read back as the number, and of
those the nearest. A number is taken apart into `mantissa * 2 ^ exponent`; the reals that round to
it form an interval, which holds its ends exactly if the mantissa is even. A grid of decimals with a
given number of digits is searched at the two neighbours of the number.
-/

set_option autoImplicit false

namespace EditorText.Decimal

/-- A positive number `mantissa * 2 ^ exponent`. The lower neighbour is nearer than the upper one
where the mantissa is the least of its binade. -/
structure Binary where
  mantissa : Nat
  exponent : Int
  leastOfBinade : Bool

/-- Decimal digits `d` for the number `d * 10 ^ exponent`. -/
structure Digits where
  value : Nat
  exponent : Int

/-- `n * base ^ e` as a fraction. -/
def scaled (n base : Nat) (e : Int) : Nat × Nat :=
  match e with
  | .ofNat k => (n * Nat.pow base k, 1)
  | .negSucc k => (n, Nat.pow base (k + 1))

/-- A fraction lies in the interval that rounds to the number, all in quarters of its last place. -/
def Binary.accepts (b : Binary) (num den : Nat) : Bool :=
  let (unit, under) := scaled 1 2 (b.exponent - 2)
  let low := (4 * b.mantissa - (if b.leastOfBinade then 1 else 2)) * unit
  let high := (4 * b.mantissa + 2) * unit
  let x := num * under
  if b.mantissa % 2 = 0 then low * den ≤ x && x ≤ high * den
  else low * den < x && x < high * den

/-- The power of ten of the number's first digit. -/
def Binary.magnitude (b : Binary) : Int :=
  let (num, den) := scaled b.mantissa 2 b.exponent
  ((Nat.toDigits 10 (num * Nat.pow 10 340 / den)).length : Int) - 341

/-- The decimal with `count` digits that reads back, if there is one. -/
def Binary.onGrid? (b : Binary) (count : Nat) : Option Digits :=
  let unit : Int := b.magnitude - count + 1
  let (num, den) := scaled b.mantissa 2 b.exponent
  let (tens, ones) := scaled 1 10 unit
  let below : Nat := num * ones / (den * tens)
  let rest : Nat := num * ones % (den * tens)
  let fits (d : Nat) : Bool := b.accepts (d * tens) ones
  let nearerBelow := 2 * rest < den * tens || (2 * rest == den * tens && below % 2 == 0)
  if fits below && (nearerBelow || !fits (below + 1)) then some ⟨below, unit⟩
  else if fits (below + 1) then some ⟨below + 1, unit⟩
  else none

/-- The shortest decimal that reads back; seventeen digits always do. -/
def Binary.shortest (b : Binary) : Digits :=
  ((List.range 17).findSome? fun n => b.onGrid? (n + 1)).getD ⟨0, 0⟩

/-- The bit that tells the sign of a number. -/
def signBit : Nat := 0x8000000000000000

/-- The least mantissa of a number with its full precision. -/
def leastMantissa : Nat := 0x10000000000000

/-- A finite number above zero, taken apart. -/
def Binary.ofBits (bits : Nat) : Binary :=
  let field : Nat := bits / leastMantissa % 0x800
  let fraction : Nat := bits % leastMantissa
  if field = 0 then ⟨fraction, -1074, false⟩
  else ⟨fraction + leastMantissa, (field : Int) - 1075, fraction == 0 && field != 1⟩

/-- The digits of a number without zeros at their end. -/
def Digits.text (d : Digits) : Text :=
  ((Text.ofNat d.value).reverse.dropWhile (· == 48)).reverse

/-- The position of the decimal point, counted from the first digit. -/
def Digits.point (d : Digits) : Int :=
  (Text.ofNat d.value).length + d.exponent

/-- A positive number in digits: positional from a ten-thousandth up to sixteen places before the
point, always with a digit behind the point, and with an exponent of at least two digits outside
that range. -/
def Digits.shown (d : Digits) : Text :=
  let t := d.text
  let p := d.point
  if -4 < p ∧ p ≤ 16 then
    if p ≤ 0 then Text.ofChars ['0', '.'] ++ Text.run 48 (-p).toNat ++ t
    else if t.length ≤ p.toNat then
      t ++ Text.run 48 (p.toNat - t.length) ++ Text.ofChars ['.', '0']
    else t.take p.toNat ++ Code.dot :: t.drop p.toNat
  else
    let e := p - 1
    let size := Text.ofNat e.natAbs
    let padded := if size.length < 2 then 48 :: size else size
    let sign := if e < 0 then Code.dash else Code.plus
    let body := match t with
      | c :: rest@(_ :: _) => c :: Code.dot :: rest
      | _ => t
    body ++ 101 :: sign :: padded

/-- The text of a floating-point number. -/
def shown (x : Float) : Text :=
  let bits := x.toBits.toNat
  let magnitude := bits % signBit
  let sign : Text := if bits < signBit then [] else [Code.dash]
  if magnitude > 0x7FF0000000000000 then "nan"
  else if magnitude = 0x7FF0000000000000 then sign ++ Text.ofString "inf"
  else if magnitude = 0 then sign ++ Text.ofString "0.0"
  else sign ++ (Binary.ofBits magnitude).shortest.shown

end EditorText.Decimal
