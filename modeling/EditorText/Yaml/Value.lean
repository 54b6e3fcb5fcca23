import EditorText.Decimal.Reading
import EditorText.Decimal.Shortest
import EditorText.Yaml.Node

/-!
# Values of a YAML document

What a document says, free of its spelling. A mapping has each key once; keys are scalars.
-/

set_option autoImplicit false

namespace EditorText.Yaml

/-- A point of time on a day: hours, minutes, seconds, millionths, and the zone in minutes. -/
structure Clock where
  hour : Nat
  minute : Nat
  second : Nat
  fraction : Nat
  zone : Option Int
  deriving DecidableEq, Repr

/-- The days up to a date of the calendar that is in use today, counted from its year zero. -/
def dayNumber (year month day : Nat) : Nat :=
  let y := if month ≤ 2 then year - 1 else year
  let m := if month ≤ 2 then month + 9 else month - 3
  365 * y + y / 4 - y / 100 + y / 400 + (153 * m + 2) / 5 + day

/-- The minutes up to a time on a day, as clocks without an offset from universal time show it. -/
def universalMinutes (day : Nat) (c : Clock) : Int :=
  1440 * (day : Int) + 60 * c.hour + c.minute - c.zone.getD 0

/-- A value. -/
inductive Value where
  | null
  | bool (value : Bool)
  | int (value : Int)
  | float (value : Float)
  | text (value : Text)
  | bytes (value : List Nat)
  | date (year month day : Nat)
  | time (year month day : Nat) (clock : Clock)
  | list (items : List Value)
  | mapping (entries : List (Value × Value))
  | set (keys : List Value)
  | pair (first second : Value)
  deriving Inhabited

namespace Value

/-- A number that is the same as another one, whatever its kind. -/
def number? : Value → Option (Int ⊕ Float)
  | bool b => some (.inl (if b then 1 else 0))
  | int n => some (.inl n)
  | float x => some (.inr x)
  | _ => none

/-- The whole number that a real one equals. -/
def wholeOf? (x : Float) : Option Int :=
  if x.floor == x && x.isFinite then
    let b := Decimal.Binary.ofBits (x.toBits.toNat % Decimal.signBit)
    let size : Nat := match b.exponent with
      | .ofNat k => b.mantissa * Nat.pow 2 k
      | .negSucc k => b.mantissa / Nat.pow 2 (k + 1)
    some (if x < 0 then -(size : Int) else size)
  else none

/-- Two points of time, each a day and a time on it, are the same. Times with a zone are compared as
universal time; a time without a zone is the same as no time with one. -/
def sameTime (m : Nat) (c : Clock) (n : Nat) (d : Clock) : Bool :=
  c.zone.isSome == d.zone.isSome && universalMinutes m c == universalMinutes n d &&
    c.second == d.second && c.fraction == d.fraction

/-- Two keys of a mapping are the same. Numbers and truth values are compared as numbers; what is no
number at all is the same as itself. -/
def sameKey (a b : Value) : Bool :=
  match a.number?, b.number? with
  | some (.inl m), some (.inl n) => m == n
  | some (.inr x), some (.inr y) => x == y || (x.isNaN && y.isNaN)
  | some (.inl m), some (.inr y) => wholeOf? y == some m
  | some (.inr x), some (.inl n) => wholeOf? x == some n
  | _, _ =>
    match a, b with
    | null, null => true
    | text s, text t => s == t
    | bytes s, bytes t => s == t
    | date y m d, date y' m' d' => y == y' && m == m' && d == d'
    | time y m d c, time y' m' d' c' => sameTime (dayNumber y m d) c (dayNumber y' m' d') c'
    | _, _ => false

/-- A value that counts as nothing: null, false, zero, and what is empty. -/
def isEmpty : Value → Bool
  | null => true
  | bool b => !b
  | int n => n == 0
  | float x => x == 0
  | text t => t.isEmpty
  | bytes bs => bs.isEmpty
  | list vs => vs.isEmpty
  | mapping es => es.isEmpty
  | set ks => ks.isEmpty
  | date .. | time .. | pair .. => false

end Value

end EditorText.Yaml
