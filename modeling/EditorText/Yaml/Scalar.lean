import EditorText.Text.Lower
import EditorText.Yaml.Value

/-!
# Values of scalars

What the text of a scalar means under its tag. A tag that was written out may ask for a form that
the text does not have; then there is no value.
-/

set_option autoImplicit false

namespace EditorText.Yaml

/-- A step that makes a value. -/
abbrev Make := Except Problem Value

/-- Fails with a problem of scalars. -/
def badScalar {α : Type} (p : ScalarProblem) : Except Problem α :=
  .error (.scalar p)

/-- The text without underscores. -/
def withoutBars (t : Text) : Text :=
  t.filter (· != Code.underscore)

/-- A whole number in a base. -/
def wholeIn (base : Nat) (t : Text) : Except Problem Int :=
  match Text.readInt base t with
  | .ok n => .ok n
  | .error .malformed => badScalar (.notWhole base t)
  | .error (.tooManyDigits n) => badScalar (.tooManyDigits n)

/-- The sum of numbers to base sixty, the last place first. -/
def sixtiesSum : Int → List Int → Int
  | _, [] => 0
  | base, n :: ns => n * base + sixtiesSum (base * 60) ns

/-- A whole number: decimal, binary behind `0b`, octal behind `0`, hexadecimal behind `0x`, or with
places to base sixty. -/
def wholeValue (written : Text) : Except Problem Int := do
  let t := withoutBars written
  if t = [] then badScalar .noCharacter
  let (negative, body) := Text.unsigned t
  let size ←
    match body with
    | [] => badScalar .noCharacter
    | [48] => pure 0
    | 48 :: 98 :: ds => wholeIn 2 ds
    | 48 :: 120 :: ds => wholeIn 16 ds
    | 48 :: _ => wholeIn 8 body
    | _ =>
      if body.contains Code.colon then do
        let places ← (Text.split [Code.colon] body).mapM (wholeIn 10)
        pure (sixtiesSum 1 places.reverse)
      else wholeIn 10 body
  return if negative then -size else size

/-- A real number in digits. -/
def realIn (t : Text) : Except Problem Float :=
  match Decimal.read? t with
  | some x => .ok x
  | none => badScalar (.notReal t)

/-- The sum of real numbers to base sixty, the last place first. The weight of a place must be a
real number too. -/
def realSixtiesSum (sum : Float) (weight : Nat) : List Float → Except Problem Float
  | [] => .ok sum
  | x :: xs =>
    if (Float.ofNat weight).isInf then badScalar .weightTooLarge
    else realSixtiesSum (sum + x * Float.ofNat weight) (weight * 60) xs

/-- A real number: decimal, infinite, no number at all, or with places to base sixty. -/
def realValue (written : Text) : Except Problem Float := do
  let t := Text.lower (withoutBars written)
  if t = [] then badScalar .noCharacter
  let (negative, body) := Text.unsigned t
  let size ←
    if body = Text.ofString ".inf" then pure (1 / 0)
    else if body = Text.ofString ".nan" then pure (0 / 0)
    else if body.contains Code.colon then do
      let places ← (Text.split [Code.colon] body).mapM realIn
      realSixtiesSum 0 1 places.reverse
    else realIn body
  return if negative then -size else size

/-- A truth value. -/
def truthValue (written : Text) : Except Problem Bool :=
  let t := Text.lower written
  if ["yes", "true", "on"].any fun w => Text.ofString w == t then .ok true
  else if ["no", "false", "off"].any fun w => Text.ofString w == t then .ok false
  else badScalar (.notTruth t)

/-- The six bits of a digit to base sixty-four. -/
def base64Digit? (c : Code) : Option Nat :=
  if 65 ≤ c ∧ c ≤ 90 then some (c - 65)
  else if 97 ≤ c ∧ c ≤ 122 then some (c - 71)
  else if 48 ≤ c ∧ c ≤ 57 then some (c + 4)
  else if c = Code.plus then some 62
  else if c = Code.slash then some 63
  else none

/-- Reads digits to base sixty-four; other characters do not count. `place` is the number of digits
since the last whole group of four, `pads` the number of padding signs behind the last digit, and
`left` the bits that make no byte yet. -/
def base64From (place pads left : Nat) : Text → Option (List Nat)
  | [] => if place = 0 then some [] else none
  | c :: t =>
    if c = Code.equals then
      if 2 ≤ place ∧ 4 ≤ place + pads + 1 then some []
      else base64From place (if 2 ≤ place then pads + 1 else pads) left t
    else
      match base64Digit? c with
      | none => base64From place pads left t
      | some v =>
        match place with
        | 0 => base64From 1 0 v t
        | 1 => (base64From 2 0 (v % 16) t).map ((left * 4 + v / 16) :: ·)
        | 2 => (base64From 3 0 (v % 4) t).map ((left * 16 + v / 4) :: ·)
        | _ => (base64From 0 0 0 t).map ((left * 64 + v) :: ·)

/-- Bytes written to base sixty-four. -/
def bytesValue (written : Text) : Except Problem (List Nat) :=
  if written.any (128 ≤ ·) then .error (.value .notBase64)
  else match base64From 0 0 0 written with
    | some bs => .ok bs
    | none => .error (.value .notBase64)

/-- The parts of a written point of time. -/
structure TimeParts where
  year : Text
  month : Text
  day : Text
  hour : Text := []
  minute : Text := []
  second : Text := []
  fraction : Text := []
  zoneSign : Option Code := none
  zoneHour : Text := []
  zoneMinute : Text := []
  universal : Bool := false

/-- Takes from `least` up to `most` digits off the front. -/
def takeSome? (least most : Nat) (t : Text) : Option (Text × Text) :=
  let ds := (t.take most).takeWhile isAsciiDigit
  if least ≤ ds.length then some (ds, t.drop ds.length) else none

/-- Takes a given character off the front. -/
def takeSign? (c : Char) : Text → Option Text
  | x :: t => if x = c.toNat then some t else none
  | [] => none

/-- Nothing more follows but perhaps a line feed. -/
def atEnd (t : Text) : Bool :=
  t == [] || t == [Code.newline]

/-- The zone behind a time of day. -/
def zoneParts? (p : TimeParts) (t : Text) : Option TimeParts :=
  if atEnd t then some p
  else
    match t.dropWhile fun c => c == Code.space || c == Code.tab with
    | 90 :: r => if atEnd r then some { p with universal := true } else none
    | c :: r =>
      if c = Code.plus ∨ c = Code.dash then do
        let (hour, r) ← takeSome? 1 2 r
        if atEnd r then some { p with zoneSign := some c, zoneHour := hour }
        else do
          let r ← takeSign? ':' r
          let (minute, r) ← takeSome? 2 2 r
          if atEnd r then some { p with zoneSign := some c, zoneHour := hour, zoneMinute := minute }
          else none
      else none
    | [] => none

/-- The time of day behind a date. -/
def clockParts? (p : TimeParts) (t : Text) : Option TimeParts := do
  let (hour, t) ← takeSome? 1 2 t
  let t ← takeSign? ':' t
  let (minute, t) ← takeSome? 2 2 t
  let t ← takeSign? ':' t
  let (second, t) ← takeSome? 2 2 t
  let (fraction, t) := match t with
    | Code.dot :: r => (r.takeWhile isAsciiDigit, r.dropWhile isAsciiDigit)
    | _ => ([], t)
  zoneParts? { p with hour := hour, minute := minute, second := second, fraction := fraction } t

/-- The parts of a point of time: a date, alone or with a time of day behind a `T` or blanks. -/
def timeParts? (t : Text) : Option TimeParts := do
  let (year, t) ← takeSome? 4 4 t
  let t ← takeSign? '-' t
  let (month, t) ← takeSome? 1 2 t
  let t ← takeSign? '-' t
  let (day, t) ← takeSome? 1 2 t
  let p : TimeParts := { year := year, month := month, day := day }
  if atEnd t then some p
  else match t with
    | 84 :: r | 116 :: r => clockParts? p r
    | c :: _ =>
      if c = Code.space ∨ c = Code.tab then
        clockParts? p (t.dropWhile fun c => c == Code.space || c == Code.tab)
      else none
    | [] => none

/-- A year with a day more. -/
def isLeap (year : Nat) : Bool :=
  year % 4 == 0 && (year % 100 != 0 || year % 400 == 0)

/-- The number of days in a month. -/
def daysIn (year month : Nat) : Nat :=
  if month = 2 then (if isLeap year then 29 else 28)
  else if month = 4 ∨ month = 6 ∨ month = 9 ∨ month = 11 then 30
  else 31

/-- A day of the calendar must exist. -/
def checkDate (year month day : Nat) : Except Problem Unit :=
  if year = 0 then badScalar (.yearRange year)
  else if month = 0 ∨ 12 < month then badScalar .monthRange
  else if day = 0 ∨ daysIn year month < day then badScalar .dayRange
  else .ok ()

/-- A zone must lie within a day. -/
def checkZone (minutes : Int) : Except Problem Unit :=
  if -1440 < minutes ∧ minutes < 1440 then .ok ()
  else badScalar (.zoneRange (Int.fdiv minutes 1440) ((Int.fmod minutes 1440) * 60).toNat)

/-- A point of time. -/
def timeValue (written : Text) : Make := do
  match timeParts? written with
  | none => badScalar .notTime
  | some p =>
    let year := Text.natOf 10 p.year
    let month := Text.natOf 10 p.month
    let day := Text.natOf 10 p.day
    if p.hour = [] then
      checkDate year month day
      return .date year month day
    let fraction := Text.natOf 10 ((p.fraction.take 6) ++ Text.run 48 (6 - p.fraction.length))
    let minutes : Int := 60 * Text.natOf 10 p.zoneHour + Text.natOf 10 p.zoneMinute
    let zone ← match p.zoneSign with
      | some s =>
        let signed := if s = Code.dash then -minutes else minutes
        checkZone signed
        pure (some signed)
      | none => pure (if p.universal then some 0 else none)
    let clock : Clock := ⟨Text.natOf 10 p.hour, Text.natOf 10 p.minute, Text.natOf 10 p.second,
      fraction, zone⟩
    checkDate year month day
    if 23 < clock.hour then badScalar .hourRange
    if 59 < clock.minute then badScalar .minuteRange
    if 59 < clock.second then badScalar .secondRange
    return .time year month day clock

/-- How scalars with a tag are read; `none` for a tag that is not one of scalars. -/
def scalarReader? : Tag → Option (Text → Make)
  | .null => some fun _ => .ok .null
  | .bool => some fun t => (truthValue t).map .bool
  | .int => some fun t => (wholeValue t).map .int
  | .float => some fun t => (realValue t).map .float
  | .text => some fun t => .ok (.text t)
  | .bytes => some fun t => (bytesValue t).map .bytes
  | .time => some timeValue
  | _ => none

end EditorText.Yaml
