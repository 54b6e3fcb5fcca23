import EditorText.Text.Digit

/-!
# Escapes of a replacement

A replacement is written with backslash escapes for control characters and code numbers. They are
read in one pass from the left, so that a doubled backslash never begins another escape. An unknown
escape stays as written.
-/

set_option autoImplicit false

namespace EditorText.Replace

/-- The character that a single letter behind a backslash stands for. -/
def simpleEscape? (c : Code) : Option Code :=
  if c = Code.backslash then some Code.backslash
  else if c = 't'.toNat then some 9
  else if c = 'n'.toNat then some 10
  else if c = 'r'.toNat then some 13
  else if c = 'f'.toNat then some 12
  else if c = 'v'.toNat then some 11
  else none

/-- The code number of hexadecimal digits. -/
def hexCode? (ds : Text) : Option Code :=
  ds.foldl (fun n d => match n, hexValue? d with
    | some n, some v => some (n * 16 + v)
    | _, _ => none) (some 0)

/-- The code number in the first `n` characters, if all are hexadecimal digits. -/
def hexAt? (n : Nat) (t : Text) : Option Code :=
  if (t.take n).length = n then hexCode? (t.take n) else none

/-- A backslash with a character that begins no code number. -/
def decodeSimple (c : Code) : Text :=
  match simpleEscape? c with
  | some x => [x]
  | none => [Code.backslash, c]

/-- What a backslash means before a character and the text behind it, and how many characters after
the backslash belong to the escape. -/
def escapeAt (c : Code) (t : Text) : Text × Nat :=
  let digits := if c = 'x'.toNat then 2 else if c = 'u'.toNat then 4 else 0
  if digits = 0 then (decodeSimple c, 1)
  else match hexAt? digits t with
    | some x => ([x], digits + 1)
    | none => (decodeSimple c, 1)

/-- Reads escapes from the front; the number of characters that an escape has already covered is
passed over. -/
def decodeFrom : Nat → Text → Text
  | _, [] => []
  | skip + 1, _ :: t => decodeFrom skip t
  | 0, Code.backslash :: c :: t =>
    let (meaning, covered) := escapeAt c t
    meaning ++ decodeFrom covered (c :: t)
  | 0, c :: t => c :: decodeFrom 0 t

/-- Reads the escapes of a replacement. -/
def unescape (t : Text) : Text :=
  decodeFrom 0 t

end EditorText.Replace
