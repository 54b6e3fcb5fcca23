import EditorText.Text.Basic

/-!
# Bytes as text

Bytes are read as UTF-8. Sequences that are longer than they need to be, that stand for surrogates,
or that lie beyond the last code point are refused.
-/

set_option autoImplicit false

namespace EditorText.Text

/-- The length of a UTF-8 sequence and the least code it may hold, by its first byte, with the bits
that the first byte adds. -/
def leadByte? (b : Nat) : Option (Nat × Nat × Nat) :=
  if b < 0x80 then some (0, 0, b)
  else if 0xC2 ≤ b ∧ b < 0xE0 then some (1, 0x80, b - 0xC0)
  else if 0xE0 ≤ b ∧ b < 0xF0 then some (2, 0x800, b - 0xE0)
  else if 0xF0 ≤ b ∧ b < 0xF5 then some (3, 0x10000, b - 0xF0)
  else none

/-- Continues a UTF-8 sequence with six bits of each following byte. -/
def takeTail : Nat → Nat → List Nat → Option (Nat × List Nat)
  | 0, code, bs => some (code, bs)
  | _ + 1, _, [] => none
  | n + 1, code, b :: bs =>
    if 0x80 ≤ b ∧ b < 0xC0 then takeTail n (code * 64 + (b - 0x80)) bs else none

/-- Reads bytes as UTF-8; `fuel` is their number. -/
def ofUtf8From? : Nat → List Nat → Option Text
  | _, [] => some []
  | 0, _ => none
  | fuel + 1, b :: bs =>
    match leadByte? b with
    | none => none
    | some (n, least, bits) =>
      match takeTail n bits bs with
      | none => none
      | some (code, rest) =>
        if code < least ∨ 0x10FFFF < code ∨ Code.isSurrogate code then none
        else (ofUtf8From? fuel rest).map (code :: ·)

/-- Reads bytes as UTF-8. -/
def ofUtf8? (bs : List Nat) : Option Text :=
  ofUtf8From? bs.length bs

end EditorText.Text
