import EditorText.Pattern.Node
import EditorText.Text.Blank
import EditorText.Text.Case
import EditorText.Text.Digit
import EditorText.Text.Word

/-!
# Tests of single characters

Which characters a literal, a set or a class lets through. Where case is ignored two characters
count as equal if they are the same letter in `sameLetter`'s sense, and a set lets a character
through if it holds any form of the same letter.
-/

set_option autoImplicit false

namespace EditorText.Pattern

/-- Membership in a character class; with `ascii` only characters below 128 belong to it. -/
def CharKind.holds (ascii : Bool) : CharKind → Code → Bool
  | digit, c => if ascii then isAsciiDigit c else isDigit c
  | blank, c => if ascii then isAsciiBlank c else isBlank c
  | word, c => if ascii then isAsciiWordPart c else isWordPart c

/-- The lower-case form under the flags. -/
def foldCase (flags : Flags) (c : Code) : Code :=
  if flags.ascii then asciiLowerCase c else lowerCase c

/-- All characters that are the same letter as `c` when case is ignored. -/
def letterForms (flags : Flags) (c : Code) : List Code :=
  if flags.ascii then
    let l := asciiLowerCase c
    if 97 ≤ l && l ≤ 122 then [l, l - 32] else [l]
  else (sameLetter (lowerCase c)).flatMap withLowerCase

/-- The same character, or the same letter where case is ignored. -/
def sameCode (flags : Flags) (a b : Code) : Bool :=
  if flags.ignoreCase then
    if flags.ascii then asciiLowerCase a == asciiLowerCase b
    else (sameLetter (lowerCase a)).contains (lowerCase b)
  else a == b

/-- A member of a set lets a character through. -/
def SetItem.holds (flags : Flags) : SetItem → Code → Bool
  | code a, c => sameCode flags a c
  | range low high, c =>
    if flags.ignoreCase then (letterForms flags c).any fun x => low ≤ x && x ≤ high
    else low ≤ c && c ≤ high
  | kind what inverted, c => what.holds flags.ascii c != inverted

/-- A set lets a character through. -/
def setHolds (flags : Flags) (inverted : Bool) (items : List SetItem) (c : Code) : Bool :=
  items.any (·.holds flags c) != inverted

end EditorText.Pattern
