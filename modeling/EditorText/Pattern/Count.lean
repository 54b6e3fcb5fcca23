import EditorText.Pattern.Cursor
import EditorText.Text.Numeral

/-!
# Counts of repetition

How often an item is repeated: `?`, `*`, `+`, or bounds in braces. Braces without bounds inside are
characters like others.
-/

set_option autoImplicit false

namespace EditorText.Pattern

/-- The characters that ask for a repetition. -/
def isRepeatMark (c : Code) : Bool :=
  c == Code.asterisk || c == Code.plus || c == Code.question || c == Code.openBrace

/-- A count of rounds may not reach this number. -/
def roundLimit : Nat := 4294967295

/-- How many rounds a repetition has; without `most` there is no upper bound. -/
structure Count where
  least : Nat
  most : Option Nat
  deriving DecidableEq, Repr

namespace Reader

/-- A bound in digits. -/
def bound (ds : Text) : Reader Nat := do
  if Text.digitLimit < ds.length then throw (.tooManyDigits ds.length)
  let n := Text.natOf 10 ds
  if roundLimit ≤ n then throw .tooManyRounds
  return n

/-- Bounds in braces, of which the opening one has been read; `none` if these are no bounds, and
then nothing more is taken. -/
def bounds : Reader (Option Count) := do
  let start ← get
  if (← peek) = some (.plain Code.closeBrace) then return none
  let low ← takeWhile isAsciiDigit start.rest.length
  let high ← if ← accept Code.comma then takeWhile isAsciiDigit start.rest.length else pure low
  if !(← accept Code.closeBrace) then
    set start
    return none
  let least ← if low = [] then pure 0 else bound low
  if high = [] then return some ⟨least, none⟩
  let most ← bound high
  if most < least then failAt start.offset .repeatBounds
  return some ⟨least, some most⟩

/-- The count that a mark asks for, of which the first character has been read. -/
def count (mark : Code) : Reader (Option Count) := do
  if mark = Code.question then return some ⟨0, some 1⟩
  else if mark = Code.asterisk then return some ⟨0, none⟩
  else if mark = Code.plus then return some ⟨1, none⟩
  else bounds

/-- The character after a count says how the number of rounds is chosen. -/
def greed : Reader Greed := do
  if ← accept Code.question then return .lazy
  else if ← accept Code.plus then return .possessive
  else return .greedy

end Reader

/-- Repeats the last item. Places and repetitions cannot be repeated; `start` is the place of the
mark. -/
def repeatLast (start : Nat) (c : Count) (g : Greed) : List Node → Reader (List Node)
  | [] | .anchor _ :: _ => Reader.failAt start .nothingToRepeat
  | .rep .. :: _ => Reader.failAt start .repeatedRepeat
  | n :: rest => return .rep g c.least c.most n :: rest

end EditorText.Pattern
