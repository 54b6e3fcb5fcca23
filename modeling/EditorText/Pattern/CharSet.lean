import EditorText.Pattern.Escape

/-!
# Character sets

A set in brackets lists characters, ranges and classes; a caret after the opening bracket inverts
it. A closing bracket in the first place is a member, and so is a dash before the closing bracket.
-/

set_option autoImplicit false

namespace EditorText.Pattern.Reader

variable [Platform]

/-- One end of a range, or a member by itself. -/
def setPiece : Piece → Reader SetItem
  | .plain c => return .code c
  | .escaped c => setEscape c

/-- The range between two members, of which both must be characters. -/
def setRange (first last : Piece) (low high : SetItem) : Reader SetItem := do
  match low, high with
  | .code a, .code b =>
    if b < a then failBack (first.length + 1 + last.length) (.badRange first.text last.text)
    return .range a b
  | _, _ => failBack (first.length + 1 + last.length) (.badRange first.text last.text)

/-- The members of a set up to its closing bracket, after those read so far; `start` is the place of
the opening bracket. -/
def setItems (start : Nat) (sofar : List SetItem) : Nat → Reader (List SetItem)
  | 0 => throw .tooDeep
  | fuel + 1 => do
    match ← take with
    | none => failAt start .unterminatedSet
    | some p =>
      if p = .plain Code.closeBracket ∧ sofar ≠ [] then return sofar
      let item ← setPiece p
      if ← accept Code.dash then
        match ← take with
        | none => failAt start .unterminatedSet
        | some q =>
          if q = .plain Code.closeBracket then
            return sofar ++ [item, .code Code.dash]
          let last ← setPiece q
          let range ← setRange p q item last
          setItems start (sofar ++ [range]) fuel
      else setItems start (sofar ++ [item]) fuel

/-- A character set, of which the opening bracket has been read. -/
def charSet : Reader Node := do
  let start := (← offset) - 1
  let inverted ← accept Code.caret
  let items ← setItems start [] ((← get).rest.length + 1)
  match inverted, items with
  | false, [.code c] => return .code c
  | _, _ => return .set inverted items

end EditorText.Pattern.Reader
