import EditorText.Text.Basic

/-!
# Headers in a choice

A line above a row of three or more carets is a header. In a choice it is drawn as a box of three
rows; reading a choice takes the frame off again and ends the header with a row of three carets.
-/

set_option autoImplicit false

namespace EditorText.Choice

/-- The horizontal bar of a box. -/
@[match_pattern] abbrev boxBar : Code := 0x2550
/-- The side of a box. -/
@[match_pattern] abbrev boxSide : Code := 0x2551
/-- The corners of a box. -/
@[match_pattern] abbrev topLeft : Code := 0x2554
@[match_pattern] abbrev topRight : Code := 0x2557
@[match_pattern] abbrev bottomLeft : Code := 0x255A
@[match_pattern] abbrev bottomRight : Code := 0x255D

/-- The row that ends a header. -/
def caretRow : Text := Text.run Code.caret 3

/-- A row of three or more carets. -/
def isCaretRow (line : Text) : Bool :=
  3 ≤ line.length && line.all (· == Code.caret)

/-- The three rows of a box around a line in which commas are escaped; an escaped comma is one
column wide. -/
def frame (line : Text) : List Text :=
  let bar := Text.run boxBar (line.length - line.count Code.comma)
  [[topLeft, boxBar] ++ bar ++ [boxBar, topRight],
    [boxSide, Code.space] ++ line ++ [Code.space, boxSide],
    [bottomLeft, boxBar] ++ bar ++ [boxBar, bottomRight]]

/-- A row of bars between two corners. -/
def isBoxRow (left right : Code) (row : Text) : Bool :=
  match row with
  | [] => false
  | c :: t => c == left && t.dropWhile (· == boxBar) == [right]

/-- The row without a side of a box at its start and one space behind it. -/
def withoutLeftSide : Text → Text
  | boxSide :: Code.space :: t => t
  | boxSide :: t => t
  | t => t

/-- The row without a side of a box at its end and one space before it. -/
def withoutRightSide : Text → Text
  | [] => []
  | [boxSide] => []
  | [Code.space, boxSide] => []
  | c :: t => c :: withoutRightSide t

/-- The row without the sides of a box. -/
def withoutSides (row : Text) : Text :=
  withoutRightSide (withoutLeftSide row)

end EditorText.Choice
