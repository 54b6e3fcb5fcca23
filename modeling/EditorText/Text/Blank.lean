import EditorText.Text.Basic

/-!
# Blanks

The blank code points, and the removal of blanks from the ends of a text.
-/

set_option autoImplicit false

namespace EditorText

/-- The separators of words and lines: tab to carriage return, the four information separators, the
space, the next-line control and the spaces of Unicode. -/
def isBlank (c : Code) : Bool :=
  (9 ≤ c && c ≤ 13) || (28 ≤ c && c ≤ 32) || c == 133 || c == 160 || c == 5760 ||
  (8192 ≤ c && c ≤ 8202) || c == 8232 || c == 8233 || c == 8239 || c == 8287 || c == 12288

/-- The blanks below 128 that a pattern restricted to them knows. -/
def isAsciiBlank (c : Code) : Bool :=
  (9 ≤ c && c ≤ 13) || c == 32

namespace Text

/-- The text without the blanks at its start. -/
def trimStart (t : Text) : Text :=
  t.dropWhile isBlank

/-- The text without the blanks at its end. -/
def trimEnd : Text → Text
  | [] => []
  | c :: r =>
    match trimEnd r with
    | [] => if isBlank c then [] else [c]
    | kept => c :: kept

/-- The text without the blanks at its ends. -/
def trim (t : Text) : Text :=
  trimEnd (trimStart t)

end Text

end EditorText
