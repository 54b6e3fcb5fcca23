import EditorText.Yaml.Cursor
import EditorText.Yaml.Resolve

/-!
# How a text is written as a scalar

A text may be written plain where nothing in it has a meaning of its own and where it reads as text;
between single quotes where all of it can be seen; and between double quotes always. The first of
the three that is possible is taken.
-/

set_option autoImplicit false

namespace EditorText.Yaml

/-- The ways to write a text. -/
inductive Style where
  | plain
  | single
  | double
  deriving DecidableEq, Repr

/-- A character that is written as the end of a line. -/
def isLineEnd (c : Code) : Bool :=
  c == 10 || c == 0x85 || c == 0x2028 || c == 0x2029

/-- A character that can be seen or ends a line, so that it can be written as it is. -/
def isVisible (c : Code) : Bool :=
  c == 10 || (0x20 ≤ c && c ≤ 0x7E) || c == 0x85 || (0xA0 ≤ c && c ≤ 0xD7FF) ||
  (0xE000 ≤ c && c ≤ 0xFFFD && c != byteOrderMark) || (0x10000 ≤ c && c < 0x10FFFF)

/-- A space beside the end of a line, with which the space would be lost. -/
def hasSpaceAtLineEnd : Text → Bool
  | a :: b :: t =>
    (a == Code.space && isLineEnd b) || (isLineEnd a && b == Code.space) ||
    hasSpaceAtLineEnd (b :: t)
  | _ => false

/-- The text starts with a sign that has a meaning there, or like a mark between documents. -/
def startsWithSign : Text → Bool
  | [] => false
  | c :: t =>
    startSigns.contains c ||
    ((c == Code.question || c == Code.colon || c == Code.dash) && isGap (firstOr t)) ||
    Text.startsWith (c :: t) (Text.ofString "---") || Text.startsWith (c :: t) (Text.ofString "...")

/-- Behind a character `before`, the text holds a colon that ends a key or a hash that begins a
comment. -/
def hasSignBehind (before : Code) : Text → Bool
  | [] => false
  | c :: t =>
    (c == Code.colon && isGap (firstOr t)) || (c == Code.hash && isGap before) ||
    hasSignBehind c t

/-- The text has a sign with a meaning. -/
def hasSign : Text → Bool
  | [] => false
  | c :: t => startsWithSign (c :: t) || hasSignBehind c t

/-- The text can stand between single quotes. -/
def allowsSingle (t : Text) : Bool :=
  t.all isVisible && !hasSpaceAtLineEnd t

/-- The text can stand without quotes. -/
def allowsPlain (t : Text) : Bool :=
  t.all isVisible && !t.any isLineEnd && t.head? != some Code.space &&
  t.getLast? != some Code.space && !hasSign t

/-- The way to write a text. -/
def styleOf (t : Text) : Style :=
  if allowsPlain t && plainTag t = .text then .plain
  else if allowsSingle t then .single
  else .double

end EditorText.Yaml
