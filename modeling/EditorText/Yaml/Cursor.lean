import EditorText.Yaml.Problem

/-!
# A place in a YAML document

Documents are read character by character, with the line and column of the place in mind: columns
are what indentation is measured in. Behind the last character stands the zero character, which no
document holds.
-/

set_option autoImplicit false

namespace EditorText.Yaml

/-- What follows the last character. -/
@[match_pattern] abbrev endMark : Code := 0

/-- The byte order mark, which takes no column. -/
abbrev byteOrderMark : Code := 0xFEFF

/-- A character that documents may hold. -/
def isDocumentCode (c : Code) : Bool :=
  c == 9 || c == 10 || c == 13 || (0x20 ≤ c && c ≤ 0x7E) || c == 0x85 ||
  (0xA0 ≤ c && c ≤ 0xD7FF) || (0xE000 ≤ c && c ≤ 0xFFFD) || (0x10000 ≤ c && c ≤ 0x10FFFF)

/-- A character that ends a line. -/
def isBreak (c : Code) : Bool :=
  c == 10 || c == 13 || c == 0x85 || c == 0x2028 || c == 0x2029

/-- The end of a line or of the document. -/
def isBreakOrEnd (c : Code) : Bool :=
  c == endMark || isBreak c

/-- The end of a line or of the document, or a space. -/
def isSpaceOrEnd (c : Code) : Bool :=
  c == Code.space || isBreakOrEnd c

/-- The end of a line or of the document, a space or a tab. -/
def isGap (c : Code) : Bool :=
  c == Code.tab || isSpaceOrEnd c

/-- The characters that have a meaning at the start of a scalar, whatever follows them. -/
def startSigns : Text :=
  Text.ofChars ['#', ',', '[', ']', '\x7b', '\x7d', '&', '*', '!', '|', '>', '\'', '"', '%', '@'] ++
    [Code.backtick]

/-- The characters of names: letters and digits below 128, dash and underscore. -/
def isNameCode (c : Code) : Bool :=
  (48 ≤ c && c ≤ 57) || (65 ≤ c && c ≤ 90) || (97 ≤ c && c ≤ 122) || c == Code.dash ||
  c == Code.underscore

/-- The first character, or the end mark. -/
def firstOr (t : Text) : Code :=
  t.headD endMark

/-- A place in a document with the text from there on. -/
structure Cursor where
  rest : Text
  index : Nat := 0
  line : Nat := 0
  column : Nat := 0
  deriving Repr

namespace Cursor

/-- The character `n` places on. -/
def peek (c : Cursor) (n : Nat) : Code :=
  c.rest.getD n endMark

/-- The character at the place. -/
def first (c : Cursor) : Code :=
  firstOr c.rest

/-- The place behind the character. -/
def next (c : Cursor) : Cursor :=
  match c.rest with
  | [] => c
  | x :: t =>
    if x == 10 || x == 0x85 || x == 0x2028 || x == 0x2029 || (x == 13 && t.head? != some 10) then
      ⟨t, c.index + 1, c.line + 1, 0⟩
    else if x == byteOrderMark then ⟨t, c.index + 1, c.line, c.column⟩
    else ⟨t, c.index + 1, c.line, c.column + 1⟩

/-- The place behind `n` characters. -/
def skip (n : Nat) (c : Cursor) : Cursor :=
  match n with
  | 0 => c
  | n + 1 => skip n c.next

/-- The characters of a class from the place on. -/
def run (c : Cursor) (holds : Code → Bool) : Text :=
  c.rest.takeWhile holds

/-- The place behind the characters of a class. -/
def skipWhile (c : Cursor) (holds : Code → Bool) : Cursor :=
  c.skip (c.run holds).length

/-- A line end at the place, if there is one, as what it counts as: the usual ones as a line feed,
the separators of lines and paragraphs as themselves. -/
def lineBreak (c : Cursor) : Text × Cursor :=
  match c.rest with
  | 13 :: 10 :: _ => ([10], c.skip 2)
  | x :: _ =>
    if x == 10 || x == 13 || x == 0x85 then ([10], c.next)
    else if x == 0x2028 || x == 0x2029 then ([x], c.next)
    else ([], c)
  | [] => ([], c)

/-- Three dashes or dots that stand alone separate documents. -/
def atSeparator (c : Cursor) : Bool :=
  let three := c.rest.take 3
  (three == [45, 45, 45] || three == [46, 46, 46]) && isGap (c.peek 3)

/-- Three of one character at the start of a line, standing alone. -/
def atLineOf (c : Cursor) (mark : Code) : Bool :=
  c.column == 0 && c.rest.take 3 == [mark, mark, mark] && isGap (c.peek 3)

/-- The place behind a comment, if one begins here. -/
def skipComment (c : Cursor) : Cursor :=
  if c.first == Code.hash then c.skipWhile fun x => !isBreakOrEnd x else c

end Cursor

end EditorText.Yaml
