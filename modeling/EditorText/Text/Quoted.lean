import EditorText.Text.Printable

/-!
# Quoted text

How a text is shown inside a message: between single quotes, or between double quotes if it holds a
single quote and no double one. The backslash and the surrounding quote are written behind a
backslash, tab and line ends by their letters, and what cannot be printed by its number.
-/

set_option autoImplicit false

namespace EditorText.Text

/-- The quote to show a text in. -/
def quoteFor (t : Text) : Code :=
  if t.contains Code.apostrophe && !t.contains Code.quote then Code.quote else Code.apostrophe

/-- One code inside quotes. -/
def quoteCode (mark c : Code) : Text :=
  if c = Code.backslash ∨ c = mark then [Code.backslash, c]
  else if c = Code.tab then ofChars ['\\', 't']
  else if c = Code.newline then ofChars ['\\', 'n']
  else if c = Code.carriageReturn then ofChars ['\\', 'r']
  else if isPrintable c then [c]
  else if c < 0x100 then ofChars ['\\', 'x'] ++ hex 2 c
  else if c < 0x10000 then ofChars ['\\', 'u'] ++ hex 4 c
  else ofChars ['\\', 'U'] ++ hex 8 c

/-- The text between quotes. -/
def quoted (t : Text) : Text :=
  let mark := quoteFor t
  mark :: t.flatMap (quoteCode mark) ++ [mark]

end EditorText.Text
