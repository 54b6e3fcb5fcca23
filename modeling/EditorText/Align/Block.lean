import EditorText.Align.Line
import EditorText.Region

/-!
# Blocks of lines

A block is a text cut into lines and the lines cut at separators. `Block.trim` and `Block.align`
change the blanks around separators; `Block.text` puts the lines together again. Paddings may
outgrow what can be written; `Block.checkedAlign` is `Block.align` where they do not.
-/

set_option autoImplicit false

namespace EditorText.Align

/-- Lines with their separators, from a line number on. -/
structure Block where
  eol : Text
  startLine : Int
  lines : List Line

/-- The greater of two widths in each column, for as many columns as either side has. -/
def wider : List Int → List Int → List Int
  | [], ws => ws
  | vs, [] => vs
  | v :: vs, w :: ws => max v w :: wider vs ws

/-- Cuts each line, with numbers that go up from the first. -/
def cutLines (find : Finder) : Int → List Text → List Line
  | _, [] => []
  | number, raw :: rest => Line.cut find number raw :: cutLines find (number + 1) rest

namespace Block

/-- Cuts a text into lines and the lines at their separators. -/
def ofText (find : Finder) (eol : Text) (startLine : Int) (text : Text) : Block :=
  ⟨eol, startLine, cutLines find startLine (Text.split eol text)⟩

/-- The lines put together. -/
def text (b : Block) : Text :=
  Text.join b.eol (b.lines.map Line.text)

/-- The number of the last line. -/
def endLine (b : Block) : Int :=
  b.startLine + b.lines.length - 1

/-- Reduces the blanks around every separator to a single space. -/
def trim (b : Block) : Block :=
  { b with lines := b.lines.map Line.trim }

/-- The width of each column: the greatest width of its pieces over the lines with separators. -/
def columns (tabSize : Int) (lines : List Line) : List Int :=
  ((lines.filter Line.isCut).map (Line.widths tabSize)).foldl wider []

/-- Pads every piece but the last of each line to the width of its column. The gap behind a
separator counts to the separator's column. -/
def align (tabSize : Int) (b : Block) : Block :=
  let lines := b.lines.map Line.claimGaps
  { b with lines := lines.map (Line.pad tabSize (columns tabSize lines)) }

/-- The first padding of the block that cannot be written. -/
def excess? (tabSize : Int) (b : Block) : Option Text.Excess :=
  let lines := b.lines.map Line.claimGaps
  lines.findSome? (Line.excess? tabSize (columns tabSize lines))

/-- Aligns the block, if every padding can be written. -/
def checkedAlign (tabSize : Int) (b : Block) : Except Text.Excess Block :=
  match b.excess? tabSize with
  | some e => .error e
  | none => .ok (b.align tabSize)

/-- The new text of each line. -/
def edits (b : Block) : List LineEdit :=
  b.lines.map fun l => ⟨l.number, l.text⟩

end Block

end EditorText.Align
