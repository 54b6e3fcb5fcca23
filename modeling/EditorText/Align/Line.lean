import EditorText.Pattern.Dialect
import EditorText.Text.Width

/-!
# Lines cut at separators

A line is a text followed by cells, each a separator with the text behind it. Trimming and padding
change the blanks around separators and nothing else; the shape of a line, with its texts and
separators in turn, is part of its type.
-/

set_option autoImplicit false

namespace EditorText.Align

/-- A separator and the text behind it, up to the next separator or the end of the line. -/
structure Cell where
  separator : Text
  text : Text
  deriving DecidableEq, Repr

/-- A line cut at its separators. -/
structure Line where
  number : Int
  head : Text
  cells : List Cell
  deriving DecidableEq, Repr

/-- A piece of a line. -/
inductive Part where
  | text (value : Text)
  | separator (value : Text)
  deriving DecidableEq, Repr

/-- The piece as text. -/
def Part.value : Part → Text
  | text v | separator v => v

/-- A way to find separators: the first one in a line at or after a place. -/
abbrev Finder := Text → Nat → Option Span

/-- The separators that a pattern matches. -/
def finder (p : Pattern) : Finder := fun line from_ =>
  (p.search line from_).map (·.span)

/-- Blanks at the start reduced to one space. -/
def narrowStart (t : Text) : Text :=
  if t.trimStart = t then t else Code.space :: t.trimStart

/-- Blanks at the end reduced to one space. -/
def narrowEnd (t : Text) : Text :=
  if t.trimEnd = t then t else t.trimEnd ++ [Code.space]

/-- Cuts a line from a place on. An empty separator would not lead on, so the rest stays text;
`fuel` exceeds the length of the rest. -/
def cutFrom (find : Finder) (raw : Text) : Nat → Nat → Text × List Cell
  | 0, place => (raw.drop place, [])
  | fuel + 1, place =>
    match find raw place with
    | none => (raw.drop place, [])
    | some s =>
      if s.stop = s.start then (raw.drop place, [])
      else
        let rest := cutFrom find raw fuel s.stop
        (raw.slice ⟨place, s.start⟩, ⟨raw.slice s, rest.1⟩ :: rest.2)

namespace Cell

/-- The cell with its gap, the blanks before its text, moved to the separator. A text of blanks only
keeps them. -/
def claimGap (c : Cell) : Cell :=
  let kept := c.text.trimStart
  if kept = [] ∨ kept = c.text then c
  else ⟨c.separator ++ c.text.take (c.text.length - kept.length), kept⟩

end Cell

/-- Trims cells: one space at most around separators, none at the end of the last text. -/
def trimCells : List Cell → List Cell
  | [] => []
  | [c] => [⟨narrowEnd (narrowStart c.separator), (narrowStart c.text).trimEnd⟩]
  | c :: cs => ⟨narrowEnd (narrowStart c.separator), narrowEnd (narrowStart c.text)⟩ ::
      trimCells cs

/-- Pads a text and the cells behind it to the widths of their columns; the last text stays. -/
def padCells (tabSize : Int) (text : Text) : List Cell → List Int → Text × List Cell
  | c :: cs, w :: v :: ws =>
    let rest := padCells tabSize c.text cs ws
    (text.pad w tabSize, ⟨c.separator.pad v tabSize, rest.1⟩ :: rest.2)
  | cs, _ => (text, cs)

namespace Line

/-- Cuts a line at the separators that a finder shows. -/
def cut (find : Finder) (number : Int) (raw : Text) : Line :=
  let pieces := cutFrom find raw (raw.length + 1) 0
  ⟨number, pieces.1, pieces.2⟩

/-- The line as text. -/
def text (l : Line) : Text :=
  l.head ++ l.cells.flatMap fun c => c.separator ++ c.text

/-- The pieces of the line, text and separator in turn. -/
def parts (l : Line) : List Part :=
  .text l.head :: l.cells.flatMap fun c => [.separator c.separator, .text c.text]

/-- The line has a separator. -/
def isCut (l : Line) : Bool :=
  !l.cells.isEmpty

/-- The blanks around every separator reduced to a single space. -/
def trim (l : Line) : Line :=
  match l.cells with
  | [] => l
  | cs => { l with head := narrowEnd l.head, cells := trimCells cs }

/-- Every gap behind a separator moved to it. -/
def claimGaps (l : Line) : Line :=
  { l with cells := l.cells.map Cell.claimGap }

/-- The widths of the pieces. -/
def widths (tabSize : Int) (l : Line) : List Int :=
  l.parts.map fun p => p.value.width tabSize

/-- Every piece but the last padded to the width of its column. -/
def pad (tabSize : Int) (columns : List Int) (l : Line) : Line :=
  let padded := padCells tabSize l.head l.cells columns
  { l with head := padded.1, cells := padded.2 }

/-- The first padding of the line that cannot be written. -/
def excess? (tabSize : Int) (columns : List Int) (l : Line) : Option Text.Excess :=
  (l.parts.dropLast.zip columns).findSome? fun (p, w) =>
    Text.Excess.of? p.value.length (p.value.lack w tabSize)

end Line

end EditorText.Align
