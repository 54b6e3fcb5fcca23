import EditorText.Text.Basic

/-!
# Regions

A region is a run of whole lines that an editor hands over; a replacement is what it gets back for
the same lines.
-/

set_option autoImplicit false

namespace EditorText

/-- Lines of a document, from a line number on. -/
structure Region where
  text : Text
  startLine : Int := 0
  isSingleLine : Bool := true
  eol : Text := [Code.newline]

/-- The number of the last line of a region. -/
def Region.endLine (r : Region) : Int :=
  r.startLine + Text.occurrences r.eol r.text

/-- Text to write over the lines from `startLine` up to and with `endLine`. -/
structure Replacement where
  startLine : Int
  endLine : Int
  text : Text
  deriving DecidableEq, Repr

/-- The new text of one line. -/
structure LineEdit where
  number : Int
  text : Text
  deriving DecidableEq, Repr

end EditorText
