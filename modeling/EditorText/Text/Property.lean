import EditorText.Text.Basic

/-!
# Properties of code points

A property with few changes along the code points is given by its bounds: the codes at which it
begins to hold, stops, begins again, and so on.
-/

set_option autoImplicit false

namespace EditorText

/-- The property with the given ascending bounds holds of a code. -/
def inBounds : List Code → Code → Bool
  | [], _ => false
  | [low], c => low ≤ c
  | low :: high :: rest, c =>
    if c < low then false else if c < high then true else inBounds rest c

end EditorText
