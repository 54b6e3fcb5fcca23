import EditorText.Text.CharacterName

/-!
# What patterns take from their platform

A pattern may give a character by its name. The readers of a pattern call each other as deep as its
groups stand inside each other, and so does what walks through the tree that they make. Which names
there are and how deep calls may go is up to the platform that patterns are read on; all that is said
of reading holds of every platform.
-/

set_option autoImplicit false

namespace EditorText.Pattern

/-- A platform: the characters by their names, and how many calls its stack has room for inside each
other. A pattern that needs more of them cannot be read, though nothing is wrong with it. -/
class Platform where
  named? : Text → Option Code
  isNamePart_of_named? : ∀ {name : Text} {c : Code}, named? name = some c →
    ∀ x ∈ name, isNamePart x = true
  calls : Nat

/-- The platform that is taken where none is given: it knows the names that are listed here, and
leaves the callers of the reader some of the thousand calls that a stack usually holds. -/
instance usualPlatform : Platform where
  named? := characterNamed?
  isNamePart_of_named? := isNamePart_of_characterNamed?
  calls := 980

end EditorText.Pattern
