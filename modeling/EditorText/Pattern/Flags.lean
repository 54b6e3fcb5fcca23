import EditorText.Text.Basic

/-!
# Flags of a pattern

A pattern is read and matched under flags. They stand at its start for the whole of it, or in the
head of a group for that group alone.
-/

set_option autoImplicit false

namespace EditorText.Pattern

/-- The switches of a pattern. `ascii` and `unicode` say which characters the classes of digits,
blanks and words know; without either they know all. `template` forbids repetition. -/
structure Flags where
  ignoreCase : Bool := false
  multiline : Bool := false
  dotAll : Bool := false
  verbose : Bool := false
  ascii : Bool := false
  unicode : Bool := false
  template : Bool := false
  deriving DecidableEq, Repr

namespace Flags

/-- Both sets of switches together. -/
def union (a b : Flags) : Flags where
  ignoreCase := a.ignoreCase || b.ignoreCase
  multiline := a.multiline || b.multiline
  dotAll := a.dotAll || b.dotAll
  verbose := a.verbose || b.verbose
  ascii := a.ascii || b.ascii
  unicode := a.unicode || b.unicode
  template := a.template || b.template

/-- The switches of the first set that are not in the second. -/
def without (a b : Flags) : Flags where
  ignoreCase := a.ignoreCase && !b.ignoreCase
  multiline := a.multiline && !b.multiline
  dotAll := a.dotAll && !b.dotAll
  verbose := a.verbose && !b.verbose
  ascii := a.ascii && !b.ascii
  unicode := a.unicode && !b.unicode
  template := a.template && !b.template

/-- Some switch is on in both sets. -/
def meets (a b : Flags) : Bool :=
  (a.ignoreCase && b.ignoreCase) || (a.multiline && b.multiline) || (a.dotAll && b.dotAll) ||
  (a.verbose && b.verbose) || (a.ascii && b.ascii) || (a.unicode && b.unicode) ||
  (a.template && b.template)

/-- A switch that chooses the character classes is on. -/
def choosesClasses (a : Flags) : Bool :=
  a.ascii || a.unicode

/-- The switches inside a group that turns some on and others off. Choosing the character classes
anew drops the earlier choice. -/
def inside (outer on off : Flags) : Flags :=
  let kept := if on.choosesClasses then { outer with ascii := false, unicode := false } else outer
  (kept.union on).without off

/-- The switch that a letter stands for. -/
def ofLetter? (c : Code) : Option Flags :=
  if c = 'i'.toNat then some { ignoreCase := true }
  else if c = 'm'.toNat then some { multiline := true }
  else if c = 's'.toNat then some { dotAll := true }
  else if c = 'x'.toNat then some { verbose := true }
  else if c = 'a'.toNat then some { ascii := true }
  else if c = 'u'.toNat then some { unicode := true }
  else if c = 't'.toNat then some { template := true }
  else none

end Flags

end EditorText.Pattern
