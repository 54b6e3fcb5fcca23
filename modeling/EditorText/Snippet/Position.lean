import EditorText.Text.Basic

/-!
# Positions

An offset in a text with its line and column, both counted from one. `Place.scan` finds them from
the start of the text; `Places` remembers what was found before and goes on from the nearest
remembered offset below.
-/

set_option autoImplicit false

namespace EditorText.Snippet

/-- A place in a text. -/
structure Position where
  offset : Int
  line : Int
  column : Int
  deriving DecidableEq, Repr

/-- Where something stands: in a named text, from a position up to another. -/
structure Location where
  source : Option Text
  start : Position
  stop : Position
  deriving DecidableEq, Repr

/-- Line and column. -/
structure Place where
  line : Nat
  column : Nat
  deriving DecidableEq, Repr

/-- The place behind a character. -/
def Place.after (p : Place) (c : Code) : Place :=
  if c = Code.newline then ⟨p.line + 1, 1⟩ else ⟨p.line, p.column + 1⟩

/-- The place of an offset, counted from the start of the text. -/
def Place.scan (input : Text) (offset : Nat) : Place :=
  (input.take offset).foldl Place.after ⟨1, 1⟩

/-- The places of offsets that were asked for before. -/
abbrev Places := List (Nat × Place)

/-- Only the start of the text is known. -/
def Places.start : Places := [(0, ⟨1, 1⟩)]

namespace Places

/-- The nearest remembered offset at or below a given one, with its place. -/
def nearest (known : Places) : Nat → Nat × Place
  | 0 => (0, (known.lookup 0).getD ⟨1, 1⟩)
  | n + 1 =>
    match known.lookup (n + 1) with
    | some p => (n + 1, p)
    | none => nearest known n

/-- The place of an offset, and what is remembered afterwards. -/
def find (known : Places) (input : Text) (offset : Nat) : Place × Places :=
  match known.lookup offset with
  | some p => (p, known)
  | none =>
    let (below, p) := known.nearest (offset - 1)
    let found := ((input.drop below).take (offset - below)).foldl Place.after p
    (found, (offset, found) :: known)

end Places

end EditorText.Snippet
