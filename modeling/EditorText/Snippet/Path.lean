import EditorText.Text.Basic

/-!
# Paths

A path is a root and the names below it. Repeated slashes and components that are a single dot are
dropped when a path is read; exactly two leading slashes make a root of their own.
-/

set_option autoImplicit false

namespace EditorText.Snippet

/-- A path: its root, empty for a path that starts from anywhere, and its components. -/
structure Path where
  root : Text
  components : List Text
  deriving DecidableEq, Repr

namespace Path

/-- The root of a written path. -/
def rootOf (t : Text) : Text :=
  match (t.takeWhile (· == Code.slash)).length with
  | 0 => []
  | 2 => [Code.slash, Code.slash]
  | _ => [Code.slash]

/-- Reads a path. -/
def ofText (t : Text) : Path :=
  ⟨rootOf t, (Text.split [Code.slash] t).filter fun c => c ≠ [] ∧ c ≠ [Code.dot]⟩

/-- The path of something below a directory, named by a relative path. -/
def below (p : Path) (name : Text) : Path :=
  let q := ofText name
  if q.root = [] then ⟨p.root, p.components ++ q.components⟩ else q

/-- The path as written. -/
def text (p : Path) : Text :=
  if p.root = [] ∧ p.components = [] then [Code.dot]
  else p.root ++ Text.join [Code.slash] p.components

end Path

end EditorText.Snippet
