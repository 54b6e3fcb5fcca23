import EditorText.Pattern.Fault
import EditorText.Text.Digit

/-!
# Reading a pattern piece by piece

A pattern is read as a sequence of pieces: a character, or a backslash with the character after it.
`Reading` is the state of a reader (what is left of the pattern, and what has been learnt about its
groups), and the operations here take pieces off its front. A backslash at the very end has no
character to go with; that shows as soon as the piece before it is taken.
-/

set_option autoImplicit false

namespace EditorText.Pattern

/-- A character of a pattern, or one behind a backslash. -/
inductive Piece where
  | plain (c : Code)
  | escaped (c : Code)
  deriving DecidableEq, Repr

/-- The piece as written. -/
def Piece.text : Piece → Text
  | plain c => [c]
  | escaped c => [Code.backslash, c]

/-- How many characters the piece takes. -/
def Piece.length : Piece → Nat
  | plain _ => 1
  | escaped _ => 2

/-- The state of a reader. `closed` holds the widths of the groups read to their end, `names` the
names of groups in order, `asked` the groups named by conditions with the place of their first
mention, and `lookbehind` the number of groups before the assertion that is being read. -/
structure Reading where
  rest : Text
  offset : Nat := 0
  flags : Flags := {}
  opened : Nat := 0
  closed : List (Nat × Width) := []
  names : List (Text × Nat) := []
  asked : List (Nat × Nat) := []
  lookbehind : Option Nat := none
  deriving Repr

/-- A step of a reader. -/
abbrev Reader := StateT Reading (Except Failure)

/-- The first piece of what is left. -/
def firstPiece? : Text → Option Piece
  | [] => none
  | Code.backslash :: c :: _ => some (.escaped c)
  | c :: _ => some (.plain c)

namespace Reader

/-- Fails at an offset of the pattern. -/
def failAt {α : Type} (offset : Nat) (cause : Cause) : Reader α :=
  throw (.malformed ⟨cause, some offset⟩)

/-- Fails at the next piece. -/
def fail {α : Type} (cause : Cause) : Reader α := do
  failAt (← get).offset cause

/-- Fails some characters before the next piece. -/
def failBack {α : Type} (back : Nat) (cause : Cause) : Reader α := do
  failAt ((← get).offset - back) cause

/-- The next piece. -/
def peek : Reader (Option Piece) := do
  return firstPiece? (← get).rest

/-- The offset of the next piece. -/
def offset : Reader Nat := do
  return (← get).offset

/-- A backslash alone at the end is found as soon as it comes next. -/
def checkEnd : Reader Unit := do
  let s ← get
  if s.rest = [Code.backslash] then failAt s.offset .danglingEscape

/-- Takes the next piece. -/
def take : Reader (Option Piece) := do
  let s ← get
  match firstPiece? s.rest with
  | none => return none
  | some p =>
    set { s with rest := s.rest.drop p.length, offset := s.offset + p.length }
    checkEnd
    return some p

/-- Takes the next piece if it is this character. -/
def accept (c : Code) : Reader Bool := do
  match ← peek with
  | some (.plain d) =>
    if d = c then
      let _ ← take
      return true
    else return false
  | _ => return false

/-- Takes characters of a class, at most `n`. -/
def takeWhile (holds : Code → Bool) : Nat → Reader Text
  | 0 => return []
  | n + 1 => do
    match ← peek with
    | some (.plain c) =>
      if holds c then
        let _ ← take
        return c :: (← takeWhile holds n)
      else return []
    | _ => return []

/-- Takes pieces up to a terminator, which is taken too; `fuel` bounds their number. -/
def takeUntil (terminator : Code) (what : String) (sofar : Text) : Nat → Reader Text
  | 0 => throw .tooDeep
  | fuel + 1 => do
    match ← take with
    | none =>
      if sofar = [] then fail (.missingName what)
      else failBack sofar.length (.unterminatedName terminator)
    | some p =>
      if p = .plain terminator then
        if sofar = [] then failBack 1 (.missingName what)
        else return sofar
      else takeUntil terminator what (sofar ++ p.text) fuel

/-- Takes a name up to its terminator. -/
def name (terminator : Code) (what : String) : Reader Text := do
  takeUntil terminator what [] ((← get).rest.length + 1)

end Reader

end EditorText.Pattern
