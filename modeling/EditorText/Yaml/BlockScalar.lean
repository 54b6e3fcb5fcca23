import EditorText.Yaml.FlowScalar

/-!
# Block scalars

A block scalar holds the lines that are indented below its indicator: `|` keeps its line ends, and
`>` folds single ones into spaces. Signs behind the indicator say how the line ends at its end are
treated and how deep it is indented.
-/

set_option autoImplicit false

namespace EditorText.Yaml

/-- What becomes of the line ends at the end of a block scalar: one is kept, all are, or none is. -/
inductive Chomping where
  | clip
  | keep
  | strip
  deriving DecidableEq, Repr

/-- What the signs behind a block indicator say. -/
structure BlockHeader where
  chomping : Chomping := .clip
  indentation : Option Nat := none
  deriving DecidableEq, Repr

/-- The treatment of line ends that a sign asks for. -/
def chomping? (c : Code) : Option Chomping :=
  if c = Code.plus then some .keep else if c = Code.dash then some .strip else none

/-- A depth of indentation, which may not be zero. -/
def indentation? (c : Cursor) : Except Problem (Option Nat × Cursor) :=
  if 48 ≤ c.first ∧ c.first ≤ 57 then
    if c.first = 48 then .error (.token .blockIndicator)
    else .ok (some (c.first - 48), c.next)
  else .ok (none, c)

/-- The signs behind a block indicator, in either order. -/
def blockSigns (c : Cursor) : Except Problem (BlockHeader × Cursor) := do
  let (header, c) ← match chomping? c.first with
    | some k => do
      let (depth, c) ← indentation? c.next
      pure (⟨k, depth⟩, c)
    | none => do
      let (depth, c) ← indentation? c
      match depth, chomping? c.first with
      | some _, some k => pure (⟨k, depth⟩, c.next)
      | _, _ => pure (⟨.clip, depth⟩, c)
  if isSpaceOrEnd c.first then return (header, c)
  else .error (.token .blockIndicator)

/-- The rest of the line of a block indicator: spaces and a comment. -/
def blockHeaderEnd (c : Cursor) : Except Problem Cursor :=
  let c := (c.skipWhile (· == Code.space)).skipComment
  if isBreakOrEnd c.first then .ok c.lineBreak.2 else .error (.token .blockHeaderEnd)

/-- The empty lines at the start of a block scalar, and the greatest column that spaces reach on
them and before the first text. -/
def blockLead : Nat → Nat → Cursor → Text × Nat × Cursor
  | 0, deepest, c => ([], deepest, c)
  | fuel + 1, deepest, c =>
    if c.first = Code.space then blockLead fuel (max deepest c.next.column) c.next
    else if isBreak c.first then
      let (mark, c) := c.lineBreak
      let (more, deepest, c) := blockLead fuel deepest c
      (mark ++ more, deepest, c)
    else ([], deepest, c)

/-- The place behind spaces, at most up to a column. -/
def skipIndent (indent : Nat) : Nat → Cursor → Cursor
  | 0, c => c
  | fuel + 1, c =>
    if c.column < indent ∧ c.first = Code.space then skipIndent indent fuel c.next else c

/-- Empty lines in a block scalar, and the indentation of the line behind them. -/
def blockBreaks (indent : Nat) : Nat → Cursor → Text × Cursor
  | 0, c => ([], c)
  | fuel + 1, c =>
    let c := skipIndent indent (indent + 1) c
    if isBreak c.first then
      let (mark, c) := c.lineBreak
      let (more, c) := blockBreaks indent fuel c
      (mark ++ more, c)
    else ([], c)

/-- A space or a tab. -/
def isInlineBlank (c : Code) : Bool :=
  c == Code.space || c == Code.tab

/-- The lines of a block scalar from a line on that is indented as the scalar is. The answer holds
the text, the line end behind its last line, the empty lines behind that, and the place reached. -/
def blockLines (folded : Bool) (indent : Nat) : Nat → Cursor → Text × Text × Text × Cursor
  | 0, c => ([], [], [], c)
  | fuel + 1, c =>
    let line := c.run fun x => !isBreakOrEnd x
    let (mark, after) := (c.skip line.length).lineBreak
    let (empty, after) := blockBreaks indent (after.rest.length + 1) after
    if after.column = indent ∧ after.first ≠ endMark then
      let joint :=
        if folded ∧ mark = [Code.newline] ∧ !isInlineBlank c.first ∧ !isInlineBlank after.first then
          (if empty = [] then [Code.space] else [])
        else mark
      let (more, last, trailing, reached) := blockLines folded indent fuel after
      (line ++ joint ++ empty ++ more, last, trailing, reached)
    else (line, mark, empty, after)

/-- A block scalar, of which the indicator comes next; `outer` is the indentation around it. -/
def blockScalar (folded : Bool) (outer : Int) (c : Cursor) : Read := do
  let (header, c) ← blockSigns c.next
  let c ← blockHeaderEnd c
  let least := max 1 (outer + 1).toNat
  let (indent, lead, c) :=
    match header.indentation with
    | none =>
      let (lead, deepest, c) := blockLead (c.rest.length + 1) 0 c
      (max least deepest, lead, c)
    | some n =>
      let indent := least + n - 1
      let (lead, c) := blockBreaks indent (c.rest.length + 1) c
      (indent, lead, c)
  let (text, mark, trailing, c) :=
    if c.column = indent ∧ c.first ≠ endMark then
      let (text, mark, trailing, c) := blockLines folded indent (c.rest.length + 1) c
      (lead ++ text, mark, trailing, c)
    else ([], [], lead, c)
  let tail := match header.chomping with
    | .clip => mark
    | .keep => mark ++ trailing
    | .strip => []
  return (text ++ tail, c)

end EditorText.Yaml
