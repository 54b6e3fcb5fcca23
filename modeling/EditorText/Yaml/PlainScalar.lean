import EditorText.Yaml.FlowScalar

/-!
# Plain scalars

A scalar without quotes ends at a colon or a hash sign that stands as an indicator, at a line that
is indented too little, and inside brackets also at a comma, a question mark or a bracket. It goes
on over line ends as a quoted one does.
-/

set_option autoImplicit false

namespace EditorText.Yaml

/-- The brackets and braces of flow collections. -/
def isFlowBracket (c : Code) : Bool :=
  c == 91 || c == 93 || c == 123 || c == 125

/-- A colon before this character is an indicator. -/
def endsColon (flow : Bool) (c : Code) : Bool :=
  isGap c || (flow && (c == Code.comma || isFlowBracket c))

/-- The characters of a plain scalar up to a blank, a line end or an indicator. -/
def plainRun (flow : Bool) : Text → Text
  | [] => []
  | c :: t =>
    if isGap c || (c == Code.colon && endsColon flow (firstOr t)) ||
        (flow && (c == Code.comma || c == Code.question || isFlowBracket c)) then []
    else c :: plainRun flow t

/-- The line ends behind the first one in a plain scalar, with the spaces among them; `none` if a
separator of documents stands there. -/
def plainBreaks : Nat → Cursor → Option Text × Cursor
  | 0, c => (none, c)
  | fuel + 1, c =>
    if c.first = Code.space then plainBreaks fuel c.next
    else if isBreak c.first then
      let (mark, c) := c.lineBreak
      if c.atSeparator then (none, c)
      else
        let (more, c) := plainBreaks fuel c
        (more.map (mark ++ ·), c)
    else (some [], c)

/-- Spaces and line ends in a plain scalar, the place behind them, and whether a line ended. There
are none where a separator of documents follows. -/
def plainSpaces (c : Cursor) : Text × Cursor × Bool :=
  let blanks := c.run (· == Code.space)
  let c := c.skip blanks.length
  if isBreak c.first then
    let (mark, c) := c.lineBreak
    if c.atSeparator then ([], c, true)
    else
      match plainBreaks (c.rest.length + 1) c with
      | (some more, c) => (foldBreaks mark more, c, true)
      | (none, c) => ([], c, true)
  else (blanks, c, false)

/-- The rest of a plain scalar, behind the spaces that have been read. The flag says whether a line
ended behind the last of its characters. -/
def plainFrom (flow : Bool) (indent : Int) (spaces : Text) (ended : Bool) :
    Nat → Cursor → Text × Cursor × Bool
  | 0, c => ([], c, ended)
  | fuel + 1, c =>
    if c.first = Code.hash then ([], c, ended)
    else
      match plainRun flow c.rest with
      | [] => ([], c, ended)
      | text =>
        let (further, after, ended) := plainSpaces (c.skip text.length)
        if further = [] ∨ after.first = Code.hash ∨ (!flow ∧ (after.column : Int) < indent) then
          (spaces ++ text, after, ended)
        else
          let (more, last, ended) := plainFrom flow indent further ended fuel after
          (spaces ++ text ++ more, last, ended)

/-- A plain scalar, the place behind it, and whether a line ended behind the last of its
characters. -/
def plainScalar (flow : Bool) (indent : Int) (c : Cursor) : Text × Cursor × Bool :=
  plainFrom flow indent [] false (c.rest.length + 1) c

end EditorText.Yaml
