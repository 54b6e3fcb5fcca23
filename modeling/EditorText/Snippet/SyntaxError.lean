import EditorText.Snippet.Expectation
import EditorText.Snippet.Position
import EditorText.Text.Room

/-!
# Syntax errors

A text that is no snippet definition is answered with a syntax error: a message, what could have
come next, what was found, and where. `SyntaxError.format` shows the line it happened in.
-/

set_option autoImplicit false

namespace EditorText.Snippet

/-- The text does not follow the grammar. -/
structure SyntaxError where
  message : Text
  expected : List Expectation
  found : Option Text
  location : Location
  deriving DecidableEq, Repr

/-- The error whose message follows from its expectations; there must be one. -/
def SyntaxError.ofExpected? (expected : List Expectation) (found : Option Text)
    (location : Location) : Option SyntaxError :=
  (message? expected found).map fun m => ⟨m, expected, found, location⟩

/-- Texts by name; one text may have none. -/
abbrev Sources := List (Option Text × Text)

/-- The lines of a text, each ended by a line feed, a carriage return or both. -/
def excerptLines : Text → List Text
  | [] => [[]]
  | Code.carriageReturn :: Code.newline :: t => [] :: excerptLines t
  | Code.carriageReturn :: t => [] :: excerptLines t
  | Code.newline :: t => [] :: excerptLines t
  | c :: t => Text.consFirst c (excerptLines t)

/-- The line at an index; a negative index counts from the end. -/
def lineAt? (lines : List Text) (index : Int) : Option Text :=
  if 0 ≤ index then lines[index.toNat]?
  else if -index ≤ lines.length then lines[lines.length - (-index).toNat]?
  else none

/-- Why the line of an error cannot be shown: the text has no such line, the index of the line is no
number of 64 bits, or the row under the line is too long. -/
inductive ExcerptError where
  | noLine
  | lineOutOfRange
  | overlong (excess : Text.Excess)
  deriving DecidableEq, Repr

/-- The line with a number, counted from one; below one, lines are counted from the end. -/
def lineNumbered (lines : List Text) (number : Int) : Except ExcerptError Text :=
  match lineAt? lines (number - 1) with
  | some line => .ok line
  | none =>
    if Text.leastLength ≤ number - 1 ∧ number - 1 ≤ Text.greatestLength then .error .noLine
    else .error .lineOutOfRange

/-- The row of carets under the marked part of a line; `held` is the length of the text that has the
line. -/
def markRow (held : Nat) (location : Location) (line : Text) : Except Text.Excess Text := do
  let start := location.start
  let stop := location.stop
  let last : Int := if start.line = stop.line then stop.column else line.length + 1
  let margin ← Text.checkedRun held Code.space (start.column - 1)
  let carets ← Text.checkedRun held Code.caret (last - start.column)
  return margin ++ carets

/-- The rows under the message that show a line and mark a part of it. -/
def excerpt (location : Location) (line place marks : Text) : Text :=
  let number := Text.ofInt location.start.line
  let filler := Text.run Code.space number.length
  Text.ofString "\n --> " ++ place ++ Code.newline :: filler ++ Text.ofString " |\n" ++
    number ++ Text.ofString " | " ++ line ++ Code.newline :: filler ++ Text.ofString " | " ++ marks

namespace SyntaxError

/-- Where the error is, in words. -/
def place (e : SyntaxError) : Text :=
  e.location.source.getD (Text.ofString "None") ++ Code.colon :: Text.ofInt e.location.start.line ++
    Code.colon :: Text.ofInt e.location.start.column

/-- The error with an excerpt of the text it is about, or only with its place if that text is not
given. -/
def format (e : SyntaxError) (sources : Sources) : Except ExcerptError Text :=
  let head := Text.ofString "Error: " ++ e.message
  match sources.lookup e.location.source with
  | none => .ok (head ++ Text.ofString "\n at " ++ e.place)
  | some text => do
    let line ← lineNumbered (excerptLines text) e.location.start.line
    let marks ← (markRow text.length e.location line).mapError .overlong
    return head ++ excerpt e.location line e.place marks

end SyntaxError

end EditorText.Snippet
