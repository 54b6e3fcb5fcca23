import EditorText.Snippet.SyntaxError

/-!
# Reading a snippet definition

A definition is a document of header lines and a body:

    // Name: greet
    // Scope: javascript
    // Prefix: hi
    // ----
    console.log("hi");

The grammar, with ordered choice and no second thoughts about a repetition:

    snippet := name scope? prefix body
    name    := "//" blanks "Name"   blanks ":" blanks value newlines
    scope   := "//" blanks "Scope"  blanks ":" blanks value newlines
    prefix  := "//" blanks "Prefix" blanks ":" blanks value newlines
    body    := separator any+
    separator := "//" blanks "-"+ blanks newlines
    value   := [^\r\n]+
    blanks  := [ \t]*
    newlines := ("\r\n" / "\n")+

A rule either takes text and answers with it, or fails and leaves the cursor where it was. Failures
at the furthest place reached are kept, so that an error can say what was expected there. A cursor
that was set below zero counts from the end of the text and goes on at its start; readings of whole
documents never do that.
-/

set_option autoImplicit false

namespace EditorText.Snippet

/-- A snippet: its name, the languages it is for, the text that triggers it, and its body. -/
structure Definition where
  name : Text
  scope : Option Text
  trigger : Text
  body : Text
  deriving DecidableEq, Repr

/-- The state of a reading: the text, the cursor, the furthest place of a failure with what was
expected there, how many rules keep failures to themselves, and the places found so far. -/
structure Run where
  input : Text
  source : Option Text
  pos : Int := 0
  furthest : Nat := 0
  expected : List Expectation := []
  muted : Nat := 0
  known : Places := Places.start
  deriving Repr

/-- A rule of the grammar. -/
abbrev Rule := Run → Option Text × Run

/-- The two slashes that open a header line. -/
def slashes : Expectation := .literal [Code.slash, Code.slash]

/-- The colon behind a keyword. -/
def colonSign : Expectation := .literal [Code.colon]

/-- A dash of the line before the body. -/
def dashSign : Expectation := .literal [Code.dash]

/-- A line feed. -/
def lineFeed : Expectation := .literal [Code.newline]

/-- A carriage return with a line feed. -/
def returnAndLineFeed : Expectation := .literal [Code.carriageReturn, Code.newline]

/-- Any character that does not end a line. -/
def notLineEnd : Expectation :=
  .charClass [.single [Code.carriageReturn], .single [Code.newline]] true

/-- A space or a tab. -/
def blankSign : Expectation := .charClass [.single [Code.space], .single [Code.tab]] false

/-- Blanks, as an error names them. -/
def whitespace : Expectation := .other (Text.ofString "whitespace")

/-- The end of a line, as an error names it. -/
def newline : Expectation := .other (Text.ofString "newline")

namespace Run

/-- How many characters stand before a place of the cursor. A place below zero is counted from the
end of the text; none stands before a place that lies even before its start. -/
def before (r : Run) (place : Int) : Nat :=
  if 0 ≤ place then place.toNat else (r.input.length + place).toNat

/-- Before a place that is not below zero stand as many characters as its number says. -/
theorem before_natCast (r : Run) (n : Nat) : r.before n = n := by
  simp [before]

/-- The text behind the cursor. -/
def rest (r : Run) : Text :=
  r.input.drop (r.before r.pos)

/-- The text between an earlier place and the cursor. -/
def taken (r : Run) (start : Int) : Text :=
  (r.input.drop (r.before start)).take (r.before r.pos - r.before start)

/-- Records that something was expected at the cursor. What was expected at places further back is
forgotten. -/
def fail (r : Run) (e : Expectation) : Run :=
  if 0 < r.muted ∨ r.pos < r.furthest then r
  else if r.furthest < r.pos then { r with furthest := r.pos.toNat, expected := [e] }
  else { r with expected := r.expected ++ [e] }

/-- Moves the cursor. -/
def moveTo (r : Run) (pos : Int) : Run :=
  { r with pos := pos }

/-- Takes a text that stands at the cursor. -/
def literal (text : Text) (e : Expectation) : Rule := fun r =>
  if r.pos ≤ r.input.length ∧ r.rest.startsWith text then
    (some text, r.moveTo (r.pos + text.length))
  else (none, r.fail e)

/-- Takes one character of a class. None stands at a place before the start of the text. -/
def char (members : Text) (inverted : Bool) (e : Expectation) : Rule := fun r =>
  match r.rest with
  | c :: _ =>
    if 0 ≤ r.input.length + r.pos ∧ members.contains c ≠ inverted then
      (some [c], r.moveTo (r.pos + 1))
    else (none, r.fail e)
  | [] => (none, r.fail e)

/-- Applies a rule until it fails; `fuel` exceeds the text that is left. -/
def many (rule : Rule) : Nat → Run → Run
  | 0, r => r
  | fuel + 1, r =>
    match rule r with
    | (some _, next) => many rule fuel next
    | (none, last) => last

/-- Applies a rule until it fails. -/
def all (rule : Rule) (r : Run) : Run :=
  many rule ((r.input.length - r.pos).toNat + 1) r

/-- Goes on without recording failures. -/
def quietly (step : Run → Run) (r : Run) : Run :=
  let after := step { r with muted := r.muted + 1 }
  { after with muted := after.muted - 1 }

/-- The first of two rules that does not fail. -/
def orElse (first second : Rule) : Rule := fun r =>
  match first r with
  | (some t, next) => (some t, next)
  | (none, next) => second next

/-- Spaces and tabs, also none. -/
def blanks : Rule := fun r =>
  let after := (r.quietly (all (char [Code.space, Code.tab] false blankSign))).fail whitespace
  (some (after.taken r.pos), after)

/-- Line ends, at least one. -/
def newlines : Rule := fun r =>
  let lineEnd := orElse (literal [Code.carriageReturn, Code.newline] returnAndLineFeed)
    (literal [Code.newline] lineFeed)
  let after := (r.quietly (all lineEnd)).fail newline
  if after.pos = r.pos then (none, after) else (some (after.taken r.pos), after)

/-- The rest of a line, at least one character. -/
def value : Rule := fun r =>
  let after := all (char [Code.carriageReturn, Code.newline] true notLineEnd) r
  if after.pos = r.pos then (none, after) else (some (after.taken r.pos), after)

/-- The second rule behind the first one; if either fails the cursor goes back to `start`. -/
def andThen (start : Int) (first second : Rule) : Rule := fun r =>
  match first r with
  | (some _, next) =>
    match second next with
    | (some t, last) => (some t, last)
    | (none, last) => (none, last.moveTo start)
  | (none, next) => (none, next.moveTo start)

/-- The first rule, keeping its answer, and the second behind it; if either fails the cursor goes
back to `start`. -/
def followedBy (start : Int) (first second : Rule) : Rule := fun r =>
  match first r with
  | (some t, next) =>
    match second next with
    | (some _, last) => (some t, last)
    | (none, last) => (none, last.moveTo start)
  | (none, next) => (none, next.moveTo start)

/-- A header line with a keyword; the answer is its value. -/
def field (keyword : Text) : Rule := fun r =>
  andThen r.pos (literal [Code.slash, Code.slash] slashes)
    (andThen r.pos blanks
      (andThen r.pos (literal keyword (.literal keyword))
        (andThen r.pos blanks
          (andThen r.pos (literal [Code.colon] colonSign)
            (andThen r.pos blanks
              (followedBy r.pos value newlines)))))) r

/-- The line of dashes before the body. -/
def separator : Rule := fun r =>
  let dash := literal [Code.dash] dashSign
  let dashes : Rule := fun s => (some [], all dash s)
  let line := andThen r.pos (literal [Code.slash, Code.slash] slashes)
    (andThen r.pos blanks
      (andThen r.pos dash
        (andThen r.pos dashes
          (andThen r.pos blanks newlines)))) r
  match line with
  | (some _, last) => (some (last.taken r.pos), last)
  | (none, last) => (none, last)

/-- Everything behind the line of dashes, at least one character. -/
def body : Rule := fun r =>
  match separator r with
  | (none, next) => (none, next.moveTo r.pos)
  | (some _, next) =>
    if next.input.length ≤ next.pos then (none, (next.fail .anything).moveTo r.pos)
    else (some next.rest, next.moveTo next.input.length)

/-- The keyword of the first header line. -/
def nameKeyword : Text := Text.ofChars ['N', 'a', 'm', 'e']

/-- The keyword of the header line that may be missing. -/
def scopeKeyword : Text := Text.ofChars ['S', 'c', 'o', 'p', 'e']

/-- The keyword of the last header line. -/
def triggerKeyword : Text := Text.ofChars ['P', 'r', 'e', 'f', 'i', 'x']

/-- A whole definition. -/
def snippet (r : Run) : Option Definition × Run :=
  match field nameKeyword r with
  | (none, next) => (none, next.moveTo r.pos)
  | (some name, next) =>
    let (scope, next) := field scopeKeyword next
    match field triggerKeyword next with
    | (none, next) => (none, next.moveTo r.pos)
    | (some trigger, next) =>
      match body next with
      | (none, next) => (none, next.moveTo r.pos)
      | (some text, next) => (some ⟨name, scope, trigger, text⟩, next)

/-- The position of an offset. -/
def position (offset : Nat) (r : Run) : Position × Run :=
  let (place, known) := r.known.find r.input offset
  (⟨offset, place.line, place.column⟩, { r with known := known })

/-- The location between two offsets. -/
def location (start stop : Nat) (r : Run) : Location × Run :=
  let (first, r) := r.position start
  let (last, r) := r.position stop
  (⟨r.source, first, last⟩, r)

/-- The error at the furthest place that a rule failed at. There is none if nothing was expected. -/
def error? (r : Run) : Option SyntaxError × Run :=
  match r.input[r.furthest]? with
  | some c =>
    let (place, r) := r.location r.furthest (r.furthest + 1)
    (SyntaxError.ofExpected? r.expected (some [c]) place, r)
  | none =>
    let (place, r) := r.location r.furthest r.furthest
    (SyntaxError.ofExpected? r.expected none place, r)

end Run

end EditorText.Snippet
