import EditorText.Align.Block
import EditorText.Settings.Basic

/-!
# Alignment in passes

A user enters one pattern or several, chained by `{]` or `[}`; each makes a pass over the
output of the one before. `alignInPasses` runs the passes, `replacementFor` takes what an editor
hands over and reports what it did.
-/

set_option autoImplicit false

namespace EditorText.Align

/-- Why an alignment fails. -/
inductive AlignError where
  | rejected (reason : Pattern.Rejection)
  | emptyLineEnding
  | noPattern
  | overlong (excess : Text.Excess)

/-- Cuts a chain of patterns at its delimiters. -/
def splitChain : Text → List Text
  | [] => [[]]
  | Code.openBrace :: Code.closeBracket :: t => [] :: splitChain t
  | Code.openBracket :: Code.closeBrace :: t => [] :: splitChain t
  | c :: t => Text.consFirst c (splitChain t)

/-- The patterns of a chain; segments of blanks only are dropped, the others kept as written. -/
def passesOf (chain : Text) : List Text :=
  (splitChain chain).filter fun p => p.trim ≠ []

variable [Pattern.Engine]

/-- Cuts a text into a block at the matches of a pattern. -/
def buildBlock (text eol pattern : Text) (startLine : Int) : Outcome AlignError Block := do
  let p ← (Pattern.compile pattern {}).mapError .rejected
  if eol = [] then .fail .emptyLineEnding
  else
    let b := Block.ofText (finder p) eol startLine text
    Outcome.log (.blockBuilt b.lines.length pattern startLine)
    return b

/-- One pass: cut, trim and align. -/
def alignPass (eol : Text) (startLine tabSize : Int) (text pattern : Text) :
    Outcome AlignError Block := do
  let b ← buildBlock text eol pattern startLine
  (Outcome.ofExcept (b.trim.checkedAlign tabSize)).mapError .overlong

/-- Further passes, each over the output of the one before. -/
def alignFurther (eol : Text) (startLine tabSize : Int) (b : Block) :
    List Text → Outcome AlignError Block
  | [] => .ok b
  | p :: ps => do
    let next ← alignPass eol startLine tabSize b.text p
    alignFurther eol startLine tabSize next ps

/-- One pass per pattern; at least one pattern is required. -/
def alignInPasses (text : Text) (patterns : List Text) (startLine : Int) (eol : Text)
    (tabSize : Int) : Outcome AlignError Block :=
  match patterns with
  | [] => .fail .noPattern
  | p :: ps => do
    let b ← alignPass eol startLine tabSize text p
    alignFurther eol startLine tabSize b ps

/-- What is measured when an alignment fails: a malformed pattern counts, a limit does not. -/
def failureEvents : AlignError → List Event
  | .rejected (.invalid ..) => [.measurement (.count .alignErrors 1 none)]
  | _ => []

/-- Aligns a region by a chain of patterns. There is no replacement where there is no text or no
pattern. -/
def replacementFor (region : Region) (chain : Text) (tabSize : HostValue) :
    Outcome AlignError (Option Replacement) :=
  if region.text = [] then do
    Outcome.log (.nothingToAlign .emptyRegion)
    return none
  else
    match passesOf chain with
    | [] => do
      Outcome.log (.nothingToAlign .noPattern)
      return none
    | passes => do
      let columns ← usableTabSize tabSize
      let aligned := alignInPasses region.text passes region.startLine region.eol columns
      match aligned.result with
      | .error e => ⟨aligned.events ++ failureEvents e, .error e⟩
      | .ok b =>
        ⟨aligned.events ++
          [.measurement (.latency .alignDuration),
            .measurement (.count .alignPasses passes.length none),
            .measurement (.gauge .alignLines b.lines.length),
            .notice (.aligned b.startLine b.endLine passes.length)],
          .ok (some ⟨b.startLine, b.endLine, b.text⟩)⟩

end EditorText.Align
