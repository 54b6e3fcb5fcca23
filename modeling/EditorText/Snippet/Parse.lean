import EditorText.Report.Outcome
import EditorText.Snippet.Run

/-!
# From text to snippet

`parse` reads a whole document. It answers with the snippet or with the syntax error at the furthest
place that the reading reached, and reports how it went.
-/

set_option autoImplicit false

namespace EditorText.Snippet

/-- A document that is no snippet definition. An error without an expectation has no message; no
document leads to it. -/
inductive ParseError where
  | syntaxError (error : SyntaxError)
  | nothingExpected

/-- The outcome of a reading that has come to its end. -/
def readAll (text : Text) (source : Option Text) : Except ParseError Definition :=
  let (found, run) := Run.snippet { input := text, source := source }
  match found with
  | some d => if run.pos = text.length then .ok d else failWith (run.fail .endOfInput)
  | none => failWith run
where
  failWith (run : Run) : Except ParseError Definition :=
    match run.error?.1 with
    | some e => .error (.syntaxError e)
    | none => .error .nothingExpected

/-- Reads a document. -/
def parse (text : Text) (source : Option Text) : Outcome ParseError Definition :=
  match readAll text source with
  | .ok d =>
    ⟨[.measurement (.count .parseRequests 1 none), .measurement (.latency .parseDuration),
      .notice (.snippetRead d.name d.scope)], .ok d⟩
  | .error (.syntaxError e) =>
    ⟨[.measurement (.count .parseRequests 1 none), .measurement (.count .parseErrors 1 none),
      .notice (.snippetRejected e.location.start.line.toNat e.location.start.column.toNat
        e.message)], .error (.syntaxError e)⟩
  | .error .nothingExpected =>
    ⟨[.measurement (.count .parseRequests 1 none)], .error .nothingExpected⟩

end EditorText.Snippet
