import EditorText.Pattern.Dialect
import EditorText.Region
import EditorText.Replace.Unescape
import EditorText.Replace.Expansion

/-!
# Replace operations

An operation is a named chain of steps. Each step runs over the output of the one before; a step
whose pattern is malformed ends the chain, and what the steps before it made is handed over with the
failure.
-/

set_option autoImplicit false

namespace EditorText.Replace

/-- A pattern to find and a replacement for its matches. -/
structure Step where
  find : Text
  replacement : Text := []
  deriving DecidableEq, Repr

/-- A named chain of steps. -/
structure Operation where
  name : Text
  steps : List Step := []
  deriving DecidableEq, Repr

/-- Why an operation ends early. A malformed pattern is reported with its step, counted from zero,
and with the text that the steps before it made. -/
inductive RunError where
  | stepFailed (operation : Text) (index : Nat) (pattern reason text : Text)
  | limit (failure : Pattern.Failure)

/-- The failure of a step in words. -/
def stepFailedMessage (operation : Text) (index : Nat) (pattern reason : Text) : Text :=
  Text.ofString "Operation '" ++ operation ++ Text.ofString "' failed at step " ++
    Text.ofNat (index + 1) ++ Text.ofString " (pattern '" ++ pattern ++ Text.ofString "'): " ++
    reason

/-- Replaces every match of a pattern by what a template makes of it. -/
def substitute (p : Pattern) (template text : Text) : Text :=
  p.replaceAll text fun m => expand template (.ofMatch p text m)

/-- The flags under which a step looks for matches: lines have starts and ends of their own. -/
def stepFlags : Pattern.Flags := { multiline := true }

variable [Pattern.Engine]

/-- One step over a text. -/
def Step.apply (s : Step) (text : Text) : Except Pattern.Rejection Text :=
  match Pattern.read s.find stepFlags with
  | .ok p => .ok (substitute p (unescape s.replacement) text)
  | .error e => .error e

/-- The events and the failure of a step whose pattern cannot be used. -/
def stepFailure (operation : Text) (total index : Nat) (text : Text) :
    Pattern.Rejection → Outcome RunError Text
  | .invalid pattern reason =>
    ⟨[.notice (.patternRejected pattern reason),
      .measurement (.count .replaceErrors 1 (some operation)),
      .notice (.operationAborted operation (index + 1) total)],
      .error (.stepFailed operation index pattern reason text)⟩
  | .limit failure => .fail (.limit failure)

/-- Steps from an index on, each over the output of the one before. -/
def runSteps (operation : Text) (total : Nat) : Nat → Text → List Step → Outcome RunError Text
  | _, text, [] => .ok text
  | index, text, s :: rest =>
    match s.apply text with
    | .ok made => runSteps operation total (index + 1) made rest
    | .error e => stepFailure operation total index text e

/-- Runs an operation over a text. -/
def Operation.apply (o : Operation) (text : Text) : Outcome RunError Text := do
  Outcome.log (.operationStarted o.name o.steps.length)
  let made ← runSteps o.name o.steps.length 0 text o.steps
  Outcome.measure (.latency .replaceDuration)
  Outcome.measure (.count .replaceSteps o.steps.length (some o.name))
  Outcome.log (.operationApplied o.name o.steps.length)
  return made

/-- Runs an operation over a region. There is no replacement where there is no text. -/
def Operation.replaceIn (o : Operation) (region : Region) :
    Outcome RunError (Option Replacement) :=
  if region.text = [] then do
    Outcome.log .nothingToReplace
    return none
  else do
    let made ← o.apply region.text
    return some ⟨region.startLine, region.endLine, made⟩

end EditorText.Replace
