import EditorText.Settings.HostValue

/-!
# Notices

What the engines tell the host's log while they work. Each notice is a fact with its data;
`Notice.level` says how much it matters and `Notice.message` how it reads.
-/

set_option autoImplicit false

namespace EditorText

/-- How much a notice matters, least first. -/
inductive Level where
  | debug
  | info
  | warning
  | error
  deriving DecidableEq, Repr

/-- Why an alignment leaves a region alone. -/
inductive Idle where
  | emptyRegion
  | noPattern
  deriving DecidableEq, Repr

/-- A fact for the log. -/
inductive Notice where
  | patternRejected (pattern reason : Text)
  | tabSizeRejected (reported : HostValue) (fallback : Int)
  | blockBuilt (lines : Nat) (pattern : Text) (startLine : Int)
  | nothingToAlign (reason : Idle)
  | aligned (first last : Int) (passes : Nat)
  | choiceDecoded (lines : Nat)
  | counterAdvanced (value : Int)
  | counterReset (next : Int)
  | operationStarted (name : Text) (steps : Nat)
  | operationAborted (name : Text) (step steps : Nat)
  | operationApplied (name : Text) (steps : Nat)
  | nothingToReplace
  | operationsLoaded (count : Nat)
  | operationMissing (name : Text)
  | operationSaved (name : Text)
  | removalMissing (name : Text)
  | operationRemoved (name : Text)
  | snippetRead (name : Text) (scope : Option Text)
  | snippetRejected (line column : Nat) (message : Text)
  | filePrepared (path : Text)

namespace Notice

/-- How much the fact matters. -/
def level : Notice → Level
  | patternRejected .. | operationAborted .. | operationMissing .. | removalMissing ..
  | snippetRejected .. => .error
  | tabSizeRejected .. => .warning
  | nothingToAlign .. | aligned .. | counterReset .. | operationApplied .. | nothingToReplace
  | filePrepared .. => .info
  | blockBuilt .. | choiceDecoded .. | counterAdvanced .. | operationStarted ..
  | operationsLoaded .. | operationSaved .. | operationRemoved .. | snippetRead .. => .debug

/-- The fact in words. -/
def message : Notice → Text
  | patternRejected pattern reason =>
    Text.ofString "Invalid pattern " ++ pattern.quoted ++ Text.ofString ": " ++ reason
  | tabSizeRejected reported fallback =>
    Text.ofString "Invalid tab size " ++ reported.shown ++
      Text.ofString " reported by host, falling back to " ++ Text.ofInt fallback
  | blockBuilt lines pattern startLine =>
    Text.ofString "Built block: lines=" ++ Text.ofNat lines ++ Text.ofString ", pattern=" ++
      pattern.quoted ++ Text.ofString ", start_line=" ++ Text.ofInt startLine
  | nothingToAlign .emptyRegion => Text.ofString "Nothing to align: empty region"
  | nothingToAlign .noPattern => Text.ofString "Nothing to align: no pattern given"
  | aligned first last passes =>
    Text.ofString "Aligned lines " ++ Text.ofInt first ++ Text.ofString "-" ++ Text.ofInt last ++
      Text.ofString ": passes=" ++ Text.ofNat passes
  | choiceDecoded lines =>
    Text.ofString "Decoded choice tab stop into " ++ Text.ofNat lines ++ Text.ofString " lines"
  | counterAdvanced value => Text.ofString "Advanced tab-stop counter to " ++ Text.ofInt value
  | counterReset next =>
    Text.ofString "Tab-stop counter reset, next tab stop is " ++ Text.ofInt next
  | operationStarted name steps =>
    Text.ofString "Applying operation: name=" ++ name ++ Text.ofString ", steps=" ++
      Text.ofNat steps
  | operationAborted name step steps =>
    Text.ofString "Operation " ++ name ++ Text.ofString " aborted at step " ++ Text.ofNat step ++
      Text.ofString " of " ++ Text.ofNat steps
  | operationApplied name steps =>
    Text.ofString "Operation " ++ name ++ Text.ofString " applied: steps=" ++ Text.ofNat steps
  | nothingToReplace => Text.ofString "Nothing to replace: empty region"
  | operationsLoaded count =>
    Text.ofString "Loaded " ++ Text.ofNat count ++ Text.ofString " replace operations"
  | operationMissing name => Text.ofString "Operation not found: " ++ name
  | operationSaved name => Text.ofString "Saved operation: " ++ name
  | removalMissing name => Text.ofString "Cannot remove operation, not found: " ++ name
  | operationRemoved name => Text.ofString "Removed operation: " ++ name
  | snippetRead name scope =>
    Text.ofString "Parsed snippet: name=" ++ name ++ Text.ofString ", scope=" ++
      scope.getD (Text.ofString "None")
  | snippetRejected line column message =>
    Text.ofString "Snippet syntax error at " ++ Text.ofNat line ++ Text.ofString ":" ++
      Text.ofNat column ++ Text.ofString ": " ++ message
  | filePrepared path => Text.ofString "Prepared snippet file: " ++ path

end Notice

end EditorText
