import EditorText.Pattern.CharSet
import EditorText.Pattern.Count
import EditorText.Pattern.GroupHead

/-!
# From text to tree

The grammar of patterns: branches between bars, each a sequence of items, each item a character, a
set, a place, a repetition of the item before it, or a group with branches of its own.
`Tree.ofText` reads a whole pattern. Branches in a group are read by two calls inside those that
read the group, and the items behind a condition by one; `room` is the number of calls that the
platform still has room for, and the finished tree may not be deeper than that either. The functions
recurse on a bound for the number of items and groups; between two characters at most four steps use
it up, so that four times the length of the pattern is enough.
-/

set_option autoImplicit false

namespace EditorText.Pattern

/-- Blanks that do not count in a verbose pattern. -/
def isVerboseBlank (c : Code) : Bool :=
  c == 32 || (9 ≤ c && c ≤ 13)

namespace Reader

variable [Platform]

/-- Reads by so many calls inside the present ones, if there is room for them. -/
def within {α : Type} (calls room : Nat) (read : Nat → Reader α) : Reader α :=
  if room < calls then throw .tooDeep else read (room - calls)

/-- A comment of a verbose pattern, up to the end of its line. -/
def lineComment : Nat → Reader Unit
  | 0 => throw .tooDeep
  | fuel + 1 => do
    match ← take with
    | none => return ()
    | some p => if p = .plain Code.newline then return () else lineComment fuel

/-- A repetition of the last item, or a brace that is none. -/
def repetition (mark : Code) (sofar : List Node) : Reader (List Node) := do
  let start := (← offset) - 1
  match ← count mark with
  | none => return .code mark :: sofar
  | some c =>
    -- The item is checked before the choice of rounds is read.
    let _ ← repeatLast start c .greedy sofar
    repeatLast start c (← greed) sofar

mutual

/-- The branches of a pattern or group. The flags at the start of the pattern may make it verbose,
which its other branches learn here. -/
def branches (top first verbose : Bool) (room : Nat) : Nat → Reader Node
  | 0 => throw .tooDeep
  | fuel + 1 => do
    let branch ← items verbose (top && first) [] room fuel
    if ← accept Code.pipe then
      let verbose ← if top then pure (← get).flags.verbose else pure verbose
      return .alt branch (← branches top false verbose room fuel)
    else return branch
termination_by structural fuel => fuel

/-- The items of a branch, after those read so far, last first. -/
def items (verbose first : Bool) (sofar : List Node) (room : Nat) : Nat → Reader Node
  | 0 => throw .tooDeep
  | fuel + 1 => do
    match ← peek with
    | none => return .ofList sofar.reverse
    | some (.escaped c) =>
      let _ ← take
      let item ← escape c
      items verbose first (item :: sofar) room fuel
    | some (.plain c) =>
      if c = Code.pipe ∨ c = Code.closeParen then return .ofList sofar.reverse
      let _ ← take
      if verbose && isVerboseBlank c then items verbose first sofar room fuel
      else if verbose && c == Code.hash then
        lineComment ((← get).rest.length + 1)
        items verbose first sofar room fuel
      else if c = Code.openBracket then
        let item ← charSet
        items verbose first (item :: sofar) room fuel
      else if isRepeatMark c then
        let sofar ← repetition c sofar
        items verbose first sofar room fuel
      else if c = Code.openParen then
        let (verbose, sofar) ← group verbose first sofar room fuel
        items verbose first sofar room fuel
      else if c = Code.dot then items verbose first (.any :: sofar) room fuel
      else if c = Code.caret then items verbose first (.anchor .lineStart :: sofar) room fuel
      else if c = Code.dollar then items verbose first (.anchor .lineEnd :: sofar) room fuel
      else items verbose first (.code c :: sofar) room fuel
termination_by structural fuel => fuel

/-- A group, of which the opening parenthesis has been read. -/
def group (verbose first : Bool) (sofar : List Node) (room : Nat) : Nat → Reader (Bool × List Node)
  | 0 => throw .tooDeep
  | fuel + 1 => do
    let start := (← offset) - 1
    if !(← accept Code.question) then
      let item ← capture start none verbose room fuel
      return (verbose, item :: sofar)
    match ← take with
    | none => fail .unexpectedEnd
    | some (.escaped c) =>
      failBack 3 (.unknownExtension [Code.question, Code.backslash, c])
    | some (.plain c) =>
      if c = 'P'.toNat then
        if ← accept Code.less then
          let n ← name Code.greater "group name"
          checkName n
          let item ← capture start (some n) verbose room fuel
          return (verbose, item :: sofar)
        if ← accept Code.equals then
          let item ← namedBackref
          return (verbose, item :: sofar)
        match ← take with
        | none => fail .unexpectedEnd
        | some p =>
          failBack (p.length + 2) (.unknownExtension (Code.question :: 'P'.toNat :: p.text))
      else if c = Code.colon then
        let body ← within 2 room fun room => branches false true verbose room fuel
        groupEnd start
        return (verbose, .flagged {} {} body :: sofar)
      else if c = Code.hash then
        comment start ((← get).rest.length + 1)
        return (verbose, sofar)
      else if c = Code.equals ∨ c = '!'.toNat then
        let body ← within 2 room fun room => branches false true verbose room fuel
        groupEnd start
        return (verbose, .look .ahead (c == '!'.toNat) body :: sofar)
      else if c = Code.less then
        match ← take with
        | none => fail .unexpectedEnd
        | some p =>
          if p ≠ .plain Code.equals ∧ p ≠ .plain '!'.toNat then
            failBack (p.length + 2) (.unknownExtension (Code.question :: Code.less :: p.text))
          let outer := (← get).lookbehind
          if outer.isNone then modify fun s => { s with lookbehind := some (s.opened + 1) }
          let body ← within 2 room fun room => branches false true verbose room fuel
          modify fun s => { s with lookbehind := outer }
          groupEnd start
          let w ← widthNow body
          return (verbose, .look (.behind w) (p == .plain '!'.toNat) body :: sofar)
      else if c = Code.openParen then
        let number ← conditionGroup
        let yes ← within 1 room fun room => items verbose false [] room fuel
        let no ← if ← accept Code.pipe then do
            let no ← within 1 room fun room => items verbose false [] room fuel
            if (← peek) = some (.plain Code.pipe) then fail .thirdBranch
            pure no
          else pure .empty
        groupEnd start
        return (verbose, .cond number yes no :: sofar)
      else if c = Code.greater then
        let body ← within 2 room fun room => branches false true verbose room fuel
        groupEnd start
        return (verbose, .atomic body :: sofar)
      else if c = Code.dash ∨ c = 'L'.toNat ∨ (Flags.ofLetter? c).isSome then
        match ← flagChange c with
        | .everywhere on =>
          modify fun s => { s with flags := s.flags.union on }
          if !first || !sofar.isEmpty then failAt start .flagsNotAtStart
          return ((← get).flags.verbose, sofar)
        | .inGroup on off =>
          let body ← within 2 room fun room =>
            branches false true ((verbose || on.verbose) && !off.verbose) room fuel
          groupEnd start
          return (verbose, .flagged on off body :: sofar)
      else failBack 2 (.unknownExtension [Code.question, c])
termination_by structural fuel => fuel

/-- The content of a capturing group, up to its closing parenthesis. -/
def capture (start : Nat) (name : Option Text) (verbose : Bool) (room : Nat) : Nat → Reader Node
  | 0 => throw .tooDeep
  | fuel + 1 => do
    let number ← openGroup name
    let body ← within 2 room fun room => branches false true verbose room fuel
    groupEnd start
    closeGroup number body
    return .group number body
termination_by structural fuel => fuel

end

/-- A whole pattern, with rounds enough for its length and with all the calls there is room for. -/
def whole (pattern : Text) (verbose : Bool) : Reader Node := do
  checkEnd
  branches true true verbose Platform.calls (4 * pattern.length + 4)

end Reader

/-- What is learnt from a pattern: its tree, its flags, the number of its groups and their names. -/
structure Tree where
  root : Node
  flags : Flags
  groups : Nat
  names : List (Text × Nat)
  deriving DecidableEq, Repr

/-- A fault that shows only in the finished tree: a repetition where the flags forbid one, or an
assertion that looks behind over no fixed distance. -/
def Node.fault? (template : Bool) : Node → Option Cause
  | .empty | .code _ | .set .. | .any | .anchor _ | .backref _ => none
  | .seq a b | .alt a b | .cond _ a b => (a.fault? template).or (b.fault? template)
  | .group _ a | .flagged _ _ a | .atomic a | .look .ahead _ a => a.fault? template
  | .rep g _ _ a => if template then some (.repeatInTemplate g) else a.fault? template
  | .look (.behind w) _ a =>
    if roundLimit < w.least then some .distantLookbehind
    else if w.least ≠ w.most then some .variableLookbehind
    else a.fault? template

/-- Reads a pattern under the given flags. -/
def Tree.ofText [Platform] (pattern : Text) (flags : Flags) : Except Failure Tree := do
  let (root, s) ← (Reader.whole pattern flags.verbose).run { rest := pattern, flags := flags }
  if s.flags.ascii && s.flags.unicode then throw .clashingClasses
  if s.rest ≠ [] then throw (.malformed ⟨.unbalancedParenthesis, some s.offset⟩)
  if let some (group, place) := s.asked.find? (s.opened < ·.1) then
    throw (.malformed ⟨.noSuchGroup group, some place⟩)
  if let some cause := root.fault? s.flags.template then
    throw (.malformed ⟨cause, none⟩)
  if Platform.calls < root.levels then throw .tooDeep
  return ⟨root, s.flags, s.opened, s.names⟩

end EditorText.Pattern
