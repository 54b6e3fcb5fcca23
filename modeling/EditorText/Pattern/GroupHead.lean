import EditorText.Pattern.Escape
import EditorText.Text.Identifier

/-!
# Heads of groups

What stands behind an opening parenthesis and a question mark decides what a group is: a named
group, an assertion, a condition, a change of flags. This module reads the parts of heads that hold
no pattern: names, references by name, flags and comments.
-/

set_option autoImplicit false

namespace EditorText.Pattern.Reader

/-- The members of a list of flags: letters, of which the first has been read, up to a character
that ends the list. The answer holds the flags and that character. -/
def flagsOn (on : Flags) (c : Code) : Nat → Reader (Flags × Code)
  | 0 => throw .tooDeep
  | fuel + 1 => do
    if c = 'L'.toNat then fail .localeFlag
    let some flag := Flags.ofLetter? c | failBack 1 .flagsUnfinished
    let on := on.union flag
    if flag.choosesClasses && on.ascii && on.unicode then fail .clashingFlags
    match ← take with
    | none => fail .flagsUnfinished
    | some (.escaped _) => failBack 2 .flagsUnfinished
    | some (.plain d) =>
      if d = Code.closeParen ∨ d = Code.dash ∨ d = Code.colon then return (on, d)
      else if d = 'L'.toNat ∨ (Flags.ofLetter? d).isSome then flagsOn on d fuel
      else failBack 1 (if isLetter d then .unknownFlag else .flagsUnfinished)

/-- The flags that are turned off: letters, of which the first has been read, up to a colon. -/
def flagsOff (off : Flags) (c : Code) : Nat → Reader Flags
  | 0 => throw .tooDeep
  | fuel + 1 => do
    if c = 'L'.toNat then fail .classFlagOff
    let some flag := Flags.ofLetter? c | failBack 1 .colonMissing
    if flag.choosesClasses then fail .classFlagOff
    let off := off.union flag
    match ← take with
    | none => fail .colonMissing
    | some (.escaped _) => failBack 2 .colonMissing
    | some (.plain d) =>
      if d = Code.colon then return off
      else if d = 'L'.toNat ∨ (Flags.ofLetter? d).isSome then flagsOff off d fuel
      else failBack 1 (if isLetter d then .unknownFlag else .colonMissing)

/-- What a list of flags does. -/
inductive FlagChange where
  | everywhere (on : Flags)
  | inGroup (on off : Flags)

/-- A list of flags, of which the first character has been read. -/
def flagChange (c : Code) : Reader FlagChange := do
  let fuel := (← get).rest.length + 1
  let (on, last) ← if c = Code.dash then pure ({}, c) else flagsOn {} c fuel
  if last = Code.closeParen then return .everywhere on
  if on.template then failBack 1 .globalFlagOn
  if last = Code.colon then return .inGroup on {}
  match ← take with
  | none => fail .flagMissing
  | some (.escaped _) => failBack 2 .flagMissing
  | some (.plain d) =>
    if d ≠ 'L'.toNat ∧ (Flags.ofLetter? d).isNone then
      failBack 1 (if isLetter d then .unknownFlag else .flagMissing)
    let off ← flagsOff {} d fuel
    if off.template then failBack 1 .globalFlagOff
    if on.meets off then failBack 1 .flagOnAndOff
    return .inGroup on off

/-- A comment up to its closing parenthesis; `start` is the place of its opening one. -/
def comment (start : Nat) : Nat → Reader Unit
  | 0 => throw .tooDeep
  | fuel + 1 => do
    match ← peek with
    | none => failAt start .unterminatedComment
    | some p =>
      let _ ← take
      if p = .plain Code.closeParen then return () else comment start fuel

/-- A name must be an identifier. -/
def checkName (name : Text) : Reader Unit := do
  if !isIdentifier name then failBack (name.length + 1) (.badGroupName name)

/-- The number of a named group. -/
def groupNamed (name : Text) : Reader Nat := do
  match (← get).names.lookup name with
  | some n => return n
  | none => failBack (name.length + 1) (.unknownGroupName name)

/-- A reference to a group by its name, of which the head has been read. -/
def namedBackref : Reader Node := do
  let n ← name Code.closeParen "group name"
  checkName n
  let group ← groupNamed n
  if !(← isClosed group) then failBack (n.length + 1) .openGroup
  checkLookbehind group
  return .backref group

/-- The group that a condition asks about: by its name, or by a number, which may belong to a group
further on. -/
def conditionGroup : Reader Nat := do
  let n ← name Code.closeParen "group name"
  let group ←
    if isIdentifier n then groupNamed n
    else match Text.readInt 10 n with
      | .ok (.ofNat 0) => failBack (n.length + 1) .badGroupNumber
      | .ok (.ofNat k) =>
        if 1073741823 ≤ k then failBack (n.length + 1) (.noSuchGroup k)
        let s ← get
        if !s.asked.any (·.1 == k) then
          set { s with asked := s.asked ++ [(k, s.offset - n.length - 1)] }
        pure k
      | _ => failBack (n.length + 1) (.badGroupName n)
  checkLookbehind group
  return group

/-- Opens the next group, under a name if it has one. -/
def openGroup (name : Option Text) : Reader Nat := do
  let s ← get
  let number := s.opened + 1
  match name with
  | none =>
    set { s with opened := number }
    return number
  | some n =>
    if let some old := s.names.lookup n then
      failBack (n.length + 1) (.groupRedefined n number old)
    set { s with opened := number, names := s.names ++ [(n, number)] }
    return number

/-- The width of a group that has been read to its end. -/
def widthOf (closed : List (Nat × Width)) (group : Nat) : Width :=
  (closed.lookup group).getD ⟨0, 0⟩

/-- The width of a tree under what is known about groups. -/
def widthNow (body : Node) : Reader Width := do
  return body.width (widthOf (← get).closed)

/-- Closes a group. -/
def closeGroup (number : Nat) (body : Node) : Reader Unit := do
  let w ← widthNow body
  modify fun s => { s with closed := (number, w) :: s.closed }

/-- The parenthesis that ends a group; `start` is the place of the one that opens it. -/
def groupEnd (start : Nat) : Reader Unit := do
  if !(← accept Code.closeParen) then failAt start .unterminatedGroup

end EditorText.Pattern.Reader
