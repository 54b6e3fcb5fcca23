import EditorText.Text.Numeral
import EditorText.Yaml.Token

/-!
# Quoted scalars

A scalar in quotes goes on over line ends: a single one counts as a space, and of several the first
does not count. Single quotes are doubled inside single quotes; double quotes know escapes.
-/

set_option autoImplicit false

namespace EditorText.Yaml

/-- A step of reading a scalar: what it adds, and the place behind it. -/
abbrev Read := Except Problem (Text × Cursor)

/-- The character that a letter behind a backslash stands for. -/
def escapeLetter? (c : Code) : Option Code :=
  if c = '0'.toNat then some 0
  else if c = 'a'.toNat then some 7
  else if c = 'b'.toNat then some 8
  else if c = 't'.toNat ∨ c = 9 then some 9
  else if c = 'n'.toNat then some 10
  else if c = 'v'.toNat then some 11
  else if c = 'f'.toNat then some 12
  else if c = 'r'.toNat then some 13
  else if c = 'e'.toNat then some 27
  else if c = 32 ∨ c = 34 ∨ c = 92 ∨ c = 47 then some c
  else if c = 'N'.toNat then some 0x85
  else if c = '_'.toNat then some 0xA0
  else if c = 'L'.toNat then some 0x2028
  else if c = 'P'.toNat then some 0x2029
  else none

/-- How many digits of a code number follow a letter behind a backslash. -/
def escapeDigits? (c : Code) : Option Nat :=
  if c = 'x'.toNat then some 2
  else if c = 'u'.toNat then some 4
  else if c = 'U'.toNat then some 8
  else none

/-- Further line ends inside quotes, with the blanks around them; a separator of documents may not
stand there. -/
def flowBreaks : Nat → Cursor → Read
  | 0, _ => .error .tooDeep
  | fuel + 1, c =>
    if c.atSeparator then .error (.token .separatorInScalar)
    else
      let c := c.skipWhile fun x => x == Code.space || x == Code.tab
      if isBreak c.first then do
        let (mark, c) := c.lineBreak
        let (more, c) ← flowBreaks fuel c
        return (mark ++ more, c)
      else return ([], c)

/-- What a line end and further ones count as. -/
def foldBreaks (mark more : Text) : Text :=
  if mark ≠ [Code.newline] then mark ++ more
  else if more = [] then [Code.space]
  else more

/-- Blanks inside quotes, with the line ends among them. -/
def flowSpaces (c : Cursor) : Read :=
  let blanks := c.run fun x => x == Code.space || x == Code.tab
  let c := c.skip blanks.length
  if c.first = endMark then .error (.token .unclosedScalar)
  else if isBreak c.first then do
    let (mark, c) := c.lineBreak
    let (more, c) ← flowBreaks (c.rest.length + 1) c
    return (foldBreaks mark more, c)
  else return (blanks, c)

/-- A code number in an escape. -/
def escapeCode (digits : Nat) (c : Cursor) : Read :=
  let ds := c.rest.take digits
  if ds.length = digits ∧ ds.all isHexDigit then
    let code := Text.natOf 16 ds
    if 0x7FFFFFFF < code then .error (.scalar .codeTooLarge)
    else if 0x10FFFF < code then .error (.scalar .codeOutOfRange)
    else .ok ([code], c.skip digits)
  else .error (.token .escapeDigits)

/-- An escape, of which the backslash has been read. -/
def flowEscape (c : Cursor) : Read :=
  match escapeLetter? c.first, escapeDigits? c.first with
  | some x, _ => .ok ([x], c.next)
  | none, some n => escapeCode n c.next
  | none, none =>
    if isBreak c.first then
      let c := c.lineBreak.2
      flowBreaks (c.rest.length + 1) c
    else .error (.token .escapeLetter)

/-- Characters inside quotes up to a blank or the closing quote. -/
def flowText (double : Bool) : Nat → Cursor → Read
  | 0, _ => .error .tooDeep
  | fuel + 1, c => do
    let plain := c.run fun x => !(isGap x || x == Code.apostrophe || x == Code.quote ||
      x == Code.backslash)
    let c := c.skip plain.length
    let step : Option Read :=
      match c.rest with
      | Code.apostrophe :: t =>
        if double then some (.ok ([Code.apostrophe], c.next))
        else if firstOr t = Code.apostrophe then some (.ok ([Code.apostrophe], c.skip 2))
        else none
      | Code.quote :: _ => if double then none else some (.ok ([Code.quote], c.next))
      | Code.backslash :: _ =>
        if double then some (flowEscape c.next) else some (.ok ([Code.backslash], c.next))
      | _ => none
    match step with
    | none => return (plain, c)
    | some read =>
      let (piece, c) ← read
      let (more, c) ← flowText double fuel c
      return (plain ++ piece ++ more, c)

/-- Characters and blanks in turn, up to the closing quote, which is taken. -/
def flowRest (double : Bool) : Nat → Cursor → Read
  | 0, _ => .error .tooDeep
  | fuel + 1, c =>
    if c.first = (if double then Code.quote else Code.apostrophe) then .ok ([], c.next)
    else do
      let (blanks, c) ← flowSpaces c
      let (text, c) ← flowText double (c.rest.length + 1) c
      let (more, c) ← flowRest double fuel c
      return (blanks ++ text ++ more, c)

/-- A quoted scalar, of which the opening quote comes next. -/
def flowScalar (double : Bool) (c : Cursor) : Read := do
  let c := c.next
  let (text, c) ← flowText double (c.rest.length + 1) c
  let (more, c) ← flowRest double (c.rest.length + 1) c
  return (text ++ more, c)

end EditorText.Yaml
