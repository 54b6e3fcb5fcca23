import EditorText.Text.Numeral
import EditorText.Text.Utf8
import EditorText.Yaml.Token

/-!
# Directives, anchors and tags

The tokens that carry a name: directives at the start of a line, anchors and aliases, and tags with
or without a handle.
-/

set_option autoImplicit false

namespace EditorText.Yaml

/-- A step that makes a token. -/
abbrev ReadToken := Except Problem (Token × Cursor)

/-- An anchor or an alias, of which the indicator comes next. -/
def anchorName (c : Cursor) : Except Problem (Text × Cursor) :=
  let c := c.next
  let name := c.run isNameCode
  let c := c.skip name.length
  if name = [] then .error (.token .anchorName)
  else if isGap c.first ||
      (Text.ofChars ['?', ':', ',', ']', '\x7d', '%', '@'] ++ [Code.backtick]).contains c.first then
    .ok (name, c)
  else .error (.token .anchorName)

/-- The characters of tag addresses, apart from the percent sign. -/
def isAddressCode (c : Code) : Bool :=
  isNameCode c || (Text.ofChars [';', '/', '?', ':', '@', '&', '=', '+', '$', ',', '.', '!', '~',
    '*', '\'', '(', ')', '[', ']']).contains c

/-- Escaped bytes in a tag address, from the percent sign on. -/
def addressBytes : Nat → Cursor → Except Problem (List Nat × Cursor)
  | 0, _ => .error .tooDeep
  | fuel + 1, c =>
    match c.rest with
    | Code.percent :: a :: b :: _ =>
      match hexValue? a, hexValue? b with
      | some x, some y => do
        let (more, c) ← addressBytes fuel (c.skip 3)
        return ((x * 16 + y) :: more, c)
      | _, _ => .error (.token .tagAddress)
    | Code.percent :: _ => .error (.token .tagAddress)
    | _ => .ok ([], c)

/-- A tag address, also an empty one. -/
def addressFrom : Nat → Cursor → Except Problem (Text × Cursor)
  | 0, _ => .error .tooDeep
  | fuel + 1, c => do
    let plain := c.run isAddressCode
    let c := c.skip plain.length
    if c.first = Code.percent then
      let (bytes, c) ← addressBytes (c.rest.length + 1) c
      match Text.ofUtf8? bytes with
      | none => .error (.token .tagAddress)
      | some decoded =>
        let (more, c) ← addressFrom fuel c
        return (plain ++ decoded ++ more, c)
    else return (plain, c)

/-- A tag address. -/
def tagAddress (c : Cursor) : Except Problem (Text × Cursor) := do
  let (address, after) ← addressFrom (c.rest.length + 1) c
  if after.index = c.index then .error (.token .tagAddress)
  else return (address, after)

/-- The handle of a tag: an exclamation mark, alone or around a name with a second one. -/
def tagHandle (c : Cursor) : Except Problem (Text × Cursor) :=
  match c.rest with
  | 33 :: t =>
    if firstOr t = Code.space then .ok ([33], c.next)
    else
      let name := t.takeWhile isNameCode
      if firstOr (t.drop name.length) = 33 then
        .ok (33 :: name ++ [33], c.skip (name.length + 2))
      else .error (.token .tagHandle)
  | _ => .error (.token .tagHandle)

/-- A tag has a handle with a name if a second exclamation mark stands before the next gap. -/
def hasHandle : Text → Bool
  | [] => false
  | c :: t => if isSpaceOrEnd c then false else c == 33 || hasHandle t

/-- A tag, of which the exclamation mark comes next. -/
def tagToken (c : Cursor) : ReadToken := do
  let next := c.peek 1
  let (token, c) ←
    if next = Code.less then do
      let (suffix, c) ← tagAddress (c.skip 2)
      if c.first = Code.greater then pure (Token.tag none suffix, c.next)
      else .error (.token .tagEnd)
    else if isGap next then pure (Token.tag none [33], c.next)
    else do
      let (handle, c) ← if hasHandle (c.rest.drop 1) then tagHandle c else pure ([33], c.next)
      let (suffix, c) ← tagAddress c
      pure (Token.tag (some handle) suffix, c)
  if isSpaceOrEnd c.first then return (token, c) else .error (.token .tagEnd)

/-- Digits of a version number. -/
def versionNumber (c : Cursor) : Except Problem (Nat × Cursor) :=
  let ds := c.run isAsciiDigit
  if ds = [] then .error (.token .directiveVersion)
  else if Text.digitLimit < ds.length then .error (.scalar (.tooManyDigits ds.length))
  else .ok (Text.natOf 10 ds, c.skip ds.length)

/-- The rest of the line of a directive: spaces and a comment. -/
def directiveEnd (c : Cursor) : Except Problem Cursor :=
  let c := (c.skipWhile (· == Code.space)).skipComment
  if isBreakOrEnd c.first then .ok c.lineBreak.2 else .error (.token .directiveEnd)

/-- What a directive of a given name says. -/
def directiveValue (name : Text) (c : Cursor) : Except Problem (Directive × Cursor) := do
  if name = Text.ofString "YAML" then
    let (major, c) ← versionNumber (c.skipWhile (· == Code.space))
    if c.first ≠ Code.dot then .error (.token .directiveVersion)
    else
      let (minor, c) ← versionNumber c.next
      if isSpaceOrEnd c.first then return (.version major minor, c)
      else .error (.token .directiveVersion)
  else if name = Text.ofString "TAG" then
    let (handle, c) ← tagHandle (c.skipWhile (· == Code.space))
    if c.first ≠ Code.space then .error (.token .tagHandle)
    else
      let (address, c) ← tagAddress (c.skipWhile (· == Code.space))
      if isSpaceOrEnd c.first then return (.handle handle address, c)
      else .error (.token .tagAddress)
  else return (.other name, c.skipWhile fun x => !isBreakOrEnd x)

/-- A directive, of which the percent sign comes next. -/
def directiveToken (c : Cursor) : ReadToken := do
  let c := c.next
  let name := c.run isNameCode
  let c := c.skip name.length
  if name = [] ∨ !isSpaceOrEnd c.first then .error (.token .directiveName)
  else
    let (what, c) ← directiveValue name c
    let c ← directiveEnd c
    return (.directive what, c)

end EditorText.Yaml
