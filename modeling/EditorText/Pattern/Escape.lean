import EditorText.Pattern.Cursor
import EditorText.Pattern.Platform
import EditorText.Text.Letter
import EditorText.Text.Numeral

/-!
# Escapes

What a backslash and the character after it mean: a control character, a code number, a character
class, a place, or a reference to a group. Inside a character set places and references have no
meaning.
-/

set_option autoImplicit false

namespace EditorText.Pattern

/-- The control characters and the backslash, by the letter of their escape. -/
def controlEscape? (c : Code) : Option Code :=
  if c = 'a'.toNat then some 7
  else if c = 'b'.toNat then some 8
  else if c = 'f'.toNat then some 12
  else if c = 'n'.toNat then some 10
  else if c = 'r'.toNat then some 13
  else if c = 't'.toNat then some 9
  else if c = 'v'.toNat then some 11
  else if c = Code.backslash then some Code.backslash
  else none

/-- The character classes, by the letter of their escape. -/
def kindEscape? (c : Code) : Option SetItem :=
  if c = 'd'.toNat then some (.kind .digit false)
  else if c = 'D'.toNat then some (.kind .digit true)
  else if c = 's'.toNat then some (.kind .blank false)
  else if c = 'S'.toNat then some (.kind .blank true)
  else if c = 'w'.toNat then some (.kind .word false)
  else if c = 'W'.toNat then some (.kind .word true)
  else none

/-- The places, by the letter of their escape. -/
def placeEscape? (c : Code) : Option Anchor :=
  if c = 'A'.toNat then some .textStart
  else if c = 'Z'.toNat then some .textEnd
  else if c = 'b'.toNat then some .wordEdge
  else if c = 'B'.toNat then some .noWordEdge
  else none

namespace Reader

variable [Platform]

/-- The code number of an escape with exactly `n` hexadecimal digits. -/
def hexEscape (letter : Code) (n : Nat) : Reader Code := do
  let ds ← takeWhile isHexDigit n
  let written := Code.backslash :: letter :: ds
  if ds.length ≠ n then failBack written.length (.incompleteEscape written)
  let code := Text.natOf 16 ds
  if 0x7FFFFFFF < code then throw .codeTooLarge
  if 0x10FFFF < code then failBack written.length (.badEscape written)
  return code

/-- An escape by the name of a character. A name with a surrogate is none that could be looked up. -/
def namedEscape : Reader Code := do
  if !(← accept Code.openBrace) then fail .missingBrace
  let n ← name Code.closeBrace "character name"
  if n.any Code.isSurrogate then failBack 2 (.badEscape [Code.backslash, 'N'.toNat])
  match Platform.named? n with
  | some c => return c
  | none => failBack (n.length + 4) (.unknownCharacter n)

/-- The code number of an escape in octal digits, of which the first has been read. -/
def octalEscape (ds : Text) : Reader Code := do
  let code := Text.natOf 8 ds
  if 0o377 < code then
    failBack (ds.length + 1) (.octalTooLarge (Code.backslash :: ds))
  return code

/-- The code number that an escape of a letter for code numbers has, if it is one. -/
def numberEscape? (c : Code) : Reader (Option Code) := do
  if c = 'x'.toNat then return some (← hexEscape c 2)
  else if c = 'u'.toNat then return some (← hexEscape c 4)
  else if c = 'U'.toNat then return some (← hexEscape c 8)
  else if c = 'N'.toNat then return some (← namedEscape)
  else return none

/-- A letter or digit without a meaning of its own may not be escaped. -/
def codeEscape (c : Code) : Reader Code := do
  if isAsciiLetter c then failBack 2 (.badEscape [Code.backslash, c])
  return c

/-- An escape inside a character set. -/
def setEscape (c : Code) : Reader SetItem := do
  if let some code := controlEscape? c then return .code code
  if let some item := kindEscape? c then return item
  if let some code ← numberEscape? c then return .code code
  if isOctalDigit c then
    let ds ← takeWhile isOctalDigit 2
    return .code (← octalEscape (c :: ds))
  if isAsciiDigit c then failBack 2 (.badEscape [Code.backslash, c])
  return .code (← codeEscape c)

/-- A group that has been read to its end. -/
def isClosed (group : Nat) : Reader Bool := do
  return (← get).closed.any (·.1 == group)

/-- Inside a look-behind assertion only groups before it can be referred to. -/
def checkLookbehind (group : Nat) : Reader Unit := do
  if let some before := (← get).lookbehind then
    if !(← isClosed group) then fail .openGroup
    if before ≤ group then fail .groupOfSameLookbehind

/-- A reference to a group by its number. -/
def groupEscape (ds : Text) : Reader Node := do
  let group := Text.natOf 10 ds
  if (← get).opened < group then failBack ds.length (.noSuchGroup group)
  if !(← isClosed group) then failBack (ds.length + 1) .openGroup
  checkLookbehind group
  return .backref group

/-- An escape that begins with a digit other than zero: three octal digits are a code number, and
one or two digits refer to a group. -/
def digitEscape (c : Code) : Reader Node := do
  match ← takeWhile isAsciiDigit 1 with
  | [] => groupEscape [c]
  | d :: _ =>
    if isOctalDigit c && isOctalDigit d then
      match ← takeWhile isOctalDigit 1 with
      | [] => groupEscape [c, d]
      | e :: _ => return .code (← octalEscape [c, d, e])
    else groupEscape [c, d]

/-- An escape outside character sets. -/
def escape (c : Code) : Reader Node := do
  if let some place := placeEscape? c then return .anchor place
  if let some item := kindEscape? c then return .set false [item]
  if let some code := controlEscape? c then return .code code
  if let some code ← numberEscape? c then return .code code
  if c = 48 then
    let ds ← takeWhile isOctalDigit 2
    return .code (Text.natOf 8 ds)
  if isAsciiDigit c then digitEscape c
  else return .code (← codeEscape c)

end Reader

end EditorText.Pattern
