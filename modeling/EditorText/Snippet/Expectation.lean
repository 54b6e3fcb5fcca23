import EditorText.Text.Basic

/-!
# Expectations

What a reader of snippet definitions could have gone on with, and how a syntax error names it. The
message lists every description once, in code-point order.
-/

set_option autoImplicit false

namespace EditorText.Snippet

/-- A member of a class of characters. -/
inductive ClassPart where
  | single (text : Text)
  | range (low high : Text)
  deriving DecidableEq, Repr

/-- What could have come next. -/
inductive Expectation where
  | literal (text : Text)
  | charClass (parts : List ClassPart) (inverted : Bool)
  | anything
  | endOfInput
  | other (description : Text)
  deriving DecidableEq, Repr

/-- A control character by its number; any other as it is. -/
def numberIfControl (c : Code) : Text :=
  if c ≤ 0x1F ∨ (0x7F ≤ c ∧ c ≤ 0x9F) then Text.ofChars ['\\', 'x'] ++ Text.hexCapital 2 c else [c]

/-- The escapes that literals and classes share: the zero character, tab and line ends by letter and
other controls by number. -/
def commonEscape (c : Code) : Text :=
  if c = 0 then Text.ofChars ['\\', '0']
  else if c = Code.tab then Text.ofChars ['\\', 't']
  else if c = Code.newline then Text.ofChars ['\\', 'n']
  else if c = Code.carriageReturn then Text.ofChars ['\\', 'r']
  else numberIfControl c

/-- One character between double quotes. -/
def literalCode (c : Code) : Text :=
  if c = Code.backslash ∨ c = Code.quote then [Code.backslash, c] else commonEscape c

/-- One character between brackets. -/
def classCode (c : Code) : Text :=
  if c = Code.backslash ∨ c = Code.closeBracket ∨ c = Code.caret ∨ c = Code.dash then
    [Code.backslash, c]
  else commonEscape c

/-- A text as it stands between double quotes. -/
def escapedInQuotes (t : Text) : Text := t.flatMap literalCode

/-- A text as it stands between brackets. -/
def escapedInClass (t : Text) : Text := t.flatMap classCode

/-- A text between double quotes. -/
def inQuotes (t : Text) : Text :=
  Code.quote :: escapedInQuotes t ++ [Code.quote]

/-- A member of a class between its brackets. -/
def ClassPart.shown : ClassPart → Text
  | single t => escapedInClass t
  | range low high => escapedInClass low ++ Code.dash :: escapedInClass high

/-- The expectation in words. -/
def Expectation.shown : Expectation → Text
  | literal t => inQuotes t
  | charClass parts inverted =>
    let mark := if inverted then [Code.caret] else []
    Code.openBracket :: mark ++ Text.join [Code.comma] (parts.map ClassPart.shown) ++
      [Code.closeBracket]
  | anything => "any character"
  | endOfInput => "end of input"
  | other description => description

/-- Puts a text into an ascending list, unless it is there. -/
def insertOnce (t : Text) : List Text → List Text
  | [] => [t]
  | u :: rest =>
    if t = u then u :: rest
    else if Text.le t u then t :: u :: rest
    else u :: insertOnce t rest

/-- The texts once each, in ascending order. -/
def sortOnce (ts : List Text) : List Text :=
  ts.foldr insertOnce []

/-- Texts as an enumeration behind one that went before. -/
def enumerateMore : List Text → Text
  | [] => []
  | [t] => Text.ofString ", or " ++ t
  | t :: rest => Text.ofChars [',', ' '] ++ t ++ enumerateMore rest

/-- Texts as an enumeration: one alone, two with a word between, more with commas. There is no
enumeration of nothing. -/
def enumerate? : List Text → Option Text
  | [] => none
  | [t] => some t
  | [t, u] => some (t ++ Text.ofString " or " ++ u)
  | t :: rest => some (t ++ enumerateMore rest)

/-- The expectations in words; there must be one. -/
def expectedWords? (expected : List Expectation) : Option Text :=
  enumerate? (sortOnce (expected.map Expectation.shown))

/-- What was found in words. -/
def foundWords (found : Option Text) : Text :=
  match found with
  | none | some [] => "end of input"
  | some t => inQuotes t

/-- The message of a syntax error; there must be an expectation. -/
def message? (expected : List Expectation) (found : Option Text) : Option Text :=
  (expectedWords? expected).map fun d =>
    Text.ofString "Expected " ++ d ++ Text.ofString " but " ++ foundWords found ++
      Text.ofString " found."

end EditorText.Snippet
