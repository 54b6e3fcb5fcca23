import EditorText.Text.Numeral

/-!
# The grammar of JSON

Which texts are JSON and what they denote, said without a reader. `Writes` puts the text of a value
together from the texts of its parts, one constructor for each kind of value, and `Denotes` allows
for spaces around it. A number denotes its spelling, and an object its members in their order, those
with a key that comes more than once included.
-/

set_option autoImplicit false

namespace EditorText

/-- The words that JSON has a meaning for. -/
inductive Json.Word where
  | null
  | yes
  | no
  deriving DecidableEq, Repr

/-- A JSON value. -/
inductive Json where
  | word (word : Json.Word)
  | number (spelling : Text)
  | string (text : Text)
  | array (items : List Json)
  | object (members : List (Text × Json))

namespace Json

/-- How a word is spelled. -/
def Word.text : Word → Text
  | null => "null"
  | yes => "true"
  | no => "false"

/-- A space, a tab or a character of a line end. -/
def isSpace (c : Code) : Bool :=
  c == Code.space || c == Code.tab || c == Code.newline || c == Code.carriageReturn

/-- Spaces only, also none. -/
def Spaces (t : Text) : Prop := ∀ c ∈ t, isSpace c = true

/-- Decimal digits, at least one. -/
def Digits (t : Text) : Prop := t ≠ [] ∧ ∀ c ∈ t, isAsciiDigit c = true

/-- The digits of a whole number: zero stands in front of no other digit. -/
def Whole (t : Text) : Prop := Digits t ∧ ∀ r, t = 48 :: r → r = []

/-- A dot with digits behind it, or nothing. -/
def Fraction (t : Text) : Prop := t = [] ∨ ∃ digits, Digits digits ∧ t = Code.dot :: digits

/-- A letter `e` with digits behind it that may have a sign, or nothing. -/
def Exponent (t : Text) : Prop :=
  t = [] ∨ ∃ e ∈ ([69, 101] : Text), ∃ sign ∈ [[], [Code.plus], [Code.dash]], ∃ digits,
    Digits digits ∧ t = e :: sign ++ digits

/-- The spelling of a number. -/
def IsNumber (t : Text) : Prop :=
  ∃ sign ∈ [[], [Code.dash]], ∃ whole fraction exponent, Whole whole ∧ Fraction fraction ∧
    Exponent exponent ∧ t = sign ++ whole ++ fraction ++ exponent

/-- The letters that may stand behind a backslash, with the characters they are for. -/
def escapeLetters : List (Code × Code) := [
  (Code.quote, Code.quote), (Code.backslash, Code.backslash), (Code.slash, Code.slash), (98, 8),
  (102, 12), (110, Code.newline), (114, Code.carriageReturn), (116, Code.tab)]

/-- The spelling of one character of a string. The mark says that the character was given by its
number. -/
inductive Encodes : Text → Code × Bool → Prop where
  | plain {c : Code} : 32 ≤ c → c ≠ Code.quote → c ≠ Code.backslash → Encodes [c] (c, false)
  | letter {e c : Code} : (e, c) ∈ escapeLetters → Encodes [Code.backslash, e] (c, false)
  | number {digits : Text} : digits.length = 4 → (∀ d ∈ digits, isHexDigit d = true) →
      Encodes (Code.backslash :: 117 :: digits) (Text.natOf 16 digits, true)

/-- The spellings of characters, one behind the other. -/
inductive EncodesAll : Text → List (Code × Bool) → Prop where
  | nil : EncodesAll [] []
  | cons {s t : Text} {u : Code × Bool} {us : List (Code × Bool)} : Encodes s u → EncodesAll t us →
      EncodesAll (s ++ t) (u :: us)

/-- The first half of a surrogate pair. -/
def isHighSurrogate (c : Code) : Bool := 0xD800 ≤ c && c ≤ 0xDBFF

/-- The second half of a surrogate pair. -/
def isLowSurrogate (c : Code) : Bool := 0xDC00 ≤ c && c ≤ 0xDFFF

/-- The characters of a string. Two halves of a surrogate pair that are both given by their numbers
are one character. -/
def joinPairs : List (Code × Bool) → Text
  | [] => []
  | (high, true) :: (low, true) :: us =>
    if isHighSurrogate high && isLowSurrogate low then
      (0x10000 + (high - 0xD800) * 0x400 + (low - 0xDC00)) :: joinPairs us
    else high :: joinPairs ((low, true) :: us)
  | (c, _) :: us => c :: joinPairs us

/-- A string between its quotes. -/
def Quotes (s t : Text) : Prop :=
  ∃ spelling us, EncodesAll spelling us ∧ joinPairs us = t ∧
    s = Code.quote :: spelling ++ [Code.quote]

section Lists

variable {α : Type} (P : Text → α → Prop)

/-- One or more items with commas between them. -/
inductive Listed : Text → List α → Prop where
  | one {s w : Text} {x : α} : P s x → Spaces w → Listed (s ++ w) [x]
  | more {s w w' t : Text} {x : α} {xs : List α} : P s x → Spaces w → Spaces w' → Listed t xs →
      Listed (s ++ (w ++ Code.comma :: (w' ++ t))) (x :: xs)

/-- Items with commas between them, also none. -/
inductive Items : Text → List α → Prop where
  | none : Items [] []
  | some {t : Text} {xs : List α} : Listed P t xs → Items t xs

/-- A key and what it is for. -/
inductive Member : Text → Text × α → Prop where
  | mk {k key w w' s : Text} {x : α} : Quotes k key → Spaces w → Spaces w' → P s x →
      Member (k ++ (w ++ Code.colon :: (w' ++ s))) (key, x)

end Lists

/-- The text of a value, without spaces around it. -/
inductive Writes : Text → Json → Prop where
  | word (w : Word) : Writes w.text (.word w)
  | number {t : Text} : IsNumber t → Writes t (.number t)
  | string {s t : Text} : Quotes s t → Writes s (.string t)
  | array {w t : Text} {items : List Json} : Spaces w → Items Writes t items →
      Writes (Code.openBracket :: (w ++ (t ++ [Code.closeBracket]))) (.array items)
  | object {w t : Text} {members : List (Text × Json)} : Spaces w →
      Items (Member Writes) t members →
      Writes (Code.openBrace :: (w ++ (t ++ [Code.closeBrace]))) (.object members)

/-- **A JSON text and what it denotes.** -/
def Denotes (t : Text) (v : Json) : Prop :=
  ∃ w s w', Spaces w ∧ Writes s v ∧ Spaces w' ∧ t = w ++ (s ++ w')

end Json

end EditorText
