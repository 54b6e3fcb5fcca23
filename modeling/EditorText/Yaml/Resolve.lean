import EditorText.Yaml.Token

/-!
# Tags of plain scalars

A scalar without a tag and without quotes has its tag by its form: the words for truth values and
for nothing, whole and real numbers, points of time, and two signs with a meaning for mappings. All
else is text.
-/

set_option autoImplicit false

namespace EditorText.Yaml

/-- What a node is. -/
inductive Tag where
  | null
  | bool
  | int
  | float
  | text
  | bytes
  | time
  | sequence
  | mapping
  | set
  | orderedMap
  | pairs
  | merge
  | default_
  | other (name : Text)
  deriving DecidableEq, Repr

/-- The tags of the core language begin with this. -/
def coreTags : Text := Text.ofString "tag:yaml.org,2002:"

/-- The tag behind the beginning of the core tags. -/
def coreTag (name : Text) : Tag :=
  if name = Text.ofString "null" then .null
  else if name = Text.ofString "bool" then .bool
  else if name = Text.ofString "int" then .int
  else if name = Text.ofString "float" then .float
  else if name = Text.ofString "str" then .text
  else if name = Text.ofString "binary" then .bytes
  else if name = Text.ofString "timestamp" then .time
  else if name = Text.ofString "seq" then .sequence
  else if name = Text.ofString "map" then .mapping
  else if name = Text.ofString "set" then .set
  else if name = Text.ofString "omap" then .orderedMap
  else if name = Text.ofString "pairs" then .pairs
  else if name = Text.ofString "merge" then .merge
  else if name = Text.ofString "value" then .default_
  else .other (coreTags ++ name)

/-- A written tag. -/
def Tag.ofText (t : Text) : Tag :=
  match Text.after? coreTags t with
  | some name => coreTag name
  | none => .other t

/-- The forms of text: what is left of a text behind a part of the given form, in every way. -/
abbrev Form := Text → List Text

namespace Form

/-- One character of a class. -/
def one (holds : Code → Bool) : Form
  | [] => []
  | c :: t => if holds c then [t] else []

/-- A given character. -/
def sign (c : Char) : Form := one (· == c.toNat)

/-- Nothing. -/
def nothing : Form := fun t => [t]

/-- One form behind another. -/
def then_ (f g : Form) : Form := fun t => (f t).flatMap g

/-- Either form. -/
def or_ (f g : Form) : Form := fun t => f t ++ g t

/-- The form or nothing. -/
def maybe (f : Form) : Form := or_ f nothing

/-- Characters of a class, also none. -/
def run (holds : Code → Bool) : Form
  | [] => [[]]
  | c :: t => if holds c then run holds t ++ [c :: t] else [c :: t]

/-- The form repeated, also not at all; `fuel` bounds the rounds. -/
def many (f : Form) : Nat → Form
  | 0 => nothing
  | fuel + 1 => fun t => (f t).flatMap (many f fuel) ++ [t]

/-- The forms one behind another. -/
def all : List Form → Form
  | [] => nothing
  | f :: fs => then_ f (all fs)

/-- Any of the forms. -/
def any : List Form → Form
  | [] => fun _ => []
  | f :: fs => or_ f (any fs)

/-- A text has a form as a whole, or up to a line feed at its end. -/
def fits (f : Form) (t : Text) : Bool :=
  (f t).any fun rest => rest == [] || rest == [Code.newline]

end Form

open Form

/-- A digit up to a given one. -/
def digitTo (high : Char) (c : Code) : Bool := 48 ≤ c && c ≤ high.toNat

/-- A decimal digit or an underscore. -/
def digitOrBar (c : Code) : Bool := digitTo '9' c || c == Code.underscore

/-- An optional sign. -/
def sign? : Form := maybe (one fun c => c == Code.plus || c == Code.dash)

/-- A given word. -/
def word (w : String) : Form := fun t => (Text.after? (Text.ofString w) t).toList

/-- The further places of a number to base sixty. -/
def sixties : Form :=
  let place := all [sign ':', maybe (one (digitTo '5')), one (digitTo '9')]
  fun t => (then_ place (many place t.length)) t

/-- A power of ten, of which the sign must be written. -/
def power : Form :=
  all [one fun c => c == 101 || c == 69, one fun c => c == Code.plus || c == Code.dash,
    one (digitTo '9'), run (digitTo '9')]

/-- Whole numbers. -/
def wholeForm : Form :=
  let hex (c : Code) : Bool :=
    digitTo '9' c || (97 ≤ c && c ≤ 102) || (65 ≤ c && c ≤ 70) || c == Code.underscore
  let few (high : Char) (c : Code) : Bool := digitTo high c || c == Code.underscore
  let from1 : Form := one fun c => 49 ≤ c && c ≤ 57
  any [
    all [sign?, sign '0', sign 'b', one (few '1'), run (few '1')],
    all [sign?, sign '0', one (few '7'), run (few '7')],
    all [sign?, or_ (sign '0') (then_ from1 (run digitOrBar))],
    all [sign?, sign '0', sign 'x', one hex, run hex],
    all [sign?, from1, run digitOrBar, sixties]]

/-- Real numbers. -/
def realForm : Form :=
  any [
    all [sign?, one (digitTo '9'), run digitOrBar, sign '.', run digitOrBar, maybe power],
    all [sign '.', one (digitTo '9'), run digitOrBar, maybe power],
    all [sign?, one (digitTo '9'), run digitOrBar, sixties, sign '.', run digitOrBar],
    all [sign?, sign '.', any [word "inf", word "Inf", word "INF"]],
    all [sign '.', any [word "nan", word "NaN", word "NAN"]]]

/-- A decimal digit. -/
def digit : Form := one (digitTo '9')

/-- A digit or two. -/
def upToTwo : Form := then_ digit (maybe digit)

/-- Points of time: a date, or a date with a time of day and perhaps a zone. -/
def timeForm : Form :=
  let blanks := run fun c => c == Code.space || c == Code.tab
  let blank := one fun c => c == Code.space || c == Code.tab
  let zone := or_ (sign 'Z') (all [one fun c => c == Code.plus || c == Code.dash, upToTwo,
    maybe (all [sign ':', digit, digit])])
  or_ (all [digit, digit, digit, digit, sign '-', digit, digit, sign '-', digit, digit])
    (all [digit, digit, digit, digit, sign '-', upToTwo, sign '-', upToTwo,
      or_ (one fun c => c == 84 || c == 116) (then_ blank blanks),
      upToTwo, sign ':', digit, digit, sign ':', digit, digit,
      maybe (then_ (sign '.') (run (digitTo '9'))),
      maybe (then_ blanks zone)])

/-- The words for truth values. -/
def truthForm : Form :=
  any (["yes", "Yes", "YES", "no", "No", "NO", "true", "True", "TRUE", "false", "False", "FALSE",
    "on", "On", "ON", "off", "Off", "OFF"].map word)

/-- The words for nothing. -/
def nullForm : Form :=
  any (["~", "null", "Null", "NULL", ""].map word)

/-- The first character is one of these, or there is none and that is allowed. -/
def beginsWith (first : String) (empty : Bool) (t : Text) : Bool :=
  match t with
  | [] => empty
  | c :: _ => (Text.ofString first).contains c

/-- The tag of a plain scalar. -/
def plainTag (t : Text) : Tag :=
  if beginsWith "yYnNtTfFoO" false t && truthForm.fits t then .bool
  else if beginsWith "-+0123456789." false t && realForm.fits t then .float
  else if beginsWith "-+0123456789" false t && wholeForm.fits t then .int
  else if beginsWith "<" false t && (word "<<").fits t then .merge
  else if beginsWith "~nN" true t && nullForm.fits t then .null
  else if beginsWith "0123456789" false t && timeForm.fits t then .time
  else if beginsWith "=" false t && (word "=").fits t then .default_
  else if beginsWith "!&*" false t && (any [word "!", word "&", word "*"]).fits t then
    .other (coreTags ++ Text.ofString "yaml")
  else .text

end EditorText.Yaml
