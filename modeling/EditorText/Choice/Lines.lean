import EditorText.Choice.Header
import EditorText.Choice.TabStop
import EditorText.Report.Outcome

/-!
# Lines as a choice

`encode` turns lines into a choice tab stop with an item for each, and `decode` turns a choice tab
stop back into lines. Commas separate items; a comma that belongs to a line stands behind a
backslash.
-/

set_option autoImplicit false

namespace EditorText.Choice

/-- The lines of a text, each ended by a line feed with or without a carriage return before it. -/
def lines : Text → List Text
  | [] => [[]]
  | Code.carriageReturn :: Code.newline :: t => [] :: lines t
  | Code.newline :: t => [] :: lines t
  | c :: t => Text.consFirst c (lines t)

/-- The line with a backslash before each comma. -/
def escapeCommas (line : Text) : Text :=
  Text.replaceCode Code.comma [Code.backslash, Code.comma] line

/-- The items for lines in which commas are escaped. A line before a header mark becomes a box, also
where it looks like a mark itself; other marks are dropped. -/
def itemsOf : List Text → List Text
  | [] => []
  | [l] => if isCaretRow l then [] else [l]
  | l :: m :: rest =>
    if isCaretRow m then frame l ++ itemsOf (m :: rest)
    else if isCaretRow l then itemsOf (m :: rest)
    else l :: itemsOf (m :: rest)

/-- Writes a text as a choice tab stop: its lines as items, or a single line as it is. -/
def encode (text : Text) (n : Int) (isSingleLine : Bool) : Text :=
  if isSingleLine then choice text n
  else choice (Text.join [Code.comma] (itemsOf ((lines text).map escapeCommas))) n

/-- The item at the front, up to a comma that no backslash precedes or up to the end, and what
follows it. A backslash goes together with the character after it; one at the very end goes with
nothing, and then no item begins here. -/
def itemAt? : Text → Option (Text × Text)
  | [] => some ([], [])
  | Code.comma :: t => some ([], t)
  | [Code.backslash] => none
  | Code.backslash :: c :: t =>
    (itemAt? t).map fun (item, rest) => (Code.backslash :: c :: item, rest)
  | c :: t => (itemAt? t).map fun (item, rest) => (c :: item, rest)

/-- The items of an interior from left to right. Where none begins the character is passed over;
`fuel` is the length of the interior. -/
def itemsFrom : Nat → Text → List Text
  | 0, _ => []
  | _ + 1, [] => []
  | fuel + 1, c :: t =>
    match itemAt? (c :: t) with
    | some (item, rest) => item :: itemsFrom fuel rest
    | none => itemsFrom fuel t

/-- The items of the interior of a choice. -/
def items (interior : Text) : List Text :=
  itemsFrom interior.length interior

/-- The line that an item stands for; the top of a box stands for none. -/
def lineOf? (item : Text) : Option Text :=
  if isBoxRow topLeft topRight item then none
  else if isBoxRow bottomLeft bottomRight item then some caretRow
  else some (Text.replace [Code.backslash, Code.comma] [Code.comma] (withoutSides item))

/-- The text is no choice tab stop. -/
structure NotAChoice where
  text : Text

/-- The failure in words. -/
def NotAChoice.message (_ : NotAChoice) : Text :=
  Text.ofString "Text is not a choice tab stop"

/-- Reads a choice tab stop as the lines it was written from. -/
def decode (text eol : Text) : Outcome NotAChoice Text :=
  match interior? text with
  | none => .fail ⟨text⟩
  | some interior =>
    let found := (items interior).filterMap lineOf?
    ⟨[.notice (.choiceDecoded found.length)], .ok (Text.join eol found)⟩

/-- Reads a choice tab stop as lines, or writes any other text as a choice. -/
def toggle (text : Text) (n : Int) (isSingleLine : Bool) (eol : Text) :
    Outcome NotAChoice Text :=
  if isChoice text then decode text eol else .ok (encode text n isSingleLine)

end EditorText.Choice
