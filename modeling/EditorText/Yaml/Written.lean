import EditorText.Yaml.Style

/-!
# The written form of a text

A line that has grown too wide ends at the next place where it may: without quotes and between
single quotes at a lone space, between double quotes before a space or around an escape, where a
backslash tells that the line goes on. Lines that follow begin with the indentation of the scalar.
-/

set_option autoImplicit false

namespace EditorText.Yaml

/-- Lines are not made wider than this where they can end. -/
def lineWidth : Nat := 80

/-- A line end and the indentation of the next line. -/
def nextLine (indent : Nat) : Text :=
  Code.newline :: Text.run Code.space indent

/-- The written form of a text between single quotes, from a column on. `twice` tells which
characters are written two times. -/
def foldedFrom (twice : Code → Bool) (indent : Nat) : Nat → Bool → Nat → Text → Text
  | 0, _, _, _ => []
  | _, _, _, [] => []
  | fuel + 1, first, column, c :: t =>
    if c = Code.space then
      let spaces := (c :: t).takeWhile (· == Code.space)
      let rest := (c :: t).dropWhile (· == Code.space)
      if spaces.length = 1 && lineWidth < column && !first && rest != [] then
        nextLine indent ++ foldedFrom twice indent fuel false indent rest
      else spaces ++ foldedFrom twice indent fuel false (column + spaces.length) rest
    else if isLineEnd c then
      let ends := (c :: t).takeWhile isLineEnd
      let rest := (c :: t).dropWhile isLineEnd
      (if c = Code.newline then [Code.newline] else []) ++ ends ++ Text.run Code.space indent ++
        foldedFrom twice indent fuel false indent rest
    else if twice c then c :: c :: foldedFrom twice indent fuel false (column + 2) t
    else c :: foldedFrom twice indent fuel false (column + 1) t

/-- The letters behind a backslash. -/
def escapeLetters : List (Code × Char) :=
  [(0, '0'), (7, 'a'), (8, 'b'), (9, 't'), (10, 'n'), (11, 'v'), (12, 'f'), (13, 'r'), (27, 'e'),
    (34, '"'), (92, '\\'), (0x85, 'N'), (0x2028, 'L'), (0x2029, 'P')]

/-- A character that is written as it is between double quotes. -/
def isOpen (c : Code) : Bool :=
  (0x20 ≤ c && c ≤ 0x7E && c != Code.quote && c != Code.backslash) ||
  (0xA0 ≤ c && c ≤ 0xFFFD && !Code.isSurrogate c && c != 0x2028 && c != 0x2029 &&
    c != byteOrderMark)

/-- The escape of a character: by its letter or by its number. -/
def escapeOf (c : Code) : Text :=
  match escapeLetters.lookup c with
  | some letter => [Code.backslash, letter.toNat]
  | none =>
    if c ≤ 0xFF then Text.ofChars ['\\', 'x'] ++ Text.hexCapital 2 c
    else if c ≤ 0xFFFF then Text.ofChars ['\\', 'u'] ++ Text.hexCapital 4 c
    else Text.ofChars ['\\', 'U'] ++ Text.hexCapital 8 c

/-- The written form between double quotes, from a column on. A line is not ended at the first
character or at the last one; `afterEscape` tells that an escape was written just before. A space at
the start of a line needs a backslash. -/
def escapedFrom (indent : Nat) (first afterEscape : Bool) (column : Nat) : Text → Text
  | [] => []
  | c :: t =>
    let inside := !first && t != []
    let lead (u : Text) : Text := if u.head? = some Code.space then [Code.backslash] else []
    if !isOpen c then
      let e := escapeOf c
      if inside && lineWidth < column + e.length - 1 then
        e ++ Code.backslash :: nextLine indent ++ lead t ++
          escapedFrom indent false true (indent + (lead t).length) t
      else e ++ escapedFrom indent false true (column + e.length) t
    else if inside && (c == Code.space || afterEscape) && lineWidth < column then
      Code.backslash :: nextLine indent ++ lead (c :: t) ++
        c :: escapedFrom indent false false (indent + (lead (c :: t)).length + 1) t
    else c :: escapedFrom indent false false (column + 1) t

/-- The written form of a text whose first character stands at a column; quotes stand in that
column. -/
def written (indent column : Nat) (t : Text) : Text :=
  match styleOf t with
  | .plain => foldedFrom (fun _ => false) indent (t.length + 1) true column t
  | .single =>
    Code.apostrophe ::
      foldedFrom (· == Code.apostrophe) indent (t.length + 1) true (column + 1) t ++
      [Code.apostrophe]
  | .double => Code.quote :: escapedFrom indent true false (column + 1) t ++ [Code.quote]

end EditorText.Yaml
