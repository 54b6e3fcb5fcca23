import EditorText.Pattern.Basic

/-!
# Templates

The text that replaces a match may refer to the match and its groups by tokens that begin with a
dollar sign. A template is read into pieces once, and each piece is expanded against a match; what a
group inserts is not read again.
-/

set_option autoImplicit false

namespace EditorText.Replace

/-- A piece of a template: a character, or a token behind a dollar sign. Digits are one or two. -/
inductive Piece where
  | code (c : Code)
  | dollar
  | whole
  | before
  | after
  | digits (ds : Text)
  | named (name : Text)
  deriving DecidableEq, Repr

/-- A name up to the first `>`, and what follows. -/
def angled? : Text → Option (Text × Text)
  | [] => none
  | Code.greater :: t => some ([], t)
  | c :: t => (angled? t).map fun (name, rest) => (c :: name, rest)

/-- The token behind a dollar sign and how many characters it takes. -/
def token? : Text → Option (Piece × Nat)
  | Code.dollar :: _ => some (.dollar, 1)
  | Code.ampersand :: _ => some (.whole, 1)
  | Code.backtick :: _ => some (.before, 1)
  | Code.apostrophe :: _ => some (.after, 1)
  | Code.less :: t => (angled? t).map fun (name, _) => (.named name, name.length + 2)
  | c :: d :: _ =>
    if isDigit c then
      if isDigit d then some (.digits [c, d], 2) else some (.digits [c], 1)
    else none
  | [c] => if isDigit c then some (.digits [c], 1) else none
  | [] => none

/-- Reads a template from the front; the number of characters that a token has already covered is
passed over. -/
def piecesFrom : Nat → Text → List Piece
  | _, [] => []
  | skip + 1, _ :: t => piecesFrom skip t
  | 0, Code.dollar :: t =>
    match token? t with
    | some (piece, covered) => piece :: piecesFrom covered t
    | none => .code Code.dollar :: piecesFrom 0 t
  | 0, c :: t => .code c :: piecesFrom 0 t

/-- The pieces of a template. -/
def pieces (template : Text) : List Piece :=
  piecesFrom 0 template

/-- A match with the text it was found in and the groups of its pattern. -/
structure Found where
  text : Text
  groupCount : Nat
  names : List (Text × Nat)
  hit : Pattern.Match

namespace Found

/-- A match of a pattern. -/
def ofMatch (p : Pattern) (text : Text) (m : Pattern.Match) : Found :=
  ⟨text, p.groupCount, p.names, m⟩

/-- The text of a group; one that took no part has none. -/
def group (f : Found) (n : Nat) : Text :=
  (f.hit.group? f.text n).getD []

/-- The pattern has a group of this number. -/
def hasGroup (f : Found) (n : Nat) : Bool :=
  0 < n && n ≤ f.groupCount

end Found

/-- The number that digits of any script denote. -/
def number (ds : Text) : Nat :=
  ds.foldl (fun n d => n * 10 + (digitValue? d).getD 0) 0

/-- The text that a piece stands for. Two digits name a group if there is one of that number;
otherwise the first digit may, and the second stands for itself. -/
def Piece.expand (f : Found) : Piece → Text
  | code c => [c]
  | dollar => [Code.dollar]
  | whole => f.group 0
  | before => f.text.take f.hit.span.start
  | after => f.text.drop f.hit.span.stop
  | digits [d] => if f.hasGroup (number [d]) then f.group (number [d]) else [Code.dollar, d]
  | digits (d :: e :: ds) =>
    if f.hasGroup (number (d :: e :: ds)) then f.group (number (d :: e :: ds))
    else if f.hasGroup (number [d]) then f.group (number [d]) ++ e :: ds
    else Code.dollar :: d :: e :: ds
  | digits [] => [Code.dollar]
  | named name =>
    if f.names.isEmpty then Code.dollar :: Code.less :: name ++ [Code.greater]
    else match f.names.lookup name with
      | some n => f.group n
      | none => []

/-- The text that replaces a match. -/
def expand (template : Text) (f : Found) : Text :=
  (pieces template).flatMap (Piece.expand f)

end EditorText.Replace
