import EditorText.Text.Digit

/-!
# Tab stops

A tab stop in a snippet is written `${n:text}` with a text to start from, or `${n|…|}` with a choice
of items. Text that stands for itself in a snippet has its special characters behind backslashes.
-/

set_option autoImplicit false

namespace EditorText.Choice

/-- The opening of every tab stop. -/
def tabStopOpening : Text := [Code.dollar, Code.openBrace]

/-- The end of a choice. -/
def choiceEnd : Text := [Code.pipe, Code.closeBrace]

/-- A tab stop with a text to start from. -/
def tabStop (text : Text) (n : Int) : Text :=
  tabStopOpening ++ Text.ofInt n ++ Code.colon :: text ++ [Code.closeBrace]

/-- A tab stop with a choice, of which the interior is given. -/
def choice (interior : Text) (n : Int) : Text :=
  tabStopOpening ++ Text.ofInt n ++ Code.pipe :: interior ++ choiceEnd

/-- The part of a text before an ending. -/
def before? (ending : Text) : Text → Option Text
  | [] => if ending = [] then some [] else none
  | c :: t => if c :: t = ending then some [] else (before? ending t).map (c :: ·)

/-- The interior of a choice tab stop: not empty and on one line, between `${n|` and the end of the
choice at the end of the text. -/
def interior? (text : Text) : Option Text :=
  match Text.after? tabStopOpening text with
  | none => none
  | some t =>
    match t.takeWhile isDigit, t.dropWhile isDigit with
    | _ :: _, Code.pipe :: rest =>
      match before? choiceEnd rest with
      | some inner => if inner ≠ [] ∧ ¬ Code.newline ∈ inner then some inner else none
      | none => none
    | _, _ => none

/-- The text is a choice tab stop. -/
def isChoice (text : Text) : Bool :=
  (interior? text).isSome

/-- The characters with a meaning inside the body of a snippet. -/
def isSpecial (c : Code) : Bool :=
  c == Code.dollar || c == Code.backslash || c == Code.closeBrace

/-- The text with a backslash before each special character, so that it is inserted as it is. -/
def escapeText (text : Text) : Text :=
  text.flatMap fun c => if isSpecial c then [Code.backslash, c] else [c]

end EditorText.Choice
