import EditorText.Pattern.Engine
import EditorText.Report.Outcome

/-!
# The dialect of editors

Editors write a named group as `(?<name>…)` and a reference to it as `\k<name>`. `convert` respells
both as `(?P<name>…)` and `(?P=name)` and copies everything else; a character behind a backslash
never begins a token. `compile` reads the respelt pattern and reports one that is malformed.
-/

set_option autoImplicit false

namespace EditorText.Pattern

/-- A name at the front of a text, ended by `>`: word characters, at least one. -/
def angledName? (t : Text) : Option (Text × Text) :=
  let name := t.takeWhile isWordPart
  match name, t.dropWhile isWordPart with
  | _ :: _, Code.greater :: rest => some (name, rest)
  | _, _ => none

/-- Respells a pattern from the front; the number of characters that a token before has already
covered is passed over. -/
def convertFrom : Nat → Text → Text
  | _, [] => []
  | skip + 1, _ :: t => convertFrom skip t
  | 0, Code.backslash :: c :: t =>
    if c = 'k'.toNat then
      match t with
      | Code.less :: r =>
        match angledName? r with
        | some (name, _) =>
          Text.ofChars ['(', '?', 'P', '='] ++ name ++ Code.closeParen ::
            convertFrom (name.length + 3) (c :: t)
        | none => Code.backslash :: c :: convertFrom 1 (c :: t)
      | _ => Code.backslash :: c :: convertFrom 1 (c :: t)
    else Code.backslash :: c :: convertFrom 1 (c :: t)
  | 0, c :: t =>
    match Text.after? (Text.ofChars ['(', '?', '<']) (c :: t) with
    | some r =>
      match angledName? r with
      | some (name, _) =>
        Text.ofChars ['(', '?', 'P', '<'] ++ name ++ Code.greater ::
          convertFrom (name.length + 3) t
      | none => c :: convertFrom 0 t
    | none => c :: convertFrom 0 t

/-- The pattern with named groups and references to them respelt. -/
def convert (pattern : Text) : Text :=
  convertFrom 0 pattern

/-- Why a pattern cannot be used: it is malformed, or it meets a limit of the engine. -/
inductive Rejection where
  | invalid (pattern reason : Text)
  | limit (failure : Failure)

variable [Engine]

/-- Reads a pattern in the editors' dialect. -/
def read (pattern : Text) (flags : Flags) : Except Rejection Pattern :=
  match Engine.read (convert pattern) flags with
  | .ok p => .ok p
  | .error (.malformed reason) => .error (.invalid pattern reason)
  | .error (.limit failure) => .error (.limit failure)

/-- Reads a pattern in the editors' dialect and reports a malformed one. -/
def compile (pattern : Text) (flags : Flags) : Outcome Rejection Pattern :=
  match read pattern flags with
  | .ok p => .ok p
  | .error (.invalid q reason) =>
    ⟨[.notice (.patternRejected q reason)], .error (.invalid q reason)⟩
  | .error e => .fail e

end EditorText.Pattern
