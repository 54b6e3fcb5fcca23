import EditorText.Replace.Operation
import EditorText.Text.Utf8
import EditorText.Yaml.Value

/-!
# From values to operations

An operation may come from outside as a value of no fixed form. It must be a record with a name that
is not empty, a list of steps or none, and nothing else; a step must be a record with a text to
find, a replacement or none, and nothing else. All that is wrong is reported at once, each issue
with the way that leads to it.

What is wrong, in which order, and what is taken for a text is as with pydantic 2.11. There a key of a
step may be given in bytes if they encode the name of a field that the record has; later versions
take texts alone for keys.
-/

set_option autoImplicit false

namespace EditorText.Replace

open Yaml (Value)

/-- What is wrong with a part of a value. -/
inductive Flaw where
  | missing
  | notText
  | notUnicode
  | tooShort
  | notList
  | notRecord
  | unexpected
  | badKey
  deriving DecidableEq, Repr

/-- The words for what is wrong. -/
def Flaw.message : Flaw → Text
  | missing => Text.ofString "Field required"
  | notText => Text.ofString "Input should be a valid string"
  | notUnicode =>
    Text.ofString
      "Input should be a valid string, unable to parse raw data as a unicode string"
  | tooShort => Text.ofString "String should have at least 1 character"
  | notList => Text.ofString "Input should be a valid list"
  | notRecord => Text.ofString "Input should be a valid dictionary or instance of ReplaceStep"
  | unexpected => Text.ofString "Extra inputs are not permitted"
  | badKey => Text.ofString "Keys should be strings"

/-- A step on the way to a part of a value. -/
inductive Turn where
  | field (name : Text)
  | item (index : Nat)
  | key (key : Value)

/-- Something wrong, and the way to it from the outermost record. -/
structure Issue where
  flaw : Flaw
  path : List Turn

/-- The issue seen from one step further out. -/
def Issue.behind (turn : Turn) (i : Issue) : Issue :=
  { i with path := turn :: i.path }

/-- An answer, or all that is wrong. -/
abbrev Checked (α : Type) := Except (List Issue) α

namespace Checked

variable {α β : Type}

/-- One thing is wrong here. -/
def wrong (flaw : Flaw) : Checked α :=
  .error [⟨flaw, []⟩]

/-- The answer, or its issues seen from one step further out. -/
def behind (turn : Turn) (x : Checked α) : Checked α :=
  x.mapError fun issues => issues.map (Issue.behind turn)

/-- Both answers, or the issues of both. -/
def both (x : Checked α) (y : Checked β) : Checked (α × β) :=
  match x, y with
  | .ok a, .ok b => .ok (a, b)
  | .ok _, .error e => .error e
  | .error e, .ok _ => .error e
  | .error e, .error f => .error (e ++ f)

/-- Checks the items of a list, the first of which has the given index. -/
def each (check : Value → Checked α) (index : Nat) : List Value → Checked (List α)
  | [] => .ok []
  | v :: vs =>
    (both (behind (.item index) (check v)) (each check (index + 1) vs)).map fun (a, as) => a :: as

end Checked

/-- A text, also one given as bytes. -/
def checkText : Value → Checked Text
  | .text t => .ok t
  | .bytes bs =>
    match Text.ofUtf8? bs with
    | some t => .ok t
    | none => .wrong .notUnicode
  | _ => .wrong .notText

/-- A text of characters, at least one. -/
def checkName (v : Value) : Checked Text := do
  let t ← checkText v
  if t.any Code.isSurrogate then .wrong .notUnicode
  else if t = [] then .wrong .tooShort
  else .ok t

/-- The items of a list or a set. -/
def checkList : Value → Checked (List Value)
  | .list vs | .set vs => .ok vs
  | .pair a b => .ok [a, b]
  | _ => .wrong .notList

/-- The value of a field. -/
def fieldValue? (name : Text) : List (Value × Value) → Option Value
  | [] => none
  | (.text t, v) :: es => if t = name then some v else fieldValue? name es
  | _ :: es => fieldValue? name es

/-- A field that must be there. -/
def required {α : Type} (name : Text) (check : Value → Checked α) (es : List (Value × Value)) :
    Checked α :=
  .behind (.field name) <| match fieldValue? name es with
    | some v => check v
    | none => .wrong .missing

/-- A field that need not be there. -/
def optional {α : Type} (name : Text) (usual : α) (check : Value → Checked α)
    (es : List (Value × Value)) : Checked α :=
  match fieldValue? name es with
  | some v => .behind (.field name) (check v)
  | none => .ok usual

/-- What is wrong with an entry that is none of the fields. Bytes that encode the name of a field which
the record has are let pass, as in version 2.11. -/
def strayIssue? (present : List Text) : Value → Option Issue
  | .text t => if present.contains t then none else some ⟨.unexpected, [.field t]⟩
  | .bytes bs =>
    match Text.ofUtf8? bs with
    | some t => if present.contains t then none else some ⟨.unexpected, [.key (.bytes bs)]⟩
    | none => some ⟨.badKey, [.key (.bytes bs)]⟩
  | k => some ⟨.badKey, [.key k]⟩

/-- The key is a text that cannot be encoded. -/
def isBrokenKey : Value → Bool
  | .text t => t.any Code.isSurrogate
  | _ => false

/-- A record of the named fields: what is wrong with its fields comes before entries that are none
of them. A key that cannot be encoded hides all else. -/
def checkRecord {α : Type} (names : List Text) (check : List (Value × Value) → Checked α)
    (es : List (Value × Value)) : Checked α :=
  if es.any fun e => isBrokenKey e.1 then .wrong .notUnicode
  else
    let present := names.filter fun n => (fieldValue? n es).isSome
    let stray : Checked Unit := match es.filterMap fun e => strayIssue? present e.1 with
      | [] => .ok ()
      | issues => .error issues
    (Checked.both (check es) stray).map (·.1)

/-- The field of a step that holds the pattern to find. -/
def findField : Text := Text.ofString "find"

/-- The field of a step that holds the replacement. -/
def replaceField : Text := Text.ofString "replace"

/-- The field of an operation that holds its name. -/
def nameField : Text := Text.ofString "name"

/-- The field of an operation that holds its steps. -/
def stepsField : Text := Text.ofString "steps"

/-- A step from the entries of a record. -/
def Step.ofEntries (es : List (Value × Value)) : Checked Step :=
  checkRecord [findField, replaceField] (fun es =>
    (Checked.both (required findField checkText es)
      (optional replaceField [] checkText es)).map fun (f, r) => ⟨f, r⟩) es

/-- A step from a value. -/
def Step.ofValue : Value → Checked Step
  | .mapping es => Step.ofEntries es
  | _ => .wrong .notRecord

/-- An operation from the entries of a record. -/
def Operation.ofEntries (es : List (Value × Value)) : Checked Operation :=
  checkRecord [nameField, stepsField] (fun es =>
    (Checked.both (required nameField checkName es)
      (optional stepsField [] (fun v => do
        let vs ← checkList v
        Checked.each Step.ofValue 0 vs) es)).map fun (n, s) => ⟨n, s⟩) es

end EditorText.Replace
