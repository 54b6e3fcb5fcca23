import EditorText.Replace.Validation
import EditorText.Yaml.Load
import EditorText.Yaml.Written

/-!
# Operations as documents

Operations are shared as a YAML list of records. `Operation.listOfDocument` reads a document, where
a document of nothing is no operation, and `Operation.documentOfList` writes one.
-/

set_option autoImplicit false

namespace EditorText.Replace

open Yaml (Value)

/-- Why a document gives no operations. -/
inductive ImportError where
  | problem (cause : Yaml.Problem)
  | notList
  | notRecord (item : Value)
  | keyNotText
  | invalid (issues : List Issue)

/-- An operation from an item of the list. -/
def Operation.ofItem : Value → Except ImportError Operation
  | .mapping es =>
    if es.all fun e => match e.1 with
      | .text _ => true
      | _ => false
    then (Operation.ofEntries es).mapError .invalid
    else .error .keyNotText
  | v => .error (.notRecord v)

/-- The operations that a value holds. A value that counts as nothing holds none. -/
def Operation.listOfValue (v : Value) : Except ImportError (List Operation) :=
  if v.isEmpty then .ok []
  else match v with
    | .list items => items.mapM Operation.ofItem
    | _ => .error .notList

/-- The parts of an operation lie at most this deep in the value of a document. -/
def documentDepth : Nat := 4

/-- The operations in a document. -/
def Operation.listOfDocument (t : Text) : Except ImportError (List Operation) := do
  let v ← (Yaml.load t documentDepth).mapError .problem
  Operation.listOfValue v

/-- A key with its value, the key standing in a column. Further lines of the value begin in column
`indent`. -/
def writtenEntry (column indent : Nat) (key value : Text) : Text :=
  key ++ Code.colon :: Code.space :: Yaml.written indent (column + key.length + 2) value ++
    [Code.newline]

/-- A step as an item of the list of steps. -/
def Step.written (s : Step) : Text :=
  Text.ofString "  - " ++ writtenEntry 4 6 findField s.find ++
    Text.ofString "    " ++ writtenEntry 4 6 replaceField s.replacement

/-- An operation as an item of the list. -/
def Operation.written (o : Operation) : Text :=
  Text.ofString "- " ++ writtenEntry 2 4 nameField o.name ++
    Text.ofString "  " ++ stepsField ++
    (if o.steps = [] then Text.ofString ": []\n"
    else Text.ofString ":\n" ++ o.steps.flatMap Step.written)

/-- The document of a list of operations. -/
def Operation.documentOfList (os : List Operation) : Text :=
  if os = [] then Text.ofString "[]\n" else os.flatMap Operation.written

end EditorText.Replace
