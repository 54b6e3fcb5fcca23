import EditorText.Yaml.Cursor

/-!
# Tokens of YAML

The tokens of a document. Indentation shows as tokens that open and close block collections, so that
what comes after needs no columns.
-/

set_option autoImplicit false

namespace EditorText.Yaml

/-- A directive at the head of a document. -/
inductive Directive where
  | version (major minor : Nat)
  | handle (name address : Text)
  | other (name : Text)
  deriving DecidableEq, Repr

/-- A token. A scalar is plain if no quotes or block indicators surround it; a tag has a handle
unless it is written in full. -/
inductive Token where
  | directive (what : Directive)
  | documentStart
  | documentEnd
  | streamEnd
  | blockSequenceStart
  | blockMappingStart
  | blockEnd
  | flowSequenceStart
  | flowSequenceEnd
  | flowMappingStart
  | flowMappingEnd
  | blockEntry
  | flowEntry
  | key
  | value
  | alias (name : Text)
  | anchor (name : Text)
  | tag (handle : Option Text) (suffix : Text)
  | scalar (text : Text) (plain : Bool)
  deriving DecidableEq, Repr

end EditorText.Yaml
