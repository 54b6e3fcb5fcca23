import EditorText.Text.Quoted

/-!
# Problems of a YAML document

Why a document cannot be loaded: a character that no document may hold, text that makes no token,
tokens that make no node, nodes that make no document, or a document without a value.
-/

set_option autoImplicit false

namespace EditorText.Yaml

/-- Text that makes no token. -/
inductive TokenProblem where
  | missingColon
  | entryNotAllowed
  | keyNotAllowed
  | valueNotAllowed
  | directiveName
  | directiveVersion
  | directiveEnd
  | anchorName
  | tagHandle
  | tagAddress
  | tagEnd
  | blockIndicator
  | blockHeaderEnd
  | escapeDigits
  | escapeLetter
  | unclosedScalar
  | separatorInScalar
  | noToken
  deriving DecidableEq, Repr

/-- Tokens that make no node. -/
inductive NodeProblem where
  | missingContent
  | blockEndMissing
  | flowSequence
  | flowMapping
  | documentStartMissing
  | directiveTwice
  | versionNotKnown
  | handleTwice
  | handleNotKnown
  deriving DecidableEq, Repr

/-- Nodes that make no document. -/
inductive DocumentProblem where
  | unknownAlias (name : Text)
  | anchorTwice (name : Text)
  | secondDocument
  deriving DecidableEq, Repr

/-- A document without a value. -/
inductive ValueProblem where
  | notScalar
  | notSequence
  | notMapping
  | unhashableKey
  | notMergeable
  | notPair
  | notBase64
  | unknownTag
  deriving DecidableEq, Repr

/-- Scalars whose text does not have the form that their tag asks for. -/
inductive ScalarProblem where
  | notWhole (base : Nat) (written : Text)
  | tooManyDigits (digits : Nat)
  | notReal (written : Text)
  | weightTooLarge
  | noCharacter
  | notTruth (written : Text)
  | notTime
  | timeOfMapping
  | codeOutOfRange
  | codeTooLarge
  | yearRange (year : Nat)
  | monthRange
  | dayRange
  | hourRange
  | minuteRange
  | secondRange
  | zoneRange (days : Int) (seconds : Nat)
  deriving DecidableEq, Repr

/-- Why a document cannot be loaded. -/
inductive Problem where
  | unprintable
  | token (problem : TokenProblem)
  | node (problem : NodeProblem)
  | document (problem : DocumentProblem)
  | value (problem : ValueProblem)
  | scalar (problem : ScalarProblem)
  | tooDeep
  deriving DecidableEq, Repr

end EditorText.Yaml
