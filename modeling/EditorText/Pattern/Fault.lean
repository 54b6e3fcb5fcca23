import EditorText.Pattern.Node
import EditorText.Text.Quoted

/-!
# Faults of a pattern

Why a pattern cannot be read, and where. `Fault.reason` words the cause and adds its place: the
offset in the pattern and, in a pattern of several lines, the line and column.
-/

set_option autoImplicit false

namespace EditorText.Pattern

/-- What is wrong with a pattern. -/
inductive Cause where
  | danglingEscape
  | badEscape (written : Text)
  | incompleteEscape (written : Text)
  | octalTooLarge (written : Text)
  | missingBrace
  | unknownCharacter (name : Text)
  | unterminatedSet
  | badRange (low high : Text)
  | nothingToRepeat
  | repeatedRepeat
  | repeatBounds
  | unexpectedEnd
  | unknownExtension (written : Text)
  | missingName (what : String)
  | unterminatedName (terminator : Code)
  | badGroupName (name : Text)
  | unknownGroupName (name : Text)
  | groupRedefined (name : Text) (new old : Nat)
  | openGroup
  | groupOfSameLookbehind
  | badGroupNumber
  | noSuchGroup (number : Nat)
  | thirdBranch
  | unterminatedComment
  | unterminatedGroup
  | flagsNotAtStart
  | localeFlag
  | clashingFlags
  | flagsUnfinished
  | unknownFlag
  | flagMissing
  | colonMissing
  | globalFlagOn
  | globalFlagOff
  | classFlagOff
  | flagOnAndOff
  | unbalancedParenthesis
  | variableLookbehind
  | distantLookbehind
  | repeatInTemplate (greed : Greed)
  deriving DecidableEq, Repr

/-- The name of a repetition in a message. -/
def Greed.label : Greed → String
  | .greedy => "MAX_REPEAT"
  | .lazy => "MIN_REPEAT"
  | .possessive => "POSSESSIVE_REPEAT"

/-- The cause in words. -/
def Cause.words : Cause → Text
  | danglingEscape => "bad escape (end of pattern)"
  | badEscape written => Text.ofString "bad escape " ++ written
  | incompleteEscape written => Text.ofString "incomplete escape " ++ written
  | octalTooLarge written =>
    Text.ofString "octal escape value " ++ written ++ Text.ofString " outside of range 0-0o377"
  | missingBrace => "missing \x7b"
  | unknownCharacter name => Text.ofString "undefined character name " ++ name.quoted
  | unterminatedSet => "unterminated character set"
  | badRange low high => Text.ofString "bad character range " ++ low ++ Code.dash :: high
  | nothingToRepeat => "nothing to repeat"
  | repeatedRepeat => "multiple repeat"
  | repeatBounds => "min repeat greater than max repeat"
  | unexpectedEnd => "unexpected end of pattern"
  | unknownExtension written => Text.ofString "unknown extension " ++ written
  | missingName what => Text.ofString "missing " ++ Text.ofString what
  | unterminatedName terminator =>
    Text.ofString "missing " ++ terminator :: Text.ofString ", unterminated name"
  | badGroupName name => Text.ofString "bad character in group name " ++ name.quoted
  | unknownGroupName name => Text.ofString "unknown group name " ++ name.quoted
  | groupRedefined name new old =>
    Text.ofString "redefinition of group name " ++ name.quoted ++ Text.ofString " as group " ++
      Text.ofNat new ++ Text.ofString "; was group " ++ Text.ofNat old
  | openGroup => "cannot refer to an open group"
  | groupOfSameLookbehind => "cannot refer to group defined in the same lookbehind subpattern"
  | badGroupNumber => "bad group number"
  | noSuchGroup number => Text.ofString "invalid group reference " ++ Text.ofNat number
  | thirdBranch => "conditional backref with more than two branches"
  | unterminatedComment => "missing ), unterminated comment"
  | unterminatedGroup => "missing ), unterminated subpattern"
  | flagsNotAtStart => "global flags not at the start of the expression"
  | localeFlag => "bad inline flags: cannot use 'L' flag with a str pattern"
  | clashingFlags => "bad inline flags: flags 'a', 'u' and 'L' are incompatible"
  | flagsUnfinished => "missing -, : or )"
  | unknownFlag => "unknown flag"
  | flagMissing => "missing flag"
  | colonMissing => "missing :"
  | globalFlagOn => "bad inline flags: cannot turn on global flag"
  | globalFlagOff => "bad inline flags: cannot turn off global flag"
  | classFlagOff => "bad inline flags: cannot turn off flags 'a', 'u' and 'L'"
  | flagOnAndOff => "bad inline flags: flag turned on and off"
  | unbalancedParenthesis => "unbalanced parenthesis"
  | variableLookbehind => "look-behind requires fixed-width pattern"
  | distantLookbehind => "looks too much behind"
  | repeatInTemplate greed =>
    Text.ofString "internal: unsupported template operator " ++ Text.ofString greed.label

/-- A cause and the offset at which it shows. What shows only in the pattern as a whole has no
offset. -/
structure Fault where
  cause : Cause
  offset : Option Nat
  deriving DecidableEq, Repr

/-- Line and column of an offset, both counted from one. -/
def lineAndColumn (pattern : Text) (offset : Nat) : Nat × Nat :=
  let before := pattern.take offset
  (before.count Code.newline + 1,
    (before.reverse.takeWhile (· != Code.newline)).length + 1)

/-- The fault in words, with its place in the pattern. -/
def Fault.reason (f : Fault) (pattern : Text) : Text :=
  match f.offset with
  | none => f.cause.words
  | some n =>
    let place := f.cause.words ++ Text.ofString " at position " ++ Text.ofNat n
    if pattern.contains Code.newline then
      let (line, column) := lineAndColumn pattern n
      place ++ Text.ofString " (line " ++ Text.ofNat line ++ Text.ofString ", column " ++
        Text.ofNat column ++ Text.ofString ")"
    else place

/-- Why reading a pattern ends without a tree. Beside faults of the pattern there are limits: a
count of rounds or an escaped code number that is too large to work with, a count with too many
digits to read, two flags that exclude each other over the whole pattern, and groups inside each
other that there is no room for. -/
inductive Failure where
  | malformed (fault : Fault)
  | tooManyRounds
  | codeTooLarge
  | tooManyDigits (digits : Nat)
  | clashingClasses
  | tooDeep
  deriving DecidableEq, Repr

end EditorText.Pattern
