import EditorText.Pattern.Fault
import EditorText.Pattern.Matching

/-!
# Patterns

A `Pattern` is what an engine makes of a text. `Pattern.search` finds its first match from a place
on, `Pattern.findAll` all matches that do not overlap, and `Pattern.replaceAll` puts other text in
their place. An `Engine` reads patterns.

Where matches lie is part of what a pattern is: one that is searched for begins at or after the place
asked for and lies in the text, and of all matches each begins behind the one before. What uses
patterns holds of every engine whose patterns keep to that.
-/

set_option autoImplicit false

namespace EditorText

/-- A part of a text, from `start` up to but without `stop`. -/
structure Span where
  start : Nat
  stop : Nat
  deriving DecidableEq, Repr

/-- The part of a text that a span covers. -/
def Text.slice (t : Text) (s : Span) : Text :=
  (t.drop s.start).take (s.stop - s.start)

/-- A part of a text with what is behind it. -/
theorem Text.slice_append_drop (t : Text) (s : Span) (forward : s.start ≤ s.stop) :
    t.slice s ++ t.drop s.stop = t.drop s.start := by
  have rest : t.drop s.stop = (t.drop s.start).drop (s.stop - s.start) := by
    rw [List.drop_drop]
    congr 1
    omega
  rw [Text.slice, rest, List.take_append_drop]

namespace Pattern

/-- Where a pattern matched, as a whole and in its groups. -/
structure Match where
  span : Span
  groups : Captures

namespace Match

/-- The span of a group; group zero is the whole match. -/
def groupSpan? (m : Match) (group : Nat) : Option Span :=
  if group = 0 then some m.span
  else (m.groups.span? group).map fun (start, stop) => ⟨start, stop⟩

/-- The text of a group that took part. -/
def group? (m : Match) (text : Text) (group : Nat) : Option Text :=
  (m.groupSpan? group).map text.slice

/-- The match takes no text. -/
def isEmpty (m : Match) : Bool :=
  m.span.start == m.span.stop

end Match

/-- Matches one behind the other, none before a place. -/
inductive InOrder : Nat → List Match → Prop where
  | nil {place : Nat} : InOrder place []
  | cons {place : Nat} {m : Match} {ms : List Match} : place ≤ m.span.start →
      m.span.start ≤ m.span.stop → InOrder m.span.stop ms → InOrder place (m :: ms)

end Pattern

/-- A pattern that can be searched for: the text it was read from, how many capturing groups it has,
their names with their numbers, and the matches that are found. -/
structure Pattern where
  source : Text
  groupCount : Nat
  names : List (Text × Nat)
  search : Text → Nat → Option Pattern.Match
  findAll : Text → List Pattern.Match
  /-- A match lies between the place searched from and the end of the text. -/
  search_span : ∀ {text : Text} {from_ : Nat} {m : Pattern.Match}, search text from_ = some m →
    from_ ≤ m.span.start ∧ m.span.start ≤ m.span.stop ∧ m.span.stop ≤ text.length
  /-- The matches stand one behind the other. -/
  findAll_inOrder : ∀ text : Text, Pattern.InOrder 0 (findAll text)

namespace Pattern

/-- Why an engine cannot read a text: it is malformed, or it meets a limit. -/
inductive Refusal where
  | malformed (reason : Text)
  | limit (failure : Failure)

/-- An engine of regular expressions. A pattern keeps the text that it is read from. -/
class Engine where
  read : Text → Flags → Except Refusal Pattern
  source_of_read : ∀ {source : Text} {flags : Flags} {p : Pattern},
    read source flags = .ok p → p.source = source

/-- The text from a place on with each of the matches replaced. -/
def replaceMatches (text : Text) (new : Match → Text) : Nat → List Match → Text
  | from_, [] => text.drop from_
  | from_, m :: rest =>
    text.slice ⟨from_, m.span.start⟩ ++ new m ++ replaceMatches text new m.span.stop rest

/-- The text with every match replaced. -/
def replaceAll (p : Pattern) (text : Text) (new : Match → Text) : Text :=
  replaceMatches text new 0 (p.findAll text)

end Pattern

end EditorText
