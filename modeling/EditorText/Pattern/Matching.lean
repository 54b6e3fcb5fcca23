import EditorText.Pattern.CharTest

/-!
# Matching

`Node.match?` runs a tree at a place of a text. It takes what is to be done afterwards as an
argument (`Next`): a way through the tree counts only if the rest succeeds too, and otherwise the
next way is tried, in the order that the pattern prefers. Groups keep what they matched last, also
from earlier rounds of a repetition, and lose it when the way that set it is given up.

A repetition goes on for a further round only if the round before it took some text; a round that
takes none is the last one.
-/

set_option autoImplicit false

namespace EditorText.Pattern

/-- What groups matched: the number of a group with start and end, the latest first. While a group
is matched again, its end is still that of the time before. -/
abbrev Captures := List (Nat × Nat × Nat)

/-- A place in the text together with the groups matched so far. -/
abbrev Reached := Nat × Captures

/-- What is to be done from a place on. -/
abbrev Next := Nat → Captures → Option Reached

/-- One way of taking text, in all its variants: it hands each end that it can reach to what
follows until that succeeds. -/
abbrev Step := Nat → Captures → Next → Option Reached

/-- The span that a group matched last. Of a group that is matched again, from behind the end that
it had, there is none. -/
def Captures.span? (c : Captures) (group : Nat) : Option (Nat × Nat) :=
  (c.lookup group).filter fun (start, stop) => start ≤ stop

/-- A group that has matched before begins anew at a place. -/
def Captures.enter (c : Captures) (group p : Nat) : Captures :=
  match c.lookup group with
  | some (_, stop) => (group, p, stop) :: c
  | none => c

/-- What follows is nothing: the place reached is the answer. -/
def done : Next := fun p c => some (p, c)

/-- Takes one character that passes a test. -/
def takeOne (text : Array Code) (holds : Code → Bool) : Step := fun p c next =>
  match text[p]? with
  | some x => if holds x then next (p + 1) c else none
  | none => none

/-- Exactly so many rounds. -/
def rounds (step : Step) : Nat → Step
  | 0 => fun p c next => next p c
  | n + 1 => fun p c next => step p c fun q d => rounds step n q d next

/-- The bound on further rounds after one of them. -/
def oneLess : Option Nat → Option Nat :=
  Option.map (· - 1)

/-- Further rounds, as many as possible; `fuel` exceeds the text that is left. -/
def asMany (step : Step) : Nat → Option Nat → Step
  | 0, _ => fun p c next => next p c
  | _ + 1, some 0 => fun p c next => next p c
  | fuel + 1, bound => fun p c next =>
    (step p c fun q d => if p < q then asMany step fuel (oneLess bound) q d next else next q d).or
      (next p c)

/-- Further rounds, as few as possible; `fuel` exceeds the text that is left. -/
def asFew (step : Step) : Nat → Option Nat → Step
  | 0, _ => fun p c next => next p c
  | _ + 1, some 0 => fun p c next => next p c
  | fuel + 1, bound => fun p c next =>
    (next p c).or
      (step p c fun q d => if p < q then asFew step fuel (oneLess bound) q d next else next q d)

/-- Exactly so many rounds, none of which is done otherwise afterwards. -/
def firmRounds (step : Step) : Nat → Reached → Option Reached
  | 0, r => some r
  | n + 1, r =>
    match step r.1 r.2 done with
    | some q => firmRounds step n q
    | none => none

/-- Further rounds, as many as possible, none of which is done otherwise afterwards. -/
def firmMany (step : Step) : Nat → Option Nat → Reached → Reached
  | 0, _, r => r
  | _ + 1, some 0, r => r
  | fuel + 1, bound, r =>
    match step r.1 r.2 done with
    | some q => if r.1 < q.1 then firmMany step fuel (oneLess bound) q else q
    | none => r

/-- The character before a place is part of a word. -/
def wordBefore (text : Array Code) (ascii : Bool) (p : Nat) : Bool :=
  match p with
  | 0 => false
  | q + 1 => (text[q]?).any (CharKind.word.holds ascii)

/-- The character at a place is part of a word. -/
def wordAt (text : Array Code) (ascii : Bool) (p : Nat) : Bool :=
  (text[p]?).any (CharKind.word.holds ascii)

/-- A place of the kind that an anchor names. An empty text has neither edges of words nor places
that are none. -/
def Anchor.holds (text : Array Code) (flags : Flags) (a : Anchor) (p : Nat) : Bool :=
  match a with
  | lineStart => p == 0 || (flags.multiline && text[p - 1]? == some Code.newline)
  | lineEnd =>
    if flags.multiline then p == text.size || text[p]? == some Code.newline
    else p == text.size || (p + 1 == text.size && text[p]? == some Code.newline)
  | textStart => p == 0
  | textEnd => p == text.size
  | wordEdge => text.size != 0 && wordBefore text flags.ascii p != wordAt text flags.ascii p
  | noWordEdge => text.size != 0 && wordBefore text flags.ascii p == wordAt text flags.ascii p

/-- The text between two places occurs again at a third one. -/
def repeats (text : Array Code) (flags : Flags) (start stop p : Nat) : Bool :=
  p + (stop - start) ≤ text.size &&
  (List.range (stop - start)).all fun i =>
    match text[start + i]?, text[p + i]? with
    | some a, some b => if flags.ignoreCase then foldCase flags a == foldCase flags b else a == b
    | _, _ => false

/-- Runs a tree at a place. -/
def Node.match? (text : Array Code) : Node → Flags → Step
  | empty, _ => fun p c next => next p c
  | code a, flags => takeOne text (sameCode flags a)
  | set inverted items, flags => takeOne text (setHolds flags inverted items)
  | any, flags => takeOne text fun x => flags.dotAll || x != Code.newline
  | anchor a, flags => fun p c next => if a.holds text flags p then next p c else none
  | seq a b, flags => fun p c next =>
    a.match? text flags p c fun q d => b.match? text flags q d next
  | alt a b, flags => fun p c next =>
    (a.match? text flags p c next).or (b.match? text flags p c next)
  | group n a, flags => fun p c next =>
    a.match? text flags p (c.enter n p) fun q d => next q ((n, p, q) :: d)
  | flagged on off a, flags => a.match? text (flags.inside on off)
  | rep g least most a, flags => fun p c next =>
    let step : Step := a.match? text flags
    let bound := most.map (· - least)
    match g with
    | .greedy =>
      rounds step least p c fun q d => asMany step (text.size + 1 - q) bound q d next
    | .lazy =>
      rounds step least p c fun q d => asFew step (text.size + 1 - q) bound q d next
    | .possessive =>
      match firmRounds step least (p, c) with
      | none => none
      | some r =>
        let r := firmMany step (text.size + 1 - r.1) bound r
        next r.1 r.2
  | atomic a, flags => fun p c next =>
    match a.match? text flags p c done with
    | some r => next r.1 r.2
    | none => none
  | look sight negated a, flags => fun p c next =>
    let start : Option Nat := match sight with
      | .ahead => some p
      | .behind w => if w.least ≤ p then some (p - w.least) else none
    match start.bind fun q => a.match? text flags q c done with
    | some r => if negated then none else next p r.2
    | none => if negated then next p c else none
  | backref n, flags => fun p c next =>
    match c.span? n with
    | some (start, stop) =>
      if repeats text flags start stop p then next (p + (stop - start)) c else none
    | none => none
  | cond n yes no, flags => fun p c next =>
    if (c.span? n).isSome then yes.match? text flags p c next else no.match? text flags p c next

end EditorText.Pattern
