import EditorText.Pattern.Flags

/-!
# Patterns as trees

What a pattern says, once read: single characters, sets of them, places, and the ways to combine
them. `Node.width` bounds how much text a tree can match, which decides whether it may look behind;
`Node.levels` says how deep a walk through the tree goes.
-/

set_option autoImplicit false

namespace EditorText.Pattern

/-- The character classes with a letter of their own. -/
inductive CharKind where
  | digit
  | blank
  | word
  deriving DecidableEq, Repr

/-- A member of a character set. -/
inductive SetItem where
  | code (c : Code)
  | range (low high : Code)
  | kind (what : CharKind) (inverted : Bool)
  deriving DecidableEq, Repr

/-- A place in the text that takes no room. -/
inductive Anchor where
  | lineStart
  | lineEnd
  | textStart
  | textEnd
  | wordEdge
  | noWordEdge
  deriving DecidableEq, Repr

/-- How a repetition chooses its number of rounds: as many as possible, as few as possible, or as
many as possible and never fewer afterwards. -/
inductive Greed where
  | greedy
  | lazy
  | possessive
  deriving DecidableEq, Repr

/-- The least and the greatest length of what a tree can match, up to `widthLimit`. -/
structure Width where
  least : Nat
  most : Nat
  deriving DecidableEq, Repr

/-- Lengths are counted up to here. -/
def widthLimit : Nat := 0x10000000000000000

/-- A length, cut at the limit. -/
def capWidth (n : Nat) : Nat := min n widthLimit

/-- Where an assertion looks. Behind, it starts as far back as its tree is wide. -/
inductive Sight where
  | ahead
  | behind (width : Width)
  deriving DecidableEq, Repr

/-- A pattern. A repetition without a `most` has no upper bound; a condition asks whether there is a
span that a group matched last. -/
inductive Node where
  | empty
  | code (c : Code)
  | set (inverted : Bool) (items : List SetItem)
  | any
  | anchor (place : Anchor)
  | seq (first second : Node)
  | alt (first second : Node)
  | group (number : Nat) (body : Node)
  | flagged (on off : Flags) (body : Node)
  | rep (greed : Greed) (least : Nat) (most : Option Nat) (body : Node)
  | atomic (body : Node)
  | look (sight : Sight) (negated : Bool) (body : Node)
  | backref (number : Nat)
  | cond (number : Nat) (yes no : Node)
  deriving DecidableEq, Repr

namespace Node

/-- The trees one after another. -/
def ofList : List Node → Node
  | [] => empty
  | [n] => n
  | n :: ns => seq n (ofList ns)

/-- The lengths that a tree can match. A backreference is as wide as its group, which `groups`
tells. -/
def width (groups : Nat → Width) : Node → Width
  | empty | anchor _ | look .. => ⟨0, 0⟩
  | code _ | set .. | any => ⟨1, 1⟩
  | seq a b =>
    let x := a.width groups
    let y := b.width groups
    ⟨capWidth (x.least + y.least), capWidth (x.most + y.most)⟩
  | alt a b =>
    let x := a.width groups
    let y := b.width groups
    ⟨min x.least y.least, max x.most y.most⟩
  | group _ a | flagged _ _ a | atomic a => a.width groups
  | rep _ least most a =>
    let x := a.width groups
    ⟨capWidth (x.least * least),
      match most with
      | some n => capWidth (x.most * n)
      | none => if x.most = 0 then 0 else widthLimit⟩
  | backref n => groups n
  | cond _ yes no =>
    let x := yes.width groups
    let y := no.width groups
    ⟨min x.least y.least, max x.most y.most⟩

/-- How many calls stand inside each other in a walk through the tree. Trees one after another are
walked through by one call, and so are those that are in a group for no other purpose; the ways of an
alternative are side by side. -/
def levels : Node → Nat
  | empty | code _ | set .. | any | anchor _ | backref _ => 0
  | seq a b => max a.levels b.levels
  | alt a (alt b c) => max (a.levels + 1) (alt b c).levels
  | alt a b => max a.levels b.levels + 1
  | flagged on off a => if on = {} ∧ off = {} then a.levels else a.levels + 1
  | group _ a | rep _ _ _ a | atomic a | look _ _ a => a.levels + 1
  | cond _ yes no => max yes.levels no.levels + 1

end Node

end EditorText.Pattern
