import EditorText.Pattern.Basic
import EditorText.Pattern.Reading

/-!
# Searching with trees

A tree is searched for by trying it at one place after another. After an empty match the next one at
the same place takes some text. Reading a text to a tree and searching with it is an engine, the one
that is taken where none is given.
-/

set_option autoImplicit false

namespace EditorText.Pattern

namespace Tree

/-- The match at a place, if there is one. If `filled` it may not be empty. -/
def matchAt (tree : Tree) (text : Array Code) (filled : Bool) (start : Nat) : Option Match :=
  let last : Next := fun q c => if filled && q == start then none else done q c
  match tree.root.match? text tree.flags start [] last with
  | some (stop, groups) =>
    if start ≤ stop ∧ stop ≤ text.size then some ⟨⟨start, stop⟩, groups⟩ else none
  | none => none

/-- The first match that begins at or after a place. If `filled`, a match at that very place may not
be empty. -/
def searchIn (tree : Tree) (text : Array Code) (from_ : Nat) (filled : Bool) : Option Match :=
  (List.range' from_ (text.size + 1 - from_)).findSome? fun start =>
    tree.matchAt text (filled && start == from_) start

/-- The first match that begins at or after a place. -/
def search (tree : Tree) (text : Text) (from_ : Nat) : Option Match :=
  tree.searchIn text.toArray from_ false

/-- The matches from a place on; `fuel` bounds their number. -/
def findAllFrom (tree : Tree) (text : Array Code) : Nat → Nat → Bool → List Match
  | 0, _, _ => []
  | fuel + 1, from_, filled =>
    match tree.searchIn text from_ filled with
    | none => []
    | some m => m :: findAllFrom tree text fuel m.span.stop m.isEmpty

/-- All matches from left to right, none overlapping the one before. -/
def findAll (tree : Tree) (text : Text) : List Match :=
  findAllFrom tree text.toArray (2 * text.length + 3) 0 false

variable {tree : Tree} {text : Array Code} {from_ start : Nat} {filled : Bool} {m : Match}

theorem matchAt_span (h : tree.matchAt text filled start = some m) :
    m.span.start = start ∧ m.span.start ≤ m.span.stop ∧ m.span.stop ≤ text.size := by
  unfold matchAt at h
  dsimp only at h
  split at h
  · split at h
    · simp only [Option.some.injEq] at h
      subst h
      simp_all
    · simp at h
  · simp at h

theorem searchIn_span (h : tree.searchIn text from_ filled = some m) :
    from_ ≤ m.span.start ∧ m.span.start ≤ m.span.stop ∧ m.span.stop ≤ text.size := by
  obtain ⟨start, hs, hm⟩ := List.exists_of_findSome?_eq_some h
  have hr := List.mem_range'_1.1 hs
  obtain ⟨h1, h2, h3⟩ := matchAt_span hm
  exact ⟨by omega, h2, h3⟩

theorem search_span {text : Text} (h : tree.search text from_ = some m) :
    from_ ≤ m.span.start ∧ m.span.start ≤ m.span.stop ∧ m.span.stop ≤ text.length := by
  simpa using searchIn_span h

/-- The matches of a tree stand one behind the other. -/
theorem findAllFrom_inOrder (tree : Tree) (text : Array Code) (fuel place : Nat) (filled : Bool) :
    InOrder place (tree.findAllFrom text fuel place filled) := by
  induction fuel generalizing place filled with
  | zero => exact .nil
  | succ fuel ih =>
    rw [findAllFrom]
    cases found : tree.searchIn text place filled with
    | none => exact .nil
    | some m =>
      obtain ⟨behind, forward, -⟩ := searchIn_span found
      exact .cons behind forward (ih m.span.stop m.isEmpty)

end Tree

/-- The pattern of a tree that was read from a text. -/
def ofTree (source : Text) (tree : Tree) : Pattern where
  source := source
  groupCount := tree.groups
  names := tree.names
  search := tree.search
  findAll := tree.findAll
  search_span := Tree.search_span
  findAll_inOrder _ := tree.findAllFrom_inOrder ..

section Reading

variable [Platform] {source : Text} {flags : Flags}

/-- Reads a text as a tree. -/
def readTree (source : Text) (flags : Flags) : Except Refusal Pattern :=
  match Tree.ofText source flags with
  | .ok tree => .ok (ofTree source tree)
  | .error (.malformed fault) => .error (.malformed (fault.reason source))
  | .error failure => .error (.limit failure)

theorem readTree_of_ofText {tree : Tree} (h : Tree.ofText source flags = .ok tree) :
    readTree source flags = .ok (ofTree source tree) := by
  rw [readTree, h]

theorem source_of_readTree {p : Pattern} (h : readTree source flags = .ok p) :
    p.source = source := by
  unfold readTree at h
  split at h <;> cases h
  rfl

/-- The engine that reads trees. -/
instance treeEngine : Engine where
  read := readTree
  source_of_read := source_of_readTree

end Reading

end EditorText.Pattern
