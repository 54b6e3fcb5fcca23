import EditorText.Proofs.Pattern.Literals
import EditorText.Proofs.Pattern.Rounds

/-!
# Searching for literals

A pattern of literals matches where one of them stands, the first one in the order of the pattern,
and finds the first such place (`span_search_literals`).
-/

set_option autoImplicit false

namespace EditorText.Pattern

/-- The first of some literals that a text begins with. -/
def standing? (ls : List Text) (t : Text) : Option Text :=
  ls.find? fun l => t.startsWith l

/-- The first place of a text, from one on, where one of some literals stands. -/
def literalSpan? (ls : List Text) (t : Text) (from_ : Nat) : Option Span :=
  (List.range' from_ (t.length + 1 - from_)).findSome? fun i =>
    (standing? ls (t.drop i)).map fun l => ⟨i, i + l.length⟩

variable {ls : List Text} {t : Text}

theorem standing?_eq_some {l : Text} (h : standing? ls t = some l) : l ∈ ls ∧ l <+: t := by
  have member := List.mem_of_find?_eq_some h
  obtain ⟨r, whole⟩ := Text.startsWith_iff.1 (List.find?_some h)
  exact ⟨member, r, whole.symm⟩

/-- A text begins with a literal if it begins with the first character and goes on with the rest. -/
theorem startsWith_cons (t : Text) (a : Code) (l : Text) :
    t.startsWith (a :: l) = (t.startsWith [a] && Text.startsWith t.tail l) := by
  cases t with
  | nil => rfl
  | cons b t =>
    by_cases same : a = b
    · simp [Text.startsWith, Text.after?, same]
    · simp [Text.startsWith, Text.after?, same]

theorem match?_alt (text : Array Code) (a b : Node) (flags : Flags) (p : Nat) (c : Captures)
    (next : Next) : (Node.alt a b).match? text flags p c next =
      (a.match? text flags p c next).or (b.match? text flags p c next) := rfl

theorem match?_code (text : Array Code) (a : Code) (p : Nat) (c : Captures) (next : Next) :
    (Node.code a).match? text {} p c next =
      if Text.startsWith (text.toList.drop p) [a] then next (p + 1) c else none := by
  have front : text.toList.drop p = text[p]?.toList ++ text.toList.drop (p + 1) := by
    simpa using List.drop_eq_getElem?_toList_append (l := text.toList) (i := p)
  have taken : (Node.code a).match? text {} p c next =
      text[p]?.bind fun x => if a == x then next (p + 1) c else none := by
    cases here : text[p]? <;> simp [Node.match?, takeOne, sameCode, here]
  rw [front, taken]
  cases here : text[p]? with
  | none =>
    have short : text.size ≤ p := Array.getElem?_eq_none_iff.1 here
    have behind : text.toList.drop (p + 1) = [] := by
      rw [List.drop_eq_nil_iff, Array.length_toList]
      omega
    simp [behind, Text.startsWith, Text.after?]
  | some x => simp [Text.startsWith, Text.after?]

/-- Characters are taken one after another where they stand. -/
theorem match?_literalNode (text : Array Code) (l : Text) (p : Nat) (c : Captures) (next : Next) :
    (literalNode l).match? text {} p c next =
      if Text.startsWith (text.toList.drop p) l then next (p + l.length) c else none := by
  induction l generalizing p with
  | nil =>
    have empty : Text.startsWith (text.toList.drop p) [] = true := rfl
    rw [if_pos empty]
    rfl
  | cons a l ih =>
    cases l with
    | nil => exact match?_code text a p c next
    | cons b l =>
      have place : p + 1 + (b :: l).length = p + (a :: b :: l).length := by
        simp only [List.length_cons]
        omega
      rw [literalNode_cons_cons, match?_seq, match?_code, startsWith_cons _ a (b :: l),
        List.tail_drop, ih, place]
      cases Text.startsWith (text.toList.drop p) [a] <;> simp

/-- Of several literals the first one is taken that stands there and is followed rightly. -/
theorem match?_literalsNode (text : Array Code) (some : ls ≠ []) (p : Nat) :
    (literalsNode ls).match? text {} p [] done =
      (standing? ls (text.toList.drop p)).map fun l => (p + l.length, []) := by
  induction ls with
  | nil => exact absurd rfl some
  | cons l ls ih =>
    have first : (literalNode l).match? text {} p [] done =
        if Text.startsWith (text.toList.drop p) l then .some (p + l.length, []) else none :=
      match?_literalNode text l p [] done
    cases ls with
    | nil =>
      rw [literalsNode, first, standing?, List.find?_cons]
      cases Text.startsWith (text.toList.drop p) l <;> simp
    | cons m ls =>
      rw [literalsNode_cons_cons, match?_alt, first, ih (List.cons_ne_nil m ls), standing?,
        standing?, List.find?_cons (a := l)]
      cases Text.startsWith (text.toList.drop p) l <;> simp

/-- A pattern of literals matches what stands there. -/
theorem matchAt_literalsTree (some : ls ≠ []) (filled : ∀ l ∈ ls, l ≠ []) (text : Array Code)
    (start : Nat) : ((literalsTree ls).matchAt text false start).map (·.span) =
      (standing? ls (text.toList.drop start)).map fun l => ⟨start, start + l.length⟩ := by
  have last : (fun q c => if (false && q == start) = true then none else done q c : Next) =
      done := by
    funext q c
    simp
  have node : (literalsTree ls).root = literalsNode ls := rfl
  have flags : (literalsTree ls).flags = {} := rfl
  simp only [Tree.matchAt, last, node, flags, match?_literalsNode text some]
  cases stands : standing? ls (text.toList.drop start) with
  | none => rfl
  | some l =>
    obtain ⟨member, r, whole⟩ := standing?_eq_some stands
    have short : start + l.length ≤ text.size := by
      have long := congrArg List.length whole
      have some := List.length_pos_iff.2 (filled l member)
      simp only [List.length_append, List.length_drop, Array.length_toList] at long
      omega
    simp [short]

/-- **The first place of a literal is found.** -/
theorem span_search_literals (some : ls ≠ []) (filled : ∀ l ∈ ls, l ≠ []) (from_ : Nat) :
    ((literalsTree ls).search t from_).map (·.span) = literalSpan? ls t from_ := by
  have each (start : Nat) : ((literalsTree ls).matchAt t.toArray (false && start == from_) start).map
      (·.span) = (standing? ls (t.drop start)).map fun l => ⟨start, start + l.length⟩ := by
    simpa using matchAt_literalsTree some filled t.toArray start
  rw [Tree.search, Tree.searchIn, literalSpan?, List.map_findSome?]
  simp only [Function.comp_def, each, List.size_toArray]

/-- Where nothing is found no literal stands. -/
theorem standing?_of_literalSpan?_eq_none {from_ : Nat} (within : from_ ≤ t.length)
    (none : literalSpan? ls t from_ = none) {x y : Text} (split : t.drop from_ = x ++ y) :
    standing? ls y = Option.none := by
  have place : t.drop (from_ + x.length) = y := by
    rw [← List.drop_drop, split, List.drop_left]
  have long := congrArg List.length split
  rw [List.length_drop, List.length_append] at long
  have absent := List.findSome?_eq_none_iff.1 none (from_ + x.length)
    (List.mem_range'_1.2 ⟨by omega, by omega⟩)
  rwa [place, Option.map_eq_none_iff] at absent

/-- Where a literal is found it stands, and none before it. -/
theorem exists_of_literalSpan?_eq_some {from_ : Nat} {s : Span}
    (found : literalSpan? ls t from_ = some s) : ∃ h l r, t.drop from_ = h ++ (l ++ r) ∧
      standing? ls (l ++ r) = some l ∧ s = ⟨from_ + h.length, from_ + h.length + l.length⟩ ∧
      ∀ x y, h = x ++ y → y ≠ [] → standing? ls (y ++ (l ++ r)) = none := by
  obtain ⟨before, i, behind, range, here, earlier⟩ := List.findSome?_eq_some_iff.1 found
  obtain ⟨l, stands, rfl⟩ := Option.map_eq_some_iff.1 here
  obtain ⟨-, r, whole⟩ := standing?_eq_some stands
  obtain ⟨k, -, rfl, back⟩ := List.range'_eq_append_iff.1 range
  obtain ⟨place, some, -⟩ := List.range'_eq_cons_iff.1 back.symm
  obtain rfl : i = from_ + k := by omega
  have behindHead : (t.drop from_).drop k = l ++ r := by rw [List.drop_drop, whole]
  have long : ((t.drop from_).take k).length = k := by
    rw [List.length_take, List.length_drop]
    omega
  have split : t.drop from_ = (t.drop from_).take k ++ (l ++ r) := by
    rw [← behindHead, List.take_append_drop]
  rw [← whole] at stands
  refine ⟨(t.drop from_).take k, l, r, split, stands, by rw [long], fun x y head filled => ?_⟩
  have short : x.length < k := by
    have := List.length_pos_iff.2 filled
    rw [head, List.length_append] at long
    omega
  have here : t.drop (from_ + x.length) = y ++ (l ++ r) := by
    rw [← List.drop_drop, split, head, List.append_assoc, List.drop_left]
  have absent := earlier (from_ + x.length) (List.mem_range'_1.2 ⟨by omega, by omega⟩)
  rwa [here, Option.map_eq_none_iff] at absent

end EditorText.Pattern
