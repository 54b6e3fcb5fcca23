import EditorText.Proofs.Pattern.Levels
import EditorText.Proofs.Pattern.Respelling

/-!
# Reading patterns of literals

A pattern that lists literals between bars is read as the alternative of its literals, each a
sequence of characters (`exists_compile_literals`).
-/

set_option autoImplicit false

namespace EditorText.Pattern

/-- The characters that mean something else in a pattern than themselves. -/
def metacharacters : List Code :=
  [Code.backslash, Code.dot, Code.caret, Code.dollar, Code.asterisk, Code.plus, Code.question,
    Code.openBrace, Code.openBracket, Code.openParen, Code.closeParen, Code.pipe]

/-- A text of characters that stand for themselves in a pattern. -/
def IsLiteral (l : Text) : Prop := ∀ c ∈ l, c ∉ metacharacters

/-- Literals between bars. -/
def literals (ls : List Text) : Text := Text.join [Code.pipe] ls

/-- A literal as a tree. -/
def literalNode (l : Text) : Node := .ofList (l.map .code)

/-- The tree of literals between bars. -/
def literalsNode : List Text → Node
  | [] => .empty
  | [l] => literalNode l
  | l :: ls => .alt (literalNode l) (literalsNode ls)

theorem literals_cons_cons (l m : Text) (ls : List Text) :
    literals (l :: m :: ls) = l ++ Code.pipe :: literals (m :: ls) := by
  rw [literals, Text.join_cons_cons, List.append_assoc]
  rfl

theorem literals_singleton (l : Text) : literals [l] = l := by
  simp [literals, Text.join]

theorem ne_of_not_mem {c : Code} (h : c ∉ metacharacters) {d : Code} (hd : d ∈ metacharacters) :
    c ≠ d := by
  rintro rfl
  exact h hd

namespace Reader

variable {s : Reading} {c : Code} {l t : Text}

theorem firstPiece?_cons (plain : c ≠ Code.backslash) :
    firstPiece? (c :: t) = some (.plain c) := by
  unfold firstPiece?
  split
  next empty => cases empty
  next same => exact absurd (List.cons.inj same).1 plain
  next same => rw [(List.cons.inj same).1]

theorem run_bind {α β : Type} (m : Reader α) (f : α → Reader β) (s : Reading) :
    (m >>= f) s = (m s).bind fun x => f x.1 x.2 := rfl

theorem run_pure {α : Type} (a : α) (s : Reading) : (pure a : Reader α) s = .ok (a, s) := rfl

theorem run_get (s : Reading) : (get : Reader Reading) s = .ok (s, s) := rfl

theorem run_set (s' s : Reading) : (set s' : Reader Unit) s = .ok ((), s') := rfl

/-- A character that is no backslash is taken as it is. -/
theorem run_take (rest : s.rest = c :: t) (plain : c ≠ Code.backslash)
    (behind : t ≠ [Code.backslash]) :
    take s = .ok (some (.plain c), { s with rest := t, offset := s.offset + 1 }) := by
  have first := firstPiece?_cons (t := t) plain
  simp only [take, checkEnd, run_bind, run_get, run_set, run_pure, Except.bind, rest, first,
    Piece.length, List.drop_one, List.tail_cons, behind, if_false]

theorem run_accept (rest : s.rest = c :: t) (plain : c ≠ Code.backslash)
    (behind : t ≠ [Code.backslash]) :
    accept c s = .ok (true, { s with rest := t, offset := s.offset + 1 }) := by
  have first := firstPiece?_cons (t := t) plain
  have taken := run_take rest plain behind
  simp only [accept, peek, run_bind, run_get, run_pure, Except.bind, rest, first, if_true, taken]

theorem run_accept_nil (rest : s.rest = []) : accept c s = .ok (false, s) := by
  simp only [accept, peek, run_bind, run_get, run_pure, Except.bind, rest, firstPiece?]

theorem append_ne_backslash (literal : IsLiteral l) (ends : t = [] ∨ ∃ r, t = Code.pipe :: r) :
    l ++ t ≠ [Code.backslash] := by
  intro same
  cases l with
  | nil =>
    rcases ends with rfl | ⟨r, rfl⟩
    · cases same
    · exact absurd (List.cons.inj same).1 (by decide)
  | cons c l =>
    have plain : c ∉ metacharacters := literal c List.mem_cons_self
    rw [(List.cons.inj same).1] at plain
    exact plain (by decide)

theorem literals_ne_backslash {ls : List Text} (literal : ∀ l ∈ ls, IsLiteral l) :
    literals ls ≠ [Code.backslash] := by
  cases ls with
  | nil => simp [literals, Text.join]
  | cons l ls =>
    have front : IsLiteral l := literal l List.mem_cons_self
    cases ls with
    | nil => simpa [literals_singleton] using append_ne_backslash front (t := []) (.inl rfl)
    | cons m ls =>
      rw [literals_cons_cons]
      exact append_ne_backslash front (.inr ⟨_, rfl⟩)

section Items

variable [Platform]

/-- A character that stands for itself is an item. -/
theorem run_items_cons (rest : s.rest = c :: t) (plain : c ∉ metacharacters)
    (behind : t ≠ [Code.backslash]) (first : Bool) (sofar : List Node) (room fuel : Nat) :
    items false first sofar room (fuel + 1) s = items false first (.code c :: sofar) room fuel
      { s with rest := t, offset := s.offset + 1 } := by
  have other {d : Code} (hd : d ∈ metacharacters) : c ≠ d := ne_of_not_mem plain hd
  have noBackslash : c ≠ Code.backslash := other (by decide)
  have taken := run_take rest noBackslash behind
  have piece := firstPiece?_cons (t := t) noBackslash
  have noEnd : ¬ (c = Code.pipe ∨ c = Code.closeParen) := by
    rintro (same | same)
    · exact other (by decide) same
    · exact other (by decide) same
  have noMark : isRepeatMark c = false := by
    simp [isRepeatMark, other (d := Code.asterisk) (by decide), other (d := Code.plus) (by decide),
      other (d := Code.question) (by decide), other (d := Code.openBrace) (by decide)]
  rw [items]
  simp only [peek, run_bind, run_get, run_pure, Except.bind, rest, piece, if_neg noEnd, taken,
    Bool.false_and, Bool.false_eq_true, if_false, noMark, other (d := Code.openBracket) (by decide),
    other (d := Code.openParen) (by decide), other (d := Code.dot) (by decide),
    other (d := Code.caret) (by decide), other (d := Code.dollar) (by decide)]

/-- At a bar and at the end the branch is complete. -/
theorem run_items_end (rest : s.rest = [] ∨ s.rest = Code.pipe :: t) (first : Bool)
    (sofar : List Node) (room fuel : Nat) :
    items false first sofar room (fuel + 1) s = .ok (.ofList sofar.reverse, s) := by
  rw [items]
  rcases rest with rest | rest
  · simp only [peek, run_bind, run_get, run_pure, Except.bind, rest, firstPiece?]
  · have piece : firstPiece? (Code.pipe :: t) = some (.plain Code.pipe) :=
      firstPiece?_cons (by decide)
    simp only [peek, run_bind, run_get, run_pure, Except.bind, rest, piece, true_or, if_true]

/-- A literal in front of a bar or of the end is a branch. -/
theorem run_items_literal (literal : IsLiteral l) (rest : s.rest = l ++ t)
    (ends : t = [] ∨ ∃ r, t = Code.pipe :: r) (first : Bool) (sofar : List Node) (room fuel : Nat)
    (enough : l.length < fuel) :
    items false first sofar room fuel s = .ok (.ofList (sofar.reverse ++ l.map .code),
      { s with rest := t, offset := s.offset + l.length }) := by
  induction l generalizing s sofar fuel with
  | nil =>
    obtain ⟨fuel, rfl⟩ : ∃ n, fuel = n + 1 := ⟨fuel - 1, by omega⟩
    have same : { s with rest := t, offset := s.offset + ([] : Text).length } = s := by
      rw [← show s.rest = t from rest]
      rfl
    rw [same, List.map_nil, List.append_nil]
    rcases ends with rfl | ⟨r, rfl⟩
    · exact run_items_end (t := []) (.inl rest) first sofar room fuel
    · exact run_items_end (.inr rest) first sofar room fuel
  | cons c l ih =>
    obtain ⟨fuel, rfl⟩ : ∃ n, fuel = n + 1 := ⟨fuel - 1, by omega⟩
    obtain ⟨plain, others⟩ := List.forall_mem_cons.1 literal
    have place : s.offset + 1 + l.length = s.offset + (c :: l).length := by
      rw [List.length_cons]
      omega
    rw [run_items_cons rest plain (append_ne_backslash others ends),
      ih others rfl _ fuel (by simpa using enough), place]
    simp

/-- Literals between bars are branches. -/
theorem run_branches_literals {ls : List Text} (some : ls ≠ []) (literal : ∀ l ∈ ls, IsLiteral l)
    (rest : s.rest = literals ls) (plain : s.flags.verbose = false) (first : Bool) (room fuel : Nat)
    (enough : (literals ls).length + 1 < fuel) :
    branches true first false room fuel s = .ok (literalsNode ls,
      { s with rest := [], offset := s.offset + (literals ls).length }) := by
  induction ls generalizing s first fuel with
  | nil => exact absurd rfl some
  | cons l ls ih =>
    obtain ⟨fuel, rfl⟩ : ∃ n, fuel = n + 1 := ⟨fuel - 1, by omega⟩
    obtain ⟨front, others⟩ := List.forall_mem_cons.1 literal
    rw [branches]
    cases ls with
    | nil =>
      rw [literals_singleton] at rest enough ⊢
      have branch := run_items_literal front (t := []) (by simpa using rest) (.inl rfl)
        (true && first) [] room fuel (by omega)
      simp only [run_bind, Except.bind, branch]
      rw [run_accept_nil rfl]
      rfl
    | cons m ls =>
      rw [literals_cons_cons] at rest enough ⊢
      have branch := run_items_literal front rest (.inr ⟨_, rfl⟩) (true && first) []
        room fuel (by rw [List.length_append] at enough; omega)
      simp only [run_bind, Except.bind, branch]
      rw [run_accept rfl (by decide) (literals_ne_backslash others)]
      have long : (l ++ Code.pipe :: literals (m :: ls)).length =
          l.length + 1 + (literals (m :: ls)).length := by
        rw [List.length_append, List.length_cons]
        omega
      have place : s.offset + (l ++ Code.pipe :: literals (m :: ls)).length =
          s.offset + l.length + 1 + (literals (m :: ls)).length := by omega
      simp only [if_true, run_bind, run_get, run_pure, Except.bind, plain]
      have further := ih (s := { s with
          rest := literals (m :: ls), offset := s.offset + l.length + 1 })
        (List.cons_ne_nil m ls) others rfl plain false fuel (by omega)
      rw [further, place]
      rfl

end Items

end Reader

theorem mem_literals {ls : List Text} {c : Code} (h : c ∈ literals ls) :
    c = Code.pipe ∨ ∃ l ∈ ls, c ∈ l := by
  induction ls with
  | nil => simp [literals, Text.join] at h
  | cons l ls ih =>
    cases ls with
    | nil =>
      rw [literals_singleton] at h
      exact .inr ⟨l, List.mem_cons_self, h⟩
    | cons m ls =>
      rw [literals_cons_cons] at h
      rcases List.mem_append.1 h with here | behind
      · exact .inr ⟨l, List.mem_cons_self, here⟩
      · rcases List.mem_cons.1 behind with bar | further
        · exact .inl bar
        · rcases ih further with bar | ⟨n, hn, hc⟩
          · exact .inl bar
          · exact .inr ⟨n, List.mem_cons_of_mem _ hn, hc⟩

theorem literalNode_cons_cons (c d : Code) (l : Text) :
    literalNode (c :: d :: l) = .seq (.code c) (literalNode (d :: l)) := rfl

theorem literalsNode_cons_cons (l m : Text) (ls : List Text) :
    literalsNode (l :: m :: ls) = .alt (literalNode l) (literalsNode (m :: ls)) := rfl

theorem fault?_literalNode (template : Bool) (l : Text) :
    (literalNode l).fault? template = none := by
  induction l with
  | nil => rfl
  | cons c l ih =>
    cases l with
    | nil => rfl
    | cons d l =>
      rw [literalNode_cons_cons, Node.fault?, ih]
      rfl

theorem fault?_literalsNode (template : Bool) (ls : List Text) :
    (literalsNode ls).fault? template = none := by
  induction ls with
  | nil => rfl
  | cons l ls ih =>
    cases ls with
    | nil => exact fault?_literalNode template l
    | cons m ls =>
      rw [literalsNode_cons_cons, Node.fault?, fault?_literalNode, ih]
      rfl

theorem levels_literalNode (l : Text) : (literalNode l).levels = 0 := by
  induction l with
  | nil => rfl
  | cons c l ih =>
    cases l with
    | nil => rfl
    | cons d l =>
      rw [literalNode_cons_cons, Node.levels, ih]
      rfl

/-- Literals are side by side. -/
theorem fitsWays_literalsNode (ls : List Text) : FitsWays 0 (literalsNode ls) := by
  have flat (l : Text) : (literalNode l).levels ≤ 1 := levels_literalNode l ▸ Nat.zero_le 1
  induction ls with
  | nil => exact .of_le (Nat.zero_le 1)
  | cons l ls ih =>
    cases ls with
    | nil => exact .of_le (flat l)
    | cons m ls => exact .alt (flat l) ih

/-- The tree of literals between bars. -/
def literalsTree (ls : List Text) : Tree := ⟨literalsNode ls, {}, 0, []⟩

theorem ofText_literals {ls : List Text} (some : ls ≠ []) (literal : ∀ l ∈ ls, IsLiteral l) :
    Tree.ofText (literals ls) {} = .ok (literalsTree ls) := by
  have branches := Reader.run_branches_literals (s := { rest := literals ls }) some literal rfl rfl
    true Platform.calls (4 * (literals ls).length + 4) (by omega)
  have roomy : ¬ Platform.calls < (literalsNode ls).levels :=
    Nat.not_lt.2 ((fitsWays_literalsNode ls).levels_le.trans (by decide))
  simp only [Tree.ofText, Reader.whole, StateT.run, Reader.checkEnd, Reader.run_bind,
    Reader.run_get, Reader.run_pure, Except.bind, Reader.literals_ne_backslash literal, if_false,
    branches]
  simp [bind, Except.bind, pure, Except.pure, fault?_literalsNode, roomy, literalsTree]

/-- **Literals between bars are a pattern**, whose tree is the alternative of the literals. -/
theorem compile_literals {ls : List Text} (some : ls ≠ []) (literal : ∀ l ∈ ls, IsLiteral l) :
    (compile (literals ls) {}).result = .ok (.ofTree (literals ls) (literalsTree ls)) := by
  have plain : ∀ c ∈ literals ls, c ≠ Code.openParen ∧ c ≠ Code.backslash := by
    intro c hc
    rcases mem_literals hc with rfl | ⟨l, hl, member⟩
    · decide
    · have free := literal l hl c member
      exact ⟨ne_of_not_mem free (by decide), ne_of_not_mem free (by decide)⟩
  have answer : Engine.read (literals ls) {} = .ok (.ofTree (literals ls) (literalsTree ls)) :=
    readTree_of_ofText (ofText_literals some literal)
  simp only [compile, read, convert_eq_self plain, answer]
  rfl

end EditorText.Pattern
