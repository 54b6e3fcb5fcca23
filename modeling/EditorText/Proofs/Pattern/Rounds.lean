import EditorText.Pattern.Engine

/-!
# Rounds that are never taken back

A repetition tries the ways with the most rounds first. Where the rest of the pattern succeeds
behind all rounds that there are, no other way is tried, so the answer is that of the rest
(`asMany_more`, `asMany_over`, and `asMany_takeOne` for single codes). Searching is alike: where
there is a match at the very place searched from, it is the one that is found
(`searchIn_of_matchAt`).
-/

set_option autoImplicit false

namespace EditorText.Pattern

variable {text : Array Code} {holds : Code → Bool} {step : Step} {p q fuel : Nat}
  {c d : Captures} {next : Next} {r : Reached} {x : Code} {s t rest : Text}

section Codes

theorem getElem?_of_drop (here : text.toList.drop p = x :: t) : text[p]? = some x := by
  have first := congrArg List.head? here
  rwa [List.head?_drop, Array.getElem?_toList] at first

theorem drop_add (here : text.toList.drop p = s ++ t) : text.toList.drop (p + s.length) = t := by
  rw [← List.drop_drop, here, List.drop_left]

/-- Where something stands, it goes up to the end. -/
theorem add_length_of_drop {l : Text} (here : l.drop p = s) (filled : s ≠ []) :
    p + s.length = l.length := by
  have long := congrArg List.length here
  have some := List.length_pos_iff.2 filled
  rw [List.length_drop] at long
  omega

/-- A code that passes is taken. -/
theorem takeOne_cons (here : text.toList.drop p = x :: t) (pass : holds x = true) :
    takeOne text holds p c next = next (p + 1) c := by
  rw [takeOne, getElem?_of_drop here]
  exact if_pos pass

/-- None is taken where none stands, or one that does not pass. -/
theorem takeOne_eq_none (here : text.toList.drop p = t)
    (stop : ∀ x ∈ t.head?, holds x = false) : takeOne text holds p c next = none := by
  have first := congrArg List.head? here
  rw [List.head?_drop, Array.getElem?_toList] at first
  rw [takeOne, first]
  cases t with
  | nil => rfl
  | cons x t => exact if_neg (Bool.eq_false_iff.1 (stop x rfl))

end Codes

section Rounds

theorem asMany_succ (step : Step) (fuel p : Nat) (c : Captures) (next : Next) :
    asMany step (fuel + 1) none p c next =
      (step p c fun q d => if p < q then asMany step fuel none q d next else next q d).or
        (next p c) := rfl

/-- Where there is a further round, and the rest succeeds behind that and all others, it is done. -/
theorem asMany_more
    (round : (step p c fun q d => if p < q then asMany step fuel none q d next else next q d) =
      some r) : asMany step (fuel + 1) none p c next = some r := by
  rw [asMany_succ, round]
  rfl

/-- Where there is no further round, the rest goes on. -/
theorem asMany_over (none : ∀ next, step p c next = Option.none) :
    asMany step fuel Option.none p c next = next p c := by
  cases fuel with
  | zero => rfl
  | succ fuel =>
    rw [asMany_succ, none]
    rfl

/-- Codes are taken as long as they pass. -/
theorem asMany_takeOne (here : text.toList.drop p = s ++ rest) (pass : ∀ x ∈ s, holds x = true)
    (stop : ∀ x ∈ rest.head?, holds x = false) (enough : s.length ≤ fuel)
    (after : next (p + s.length) c = some r) :
    asMany (takeOne text holds) fuel none p c next = some r := by
  induction s generalizing p fuel with
  | nil =>
    rw [asMany_over fun _ => takeOne_eq_none here stop]
    exact after
  | cons x s ih =>
    obtain ⟨first, others⟩ := List.forall_mem_cons.1 pass
    rw [List.length_cons] at enough after
    obtain ⟨fuel, rfl⟩ : ∃ f, fuel = f + 1 := ⟨fuel - 1, by omega⟩
    have behind : text.toList.drop (p + 1) = s ++ rest := drop_add (s := [x]) here
    have place : p + (s.length + 1) = p + 1 + s.length := by omega
    rw [place] at after
    refine asMany_more ?_
    rw [takeOne_cons here first, if_pos (Nat.lt_succ_self p)]
    exact ih behind others (by omega) after

theorem match?_seq (text : Array Code) (a b : Node) (flags : Flags) (p : Nat) (c : Captures)
    (next : Next) : (Node.seq a b).match? text flags p c next =
      a.match? text flags p c fun q d => b.match? text flags q d next := rfl

/-- Looking ahead takes nothing. -/
theorem match?_ahead (text : Array Code) (a : Node) (flags : Flags) (p : Nat) (c : Captures)
    (next : Next) : (Node.look .ahead false a).match? text flags p c next =
      (a.match? text flags p c done).bind fun q => next p q.2 := by
  rw [Node.match?]
  simp only [Option.bind_some]
  cases a.match? text flags p c done <;> rfl

end Rounds

section Matches

namespace Tree

variable {tree : Tree} {m : Match}

/-- Where the tree reaches a place of the text, that is the match. -/
theorem matchAt_of_match? (matched : tree.root.match? text tree.flags p [] done = some (q, c))
    (forward : p ≤ q) (within : q ≤ text.size) :
    tree.matchAt text false p = some ⟨⟨p, q⟩, c⟩ := by
  have last : (fun q c => if (false && q == p) = true then none else done q c : Next) = done := rfl
  rw [matchAt]
  simp only [last, matched, if_pos (And.intro forward within)]

theorem matchAt_eq_none
    (none : tree.root.match? text tree.flags p [] done = Option.none) :
    tree.matchAt text false p = Option.none := by
  have last : (fun q c => if (false && q == p) = true then Option.none else done q c : Next) =
      done := rfl
  rw [matchAt]
  simp only [last, none]

/-- A match at the place searched from is the one that is found. -/
theorem searchIn_of_matchAt (within : p ≤ text.size)
    (found : tree.matchAt text false p = some m) : tree.searchIn text p false = some m := by
  obtain ⟨n, some⟩ : ∃ n, text.size + 1 - p = n + 1 := ⟨text.size - p, by omega⟩
  rw [searchIn, some, List.range'_succ, List.findSome?_cons, Bool.false_and, found]

/-- Nothing is found where no place behind has a match. -/
theorem searchIn_eq_none (none : ∀ q, p ≤ q → tree.matchAt text false q = none) :
    tree.searchIn text p false = Option.none := by
  refine List.findSome?_eq_none_iff.2 fun q inside => ?_
  rw [Bool.false_and]
  exact none q (List.mem_range'_1.1 inside).1

end Tree

end Matches

end EditorText.Pattern
