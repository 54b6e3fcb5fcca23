import EditorText.Pattern.Node

/-!
# How deep trees are

A walk through a tree goes deeper at groups, at alternatives and at repetitions. Only groups can
stand inside each other: an alternative is the whole of a pattern or group, and what is repeated is no
repetition. So with `m` opening parentheses ahead an item has at most `3 * m` levels, or one more if
it is a repetition (`Fits`), and a pattern at most two more.
-/

set_option autoImplicit false

namespace EditorText.Pattern

/-- An item of a branch is no deeper than `m` opening parentheses allow. -/
def Fits (m : Nat) : Node → Prop
  | .rep g least most a => (Node.rep g least most a).levels ≤ 3 * m + 1
  | a => a.levels ≤ 3 * m

/-- The ways of a pattern or group are no deeper than `m` opening parentheses allow. -/
def FitsWays (m : Nat) : Node → Prop
  | .alt a b => (Node.alt a b).levels ≤ 3 * m + 2
  | a => a.levels ≤ 3 * m + 1

section Fits

variable {m : Nat} {a : Node} {sofar : List Node}

theorem Fits.of_le (h : a.levels ≤ 3 * m) : Fits m a := by
  cases a with
  | rep => exact Nat.le_succ_of_le h
  | _ => exact h

theorem Fits.levels_le (h : Fits m a) : a.levels ≤ 3 * m + 1 := by
  cases a with
  | rep => exact h
  | _ => exact Nat.le_succ_of_le h

theorem Fits.of_leaf (leaf : a.levels = 0) : Fits m a :=
  .of_le (leaf ▸ Nat.zero_le _)

theorem levels_ofList {n : Nat} (each : ∀ x ∈ sofar, x.levels ≤ n) :
    (Node.ofList sofar).levels ≤ n := by
  induction sofar with
  | nil => exact Nat.zero_le n
  | cons x sofar ih =>
    obtain ⟨first, others⟩ := List.forall_mem_cons.1 each
    cases sofar with
    | nil => exact first
    | cons y sofar => exact Nat.max_le.2 ⟨first, ih others⟩

/-- The items of a branch, read last first. -/
theorem levels_ofList_reverse (fits : ∀ x ∈ sofar, Fits m x) :
    (Node.ofList sofar.reverse).levels ≤ 3 * m + 1 :=
  levels_ofList fun x member => (fits x (List.mem_reverse.1 member)).levels_le

theorem FitsWays.alt {b : Node} (first : a.levels ≤ 3 * m + 1) (others : FitsWays m b) :
    FitsWays m (.alt a b) := by
  cases b with
  | alt => exact Nat.max_le.2 ⟨Nat.succ_le_succ first, others⟩
  | _ => exact Nat.succ_le_succ (Nat.max_le.2 ⟨first, others⟩)

theorem FitsWays.of_le (h : a.levels ≤ 3 * m + 1) : FitsWays m a := by
  cases a with
  | alt => exact Nat.le_succ_of_le h
  | _ => exact h

theorem FitsWays.levels_le (h : FitsWays m a) : a.levels ≤ 3 * m + 2 := by
  cases a with
  | alt => exact h
  | _ => exact Nat.le_succ_of_le h

/-- What stands in parentheses is an item of what they stand in. -/
theorem Fits.of_levels_le {b : Node} (inside : FitsWays m a) (more : b.levels ≤ a.levels + 1) :
    Fits (m + 1) b := by
  have deep := inside.levels_le
  exact .of_le (by omega)

theorem Fits.cond {yes no : Node} (first : yes.levels ≤ 3 * m + 1) (second : no.levels ≤ 3 * m + 1)
    (number : Nat) : Fits (m + 1) (.cond number yes no) := by
  have deep : (Node.cond number yes no).levels ≤ 3 * m + 2 :=
    Nat.succ_le_succ (Nat.max_le.2 ⟨first, second⟩)
  exact .of_le (by omega)

theorem levels_flagged (on off : Flags) (a : Node) :
    (Node.flagged on off a).levels ≤ a.levels + 1 := by
  rw [Node.levels]
  split
  · exact Nat.le_succ _
  · exact Nat.le_refl _

end Fits

end EditorText.Pattern
