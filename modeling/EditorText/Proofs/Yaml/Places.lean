import EditorText.Yaml.Cursor
import Mathlib.Data.List.TakeWhile

/-!
# Places in a document

What is left of a document behind the characters that a reader passes, and the column that it
reaches on a new line. A reader that passes characters of a class stops at the first one that is
none of them.
-/

set_option autoImplicit false

namespace EditorText

theorem Text.length_run (c : Code) (n : Nat) : (Text.run c n).length = n :=
  List.length_replicate

end EditorText

namespace EditorText.Yaml

/-- The text ends, or begins with a character outside a class. -/
def StopsAt (holds : Code → Bool) (t : Text) : Prop :=
  ∀ c ∈ t.head?, holds c = false

theorem takeWhile_append_of_stopsAt {holds : Code → Bool} {s t : Text}
    (members : ∀ c ∈ s, holds c = true) (stops : StopsAt holds t) :
    (s ++ t).takeWhile holds = s := by
  rw [List.takeWhile_append_of_pos members]
  cases t with
  | nil => simp
  | cons c t => simp [stops c rfl]

theorem dropWhile_append_of_stopsAt {holds : Code → Bool} {s t : Text}
    (members : ∀ c ∈ s, holds c = true) (stops : StopsAt holds t) :
    (s ++ t).dropWhile holds = t := by
  rw [List.dropWhile_append_of_pos members]
  cases t with
  | nil => simp
  | cons c t => simp [stops c rfl]

/-- A text is a run of a class and what follows it. -/
theorem exists_run (holds : Code → Bool) (t : Text) :
    ∃ s u, t = s ++ u ∧ (∀ c ∈ s, holds c = true) ∧ StopsAt holds u ∧
      t.takeWhile holds = s ∧ t.dropWhile holds = u := by
  have members : ∀ c ∈ t.takeWhile holds, holds c = true := fun c member =>
    List.mem_takeWhile_imp member
  have stops : StopsAt holds (t.dropWhile holds) := by
    intro c first
    cases rest : t.dropWhile holds with
    | nil =>
      rw [rest] at first
      cases first
    | cons d u =>
      rw [rest] at first
      obtain rfl : d = c := by simpa using first
      have fails := List.head_dropWhile_not (p := holds) (l := t) (by simp [rest])
      simpa [rest] using fails
  exact ⟨_, _, (List.takeWhile_append_dropWhile ..).symm, members, stops, rfl, rfl⟩

/-- A character that takes a column of its line. -/
def isInLine (x : Code) : Bool :=
  !isBreak x && x != byteOrderMark

namespace Cursor

variable {c : Cursor} {s t : Text}

@[simp] theorem rest_next (c : Cursor) : c.next.rest = c.rest.drop 1 := by
  unfold next
  split
  · simp [*]
  · split
    · simp [*]
    · split <;> simp [*]

@[simp] theorem rest_skip (n : Nat) (c : Cursor) : (c.skip n).rest = c.rest.drop n := by
  induction n generalizing c with
  | zero => rfl
  | succ n ih =>
    rw [skip, ih, rest_next, List.drop_drop, Nat.add_comm]

theorem first_eq (here : c.rest = t) : c.first = firstOr t := by
  rw [first, here]

/-- The characters of a class from a place on are those that the text begins with. -/
theorem run_eq {holds : Code → Bool} (here : c.rest = s ++ t) (members : ∀ x ∈ s, holds x = true)
    (stops : StopsAt holds t) : c.run holds = s := by
  rw [run, here, takeWhile_append_of_stopsAt members stops]

theorem rest_skip_length (here : c.rest = s ++ t) : (c.skip s.length).rest = t := by
  rw [rest_skip, here, List.drop_left]

theorem rest_skipWhile {holds : Code → Bool} (here : c.rest = s ++ t)
    (members : ∀ x ∈ s, holds x = true) (stops : StopsAt holds t) :
    (c.skipWhile holds).rest = t := by
  rw [skipWhile, run_eq here members stops, rest_skip_length here]

theorem skipWhile_eq {holds : Code → Bool} (stops : StopsAt holds c.rest) :
    c.skipWhile holds = c := by
  have none : c.run holds = [] := run_eq (s := []) rfl (by simp) stops
  rw [skipWhile, none]
  rfl

/-- A line feed leads to the start of a line. -/
theorem lineBreak_newline (here : c.rest = Code.newline :: t) :
    ∃ i l, c.lineBreak = ([Code.newline], ⟨t, i, l, 0⟩) := by
  refine ⟨c.index + 1, c.line + 1, ?_⟩
  unfold lineBreak next
  rw [here]
  rfl

theorem lineBreak_of_isInLine (inLine : isInLine c.first = true) : c.lineBreak = ([], c) := by
  unfold lineBreak
  split
  case h_1 rest =>
    rw [first_eq rest] at inLine
    cases inLine
  case h_2 x t _ rest =>
    have inside : isBreak x = false := by
      rw [first_eq rest] at inLine
      simp only [isInLine, Bool.and_eq_true, Bool.not_eq_true'] at inLine
      exact inLine.1
    simp only [isBreak, Bool.or_eq_false_iff] at inside
    obtain ⟨⟨⟨⟨feed, cr⟩, next⟩, line⟩, paragraph⟩ := inside
    rw [feed, cr, next, line, paragraph]
    rfl
  case h_3 => rfl

/-- Characters of a line count as columns. -/
theorem next_of_inLine {x : Code} (inLine : isInLine x = true) (t : Text) (i l k : Nat) :
    (⟨x :: t, i, l, k⟩ : Cursor).next = ⟨t, i + 1, l, k + 1⟩ := by
  simp only [isInLine, isBreak, Bool.and_eq_true, Bool.not_eq_true', Bool.or_eq_false_iff,
    bne_iff_ne, beq_eq_false_iff_ne] at inLine
  simp [next, inLine]

theorem skip_of_inLine (inLine : ∀ x ∈ s, isInLine x = true) (t : Text) (i l k : Nat) :
    (⟨s ++ t, i, l, k⟩ : Cursor).skip s.length = ⟨t, i + s.length, l, k + s.length⟩ := by
  induction s generalizing i k with
  | nil => rfl
  | cons x s ih =>
    obtain ⟨first, others⟩ := List.forall_mem_cons.1 inLine
    rw [List.length_cons, skip, List.cons_append, next_of_inLine first, ih others]
    simp only [mk.injEq, true_and]
    omega

theorem skip_spaces (n : Nat) (t : Text) (i l k : Nat) :
    (⟨Text.run Code.space n ++ t, i, l, k⟩ : Cursor).skip n = ⟨t, i + n, l, k + n⟩ := by
  have inLine : ∀ x ∈ Text.run Code.space n, isInLine x = true := by
    intro x member
    rw [List.eq_of_mem_replicate member]
    rfl
  simpa [Text.run] using skip_of_inLine inLine t i l k

/-- Whether a separator of documents stands at a place is told by the text. -/
theorem atSeparator_eq (c : Cursor) :
    c.atSeparator = (⟨c.rest, 0, 0, 0⟩ : Cursor).atSeparator := rfl

end Cursor

end EditorText.Yaml
