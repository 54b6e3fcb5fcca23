import EditorText.Proofs.Text.Splitting
import EditorText.Snippet.Path
import Mathlib.Data.List.Infix

/-!
# Paths and their components

A path that was read has one of three roots, and its components are names (`proper_ofText`); going
below it keeps that (`Proper.below`). A name that is put below a path is its last component and
stands behind a slash when the path is written (`text_below`). What is written for such a path is
read as the same path (`ofText_text`).
-/

set_option autoImplicit false

namespace EditorText.Snippet.Path

open Text

/-- A text that is a component of a path when it is read alone. -/
structure IsName (t : Text) : Prop where
  filled : t ≠ []
  other : t ≠ [Code.dot]
  plain : Code.slash ∉ t

/-- A path as it is after reading: at most two slashes are its root, and its components are names. -/
structure Proper (p : Path) : Prop where
  root : ∃ n ≤ 2, p.root = run Code.slash n
  names : ∀ c ∈ p.components, IsName c

variable {p : Path} {c t : Text}

theorem not_infix_slash (h : IsName c) : ¬ [Code.slash] <:+: c := by
  rw [List.singleton_infix_iff]
  exact h.plain

/-- A text without slashes in front has no root. -/
theorem rootOf_run_append (n : Nat) (absent : [Code.slash].head? ≠ t.head?) :
    rootOf (run Code.slash n ++ t) =
      if n = 0 then [] else if n = 2 then [Code.slash, Code.slash] else [Code.slash] := by
  have slashes : ((run Code.slash n ++ t).takeWhile (· == Code.slash)) = run Code.slash n := by
    have each : ∀ d ∈ run Code.slash n, (d == Code.slash) = true := by
      intro d inside
      rw [List.eq_of_mem_replicate inside]
      rfl
    rw [List.takeWhile_append_of_pos each]
    cases t with
    | nil => simp
    | cons d t =>
      have other : d ≠ Code.slash := by
        rintro rfl
        exact absent rfl
      simp [other]
  rw [rootOf, slashes, List.length_replicate]
  split
  · rfl
  · rfl
  · next none two => rw [if_neg none, if_neg two]

/-- **A path that is read is proper.** -/
theorem proper_ofText (t : Text) : (ofText t).Proper := by
  constructor
  · show ∃ n ≤ 2, rootOf t = run Code.slash n
    rw [rootOf]
    split
    · exact ⟨0, by omega, rfl⟩
    · exact ⟨2, by omega, rfl⟩
    · exact ⟨1, by omega, rfl⟩
  · intro c member
    obtain ⟨piece, kept⟩ := List.mem_filter.1 member
    obtain ⟨filled, other⟩ := of_decide_eq_true kept
    refine ⟨filled, other, ?_⟩
    have free := not_infix_of_mem_split (by simp) piece
    rwa [List.singleton_infix_iff] at free

/-- What is below a proper path is proper. -/
theorem Proper.below (h : p.Proper) (t : Text) : (p.below t).Proper := by
  have other := proper_ofText t
  show (if (ofText t).root = [] then
    (⟨p.root, p.components ++ (ofText t).components⟩ : Path) else ofText t).Proper
  split
  · constructor
    · exact h.root
    · intro c member
      rcases List.mem_append.1 member with above | name
      · exact h.names c above
      · exact other.names c name
  · exact other

/-- A name is read as a path of one component. -/
theorem ofText_name (h : IsName c) : ofText c = ⟨[], [c]⟩ := by
  have absent : [Code.slash].head? ≠ c.head? := by
    intro same
    exact h.plain (List.mem_of_mem_head? same.symm)
  have root : rootOf c = [] := rootOf_run_append 0 absent
  have pieces : split [Code.slash] c = [c] := splitFrom_of_not_infix (not_infix_slash h)
  rw [ofText, root, pieces]
  simp [h.filled, h.other]

/-- **A name below a path** is its last component. -/
theorem below_name (h : IsName c) (p : Path) : p.below c = ⟨p.root, p.components ++ [c]⟩ := by
  rw [below, ofText_name h]
  rfl

/-- **A name below a path is written behind it**, with a slash between. -/
theorem text_below (h : IsName c) (some : p.components ≠ []) :
    (p.below c).text = p.text ++ Code.slash :: c := by
  obtain ⟨d, rest, components⟩ := List.exists_cons_of_ne_nil some
  rw [below_name h, text, text, if_neg (by simp), if_neg (by simp [some]), components]
  simp [join]

/-- The pieces of a path between slashes are its components behind nothing for each slash of the
root. -/
theorem split_text (names : ∀ c ∈ p.components, IsName c) (n : Nat) (some : p.components ≠ []) :
    split [Code.slash] (run Code.slash n ++ join [Code.slash] p.components) =
      List.replicate n [] ++ p.components := by
  induction n with
  | zero =>
    exact split_join (by simp) (unbordered_single _) some fun c member =>
      not_infix_slash (names c member)
  | succ n ih =>
    have behind := splitFrom_append (by simp) (unbordered_single Code.slash)
      (not_infix_nil (by simp)) (run Code.slash n ++ join [Code.slash] p.components)
    rw [split] at ih
    rw [split, run, List.replicate_succ, List.replicate_succ, List.cons_append, List.cons_append,
      ← ih]
    exact behind

/-- **A proper path is read as it was written.** -/
theorem ofText_text (h : p.Proper) : ofText p.text = p := by
  obtain ⟨root, components⟩ := p
  obtain ⟨⟨n, small, rfl⟩, names⟩ := h
  have three : (if n = 0 then [] else if n = 2 then [Code.slash, Code.slash] else [Code.slash]) =
      run Code.slash n := by
    obtain rfl | rfl | rfl : n = 0 ∨ n = 1 ∨ n = 2 := by omega
    · rfl
    · rfl
    · rfl
  cases components with
  | nil =>
    obtain rfl | rfl | rfl : n = 0 ∨ n = 1 ∨ n = 2 := by omega
    · rfl
    · rfl
    · rfl
  | cons c cs =>
    have first : IsName c := names c List.mem_cons_self
    have absent : [Code.slash].head? ≠ (join [Code.slash] (c :: cs)).head? := by
      obtain ⟨d, r, rfl⟩ := List.exists_cons_of_ne_nil first.filled
      intro same
      exact first.plain (List.mem_of_mem_head? same.symm)
    have kept : ∀ d ∈ c :: cs, decide (d ≠ [] ∧ d ≠ [Code.dot]) = true := fun d member =>
      decide_eq_true ⟨(names d member).filled, (names d member).other⟩
    rw [text, if_neg (by simp), ofText, rootOf_run_append n absent, three,
      split_text (p := ⟨run Code.slash n, c :: cs⟩) names n (by simp), List.filter_append,
      List.filter_eq_self.2 kept, List.filter_replicate_of_neg (by simp), List.nil_append]

end EditorText.Snippet.Path
