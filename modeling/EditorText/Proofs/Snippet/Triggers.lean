import EditorText.Proofs.Text.Splitting
import EditorText.Proofs.Text.Trimming
import EditorText.Snippet.Json
import Mathlib.Data.List.Infix

/-!
# Triggers

A list of triggers is cut at every comma, and blanks that touch a comma belong to no trigger.
`Pieces` says so by putting the list together; every list is put together from the pieces that
`triggers` finds, and from no others (`pieces_iff`).
-/

set_option autoImplicit false

namespace EditorText.Snippet

open Text

/-- A list and the pieces between its commas. Blanks at either side of a comma stand in no piece;
those at the start and at the end of the list do. -/
inductive Pieces : Text → List Text → Prop where
  | last {p : Text} : Code.comma ∉ p → Pieces p [p]
  | more {p w w' t : Text} {ps : List Text} : Code.comma ∉ p →
      (∀ c r, p = r ++ [c] → isBlank c = false) → AllBlank w → AllBlank w' →
      (∀ c r, t = c :: r → isBlank c = false) → Pieces t ps →
      Pieces (p ++ (w ++ Code.comma :: (w' ++ t))) (p :: ps)

variable {p w t : Text} {ps : List Text}

theorem comma_not_mem_of_allBlank (blank : AllBlank w) : Code.comma ∉ w :=
  fun inside => absurd (blank _ inside) (by decide)

/-- A text without commas is one piece. -/
theorem split_comma_of_not_mem (free : Code.comma ∉ p) : Text.split [Code.comma] p = [p] :=
  splitFrom_of_not_infix (by rwa [List.singleton_infix_iff])

/-- A text without commas in front of one is the first piece. -/
theorem split_comma_append (free : Code.comma ∉ p) (t : Text) :
    Text.split [Code.comma] (p ++ Code.comma :: t) = p :: Text.split [Code.comma] t :=
  splitFrom_append (by decide) (unbordered_single _) (by rwa [List.singleton_infix_iff]) t

/-- A text is one piece, or a piece, a comma and a text. -/
theorem exists_comma (t : Text) :
    Code.comma ∉ t ∨ ∃ p r, Code.comma ∉ p ∧ t = p ++ Code.comma :: r := by
  by_cases inside : Code.comma ∈ t
  · obtain ⟨p, r, split, free⟩ := List.eq_append_cons_of_mem inside
    exact .inr ⟨p, r, free, split⟩
  · exact .inl inside

theorem trimPieces_cons (some : ps ≠ []) : trimPieces (p :: ps) = p.trim :: trimPieces ps := by
  cases ps with
  | nil => exact absurd rfl some
  | cons q ps => rfl

theorem triggers_of_not_mem (free : Code.comma ∉ p) : triggers p = [p] := by
  rw [triggers, split_comma_of_not_mem free]

theorem triggers_append (free : Code.comma ∉ p) (t : Text) :
    triggers (p ++ Code.comma :: t) = p.trimEnd :: trimPieces (Text.split [Code.comma] t) := by
  obtain ⟨q, qs, pieces⟩ := List.exists_cons_of_ne_nil (split_ne_nil [Code.comma] t)
  rw [triggers, split_comma_append free, pieces]

/-- Behind blanks that follow a comma, the list goes on as if it began there. -/
theorem trimPieces_split (blank : AllBlank w) (bare : ∀ c r, t = c :: r → isBlank c = false) :
    trimPieces (Text.split [Code.comma] (w ++ t)) = triggers t := by
  have free := comma_not_mem_of_allBlank blank
  have trimmed := (trimStart_eq_self_iff).2 bare
  rcases exists_comma t with none | ⟨p, r, first, rfl⟩
  · rw [split_comma_of_not_mem (by simp [free, none]), triggers_of_not_mem none, trimPieces,
      trimStart_append_of_allBlank blank, trimmed]
  · have start : trimStart (w ++ p) = p := by
      rw [trimStart_append_of_allBlank blank, trimStart_eq_self_iff]
      rintro c s rfl
      exact bare c (s ++ Code.comma :: r) rfl
    rw [← List.append_assoc, split_comma_append (by simp [free, first]),
      trimPieces_cons (split_ne_nil _ _), Text.trim, start, triggers_append first]

theorem Pieces.eq_triggers (h : Pieces t ps) : ps = triggers t := by
  induction h with
  | last free => rw [triggers_of_not_mem free]
  | @more p w w' t ps free ends blank blank' bare _ ih =>
    have whole : Code.comma ∉ p ++ w := by simp [free, comma_not_mem_of_allBlank blank]
    rw [← List.append_assoc, triggers_append whole, trimEnd_append_of_allBlank blank,
      trimEnd_eq_self_iff.2 ends, trimPieces_split blank' bare, ih]

theorem exists_pieces (t : Text) : ∃ ps, Pieces t ps := by
  rcases exists_comma t with free | ⟨p, r, free, rfl⟩
  · exact ⟨[t], .last free⟩
  · obtain ⟨w, blank, endOf⟩ := exists_blanks_trimEnd p
    obtain ⟨w', blank', startOf⟩ := exists_blanks_trimStart r
    have : (trimStart r).length ≤ r.length := by
      have := congrArg List.length startOf
      rw [List.length_append] at this
      omega
    obtain ⟨ps, rest⟩ := exists_pieces (trimStart r)
    refine ⟨p.trimEnd :: ps, ?_⟩
    have pieces := Pieces.more (fun inside => free (by rw [endOf]; simp [inside]))
      (trimEnd_eq_self_iff.1 (trimEnd_trimEnd p)) blank blank'
      (trimStart_eq_self_iff.1 (trimStart_trimStart r)) rest
    rwa [← startOf, ← List.append_assoc, ← endOf] at pieces
termination_by t.length
decreasing_by
  subst_vars
  simp only [List.length_append, List.length_cons]
  omega

/-- **The triggers of a list** are the pieces that it is put together from. -/
theorem pieces_iff : Pieces t ps ↔ ps = triggers t := by
  constructor
  · exact Pieces.eq_triggers
  · rintro rfl
    obtain ⟨ps, pieces⟩ := exists_pieces t
    rwa [← pieces.eq_triggers]

theorem triggers_ne_nil (t : Text) : triggers t ≠ [] := by
  intro none
  cases pieces_iff.2 none.symm

end EditorText.Snippet
