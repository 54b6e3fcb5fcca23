import EditorText.Proofs.Text.Trimming
import EditorText.Text.Width

/-!
# Respacing

A text is respaced when spaces are put into it anywhere and blanks beside such a space are taken
away (`Respaced`); it is rewritten when blanks at its end may be lost as well (`Rewritten`). Nothing
but blanks comes or goes that way, what stood apart stays apart (`Apart`), and no text without a
space comes into being (`Rewritten.infix_of_infix`).
-/

set_option autoImplicit false

namespace EditorText.Text

/-- The second text comes from the first by spaces put in, which may take the place of blanks. -/
inductive Respaced : Text → Text → Prop where
  | nil : Respaced [] []
  | keep (c : Code) {s t : Text} : Respaced s t → Respaced (c :: s) (c :: t)
  | insert {s t : Text} : Respaced s t → Respaced s (Code.space :: t)
  | absorb {c : Code} {s t : Text} : isBlank c = true → Respaced s (Code.space :: t) →
      Respaced (c :: s) (Code.space :: t)

/-- The second text comes from the first by respacing it up to some blanks at its end, which are
lost. -/
def Rewritten (s t : Text) : Prop :=
  ∃ kept lost, s = kept ++ lost ∧ AllBlank lost ∧ Respaced kept t

/-- The text without its blanks. -/
def bare (t : Text) : Text :=
  t.filter fun c => !isBlank c

namespace Respaced

variable {s t u s' t' b : Text} {c : Code}

theorem refl (t : Text) : Respaced t t := by
  induction t with
  | nil => exact .nil
  | cons c t ih => exact .keep c ih

theorem append (h : Respaced s t) (h' : Respaced s' t') : Respaced (s ++ s') (t ++ t') := by
  induction h with
  | nil => exact h'
  | keep c _ ih => exact .keep c ih
  | insert _ ih => exact .insert ih
  | absorb blank _ ih => exact .absorb blank ih

/-- Where the new text is cut, the old one can be cut. -/
theorem split (h : Respaced s (t ++ u)) :
    ∃ s₁ s₂, s = s₁ ++ s₂ ∧ Respaced s₁ t ∧ Respaced s₂ u := by
  generalize whole : t ++ u = w at h
  induction h generalizing t with
  | nil =>
    obtain ⟨rfl, rfl⟩ := List.append_eq_nil_iff.1 whole
    exact ⟨[], [], rfl, .nil, .nil⟩
  | @keep c s w h ih =>
    rcases List.append_eq_cons_iff.1 whole with ⟨rfl, rfl⟩ | ⟨r, rfl, rfl⟩
    · exact ⟨[], c :: s, rfl, .nil, .keep c h⟩
    · obtain ⟨s₁, s₂, rfl, front, back⟩ := ih rfl
      exact ⟨c :: s₁, s₂, rfl, .keep c front, back⟩
  | @insert s w h ih =>
    rcases List.append_eq_cons_iff.1 whole with ⟨rfl, rfl⟩ | ⟨r, rfl, rfl⟩
    · exact ⟨[], s, rfl, .nil, .insert h⟩
    · obtain ⟨s₁, s₂, rfl, front, back⟩ := ih rfl
      exact ⟨s₁, s₂, rfl, .insert front, back⟩
  | @absorb c s w blank h ih =>
    rcases List.append_eq_cons_iff.1 whole with ⟨rfl, rfl⟩ | ⟨r, rfl, rfl⟩
    · exact ⟨[], c :: s, rfl, .nil, .absorb blank h⟩
    · obtain ⟨s₁, s₂, rfl, front, back⟩ := ih (t := Code.space :: r) rfl
      exact ⟨c :: s₁, s₂, rfl, .absorb blank front, back⟩

theorem trans (h : Respaced s t) (h' : Respaced t u) : Respaced s u := by
  induction h' generalizing s with
  | nil => exact h
  | @keep c t u further ih =>
    generalize old : c :: t = w at h
    induction h with
    | nil => cases old
    | keep d h _ => cases old; exact .keep c (ih h)
    | insert h _ => cases old; exact .insert (ih h)
    | absorb blank _ inner => cases old; exact .absorb blank (inner rfl)
  | insert _ ih => exact .insert (ih h)
  | @absorb c t u blank further ih =>
    generalize old : c :: t = w at h
    induction h with
    | nil => cases old
    | keep d h _ => cases old; exact .absorb blank (ih h)
    | insert h _ => cases old; exact ih h
    | absorb blank' _ inner => cases old; exact .absorb blank' (inner rfl)

/-- Respacing leaves something of a text. -/
theorem ne_nil (h : Respaced s t) (filled : s ≠ []) : t ≠ [] := by
  cases h with
  | nil => exact filled
  | keep | insert | absorb => exact List.cons_ne_nil _ _

/-- Blanks come from blanks. -/
theorem allBlank (h : Respaced s t) (ht : AllBlank t) : AllBlank s := by
  induction h with
  | nil => exact ht
  | keep c _ ih =>
    obtain ⟨blank, ht⟩ := allBlank_cons.1 ht
    exact allBlank_cons.2 ⟨blank, ih ht⟩
  | insert _ ih => exact ih (allBlank_cons.1 ht).2
  | absorb blank _ ih => exact allBlank_cons.2 ⟨blank, ih ht⟩

/-- Spaces may be put in anywhere. -/
theorem of_run (n : Nat) : Respaced [] (run Code.space n) := by
  induction n with
  | zero => exact .nil
  | succ n ih => exact .insert ih

/-- Blanks may be reduced to one space. -/
theorem of_blanks (hb : AllBlank b) : Respaced b [Code.space] := by
  induction b with
  | nil => exact .insert .nil
  | cons c b ih =>
    obtain ⟨blank, hb⟩ := allBlank_cons.1 hb
    exact .absorb blank (ih hb)

/-- A text without a space at the front of the new text was at the front of the old one. -/
theorem front_of_front (h : Respaced s t) (solid : Code.space ∉ u) (front : u <+: t) : u <+: s := by
  induction h generalizing u with
  | nil => exact front
  | keep c _ ih =>
    cases u with
    | nil => exact List.nil_prefix
    | cons d u =>
      obtain ⟨rfl, behind⟩ := List.cons_prefix_cons.1 front
      simp only [List.mem_cons, not_or] at solid
      exact List.cons_prefix_cons.2 ⟨rfl, ih solid.2 behind⟩
  | insert _ _ | absorb _ _ _ =>
    cases u with
    | nil => exact List.nil_prefix
    | cons d u =>
      obtain ⟨rfl, -⟩ := List.cons_prefix_cons.1 front
      exact absurd List.mem_cons_self solid

end Respaced

/-- A blank between two parts of the first text has one between parts of the second that are the
same but for blanks. -/
def Apart (s t : Text) : Prop :=
  ∀ x c y, s = x ++ c :: y → isBlank c = true →
    ∃ x' d y', t = x' ++ d :: y' ∧ isBlank d = true ∧ bare x' = bare x ∧ bare y' = bare y

section Bare

variable {s t : Text} {c : Code}

theorem bare_cons_of_blank (blank : isBlank c = true) (t : Text) : bare (c :: t) = bare t := by
  simp [bare, blank]

theorem bare_append (s t : Text) : bare (s ++ t) = bare s ++ bare t := List.filter_append ..

theorem bare_eq_nil_iff : bare t = [] ↔ AllBlank t := by
  simp [bare, AllBlank]

/-- Respaced texts are the same but for blanks. -/
theorem Respaced.bare_eq (h : Respaced s t) : bare t = bare s := by
  induction h with
  | nil => rfl
  | keep c _ ih =>
    simp only [bare] at ih
    simp [bare, List.filter_cons, ih]
  | insert _ ih => rwa [bare_cons_of_blank isBlank_space]
  | absorb blank _ ih => rwa [bare_cons_of_blank blank]

/-- What stands apart stays apart in respaced texts. -/
theorem Respaced.apart (h : Respaced s t) : Apart s t := by
  intro x c y split blank
  induction h generalizing x with
  | nil => simp at split
  | @keep e s t h ih =>
    cases x with
    | nil =>
      obtain ⟨rfl, rfl⟩ := List.cons.inj split
      exact ⟨[], e, t, rfl, blank, rfl, h.bare_eq⟩
    | cons d x =>
      obtain ⟨rfl, behind⟩ := List.cons.inj split
      obtain ⟨x', f, y', rfl, blank', front, back⟩ := ih x behind
      refine ⟨e :: x', f, y', rfl, blank', ?_, back⟩
      simp only [bare] at front
      simp [bare, List.filter_cons, front]
  | insert _ ih =>
    obtain ⟨x', f, y', rfl, blank', front, back⟩ := ih x split
    refine ⟨Code.space :: x', f, y', rfl, blank', ?_, back⟩
    rwa [bare_cons_of_blank isBlank_space]
  | @absorb e s t blankE h ih =>
    cases x with
    | nil =>
      obtain ⟨rfl, rfl⟩ := List.cons.inj split
      refine ⟨[], Code.space, t, rfl, isBlank_space, rfl, ?_⟩
      rw [← h.bare_eq, bare_cons_of_blank isBlank_space]
    | cons d x =>
      obtain ⟨rfl, behind⟩ := List.cons.inj split
      obtain ⟨x', f, y', same, blank', front, back⟩ := ih x behind
      refine ⟨x', f, y', same, blank', ?_, back⟩
      rwa [bare_cons_of_blank blankE]

end Bare

namespace Rewritten

variable {s t u : Text}

theorem refl (t : Text) : Rewritten t t :=
  ⟨t, [], by simp, allBlank_nil, .refl t⟩

theorem of_respaced (h : Respaced s t) : Rewritten s t :=
  ⟨s, [], by simp, allBlank_nil, h⟩

/-- Blanks at the end may be lost. -/
theorem of_trimEnd (t : Text) : Rewritten t (trimEnd t) := by
  obtain ⟨b, hb, split⟩ := exists_blanks_trimEnd t
  exact ⟨trimEnd t, b, split, hb, .refl _⟩

theorem append {s' t' : Text} (h : Respaced s t) (h' : Rewritten s' t') :
    Rewritten (s ++ s') (t ++ t') := by
  obtain ⟨kept, lost, rfl, blank, respaced⟩ := h'
  exact ⟨s ++ kept, lost, (List.append_assoc ..).symm, blank, h.append respaced⟩

theorem trans (h : Rewritten s t) (h' : Rewritten t u) : Rewritten s u := by
  obtain ⟨kept, lost, rfl, blank, first⟩ := h
  obtain ⟨kept', lost', rfl, blank', second⟩ := h'
  obtain ⟨s₁, s₂, rfl, front, back⟩ := first.split
  refine ⟨s₁, s₂ ++ lost, List.append_assoc .., ?_, front.trans second⟩
  exact allBlank_append.2 ⟨back.allBlank blank', blank⟩

/-- **Only blanks change**: rewritten texts are the same but for blanks. -/
theorem bare_eq (h : Rewritten s t) : bare t = bare s := by
  obtain ⟨kept, lost, rfl, blank, respaced⟩ := h
  rw [bare_append, bare_eq_nil_iff.2 blank, List.append_nil, respaced.bare_eq]

/-- **What stands apart stays apart**: a blank between two characters that are none has left one
between them. -/
theorem exists_blank (h : Rewritten s t) {x y : Text} {c : Code} (split : s = x ++ c :: y)
    (blank : isBlank c = true) (further : bare y ≠ []) :
    ∃ x' d y', t = x' ++ d :: y' ∧ isBlank d = true ∧ bare x' = bare x ∧ bare y' = bare y := by
  obtain ⟨kept, lost, rfl, lostBlank, respaced⟩ := h
  rcases List.append_eq_append_iff.1 split with ⟨r, rfl, lostSplit⟩ | ⟨r, rfl, back⟩
  · refine absurd ?_ further
    rw [lostSplit] at lostBlank
    exact bare_eq_nil_iff.2 (allBlank_cons.1 (allBlank_append.1 lostBlank).2).2
  · cases r with
    | nil =>
      refine absurd ?_ further
      rw [List.nil_append] at back
      exact bare_eq_nil_iff.2 (allBlank_cons.1 (back ▸ lostBlank)).2
    | cons d r =>
      obtain ⟨rfl, rfl⟩ := List.cons.inj back
      obtain ⟨x', d, y', new, blank', front, back⟩ := respaced.apart x c r rfl blank
      refine ⟨x', d, y', new, blank', front, ?_⟩
      have whole : bare (r ++ lost) = bare r := by
        rw [bare_append, bare_eq_nil_iff.2 lostBlank, List.append_nil]
      exact back.trans whole.symm

/-- A text without a space at the front of the new text was at the front of the old one. -/
theorem front_of_front (h : Rewritten s t) (solid : Code.space ∉ u) (front : u <+: t) :
    u <+: s := by
  obtain ⟨kept, lost, rfl, -, respaced⟩ := h
  exact (respaced.front_of_front solid front).trans (List.prefix_append _ _)

/-- **Nothing comes into being**: a text without a space that is in the new text was in the old
one. -/
theorem infix_of_infix (h : Rewritten s t) (solid : Code.space ∉ u) (inside : u <:+: t) :
    u <:+: s := by
  obtain ⟨kept, lost, rfl, -, respaced⟩ := h
  obtain ⟨a, z, rfl⟩ := inside
  rw [List.append_assoc] at respaced
  obtain ⟨s₁, s₂, rfl, -, back⟩ := respaced.split
  obtain ⟨r, rfl⟩ := back.front_of_front solid (List.prefix_append u z)
  exact ⟨s₁, r ++ lost, by simp⟩

end Rewritten

end EditorText.Text
