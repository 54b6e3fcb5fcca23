import EditorText.Text.Blank

/-!
# Trimming

What `trimStart` and `trimEnd` leave and what they take away: the text is the blanks at its start, a
text that begins and ends with no blank, and the blanks at its end.
-/

set_option autoImplicit false

namespace EditorText.Text

/-- Blanks only, also none. -/
def AllBlank (t : Text) : Prop := ∀ c ∈ t, isBlank c = true

variable {s t b : Text} {c : Code}

@[simp] theorem isBlank_space : isBlank Code.space = true := rfl

@[simp] theorem allBlank_nil : AllBlank [] := by simp [AllBlank]

@[simp] theorem allBlank_cons : AllBlank (c :: t) ↔ isBlank c = true ∧ AllBlank t := by
  simp [AllBlank]

@[simp] theorem allBlank_append : AllBlank (s ++ t) ↔ AllBlank s ∧ AllBlank t := by
  simp only [AllBlank, List.mem_append]
  constructor
  · intro h
    exact ⟨fun c hc => h c (.inl hc), fun c hc => h c (.inr hc)⟩
  · rintro ⟨hs, ht⟩ c (hc | hc)
    · exact hs c hc
    · exact ht c hc

@[simp] theorem allBlank_run_space (n : Nat) : AllBlank (run Code.space n) := by
  intro c hc
  rw [List.eq_of_mem_replicate hc]
  exact isBlank_space

@[simp] theorem trimStart_nil : trimStart [] = [] := rfl

theorem trimStart_cons (c : Code) (t : Text) :
    trimStart (c :: t) = if isBlank c then trimStart t else c :: t := by
  simp [trimStart, List.dropWhile_cons]

/-- Blanks in front make no difference to a text that is trimmed there. -/
theorem trimStart_append_of_allBlank (hb : AllBlank b) : trimStart (b ++ t) = trimStart t := by
  induction b with
  | nil => rfl
  | cons c b ih =>
    obtain ⟨blank, hb⟩ := allBlank_cons.1 hb
    rw [List.cons_append, trimStart_cons, if_pos blank, ih hb]

theorem trimStart_eq_nil_iff : trimStart t = [] ↔ AllBlank t := by
  induction t with
  | nil => simp
  | cons c t ih =>
    rw [trimStart_cons, allBlank_cons]
    by_cases blank : isBlank c = true
    · simp [blank, ih]
    · simp [blank]

/-- What is trimmed at the start are blanks. -/
theorem exists_blanks_trimStart (t : Text) : ∃ b, AllBlank b ∧ t = b ++ trimStart t := by
  induction t with
  | nil => exact ⟨[], allBlank_nil, rfl⟩
  | cons c t ih =>
    rw [trimStart_cons]
    by_cases blank : isBlank c = true
    · obtain ⟨b, hb, split⟩ := ih
      refine ⟨c :: b, allBlank_cons.2 ⟨blank, hb⟩, ?_⟩
      rw [if_pos blank, List.cons_append, ← split]
    · exact ⟨[], allBlank_nil, by simp [blank]⟩

/-- A text begins with no blank if trimming leaves it as it is. -/
theorem trimStart_eq_self_iff : trimStart t = t ↔ ∀ c r, t = c :: r → isBlank c = false := by
  cases t with
  | nil => simp
  | cons c t =>
    rw [trimStart_cons]
    by_cases blank : isBlank c = true
    · have shorter : trimStart t ≠ c :: t := by
        intro same
        obtain ⟨b, -, split⟩ := exists_blanks_trimStart t
        have := congrArg List.length split
        rw [same, List.length_append, List.length_cons] at this
        omega
      simp [blank, shorter]
    · simp [blank]

theorem trimStart_trimStart (t : Text) : trimStart (trimStart t) = trimStart t := by
  obtain ⟨b, hb, split⟩ := exists_blanks_trimStart t
  conv => rhs; rw [split, trimStart_append_of_allBlank hb]

@[simp] theorem trimEnd_nil : trimEnd [] = [] := rfl

theorem trimEnd_cons (c : Code) (t : Text) :
    trimEnd (c :: t) = if trimEnd t = [] ∧ isBlank c = true then [] else c :: trimEnd t := by
  rw [trimEnd]
  split
  next none =>
    by_cases blank : isBlank c = true <;> simp [none, blank]
  next filled =>
    have other : trimEnd t ≠ [] := fun none => filled none
    simp [other]

theorem trimEnd_eq_nil_iff : trimEnd t = [] ↔ AllBlank t := by
  induction t with
  | nil => simp
  | cons c t ih =>
    rw [trimEnd_cons, allBlank_cons, ← ih]
    split
    next both => simp [both]
    next other => simp only [reduceCtorEq, false_iff]; exact fun h => other ⟨h.2, h.1⟩

/-- Blanks behind a text make no difference to it once it is trimmed there. -/
theorem trimEnd_append_of_allBlank (hb : AllBlank b) : trimEnd (t ++ b) = trimEnd t := by
  induction t with
  | nil => simpa using trimEnd_eq_nil_iff.2 hb
  | cons c t ih => rw [List.cons_append, trimEnd_cons, trimEnd_cons, ih]

/-- What is trimmed at the end are blanks. -/
theorem exists_blanks_trimEnd (t : Text) : ∃ b, AllBlank b ∧ t = trimEnd t ++ b := by
  induction t with
  | nil => exact ⟨[], allBlank_nil, rfl⟩
  | cons c t ih =>
    obtain ⟨b, hb, split⟩ := ih
    rw [trimEnd_cons]
    by_cases both : trimEnd t = [] ∧ isBlank c = true
    · refine ⟨c :: t, allBlank_cons.2 ⟨both.2, trimEnd_eq_nil_iff.1 both.1⟩, ?_⟩
      rw [if_pos both, List.nil_append]
    · refine ⟨b, hb, ?_⟩
      rw [if_neg both, List.cons_append, ← split]

theorem trimEnd_trimEnd (t : Text) : trimEnd (trimEnd t) = trimEnd t := by
  obtain ⟨b, hb, split⟩ := exists_blanks_trimEnd t
  conv => rhs; rw [split, trimEnd_append_of_allBlank hb]

/-- A text ends with no blank if trimming leaves it as it is. -/
theorem trimEnd_eq_self_iff : trimEnd t = t ↔ ∀ c r, t = r ++ [c] → isBlank c = false := by
  constructor
  · rintro same c r rfl
    rw [← Bool.not_eq_true]
    intro blank
    have shorter := trimEnd_append_of_allBlank (t := r) (b := [c]) (by simp [blank])
    obtain ⟨b, -, split⟩ := exists_blanks_trimEnd r
    have := congrArg List.length split
    rw [← shorter, same] at this
    simp only [List.length_append, List.length_singleton] at this
    omega
  · intro bare
    obtain ⟨b, hb, split⟩ := exists_blanks_trimEnd t
    rcases List.eq_nil_or_concat b with rfl | ⟨b', c, rfl⟩
    · rw [List.append_nil] at split
      exact split.symm
    · have blank := hb c (by simp)
      rw [List.concat_eq_append, ← List.append_assoc] at split
      rw [bare c _ split] at blank
      cases blank

/-- A text in front of one that is not blank stays when that is trimmed at its end. -/
theorem trimEnd_append_of_not_allBlank (some : ¬ AllBlank t) :
    trimEnd (s ++ t) = s ++ trimEnd t := by
  induction s with
  | nil => rfl
  | cons c s ih =>
    have filled : trimEnd (s ++ t) ≠ [] := by
      rw [Ne, trimEnd_eq_nil_iff, allBlank_append]
      exact fun h => some h.2
    rw [List.cons_append, trimEnd_cons, if_neg (fun h => filled h.1), ih, List.cons_append]

/-- Trimming the end leaves a text that begins with no blank so. -/
theorem trimStart_trimEnd_of_eq (h : trimStart t = t) : trimStart (trimEnd t) = trimEnd t := by
  rw [trimStart_eq_self_iff] at h ⊢
  obtain ⟨b, -, split⟩ := exists_blanks_trimEnd t
  intro c r same
  exact h c (r ++ b) (by rw [split, same, List.cons_append])

end EditorText.Text
