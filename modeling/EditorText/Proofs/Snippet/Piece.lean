import EditorText.Proofs.Snippet.Grammar

/-!
# Pieces of a definition

A definition is made of pieces: words that stand as they are, and repetitions that take what fills
them, which may be told by the text behind (`Piece.Holds`). A repetition is taken in one way
(`Piece.cut`), and what was expected at its end could have made it longer (`Piece.exists_longer`).
-/

set_option autoImplicit false

namespace EditorText.Snippet

/-- A part of a definition that is taken in one go. -/
inductive Piece where
  | word (text : Text)
  | blanks
  | dashes
  | value
  | newlines
  | everything

/-- Offsets with what was expected there. -/
abbrev Trace := List (Nat × Expectation)

namespace Piece

/-- What one round of a repetition takes; a word has none. -/
def Unit : Piece → Text → Prop
  | word _ => fun _ => False
  | blanks => CodeUnit IsSpaceOrTab
  | dashes => CodeUnit (· = Code.dash)
  | value => CodeUnit IsInLine
  | newlines => LineEndUnit
  | everything => CodeUnit fun _ => True

/-- What an error says where the piece could begin or go on. -/
def expectation : Piece → Expectation
  | word t => .literal t
  | blanks => whitespace
  | dashes => dashSign
  | value => notLineEnd
  | newlines => newline
  | everything => .anything

/-- The piece cannot be empty. -/
def required : Piece → Bool
  | blanks | dashes => false
  | word _ | value | newlines | everything => true

/-- Where the piece ends its expectation is recorded, for it could have gone on. -/
def recorded : Piece → Bool
  | blanks | dashes | value | newlines => true
  | word _ | everything => false

/-- What is recorded at the end of the piece. -/
def trace (p : Piece) (stop : Nat) : Trace :=
  if p.recorded then [(stop, p.expectation)] else []

/-- What a definition keeps of the piece. -/
def kept : Piece → Text → List Text
  | value, t | everything, t => [t]
  | _, _ => []

/-- A text that a reader takes for the piece. -/
def Fills : Piece → Text → Prop
  | word t, w => w = t
  | p, w => (p.required → w ≠ []) ∧ Sequence p.Unit w

/-- A text that the piece may not begin with, although its rounds would take it. -/
def Opens : Piece → Text → Prop
  | value, t => ∀ c r, t = c :: r → ¬ IsSpaceOrTab c
  | everything, t => ∀ x, LineEndUnit x → ¬ x <+: t
  | _, _ => True

/-- A text that the grammar allows for the piece. -/
def Holds (p : Piece) (w : Text) : Prop := p.Fills w ∧ p.Opens w

/-- The piece cannot go on with what follows. -/
def Stops (p : Piece) (rest : Text) : Prop := ∀ x, p.Unit x → ¬ x <+: rest

/-- The piece cannot be taken where it should begin. -/
def Refuses (p : Piece) (rest : Text) : Prop := p.required ∧ ¬ p.expectation.StandsAt rest

/-- What a piece expects stands where a round of it could be taken. -/
theorem standsAt_iff {p : Piece} (repeats : ∀ t, p ≠ word t) (rest : Text) :
    p.expectation.StandsAt rest ↔ ∃ x, p.Unit x ∧ x <+: rest := by
  have names : Text.ofString "newline" ≠ Text.ofString "whitespace" := by decide
  cases p with
  | word t => exact absurd rfl (repeats t)
  | blanks =>
    simp [expectation, whitespace, Expectation.StandsAt, Unit, codeUnit_begins_iff, names.symm]
  | dashes =>
    simp only [Unit, codeUnit_begins_iff]
    constructor
    · rintro ⟨r, rfl⟩
      exact ⟨Code.dash, r, rfl, rfl⟩
    · rintro ⟨_, r, rfl, rfl⟩
      exact ⟨r, rfl⟩
  | value =>
    simp [expectation, notLineEnd, Expectation.StandsAt, ClassPart.Has, Unit, IsInLine,
      codeUnit_begins_iff, eq_comm]
  | newlines => simp [expectation, newline, Expectation.StandsAt, Unit, names]
  | everything =>
    simp [expectation, Expectation.StandsAt, Unit, codeUnit_begins_iff, List.ne_nil_iff_exists_cons]

theorem not_standsAt {p : Piece} (repeats : ∀ t, p ≠ word t) {rest : Text} (h : p.Stops rest) :
    ¬ p.expectation.StandsAt rest := by
  rw [standsAt_iff repeats]
  rintro ⟨x, hx, begins⟩
  exact h x hx begins

theorem mem_trace_iff {p : Piece} {stop n : Nat} {e : Expectation} :
    (n, e) ∈ p.trace stop ↔ n = stop ∧ p.recorded ∧ e = p.expectation := by
  by_cases recorded : p.recorded <;> simp [trace, recorded]

theorem recorded_of_repeats {p : Piece} (repeats : ∀ t, p ≠ word t) (notLast : p ≠ everything) :
    p.recorded := by
  cases p with
  | word t => exact absurd rfl (repeats t)
  | everything => exact absurd rfl notLast
  | blanks | dashes | value | newlines => rfl

theorem not_standsAt_nil {p : Piece} (solid : ∀ t, p = word t → t ≠ []) :
    ¬ p.expectation.StandsAt [] := by
  by_cases repeats : ∀ t, p ≠ word t
  · apply not_standsAt repeats
    rintro x hx begins
    cases p with
    | word t => exact hx
    | newlines => rcases hx with rfl | rfl <;> simp at begins
    | blanks | dashes | value | everything =>
      obtain ⟨c, -, rfl⟩ := hx
      simp at begins
  · obtain ⟨s, rfl⟩ : ∃ s, p = word s := by simpa using repeats
    simpa [expectation, Expectation.StandsAt] using solid s rfl

/-- No round of a piece begins another one. -/
theorem unit_free (p : Piece) (x y r s : Text) (hx : p.Unit x) (hy : p.Unit y)
    (same : x ++ r = y ++ s) : x = y := by
  have codes {holds : Code → Prop} (hx : CodeUnit holds x) (hy : CodeUnit holds y) : x = y := by
    obtain ⟨c, -, rfl⟩ := hx
    obtain ⟨d, -, rfl⟩ := hy
    simpa using (List.cons.inj same).1
  cases p with
  | word t => exact hx.elim
  | newlines =>
    rcases hx with rfl | rfl <;> rcases hy with rfl | rfl <;>
      simp_all [Code.newline, Code.carriageReturn]
  | blanks | dashes | value | everything => exact codes hx hy

theorem sequence_of_fills {p : Piece} (repeats : ∀ t, p ≠ word t) {w : Text} (h : p.Fills w) :
    Sequence p.Unit w := by
  cases p with
  | word t => exact absurd rfl (repeats t)
  | blanks | dashes | value | newlines | everything => exact h.2

/-- Two texts of a piece at the front of one text are the same, if the piece stops behind the first
and what is behind the second is no further round. -/
theorem cut {p : Piece} {t rest w more : Text} (ht : p.Fills t) (stops : p.Stops rest)
    (hw : p.Fills w) (same : t ++ rest = w ++ more) :
    (t = w ∧ rest = more) ∨ ((∀ t, p ≠ word t) ∧ p.expectation.StandsAt more) := by
  by_cases repeats : ∀ t, p ≠ word t
  · rcases Sequence.cut p.unit_free (sequence_of_fills repeats hw) (sequence_of_fills repeats ht)
      stops same with equal | further
    · exact .inl equal
    · exact .inr ⟨repeats, (standsAt_iff repeats more).2 further⟩
  · obtain ⟨s, rfl⟩ : ∃ s, p = word s := by simpa using repeats
    cases ht
    cases hw
    exact .inl ⟨rfl, List.append_cancel_left same⟩

theorem opens_of_append {p : Piece} {w more : Text} (hw : p.Fills w) (h : p.Opens (w ++ more)) :
    p.Opens w := by
  cases p with
  | value =>
    rintro c r rfl
    exact h c (r ++ more) rfl
  | everything => exact fun x hx begins => h x hx (begins.trans (List.prefix_append _ _))
  | word _ | blanks | dashes | newlines => trivial

/-- Some text can be put for a piece. -/
theorem exists_holds (p : Piece) : ∃ w, p.Holds w := by
  have codes {holds : Code → Prop} {c : Code} (hc : holds c) : Sequence (CodeUnit holds) [c] :=
    .single ⟨c, hc, rfl⟩
  cases p with
  | word t => exact ⟨t, rfl, trivial⟩
  | blanks | dashes => exact ⟨[], ⟨by simp [required], .nil⟩, trivial⟩
  | newlines =>
    exact ⟨[Code.newline], ⟨by simp, .single (.inl rfl)⟩, trivial⟩
  | value =>
    refine ⟨[Code.dash], ⟨by simp, codes (by decide : IsInLine Code.dash)⟩, ?_⟩
    rintro c r same
    cases same
    decide
  | everything =>
    refine ⟨[Code.dash], ⟨by simp, codes trivial⟩, ?_⟩
    rintro x (rfl | rfl) <;> decide

/-- Where a piece is recorded it can go on. -/
theorem exists_longer {p : Piece} (recorded : p.recorded) {w : Text} (h : p.Holds w) :
    ∃ z, p.Holds (w ++ z) ∧ ∀ more, p.expectation.StandsAt (z ++ more) := by
  have repeats : ∀ t, p ≠ word t := by
    rintro t rfl
    exact absurd recorded (by simp [Piece.recorded])
  obtain ⟨z, hz⟩ : ∃ z, p.Unit z := by
    cases p with
    | word t => exact absurd rfl (repeats t)
    | blanks => exact ⟨_, Code.tab, .inr rfl, rfl⟩
    | dashes => exact ⟨_, Code.dash, rfl, rfl⟩
    | value => exact ⟨_, Code.dash, by decide, rfl⟩
    | newlines => exact ⟨_, .inl rfl⟩
    | everything => exact ⟨_, Code.dash, trivial, rfl⟩
  have longer : Sequence p.Unit (w ++ z) := (sequence_of_fills repeats h.1).append (.single hz)
  refine ⟨z, ?_, fun more => (standsAt_iff repeats _).2 ⟨z, hz, List.prefix_append _ _⟩⟩
  cases p with
  | word t => exact absurd rfl (repeats t)
  | everything => exact absurd recorded (by simp [Piece.recorded])
  | blanks | dashes => exact ⟨⟨by simp [required], longer⟩, trivial⟩
  | newlines => exact ⟨⟨fun _ => by simp [h.1.1 rfl], longer⟩, trivial⟩
  | value =>
    have filled : w ≠ [] := h.1.1 rfl
    refine ⟨⟨fun _ => by simp [filled], longer⟩, ?_⟩
    intro c r same
    cases w with
    | nil => exact absurd rfl filled
    | cons d w => exact h.2 c w (by rw [(List.cons.inj same).1])

/-- A piece begins with what it expects, unless it may be empty. -/
theorem standsAt_of_fills {p : Piece} {w : Text} (h : p.Fills w) (filled : w ≠ [] ∨ p.required)
    (more : Text) : p.expectation.StandsAt (w ++ more) := by
  by_cases repeats : ∀ t, p ≠ word t
  · have some : w ≠ [] := by
      rcases filled with some | required
      · exact some
      · cases p with
        | word t => exact absurd rfl (repeats t)
        | blanks | dashes | value | newlines | everything => exact h.1 required
    obtain ⟨x, hx, begins⟩ := (sequence_of_fills repeats h).begins some
    exact (standsAt_iff repeats _).2 ⟨x, hx, begins.trans (List.prefix_append _ _)⟩
  · obtain ⟨s, rfl⟩ : ∃ s, p = word s := by simpa using repeats
    cases h
    exact List.prefix_append _ _

end Piece

end EditorText.Snippet
