import EditorText.Snippet.Run

/-!
# The grammar of snippet definitions

Which texts are snippet definitions, said without a reader: `Document` puts a text together from a
name line, perhaps a scope line, a prefix line, the line of dashes and the body. What a reader could
have gone on with is an `Expectation`; `Expectation.StandsAt` says which texts meet it.
-/

set_option autoImplicit false

namespace EditorText.Snippet

/-- A text made of units, one behind the other, also of none. -/
inductive Sequence (unit : Text → Prop) : Text → Prop where
  | nil : Sequence unit []
  | cons {x t : Text} : unit x → Sequence unit t → Sequence unit (x ++ t)

/-- A unit that is one character of a class. -/
def CodeUnit (holds : Code → Prop) (x : Text) : Prop := ∃ c, holds c ∧ x = [c]

/-- A space or a tab. -/
def IsSpaceOrTab (c : Code) : Prop := c = Code.space ∨ c = Code.tab

/-- A character that does not end a line. -/
def IsInLine (c : Code) : Prop := c ≠ Code.carriageReturn ∧ c ≠ Code.newline

/-- A line feed, alone or behind a carriage return. -/
def LineEndUnit (x : Text) : Prop := x = [Code.newline] ∨ x = [Code.carriageReturn, Code.newline]

instance : DecidablePred IsSpaceOrTab := fun _ => inferInstanceAs (Decidable (_ ∨ _))

instance : DecidablePred IsInLine := fun _ => inferInstanceAs (Decidable (_ ∧ _))

/-- Spaces and tabs, also none. -/
def Blanks (t : Text) : Prop := ∀ c ∈ t, IsSpaceOrTab c

/-- Line ends, at least one. -/
def LineEnds (t : Text) : Prop := t ≠ [] ∧ Sequence LineEndUnit t

/-- Dashes, at least one. -/
def Dashes (t : Text) : Prop := t ≠ [] ∧ ∀ c ∈ t, c = Code.dash

/-- The value of a header line: some text on one line that does not begin with a blank. -/
def FieldValue (t : Text) : Prop :=
  t ≠ [] ∧ (∀ c ∈ t, IsInLine c) ∧ ∀ c r, t = c :: r → ¬ IsSpaceOrTab c

/-- The body of a definition: some text that does not begin with a line end. -/
def BodyText (t : Text) : Prop := t ≠ [] ∧ ∀ x, LineEndUnit x → ¬ x <+: t

/-- A header line with its keyword and its value. -/
def HeaderLine (keyword value line : Text) : Prop :=
  ∃ b₁ b₂ b₃ e, Blanks b₁ ∧ Blanks b₂ ∧ Blanks b₃ ∧ FieldValue value ∧ LineEnds e ∧
    line = [Code.slash, Code.slash] ++ b₁ ++ keyword ++ b₂ ++ [Code.colon] ++ b₃ ++ value ++ e

/-- The line of dashes before the body. -/
def DashLine (line : Text) : Prop :=
  ∃ b₁ d b₂ e, Blanks b₁ ∧ Dashes d ∧ Blanks b₂ ∧ LineEnds e ∧
    line = [Code.slash, Code.slash] ++ b₁ ++ d ++ b₂ ++ e

/-- The scope line, which may be missing. -/
inductive ScopeLine : Option Text → Text → Prop where
  | missing : ScopeLine none []
  | present {value line : Text} :
      HeaderLine Run.scopeKeyword value line → ScopeLine (some value) line

/-- A text that defines a snippet. -/
def Document (text : Text) (d : Definition) : Prop :=
  ∃ n s p l, HeaderLine Run.nameKeyword d.name n ∧ ScopeLine d.scope s ∧
    HeaderLine Run.triggerKeyword d.trigger p ∧ DashLine l ∧ BodyText d.body ∧
    text = n ++ s ++ p ++ l ++ d.body

/-- A character belongs to a member of a class. -/
def ClassPart.Has : ClassPart → Code → Prop
  | single t, c => t = [c]
  | range low high, c => ∃ a b, low = [a] ∧ high = [b] ∧ a ≤ c ∧ c ≤ b

/-- A text begins with what is expected. A literal stands for its text, a class for one of its
characters, and the two names for a blank and for a line end. -/
def Expectation.StandsAt : Expectation → Text → Prop
  | literal t, text => t <+: text
  | charClass parts inverted, text =>
    ∃ c rest, text = c :: rest ∧ ((∃ p ∈ parts, p.Has c) ↔ inverted = false)
  | anything, text => text ≠ []
  | endOfInput, text => text = []
  | other name, text =>
    (name = Text.ofString "whitespace" ∧ ∃ c rest, text = c :: rest ∧ IsSpaceOrTab c) ∨
      (name = Text.ofString "newline" ∧ ∃ x, LineEndUnit x ∧ x <+: text)

/-- A text begins with a character of a class. -/
theorem codeUnit_begins_iff {holds : Code → Prop} {t : Text} :
    (∃ x, CodeUnit holds x ∧ x <+: t) ↔ ∃ c r, t = c :: r ∧ holds c := by
  constructor
  · rintro ⟨_, ⟨c, hc, rfl⟩, r, rfl⟩
    exact ⟨c, r, rfl, hc⟩
  · rintro ⟨c, r, rfl, hc⟩
    exact ⟨[c], ⟨c, hc, rfl⟩, r, rfl⟩

namespace Sequence

variable {unit : Text → Prop} {s t w : Text}

theorem append (hs : Sequence unit s) (ht : Sequence unit t) : Sequence unit (s ++ t) := by
  induction hs with
  | nil => exact ht
  | cons hx _ ih => rw [List.append_assoc]; exact .cons hx ih

theorem single {x : Text} (hx : unit x) : Sequence unit x := by
  simpa using Sequence.cons hx .nil

/-- A sequence of characters of a class is a text over that class. -/
theorem codes_iff {holds : Code → Prop} : Sequence (CodeUnit holds) t ↔ ∀ c ∈ t, holds c := by
  constructor
  · intro h
    induction h with
    | nil => simp
    | cons hx _ ih =>
      obtain ⟨c, hc, rfl⟩ := hx
      simpa [hc] using ih
  · intro h
    induction t with
    | nil => exact .nil
    | cons c t ih =>
      have first : holds c := h c (by simp)
      exact Sequence.cons ⟨c, first, rfl⟩ (ih fun d hd => h d (by simp [hd]))

/-- A sequence that is not empty begins with a unit. -/
theorem begins (h : Sequence unit t) (filled : t ≠ []) : ∃ x, unit x ∧ x <+: t := by
  cases h with
  | nil => exact absurd rfl filled
  | cons hx _ => exact ⟨_, hx, List.prefix_append _ _⟩

/-- Units that do not begin one another cut a text in one way: of two sequences at its front, the
one behind which no unit stands is not the shorter one, and where it is longer a unit stands behind
the other. -/
theorem cut (free : ∀ x y r s, unit x → unit y → x ++ r = y ++ s → x = y) {rest more : Text}
    (hw : Sequence unit w) (ht : Sequence unit t) (stops : ∀ x, unit x → ¬ x <+: rest)
    (same : t ++ rest = w ++ more) : (t = w ∧ rest = more) ∨ ∃ x, unit x ∧ x <+: more := by
  induction hw generalizing t with
  | nil =>
    cases ht with
    | nil => exact .inl ⟨rfl, by simpa using same⟩
    | @cons x t hx _ =>
      refine .inr ⟨x, hx, t ++ rest, ?_⟩
      simpa using same
  | @cons x w hx _ ih =>
    cases ht with
    | nil =>
      refine absurd ⟨w ++ more, ?_⟩ (stops x hx)
      simpa using same.symm
    | @cons y t hy ht =>
      rw [List.append_assoc, List.append_assoc] at same
      have equal : y = x := free _ _ _ _ hy hx same
      subst equal
      rcases ih ht (List.append_cancel_left same) with ⟨rfl, rfl⟩ | later
      · exact .inl ⟨rfl, rfl⟩
      · exact .inr later

end Sequence

end EditorText.Snippet
