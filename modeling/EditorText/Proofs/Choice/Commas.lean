import EditorText.Choice.Lines
import EditorText.Proofs.Text.Replacing

/-!
# Escaped commas

Each comma of a line is written behind a backslash, and a backslash goes away before each comma when
the line is read. Reading undoes writing (`unescape_escapeCommas`), and writing undoes reading where
every comma is paired with a backslash (`Whole`, `escapeCommas_unescape`). A backslash of the line
itself is written as it is: what is written is whole exactly where backslashes stand in even numbers
before commas and at the end (`whole_escapeCommas_iff`).
-/

set_option autoImplicit false

namespace EditorText.Choice

open Text

/-- Each comma behind a backslash without that backslash. -/
def unescape (t : Text) : Text :=
  replace [Code.backslash, Code.comma] [Code.comma] t

/-- From left to right a backslash goes with the code behind it: none is left over at the end, and
every comma has one. -/
inductive Whole : Text → Prop where
  | nil : Whole []
  | pair (c : Code) {t : Text} : Whole t → Whole (Code.backslash :: c :: t)
  | plain {c : Code} {t : Text} : c ≠ Code.comma → c ≠ Code.backslash → Whole t → Whole (c :: t)

/-- How many backslashes stand at the end of a text. -/
def backslashesAtEnd (t : Text) : Nat :=
  (t.reverse.takeWhile (· == Code.backslash)).length

/-- Backslashes stand in even numbers before every comma of the line and at its end. -/
def EvenBackslashes (line : Text) : Prop :=
  ∀ front back, line = front ++ back → (back = [] ∨ ∃ t, back = Code.comma :: t) →
    backslashesAtEnd front % 2 = 0

section Escape

variable {c : Code} {t : Text}

@[simp] theorem escapeCommas_nil : escapeCommas [] = [] := rfl

theorem escapeCommas_comma (t : Text) :
    escapeCommas (Code.comma :: t) = Code.backslash :: Code.comma :: escapeCommas t := rfl

theorem escapeCommas_cons (other : c ≠ Code.comma) :
    escapeCommas (c :: t) = c :: escapeCommas t := by
  simp [escapeCommas, replaceCode, other]

/-- A line without commas is written as it is. -/
theorem escapeCommas_of_not_mem (absent : Code.comma ∉ t) : escapeCommas t = t := by
  induction t with
  | nil => rfl
  | cons c t ih =>
    rw [List.mem_cons, not_or] at absent
    rw [escapeCommas_cons (Ne.symm absent.1), ih absent.2]

theorem escapeCommas_eq_nil_iff : escapeCommas t = [] ↔ t = [] := by
  cases t with
  | nil => simp
  | cons c t =>
    by_cases comma : c = Code.comma
    · subst comma
      simp [escapeCommas_comma]
    · simp [escapeCommas_cons comma]

/-- A line that is written begins with no comma. -/
theorem escapeCommas_ne_comma (t r : Text) : escapeCommas t ≠ Code.comma :: r := by
  cases t with
  | nil => simp
  | cons c t =>
    by_cases comma : c = Code.comma
    · subst comma
      intro same
      exact absurd (List.cons.inj same).1 (by decide)
    · rw [escapeCommas_cons comma]
      intro same
      exact comma (List.cons.inj same).1

/-- Writing a line brings in backslashes alone. -/
theorem mem_of_mem_escapeCommas (h : c ∈ escapeCommas t) : c ∈ t ∨ c = Code.backslash := by
  obtain ⟨d, inside, codes⟩ := List.mem_flatMap.1 h
  by_cases comma : d = Code.comma
  · rw [if_pos comma, List.mem_cons, List.mem_singleton] at codes
    rcases codes with backslash | same
    · exact .inr backslash
    · left
      rwa [same, ← comma]
  · rw [if_neg comma, List.mem_singleton] at codes
    exact .inl (codes ▸ inside)

theorem mem_escapeCommas_of_mem (h : c ∈ t) : c ∈ escapeCommas t := by
  refine List.mem_flatMap.2 ⟨c, h, ?_⟩
  split
  next comma => simp [comma]
  next => simp

/-- **Reading undoes writing.** -/
theorem unescape_escapeCommas (t : Text) : unescape (escapeCommas t) = t := by
  induction t with
  | nil => rfl
  | cons c t ih =>
    by_cases comma : c = Code.comma
    · subst comma
      have filled : [Code.backslash, Code.comma] ≠ [] := by simp
      have step := replace_part filled [Code.comma] (escapeCommas t)
      rw [escapeCommas_comma]
      refine step.trans ?_
      rw [← unescape, ih]
      rfl
    · have absent : ¬ [Code.backslash, Code.comma] <+: c :: escapeCommas t := by
        rintro ⟨r, whole⟩
        exact escapeCommas_ne_comma t r (List.cons.inj whole).2.symm
      rw [escapeCommas_cons comma, unescape, replace_cons absent, ← unescape, ih]

end Escape

section Whole

variable {c : Code} {t : Text}

theorem not_whole_comma (t : Text) : ¬ Whole (Code.comma :: t) := by
  intro h
  cases h with
  | plain other _ _ => exact other rfl

theorem not_whole_backslash : ¬ Whole [Code.backslash] := by
  intro h
  cases h with
  | plain _ other _ => exact other rfl

theorem whole_pair_iff : Whole (Code.backslash :: c :: t) ↔ Whole t := by
  constructor
  · intro h
    cases h with
    | pair _ rest => exact rest
    | plain _ other _ => exact absurd rfl other
  · exact .pair c

theorem whole_cons_iff (comma : c ≠ Code.comma) (backslash : c ≠ Code.backslash) :
    Whole (c :: t) ↔ Whole t := by
  constructor
  · intro h
    cases h with
    | pair _ _ => exact absurd rfl backslash
    | plain _ _ rest => exact rest
  · exact .plain comma backslash

theorem Whole.append {s : Text} (h : Whole s) (h' : Whole t) : Whole (s ++ t) := by
  induction h with
  | nil => exact h'
  | pair c _ ih => exact .pair c ih
  | plain comma backslash _ ih => exact .plain comma backslash ih

/-- A text without commas and backslashes is whole. -/
theorem whole_of_not_mem (comma : Code.comma ∉ t) (backslash : Code.backslash ∉ t) : Whole t := by
  induction t with
  | nil => exact .nil
  | cons c t ih =>
    rw [List.mem_cons, not_or] at comma backslash
    exact .plain (Ne.symm comma.1) (Ne.symm backslash.1) (ih comma.2 backslash.2)

/-- **Writing undoes reading** where every comma has its backslash. -/
theorem escapeCommas_unescape (h : Whole t) : escapeCommas (unescape t) = t := by
  induction h with
  | nil => rfl
  | @pair c t whole ih =>
    by_cases comma : c = Code.comma
    · subst comma
      have filled : [Code.backslash, Code.comma] ≠ [] := by simp
      have step := replace_part filled [Code.comma] t
      have read : unescape (Code.backslash :: Code.comma :: t) = Code.comma :: unescape t := step
      rw [read, escapeCommas_comma, ih]
    · have absent : ¬ [Code.backslash, Code.comma] <+: Code.backslash :: c :: t := by
        rintro ⟨r, whole⟩
        simp only [List.cons_append, List.cons.injEq, true_and] at whole
        exact comma whole.1.symm
      -- The code behind the backslash may be a backslash, but no comma follows it.
      have absent' : ¬ [Code.backslash, Code.comma] <+: c :: t := by
        rintro ⟨r, split⟩
        obtain ⟨-, rfl⟩ := List.cons.inj split
        exact not_whole_comma r whole
      have read : unescape (Code.backslash :: c :: t) = Code.backslash :: c :: unescape t := by
        rw [unescape, replace_cons absent, replace_cons absent', ← unescape]
      rw [read, escapeCommas_cons (by decide), escapeCommas_cons comma, ih]
  | @plain c t comma backslash _ ih =>
    have absent : ¬ [Code.backslash, Code.comma] <+: c :: t := by
      rintro ⟨r, split⟩
      exact backslash (List.cons.inj split).1.symm
    have read : unescape (c :: t) = c :: unescape t := by
      rw [unescape, replace_cons absent, ← unescape]
    rw [read, escapeCommas_cons comma, ih]

/-- Reading brings nothing in. -/
theorem mem_of_mem_unescape (whole : Whole t) (h : c ∈ unescape t) : c ∈ t := by
  have written := mem_escapeCommas_of_mem h
  rwa [escapeCommas_unescape whole] at written

end Whole

section Even

variable {c : Code} {t front : Text}

@[simp] theorem backslashesAtEnd_nil : backslashesAtEnd [] = 0 := rfl

@[simp] theorem backslashesAtEnd_backslash (front : Text) :
    backslashesAtEnd (front ++ [Code.backslash]) = backslashesAtEnd front + 1 := by
  simp [backslashesAtEnd]

theorem backslashesAtEnd_other (front : Text) (other : c ≠ Code.backslash) :
    backslashesAtEnd (front ++ [c]) = 0 := by
  simp [backslashesAtEnd, other]

/-- Backslashes stand in even numbers where a line goes on behind what has been read of it. -/
def EvenBehind (front t : Text) : Prop :=
  ∀ more back, t = more ++ back → (back = [] ∨ ∃ r, back = Code.comma :: r) →
    backslashesAtEnd (front ++ more) % 2 = 0

theorem evenBehind_nil_iff : EvenBehind front [] ↔ backslashesAtEnd front % 2 = 0 := by
  constructor
  · intro h
    simpa using h [] [] rfl (.inl rfl)
  · intro even more back split _
    obtain ⟨rfl, rfl⟩ := List.append_eq_nil_iff.1 split.symm
    simpa using even

theorem evenBehind_cons_iff : EvenBehind front (c :: t) ↔
    (c = Code.comma → backslashesAtEnd front % 2 = 0) ∧ EvenBehind (front ++ [c]) t := by
  constructor
  · intro h
    constructor
    · rintro rfl
      simpa using h [] (Code.comma :: t) rfl (.inr ⟨t, rfl⟩)
    · intro more back split stops
      have whole := h (c :: more) back (by rw [split, List.cons_append]) stops
      simpa using whole
  · rintro ⟨here, behind⟩ more back split stops
    cases more with
    | nil =>
      rw [List.nil_append] at split
      subst split
      rcases stops with none | ⟨r, comma⟩
      · cases none
      · simpa using here (List.cons.inj comma).1
    | cons d more =>
      obtain ⟨rfl, rest⟩ := List.cons.inj split
      simpa using behind more back rest stops

/-- What follows is written whole, behind a backslash that waits for its code where the backslashes
so far are odd in number. -/
theorem evenBehind_iff : EvenBehind front t ↔
    if backslashesAtEnd front % 2 = 0 then Whole (escapeCommas t)
    else Whole (Code.backslash :: escapeCommas t) := by
  induction t generalizing front with
  | nil =>
    rw [evenBehind_nil_iff, escapeCommas_nil]
    split
    next even => simp [even, Whole.nil]
    next odd => simp [odd, not_whole_backslash]
  | cons c t ih =>
    rw [evenBehind_cons_iff, ih]
    by_cases comma : c = Code.comma
    · subst comma
      rw [backslashesAtEnd_other front (by decide), if_pos rfl, escapeCommas_comma]
      split
      next even => simp [even, whole_pair_iff]
      next odd => simp [odd, whole_pair_iff, not_whole_comma]
    · rw [escapeCommas_cons comma]
      by_cases backslash : c = Code.backslash
      · subst backslash
        rw [backslashesAtEnd_backslash]
        by_cases even : backslashesAtEnd front % 2 = 0
        · have odd : ¬ (backslashesAtEnd front + 1) % 2 = 0 := by omega
          simp [even, odd]
        · have even' : (backslashesAtEnd front + 1) % 2 = 0 := by omega
          simp [even, even', whole_pair_iff, comma]
      · rw [backslashesAtEnd_other front backslash, if_pos rfl]
        split
        next even => simp [comma, whole_cons_iff comma backslash]
        next odd => simp [comma, whole_pair_iff]

/-- **A line is written whole** exactly if its backslashes stand in even numbers before its commas
and at its end. -/
theorem whole_escapeCommas_iff : Whole (escapeCommas t) ↔ EvenBackslashes t := by
  have behind : EvenBehind [] t ↔ _ := evenBehind_iff
  rw [backslashesAtEnd_nil, if_pos rfl] at behind
  exact behind.symm

/-- Without backslashes there is no odd number of them. -/
theorem evenBackslashes_of_not_mem (absent : Code.backslash ∉ t) : EvenBackslashes t := by
  rintro front back rfl -
  have none : front.reverse.takeWhile (· == Code.backslash) = [] := by
    cases last : front.reverse with
    | nil => rfl
    | cons d r =>
      have inside : d ∈ front := List.mem_reverse.1 (by rw [last]; exact List.mem_cons_self)
      have other : d ≠ Code.backslash :=
        fun same => absent (List.mem_append_left back (same ▸ inside))
      simp [other]
  rw [backslashesAtEnd, none]
  rfl

end Even

end EditorText.Choice
