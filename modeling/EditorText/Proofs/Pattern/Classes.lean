import EditorText.Proofs.Pattern.Respelling

/-!
# Character classes in a pattern

`IsClass` says how a class in brackets is written, apart from what its members mean: the first
member may be a closing bracket, behind it the class ends at the first one that is not escaped.
`Outside` is a text behind which a class may begin. A class is respelt by itself, whatever stands
before and behind it (`convert_class`).
-/

set_option autoImplicit false

namespace EditorText.Pattern

/-- The members of a class behind the first one, with the bracket that ends it. -/
inductive Members : Text → Prop where
  | done : Members [Code.closeBracket]
  | escape (c : Code) {t : Text} : Members t → Members (Code.backslash :: c :: t)
  | code {c : Code} {t : Text} : c ≠ Code.backslash → c ≠ Code.closeBracket → Members t →
      Members (c :: t)

/-- The members of a class, with the bracket that ends it: the first one may be that bracket too. -/
inductive Filled : Text → Prop where
  | escape (c : Code) {t : Text} : Members t → Filled (Code.backslash :: c :: t)
  | code {c : Code} {t : Text} : c ≠ Code.backslash → Members t → Filled (c :: t)

/-- A character class: members between brackets, maybe behind a caret. -/
inductive IsClass : Text → Prop where
  | plain {t : Text} : t.head? ≠ some Code.caret → Filled t → IsClass (Code.openBracket :: t)
  | inverted {t : Text} : Filled t → IsClass (Code.openBracket :: Code.caret :: t)

/-- A text that ends outside of escapes and classes. -/
inductive Outside : Text → Prop where
  | nil : Outside []
  | escape (c : Code) {t : Text} : Outside t → Outside (Code.backslash :: c :: t)
  | code {c : Code} {t : Text} : c ≠ Code.backslash → c ≠ Code.openBracket → Outside t →
      Outside (c :: t)
  | behindClass {k t : Text} : IsClass k → Outside t → Outside (k ++ t)

variable {c : Code} {k s t u v : Text}

section Escapes

theorem WholeEscapes.append (hs : WholeEscapes s) (ht : WholeEscapes t) :
    WholeEscapes (s ++ t) := by
  induction hs with
  | nil => exact ht
  | escape c _ ih => exact .escape c ih
  | code plain _ ih => exact .code plain ih

theorem Members.ends (h : Members t) : ∃ s, WholeEscapes s ∧ t = s ++ [Code.closeBracket] := by
  induction h with
  | done => exact ⟨[], .nil, rfl⟩
  | escape c _ ih =>
    obtain ⟨s, whole, rfl⟩ := ih
    exact ⟨Code.backslash :: c :: s, .escape c whole, rfl⟩
  | @code c _ plain _ _ ih =>
    obtain ⟨s, whole, rfl⟩ := ih
    exact ⟨c :: s, .code plain whole, rfl⟩

theorem Filled.ends (h : Filled t) : ∃ s, WholeEscapes s ∧ t = s ++ [Code.closeBracket] := by
  cases h with
  | escape c members =>
    obtain ⟨s, whole, rfl⟩ := members.ends
    exact ⟨Code.backslash :: c :: s, .escape c whole, rfl⟩
  | @code c _ plain members =>
    obtain ⟨s, whole, rfl⟩ := members.ends
    exact ⟨c :: s, .code plain whole, rfl⟩

/-- The brackets of a class are not escaped. -/
theorem IsClass.ends (h : IsClass k) :
    ∃ s, WholeEscapes s ∧ k = Code.openBracket :: s ++ [Code.closeBracket] := by
  cases h with
  | plain _ filled =>
    obtain ⟨s, whole, rfl⟩ := filled.ends
    exact ⟨s, whole, rfl⟩
  | inverted filled =>
    obtain ⟨s, whole, rfl⟩ := filled.ends
    exact ⟨Code.caret :: s, .code (by decide) whole, rfl⟩

theorem Outside.wholeEscapes (h : Outside u) : WholeEscapes u := by
  induction h with
  | nil => exact .nil
  | escape c _ ih => exact .escape c ih
  | code plain _ _ ih => exact .code plain ih
  | behindClass cls _ ih =>
    obtain ⟨s, whole, rfl⟩ := cls.ends
    have bracket : WholeEscapes [Code.closeBracket] := .code (by decide) .nil
    exact (WholeEscapes.code (by decide) (whole.append bracket)).append ih

end Escapes

section Copying

theorem convert_closeBracket (t : Text) :
    convert (Code.closeBracket :: t) = Code.closeBracket :: convert t :=
  convert_code (noToken_cons (by decide) (by decide)) fun same => absurd same (by decide)

/-- A class is respelt by itself. -/
theorem convert_class (outside : Outside u) (cls : IsClass k) (v : Text) :
    convert (u ++ k ++ v) = convert u ++ convert k ++ convert v := by
  obtain ⟨s, whole, rfl⟩ := cls.ends
  have opening : ∀ c ∈ (Code.openBracket :: s ++ [Code.closeBracket] ++ v).head?, ¬ IsInner c := by
    rintro c ⟨⟩
    unfold IsInner
    decide
  have closing (v : Text) : ∀ c ∈ (Code.closeBracket :: v).head?, ¬ IsInner c := by
    rintro c ⟨⟩
    unfold IsInner
    decide
  have front : WholeEscapes (Code.openBracket :: s) := .code (by decide) whole
  have inside := convert_append front (closing [])
  have behind := convert_append front (closing v)
  have pulled : Code.openBracket :: s ++ [Code.closeBracket] ++ v =
      Code.openBracket :: s ++ Code.closeBracket :: v := by simp
  rw [List.append_assoc, convert_append outside.wholeEscapes opening, pulled, behind, inside,
    convert_closeBracket, convert_closeBracket]
  simp [convert, convertFrom]

end Copying

end EditorText.Pattern
