import EditorText.Proofs.Yaml.Escapes
import EditorText.Proofs.Yaml.Plain

/-!
# Written texts can be read

Whatever the text, its written form is made of characters that documents may hold: the others are
written by their escapes.
-/

set_option autoImplicit false

namespace EditorText.Yaml

variable {x : Code}

theorem isDocumentCode_of_isVisible (visible : isVisible x = true) : isDocumentCode x = true := by
  simp only [isVisible, isDocumentCode, Bool.or_eq_true, Bool.and_eq_true, decide_eq_true_eq,
    beq_iff_eq] at visible ⊢
  grind

theorem isDocumentCode_of_isOpen (open_ : isOpen x = true) : isDocumentCode x = true := by
  simp only [isOpen, isDocumentCode, Code.isSurrogate, Bool.or_eq_true, Bool.and_eq_true,
    decide_eq_true_eq, beq_iff_eq] at open_ ⊢
  grind

theorem isDocumentCode_of_isHexDigit (digit : isHexDigit x = true) : isDocumentCode x = true := by
  simp only [isHexDigit, hexValue?, isDocumentCode, Bool.or_eq_true, Bool.and_eq_true,
    decide_eq_true_eq, beq_iff_eq] at digit ⊢
  grind

theorem isDocumentCode_nextLine (n : Nat) : ∀ x ∈ nextLine n, isDocumentCode x = true := by
  intro x member
  rcases List.mem_cons.1 member with rfl | space
  · rfl
  · rw [List.eq_of_mem_replicate space]
    rfl

/-- Folding adds spaces and line feeds only. -/
theorem isDocumentCode_foldedFrom (twice : Code → Bool) (indent fuel : Nat) :
    ∀ (first : Bool) (column : Nat) (t : Text), (∀ x ∈ t, isDocumentCode x = true) →
      ∀ x ∈ foldedFrom twice indent fuel first column t, isDocumentCode x = true := by
  induction fuel with
  | zero => simp [foldedFrom]
  | succ fuel ih =>
    intro first column t inside
    cases t with
    | nil => simp [foldedFrom]
    | cons c t =>
      have taken (holds : Code → Bool) :
          ∀ x ∈ (c :: t).takeWhile holds, isDocumentCode x = true :=
        fun x member => inside x ((List.takeWhile_sublist holds).subset member)
      have dropped (holds : Code → Bool) (first : Bool) (column : Nat) :
          ∀ x ∈ foldedFrom twice indent fuel first column ((c :: t).dropWhile holds),
            isDocumentCode x = true :=
        ih first column _ fun x member => inside x ((List.dropWhile_sublist holds).subset member)
      obtain ⟨here, behind⟩ := List.forall_mem_cons.1 inside
      rw [foldedFrom]
      dsimp only
      split
      case isTrue =>
        split
        case isTrue =>
          exact List.forall_mem_append.2 ⟨isDocumentCode_nextLine indent, dropped _ _ _⟩
        case isFalse => exact List.forall_mem_append.2 ⟨taken _, dropped _ _ _⟩
      case isFalse =>
        split
        case isTrue =>
          have mark : ∀ x ∈ if c = Code.newline then [Code.newline] else [],
              isDocumentCode x = true := by
            split
            · exact List.forall_mem_singleton.2 rfl
            · exact List.forall_mem_nil _
          have margin : ∀ x ∈ Text.run Code.space indent, isDocumentCode x = true := by
            intro x member
            rw [List.eq_of_mem_replicate member]
            rfl
          simp only [List.forall_mem_append]
          exact ⟨⟨⟨mark, taken _⟩, margin⟩, dropped _ _ _⟩
        case isFalse =>
          split
          case isTrue =>
            simp only [List.forall_mem_cons]
            exact ⟨here, here, ih _ _ t behind⟩
          case isFalse => exact List.forall_mem_cons.2 ⟨here, ih _ _ t behind⟩

/-- An escape is written in letters, digits and a backslash. -/
theorem isDocumentCode_escapeOf (c : Code) : ∀ x ∈ escapeOf c, isDocumentCode x = true := by
  have numbered {letter : Char} (width : Nat) (sign : isDocumentCode letter.toNat = true) :
      ∀ x ∈ Text.ofChars ['\\', letter] ++ Text.hexCapital width c, isDocumentCode x = true :=
    List.forall_mem_append.2
      ⟨List.forall_mem_cons.2 ⟨rfl, List.forall_mem_singleton.2 sign⟩, fun x digit =>
        isDocumentCode_of_isHexDigit (Text.isHexDigit_of_mem_hexCapital _ _ x digit)⟩
  unfold escapeOf
  split
  case h_1 letter found =>
    have table : ∀ e ∈ escapeLetters, isDocumentCode e.2.toNat = true := by decide
    exact List.forall_mem_cons.2
      ⟨rfl, List.forall_mem_singleton.2 (table (c, letter) (mem_of_lookup_eq_some found))⟩
  case h_2 =>
    split_ifs
    · exact numbered 2 rfl
    · exact numbered 4 rfl
    · exact numbered 8 rfl

theorem isDocumentCode_escapedFrom (indent : Nat) (t : Text) :
    ∀ (first afterEscape : Bool) (column : Nat),
      ∀ x ∈ escapedFrom indent first afterEscape column t, isDocumentCode x = true := by
  induction t with
  | nil => simp [escapedFrom]
  | cons c t ih =>
    intro first afterEscape column
    have lead (u : Text) : ∀ x ∈ if u.head? = some Code.space then [Code.backslash] else [],
        isDocumentCode x = true := by
      split
      · exact List.forall_mem_singleton.2 rfl
      · exact List.forall_mem_nil _
    have ended : ∀ x ∈ Code.backslash :: nextLine indent, isDocumentCode x = true :=
      List.forall_mem_cons.2 ⟨rfl, isDocumentCode_nextLine indent⟩
    have escape := isDocumentCode_escapeOf c
    rw [escapedFrom]
    dsimp only
    split
    case isTrue =>
      split
      case isTrue =>
        simp only [List.forall_mem_append]
        exact ⟨⟨⟨escape, ended⟩, lead t⟩, ih _ _ _⟩
      case isFalse => exact List.forall_mem_append.2 ⟨escape, ih _ _ _⟩
    case isFalse closed =>
      have here : isDocumentCode c = true := isDocumentCode_of_isOpen (by simpa using closed)
      split
      case isTrue =>
        simp only [List.forall_mem_append]
        exact ⟨⟨ended, lead (c :: t)⟩, List.forall_mem_cons.2 ⟨here, ih _ _ _⟩⟩
      case isFalse => exact List.forall_mem_cons.2 ⟨here, ih _ _ _⟩

/-- **Written texts hold characters of documents only.** -/
theorem isDocumentCode_written (indent column : Nat) (t : Text) :
    ∀ x ∈ written indent column t, isDocumentCode x = true := by
  have folded (twice : Code → Bool) (fuel column : Nat) (first : Bool)
      (visible : ∀ x ∈ t, isVisible x = true) :
      ∀ x ∈ foldedFrom twice indent fuel first column t, isDocumentCode x = true :=
    isDocumentCode_foldedFrom twice indent fuel first column t fun x member =>
      isDocumentCode_of_isVisible (visible x member)
  have quoted {u : Text} {quote : Code} (sign : isDocumentCode quote = true)
      (inside : ∀ x ∈ u, isDocumentCode x = true) :
      ∀ x ∈ quote :: u ++ [quote], isDocumentCode x = true :=
    List.forall_mem_append.2
      ⟨List.forall_mem_cons.2 ⟨sign, inside⟩, List.forall_mem_singleton.2 sign⟩
  unfold written
  split
  case h_1 style => exact folded _ _ _ _ (bare_of_allowsPlain (styleOf_eq_plain style).1).visible
  case h_2 style => exact quoted rfl (folded _ _ _ _ (styleOf_eq_single style).1)
  case h_3 => exact quoted rfl (isDocumentCode_escapedFrom indent t _ _ _)

end EditorText.Yaml
