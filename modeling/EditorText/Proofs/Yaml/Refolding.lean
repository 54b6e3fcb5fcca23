import EditorText.Proofs.Yaml.Quoted
import EditorText.Yaml.Written

/-!
# What single quotes make of line ends

Between single quotes a text is folded where it is wide and at its line ends, and unfolded when it is
read. The control character for a next line is written as it is but read as any line end: a text that
holds it does not come back (`refold_eq_iff`), and every other text does.
-/

set_option autoImplicit false

namespace EditorText.Yaml

/-- The control character for a next line. -/
abbrev nextLineMark : Code := 0x85

/-- What is read of a text between single quotes; `behind` tells that a line end stands before it. -/
def refold : Bool → Text → Text
  | _, [] => []
  | behind, c :: t =>
    if c = nextLineMark then
      if behind then Code.newline :: refold true t
      else if isLineEnd (firstOr t) then refold true t
      else Code.space :: refold false t
    else c :: refold (isLineEnd c) t

section Refold

variable {t u es : Text} {c : Code} {behind : Bool}

theorem refold_of_ne (other : c ≠ nextLineMark) (behind : Bool) (t : Text) :
    refold behind (c :: t) = c :: refold (isLineEnd c) t := by
  rw [refold, if_neg other]

/-- What stands before a text counts only if the text begins with a line end. -/
theorem refold_true (stops : StopsAt isLineEnd t) : refold true t = refold false t := by
  cases t with
  | nil => rfl
  | cons c t =>
    have other : c ≠ nextLineMark := by
      rintro rfl
      exact absurd (stops _ rfl) (by decide)
    rw [refold_of_ne other, refold_of_ne other]

theorem refold_spaces (n : Nat) (t : Text) :
    refold false (Text.run Code.space n ++ t) = Text.run Code.space n ++ refold false t := by
  induction n with
  | zero => rfl
  | succ n ih =>
    show refold false (Code.space :: (Text.run Code.space n ++ t)) =
      Code.space :: (Text.run Code.space n ++ refold false t)
    rw [refold_of_ne (by decide), ← ih]
    rfl

/-- Behind a line end, each further one counts as what it is read as. -/
theorem refold_ends (ends : ∀ x ∈ es, isLineEnd x = true) (stops : StopsAt isLineEnd t) :
    refold true (es ++ t) = es.map feed ++ refold false t := by
  induction es with
  | nil => exact refold_true stops
  | cons x es ih =>
    obtain ⟨first, others⟩ := List.forall_mem_cons.1 ends
    show refold true (x :: (es ++ t)) = feed x :: (es.map feed ++ refold false t)
    by_cases mark : x = nextLineMark
    · rw [refold, if_pos mark, if_pos rfl, ih others, feed, if_pos mark]
    · rw [refold_of_ne mark, first, ih others, feed, if_neg mark]

/-- Line ends are written so that the reader folds them to what they count as. -/
theorem refold_lines (first : isLineEnd c = true) (ends : ∀ x ∈ es, isLineEnd x = true)
    (stops : StopsAt isLineEnd t) :
    ∃ x xs, (if c = Code.newline then [Code.newline] else []) ++ c :: es = x :: xs ∧
      isLineEnd x = true ∧ (∀ y ∈ xs, isLineEnd y = true) ∧
      refold false (c :: es ++ t) = foldBreaks [feed x] (xs.map feed) ++ refold false t := by
  by_cases newline : c = Code.newline
  · subst newline
    refine ⟨Code.newline, Code.newline :: es, rfl, rfl, List.forall_mem_cons.2 ⟨rfl, ends⟩, ?_⟩
    show refold false (Code.newline :: (es ++ t)) = Code.newline :: (es.map feed ++ refold false t)
    rw [refold_of_ne (by decide), ← refold_ends ends stops]
    rfl
  · refine ⟨c, es, by rw [if_neg newline]; rfl, first, ends, ?_⟩
    rw [List.cons_append]
    by_cases mark : c = nextLineMark
    · subst mark
      cases es with
      | nil =>
        have other : isLineEnd (firstOr t) = false := by
          cases t with
          | nil => rfl
          | cons y t => exact stops y rfl
        rw [refold, if_pos rfl, if_neg Bool.false_ne_true, List.nil_append, other,
          if_neg Bool.false_ne_true]
        rfl
      | cons y es =>
        have line : isLineEnd (firstOr (y :: es ++ t)) = true := ends y List.mem_cons_self
        rw [refold, if_pos rfl, if_neg Bool.false_ne_true, if_pos line, refold_ends ends stops]
        rfl
    · rw [refold_of_ne mark, first, refold_ends ends stops, feed, if_neg mark, foldBreaks,
        if_pos (by simpa using newline)]
      rfl

theorem refold_eq_self (free : nextLineMark ∉ t) (behind : Bool) : refold behind t = t := by
  induction t generalizing behind with
  | nil => rfl
  | cons c t ih =>
    obtain ⟨other, rest⟩ := not_or.1 (mt List.mem_cons.2 free)
    rw [refold_of_ne (Ne.symm other), ih rest]

/-- What comes back are characters of the text, and spaces and line feeds. -/
theorem mem_refold (member : c ∈ refold behind t) :
    (c ∈ t ∧ c ≠ nextLineMark) ∨ c = Code.space ∨ c = Code.newline := by
  induction t generalizing behind with
  | nil => cases member
  | cons x t ih =>
    have widen (known : (c ∈ t ∧ c ≠ nextLineMark) ∨ c = Code.space ∨ c = Code.newline) :
        (c ∈ x :: t ∧ c ≠ nextLineMark) ∨ c = Code.space ∨ c = Code.newline :=
      known.imp_left fun h => ⟨List.mem_cons_of_mem x h.1, h.2⟩
    unfold refold at member
    split at member
    · split at member
      · rcases List.mem_cons.1 member with rfl | later
        · exact .inr (.inr rfl)
        · exact widen (ih later)
      · split at member
        · exact widen (ih member)
        · rcases List.mem_cons.1 member with rfl | later
          · exact .inr (.inl rfl)
          · exact widen (ih later)
    case isFalse other =>
      rcases List.mem_cons.1 member with rfl | later
      · exact .inl ⟨List.mem_cons_self, other⟩
      · exact widen (ih later)

theorem nextLineMark_not_mem_refold (behind : Bool) (t : Text) : nextLineMark ∉ refold behind t := by
  intro member
  rcases mem_refold member with ⟨-, other⟩ | space | newline
  · exact other rfl
  · exact absurd space (by decide)
  · exact absurd newline (by decide)

/-- **A text comes back unless it holds the mark.** -/
theorem refold_eq_iff : refold false t = t ↔ nextLineMark ∉ t := by
  constructor
  · intro same
    rw [← same]
    exact nextLineMark_not_mem_refold false t
  · intro free
    exact refold_eq_self free false

/-- Something comes back of every text. -/
theorem refold_ne_nil (filled : t ≠ []) : refold false t ≠ [] := by
  induction t with
  | nil => exact absurd rfl filled
  | cons x t ih =>
    unfold refold
    split
    · rw [if_neg Bool.false_ne_true]
      split
      case isTrue ends =>
        cases t with
        | nil => exact absurd ends (by decide)
        | cons y t =>
          unfold refold
          split <;> simp
      case isFalse => exact List.cons_ne_nil _ _
    · exact List.cons_ne_nil _ _

end Refold

section Reread

variable {t : Text} {c : Code}

/-- What is read of a written text: only between single quotes it may be another one. -/
def reread (t : Text) : Text :=
  if styleOf t = .single then refold false t else t

theorem reread_ne_nil (filled : t ≠ []) : reread t ≠ [] := by
  unfold reread
  split
  · exact refold_ne_nil filled
  · exact filled

theorem mem_reread (member : c ∈ reread t) : c ∈ t ∨ c = Code.space ∨ c = Code.newline := by
  unfold reread at member
  split at member
  · exact (mem_refold member).imp_left And.left
  · exact .inl member

/-- A text with the mark is written between single quotes if all of it can be seen and no space
stands beside a line end. -/
theorem styleOf_eq_single_of_mem (mark : nextLineMark ∈ t) :
    styleOf t = .single ↔ allowsSingle t = true := by
  have line : t.any isLineEnd = true := List.any_eq_true.2 ⟨nextLineMark, mark, rfl⟩
  have quoted : allowsPlain t = false := by
    simp [allowsPlain, line]
  unfold styleOf
  rw [quoted, Bool.false_and, if_neg Bool.false_ne_true]
  cases allowsSingle t <;> simp

/-- **A text comes back unless it holds the mark and is written between single quotes.** -/
theorem reread_eq_iff : reread t = t ↔ (nextLineMark ∈ t → allowsSingle t = false) := by
  unfold reread
  split
  case isTrue single =>
    rw [refold_eq_iff]
    constructor
    · intro free mark
      exact absurd mark free
    · intro double mark
      rw [styleOf_eq_single_of_mem mark, double mark] at single
      exact absurd single Bool.false_ne_true
  case isFalse other =>
    refine iff_of_true rfl fun mark => ?_
    rw [styleOf_eq_single_of_mem mark] at other
    exact eq_false_of_ne_true other

end Reread

section Adjacent

variable {s t u : Text} {a b : Code}

theorem not_hasSpaceAtLineEnd_append (free : hasSpaceAtLineEnd (s ++ t) = false) :
    hasSpaceAtLineEnd t = false := by
  induction s with
  | nil => exact free
  | cons x s ih =>
    refine ih ?_
    cases rest : s ++ t with
    | nil => rfl
    | cons y u =>
      rw [List.cons_append, rest, hasSpaceAtLineEnd, Bool.or_eq_false_iff] at free
      exact free.2

/-- No line ends behind a space. -/
theorem stopsAt_isLineEnd_of_free (free : hasSpaceAtLineEnd (s ++ t) = false) (filled : s ≠ [])
    (spaces : ∀ x ∈ s, x = Code.space) : StopsAt isLineEnd t := by
  intro b first
  obtain ⟨u, rfl⟩ := List.head?_eq_some_iff.1 first
  obtain ⟨s, a, rfl⟩ := List.eq_nil_or_concat s |>.resolve_left filled
  have last : a = Code.space := spaces a (by simp)
  rw [List.concat_eq_append, List.append_assoc] at free
  have pair := not_hasSpaceAtLineEnd_append free
  rw [List.singleton_append, hasSpaceAtLineEnd, last] at pair
  simp only [beq_self_eq_true, Bool.true_and, Bool.or_eq_false_iff] at pair
  exact pair.1.1

/-- No space is at the start of a line. -/
theorem stopsAt_space_of_free (free : hasSpaceAtLineEnd (s ++ t) = false) (filled : s ≠ [])
    (ends : ∀ x ∈ s, isLineEnd x = true) : StopsAt (· == Code.space) t := by
  intro b first
  obtain ⟨u, rfl⟩ := List.head?_eq_some_iff.1 first
  obtain ⟨s, a, rfl⟩ := List.eq_nil_or_concat s |>.resolve_left filled
  have last : isLineEnd a = true := ends a (by simp)
  rw [List.concat_eq_append, List.append_assoc] at free
  have pair := not_hasSpaceAtLineEnd_append free
  rw [List.singleton_append, hasSpaceAtLineEnd, last] at pair
  simp only [Bool.true_and, Bool.or_eq_false_iff] at pair
  exact pair.1.2

end Adjacent

section Written

variable {indent column fuel : Nat} {first : Bool} {t r : Text} {x : Code}

/-- What can be seen and is no blank stands for itself at the start of a line. -/
theorem isShown_of_isVisible (visible : isVisible x = true) (filled : x ≠ Code.space)
    (inside : isLineEnd x = false) : isShown x = true := by
  refine isShown_of_forall_ne fun g member => ?_
  rintro rfl
  simp only [List.mem_cons, List.not_mem_nil, or_false] at member
  rcases member with rfl | rfl | rfl | rfl | rfl | rfl | rfl | rfl
  · exact absurd visible (by decide)
  · exact filled rfl
  · exact absurd visible (by decide)
  · exact absurd inside (by decide)
  · exact absurd visible (by decide)
  all_goals exact absurd inside (by decide)

/-- A run of spaces is written as it is, or a lone space as the end of a wide line. -/
theorem foldedFrom_spaces (twice : Code → Bool) {s u : Text} (filled : s ≠ [])
    (spaces : ∀ x ∈ s, x = Code.space) (stops : StopsAt (· == Code.space) u) :
    foldedFrom twice indent (fuel + 1) first column (s ++ u) =
      if s.length = 1 && lineWidth < column && !first && u != [] then
        nextLine indent ++ foldedFrom twice indent fuel false indent u
      else s ++ foldedFrom twice indent fuel false (column + s.length) u := by
  obtain ⟨x, s, rfl⟩ := List.exists_cons_of_ne_nil filled
  have members : ∀ y ∈ x :: s, (y == Code.space) = true := fun y member => by
    simpa using spaces y member
  rw [List.cons_append, foldedFrom, if_pos (spaces x List.mem_cons_self)]
  dsimp only
  rw [← List.cons_append, takeWhile_append_of_stopsAt members stops,
    dropWhile_append_of_stopsAt members stops]

/-- Line ends are written as they are, the first one twice if it is a line feed. -/
theorem foldedFrom_ends (twice : Code → Bool) {es u : Text} (end_ : isLineEnd x = true)
    (ends : ∀ y ∈ es, isLineEnd y = true) (stops : StopsAt isLineEnd u) :
    foldedFrom twice indent (fuel + 1) first column (x :: es ++ u) =
      (if x = Code.newline then [Code.newline] else []) ++ x :: es ++ Text.run Code.space indent ++
        foldedFrom twice indent fuel false indent u := by
  have members : ∀ y ∈ x :: es, isLineEnd y = true := List.forall_mem_cons.2 ⟨end_, ends⟩
  have filled : x ≠ Code.space := by
    rintro rfl
    exact absurd end_ (by decide)
  rw [List.cons_append, foldedFrom, if_neg filled, if_pos end_]
  dsimp only
  rw [← List.cons_append, takeWhile_append_of_stopsAt members stops,
    dropWhile_append_of_stopsAt members stops]

/-- Any other character is written as it is, or twice. -/
theorem foldedFrom_shown (twice : Code → Bool) (filled : x ≠ Code.space)
    (inside : isLineEnd x = false) :
    foldedFrom twice indent (fuel + 1) first column (x :: t) =
      (if twice x then [x, x] else [x]) ++
        foldedFrom twice indent fuel false (column + if twice x then 2 else 1) t := by
  rw [foldedFrom, if_neg filled, inside, if_neg Bool.false_ne_true]
  split <;> rfl

/-- The written form of a text that begins with no blank begins with the text's first character. -/
theorem firstOr_foldedFrom (twice : Code → Bool) (spaces : StopsAt (· == Code.space) t)
    (ends : StopsAt isLineEnd t) (enough : t.length < fuel) (u : Text) :
    firstOr (foldedFrom twice indent fuel first column t ++ u) = firstOr (t ++ u) := by
  obtain ⟨fuel, rfl⟩ := Nat.exists_eq_succ_of_ne_zero (Nat.ne_zero_of_lt enough)
  cases t with
  | nil => rfl
  | cons x t =>
    have filled : x ≠ Code.space := by simpa using spaces x rfl
    have inside : isLineEnd x = false := ends x rfl
    rw [foldedFrom_shown twice filled inside]
    split <;> rfl

/-- Behind blanks, something that is shown follows: the rest of the text or the closing quote. -/
theorem isShown_firstOr_foldedFrom (spaces : StopsAt (· == Code.space) t)
    (ends : StopsAt isLineEnd t) (visible : ∀ x ∈ t, isVisible x = true) (enough : t.length < fuel)
    (indent column : Nat) (r : Text) :
    isShown (firstOr (foldedFrom (· == Code.apostrophe) indent fuel false column t ++
      [Code.apostrophe] ++ r)) = true := by
  rw [List.append_assoc, firstOr_foldedFrom _ spaces ends enough]
  cases t with
  | nil => rfl
  | cons x t =>
    show isShown x = true
    exact isShown_of_isVisible (visible x List.mem_cons_self) (by simpa using spaces x rfl)
      (ends x rfl)

/-- A visible character that is no blank is read as it is; an apostrophe is written twice. -/
theorem scans_visible {w u : Text} (h : Scans false w u r) (shown : isShown x = true) :
    Scans false ((if x == Code.apostrophe then [x, x] else [x]) ++ w) (x :: u) r := by
  by_cases apostrophe : x = Code.apostrophe
  · subst apostrophe
    refine scans_piece (e := [Code.apostrophe, Code.apostrophe]) (p := [Code.apostrophe]) h rfl
      (by simp) fun c here => ⟨c.skip 2, ?_, by rw [Cursor.rest_skip, here]; rfl⟩
    unfold piece?
    rw [here]
    rfl
  · rw [if_neg (by simpa using apostrophe)]
    by_cases inner : isInner x = true
    · exact scans_inner h inner
    · have sign : x = Code.quote ∨ x = Code.backslash := by
        rw [isShown, Bool.not_eq_true'] at shown
        simpa [isInner, shown, apostrophe, or_iff_not_imp_left] using inner
      rcases sign with rfl | rfl
      · refine scans_piece (e := [Code.quote]) (p := [Code.quote]) h rfl (by simp)
          fun c here => ⟨c.next, ?_, by rw [Cursor.rest_next, here]; rfl⟩
        unfold piece?
        rw [here]
        rfl
      · refine scans_piece (e := [Code.backslash]) (p := [Code.backslash]) h rfl (by simp)
          fun c here => ⟨c.next, ?_, by rw [Cursor.rest_next, here]; rfl⟩
        unfold piece?
        rw [here]
        rfl

/-- However a text is broken into lines between single quotes, it is read with its line ends folded
anew. -/
def Refolds (indent fuel : Nat) (r t : Text) : Prop :=
  ∀ (first : Bool) (column : Nat),
    Scans false (foldedFrom (· == Code.apostrophe) indent fuel first column t ++ [Code.apostrophe])
      (refold false t) r

theorem refolds_nil (apart : firstOr r ≠ Code.apostrophe) : Refolds indent (fuel + 1) r [] :=
  fun _ _ => (goes_closing false r).scans rfl fun c here => by
    unfold piece?
    rw [here]
    show (if firstOr r = Code.apostrophe then _ else none) = none
    rw [if_neg apart]

/-- Spaces are read as they are, or as the space that the end of a wide line stands for. -/
theorem refolds_spaces {s u : Text} (rest : Refolds indent fuel r u) (indented : 0 < indent)
    (filled : s ≠ []) (spaces : ∀ x ∈ s, x = Code.space) (stops : StopsAt (· == Code.space) u)
    (shown : ∀ column, isShown (firstOr
      (foldedFrom (· == Code.apostrophe) indent fuel false column u ++ [Code.apostrophe] ++ r)) =
        true) :
    Refolds indent (fuel + 1) r (s ++ u) := by
  intro first column
  have run : s = Text.run Code.space s.length := List.eq_replicate_of_mem spaces
  have longer := List.length_pos_iff.2 filled
  have made : refold false (s ++ u) = s ++ refold false u := by rw [run, refold_spaces]
  rw [foldedFrom_spaces _ filled spaces stops, made]
  split
  case isTrue folds =>
    have lone : s = [Code.space] := by
      simp only [Bool.and_eq_true, decide_eq_true_eq] at folds
      rw [run, folds.1.1.1]
      rfl
    rw [lone, List.append_assoc]
    have line := goes_lines (x := Code.newline) (rest false indent) rfl (List.forall_mem_nil _)
      indented (shown indent)
    exact line.scans_of_gap (by simp) rfl
  case isFalse =>
    have goes := goes_spaces (rest false (column + s.length)) longer (shown _)
    rw [← run] at goes
    rw [List.append_assoc]
    refine goes.scans_of_gap (by simp [filled]) ?_
    rw [run, firstOr_run_append longer]
    rfl

/-- Line ends are read as what they are folded to. -/
theorem refolds_ends {es u : Text} (rest : Refolds indent fuel r u) (indented : 0 < indent)
    (end_ : isLineEnd x = true) (ends : ∀ y ∈ es, isLineEnd y = true) (stops : StopsAt isLineEnd u)
    (shown : isShown (firstOr (foldedFrom (· == Code.apostrophe) indent fuel false indent u ++
      [Code.apostrophe] ++ r)) = true) :
    Refolds indent (fuel + 1) r (x :: es ++ u) := by
  intro first column
  obtain ⟨y, ys, written, first_, further, made⟩ := refold_lines end_ ends stops
  rw [foldedFrom_ends _ end_ ends stops, written, made, List.append_assoc]
  refine (goes_lines (rest false indent) first_ further indented shown).scans_of_gap (by simp) ?_
  have break_ := isBreak_of_isLineEnd first_
  show isGap y = true
  simp [isGap, isSpaceOrEnd, isBreakOrEnd, break_]

theorem refolds_shown (rest : Refolds indent fuel r t) (visible : isVisible x = true)
    (filled : x ≠ Code.space) (inside : isLineEnd x = false) :
    Refolds indent (fuel + 1) r (x :: t) := by
  intro first column
  have other : x ≠ nextLineMark := by
    rintro rfl
    exact absurd inside (by decide)
  rw [foldedFrom_shown _ filled inside, refold_of_ne other, inside, List.append_assoc]
  exact scans_visible (rest false _) (isShown_of_isVisible visible filled inside)

/-- **A text between single quotes is read with its line ends folded anew.** -/
theorem scans_foldedFrom (indented : 0 < indent) (apart : firstOr r ≠ Code.apostrophe) (fuel : Nat) :
    ∀ t : Text, t.length < fuel → (∀ x ∈ t, isVisible x = true) → hasSpaceAtLineEnd t = false →
      Refolds indent fuel r t := by
  induction fuel with
  | zero => exact fun t enough => absurd enough (Nat.not_lt_zero _)
  | succ fuel ih =>
    intro t enough visible free
    -- what stands behind a run of blanks, which the induction goes on with
    have behind {s u : Text} (split : t = s ++ u) (filled : s ≠ []) :
        u.length < fuel ∧ (∀ x ∈ u, isVisible x = true) ∧ hasSpaceAtLineEnd u = false := by
      subst split
      have longer := List.length_pos_iff.2 filled
      rw [List.length_append] at enough
      exact ⟨by omega, fun x member => visible x (List.mem_append_right _ member),
        not_hasSpaceAtLineEnd_append free⟩
    cases t with
    | nil => exact refolds_nil apart
    | cons x t =>
      by_cases space : x = Code.space
      · obtain ⟨s, u, split, members, stops, took, -⟩ := exists_run (· == Code.space) (x :: t)
        have filled : s ≠ [] := by
          rintro rfl
          simp [space] at took
        have spaces : ∀ y ∈ s, y = Code.space := fun y member => by simpa using members y member
        obtain ⟨less, visible_u, free_u⟩ := behind split filled
        rw [split] at free ⊢
        exact refolds_spaces (ih u less visible_u free_u) indented filled spaces stops fun column =>
          isShown_firstOr_foldedFrom stops (stopsAt_isLineEnd_of_free free filled spaces) visible_u
            less indent column r
      by_cases end_ : isLineEnd x = true
      · obtain ⟨es, u, rfl, ends, stops, -, -⟩ := exists_run isLineEnd t
        obtain ⟨less, visible_u, free_u⟩ := behind (s := x :: es) rfl (List.cons_ne_nil x es)
        rw [← List.cons_append] at free ⊢
        have spaces := stopsAt_space_of_free free (List.cons_ne_nil x es)
          (List.forall_mem_cons.2 ⟨end_, ends⟩)
        exact refolds_ends (ih u less visible_u free_u) indented end_ ends stops
          (isShown_firstOr_foldedFrom spaces stops visible_u less indent indent r)
      · obtain ⟨less, visible_t, free_t⟩ := behind (s := [x]) rfl (List.cons_ne_nil x [])
        exact refolds_shown (ih t less visible_t free_t) (visible x List.mem_cons_self) space
          (Bool.eq_false_iff.2 end_)

end Written

end EditorText.Yaml
