import EditorText.Proofs.Yaml.Refolding
import EditorText.Yaml.PlainScalar

/-!
# Reading without quotes

A text without quotes is read word by word. The line that it stands on is ended at lone spaces, each
of which comes back, and by what stands behind the text: a line that is indented less.
-/

set_option autoImplicit false

namespace EditorText.Yaml

/-- A character of a word: it can be seen, and it is neither a space nor the end of a line. -/
def isSolid (x : Code) : Bool :=
  isVisible x && x != Code.space && !isLineEnd x

/-- A token or the end of the document, but no blank and no comment. -/
structure Begins (r : Text) : Prop where
  filled : firstOr r ≠ Code.space
  inLine : isInLine (firstOr r) = true
  code : firstOr r ≠ Code.hash

/-- What may stand behind the indentation of a line. It makes no separator of documents. -/
structure Follows (k : Nat) (r : Text) : Prop extends Begins r where
  apart : (⟨Text.run Code.space k ++ r, 0, 0, 0⟩ : Cursor).atSeparator = false

/-- A text that can stand without quotes, from any of its words on. -/
structure Bare (t : Text) : Prop where
  visible : ∀ x ∈ t, isVisible x = true
  inLine : ∀ x ∈ t, isLineEnd x = false
  first : t.head? ≠ some Code.space
  last : t.getLast? ≠ some Code.space
  signs : hasSignBehind Code.space t = false

section Solid

variable {x : Code} {s t u : Text}

theorem isSolid_iff : isSolid x = true ↔
    isVisible x = true ∧ x ≠ Code.space ∧ isLineEnd x = false := by
  simp [isSolid, and_assoc]

theorem isShown_of_isSolid (solid : isSolid x = true) : isShown x = true := by
  obtain ⟨visible, filled, inside⟩ := isSolid_iff.1 solid
  exact isShown_of_isVisible visible filled inside

theorem isGap_of_isSolid (solid : isSolid x = true) : isGap x = false := by
  simpa [isShown] using isShown_of_isSolid solid

theorem isInLine_of_isSolid (solid : isSolid x = true) : isInLine x = true := by
  obtain ⟨-, -, -, inside⟩ := isShown_iff.1 (isShown_of_isSolid solid)
  have visible := (isSolid_iff.1 solid).1
  have marked : x ≠ byteOrderMark := by
    rintro rfl
    exact absurd visible (by decide)
  simp [isInLine, inside, marked]

/-- A word is taken up to a place where no word goes on. -/
theorem plainRun_append (solid : ∀ x ∈ s, isSolid x = true) (last : s.getLast? ≠ some Code.colon)
    (stop : plainRun false t = []) : plainRun false (s ++ t) = s := by
  induction s with
  | nil => exact stop
  | cons x s ih =>
    obtain ⟨first, others⟩ := List.forall_mem_cons.1 solid
    have gap := isGap_of_isSolid first
    have colon : (x == Code.colon && endsColon false (firstOr (s ++ t))) = false := by
      cases s with
      | nil =>
        have other : x ≠ Code.colon := by simpa using last
        simp [other]
      | cons y s =>
        have next : isGap y = false := isGap_of_isSolid (others y List.mem_cons_self)
        simp [firstOr, endsColon, next]
    have rest : s.getLast? ≠ some Code.colon := by
      cases s with
      | nil => simp
      | cons y s => simpa [List.getLast?_cons_cons] using last
    rw [List.cons_append, plainRun, gap, colon, ih others rest]
    rfl

theorem plainRun_of_isGap (blank : isGap x = true) (t : Text) : plainRun false (x :: t) = [] := by
  rw [plainRun, blank]
  rfl

end Solid

section Spaces

variable {n k : Nat} {r u : Text}

theorem Begins.isBreak_eq_false (begins : Begins r) : isBreak (firstOr r) = false := by
  have inLine := begins.inLine
  simp only [isInLine, Bool.and_eq_true, Bool.not_eq_true'] at inLine
  exact inLine.1

theorem Begins.stops (begins : Begins r) : StopsAt (· == Code.space) r := by
  intro x first
  cases r with
  | nil => cases first
  | cons y r =>
    obtain rfl : y = x := by simpa using first
    simpa [firstOr] using begins.filled

theorem Begins.run_spaces (begins : Begins r) (n i l j : Nat) :
    (⟨Text.run Code.space n ++ r, i, l, j⟩ : Cursor).run (· == Code.space) =
      Text.run Code.space n :=
  Cursor.run_eq rfl (fun x member => by rw [List.eq_of_mem_replicate member]; rfl) begins.stops

/-- Spaces in a line are passed. -/
theorem plainSpaces_of_spaces (begins : Begins u) (i l j : Nat) :
    plainSpaces ⟨Text.run Code.space n ++ u, i, l, j⟩ =
      (Text.run Code.space n, ⟨u, i + n, l, j + n⟩, false) := by
  have inside := begins.isBreak_eq_false
  have first : (⟨u, i + n, l, j + n⟩ : Cursor).first = firstOr u := rfl
  unfold plainSpaces
  rw [begins.run_spaces]
  dsimp only
  rw [Text.length_run, Cursor.skip_spaces, first, inside, if_neg Bool.false_ne_true]

/-- The indentation of a line holds no further line ends. -/
theorem plainBreaks_of_spaces (begins : Begins r) {fuel : Nat} (enough : k < fuel) (i l j : Nat) :
    plainBreaks fuel ⟨Text.run Code.space k ++ r, i, l, j⟩ = (some [], ⟨r, i + k, l, j + k⟩) := by
  induction k generalizing fuel i j with
  | zero =>
    obtain ⟨fuel, rfl⟩ := Nat.exists_eq_succ_of_ne_zero (Nat.ne_zero_of_lt enough)
    have first : (⟨r, i, l, j⟩ : Cursor).first = firstOr r := rfl
    show plainBreaks (fuel + 1) ⟨r, i, l, j⟩ = _
    rw [plainBreaks, first, if_neg begins.filled, begins.isBreak_eq_false, if_neg Bool.false_ne_true]
    rfl
  | succ k ih =>
    obtain ⟨fuel, rfl⟩ := Nat.exists_eq_succ_of_ne_zero (Nat.ne_zero_of_lt enough)
    have step : plainBreaks (fuel + 1) ⟨Text.run Code.space (k + 1) ++ r, i, l, j⟩ =
        plainBreaks fuel ⟨Text.run Code.space k ++ r, i + 1, l, j + 1⟩ := rfl
    rw [step, ih (Nat.lt_of_succ_lt_succ enough)]
    simp only [Prod.mk.injEq, Cursor.mk.injEq, true_and]
    omega

/-- A line end with the indentation behind it counts as a space. -/
theorem plainSpaces_of_line (follows : Follows k r) {c : Cursor}
    (here : c.rest = Code.newline :: (Text.run Code.space k ++ r)) :
    ∃ i l, plainSpaces c = ([Code.space], ⟨r, i, l, k⟩, true) := by
  have none : c.run (· == Code.space) = [] :=
    Cursor.run_eq (s := []) here (by simp) fun x first => by
      obtain rfl : Code.newline = x := by simpa using first
      rfl
  obtain ⟨i, l, line⟩ := Cursor.lineBreak_newline here
  have apart : (⟨Text.run Code.space k ++ r, i, l, 0⟩ : Cursor).atSeparator = false := by
    rw [Cursor.atSeparator_eq]
    exact follows.apart
  have enough : k < (Text.run Code.space k ++ r).length + 1 := by
    simp only [Text.run, List.length_append, List.length_replicate]
    omega
  refine ⟨i + k, l, ?_⟩
  unfold plainSpaces
  rw [none]
  dsimp only
  have still : c.skip ([] : Text).length = c := rfl
  have break_ : isBreak c.first = true := by
    rw [Cursor.first_eq here]
    rfl
  rw [still, break_, if_pos rfl, line]
  dsimp only
  rw [apart, if_neg Bool.false_ne_true,
    plainBreaks_of_spaces follows.toBegins enough]
  simp [foldBreaks]

end Spaces

section Words

variable {indent k : Nat} {m : Int} {r t u s : Text}

/-- The words of a text are written as they are. -/
theorem exists_foldedFrom_word (indent : Nat) (solid : ∀ x ∈ s, isSolid x = true) (fuel : Nat)
    (first : Bool) (column : Nat) (enough : (s ++ t).length < fuel) :
    ∃ fuel' first' column', t.length < fuel' ∧
      foldedFrom (fun _ => false) indent fuel first column (s ++ t) =
        s ++ foldedFrom (fun _ => false) indent fuel' first' column' t := by
  induction s generalizing fuel first column with
  | nil => exact ⟨fuel, first, column, enough, rfl⟩
  | cons x s ih =>
    obtain ⟨fuel, rfl⟩ := Nat.exists_eq_succ_of_ne_zero (Nat.ne_zero_of_lt enough)
    obtain ⟨solid_x, others⟩ := List.forall_mem_cons.1 solid
    obtain ⟨-, filled, inside⟩ := isSolid_iff.1 solid_x
    obtain ⟨fuel', first', column', room, written⟩ :=
      ih others fuel false (column + 1) (Nat.lt_of_succ_lt_succ enough)
    refine ⟨fuel', first', column', room, ?_⟩
    rw [List.cons_append, foldedFrom_shown _ filled inside]
    exact congrArg (x :: ·) written

theorem hasSignBehind_append {x : Code} (free : hasSignBehind x (s ++ t) = false) :
    ∃ y, hasSignBehind y t = false ∧ (s.getLast? = some y ∨ s = []) := by
  induction s generalizing x with
  | nil => exact ⟨x, free, .inr rfl⟩
  | cons y s ih =>
    rw [List.cons_append, hasSignBehind, Bool.or_eq_false_iff] at free
    obtain ⟨z, rest, last | rfl⟩ := ih free.2
    · refine ⟨z, rest, .inl ?_⟩
      rw [List.getLast?_cons, last]
      rfl
    · exact ⟨y, free.2, .inl rfl⟩

/-- No colon stands before a gap. -/
theorem getLast?_ne_colon {x : Code} (free : hasSignBehind x (s ++ t) = false)
    (gap : isGap (firstOr t) = true) : s.getLast? ≠ some Code.colon := by
  induction s generalizing x with
  | nil => simp
  | cons y s ih =>
    rw [List.cons_append, hasSignBehind, Bool.or_eq_false_iff, Bool.or_eq_false_iff] at free
    cases s with
    | nil =>
      have other : (y == Code.colon && isGap (firstOr t)) = false := free.1.1
      rw [gap, Bool.and_true] at other
      simpa using other
    | cons z s =>
      rw [List.getLast?_cons_cons]
      exact ih free.2

/-- Behind a word and the spaces after it, a bare text goes on with another word. -/
theorem Bare.rest {z : Text} (bare : Bare (s ++ (z ++ t))) (filled : z ≠ [])
    (spaces : ∀ x ∈ z, x = Code.space) (stops : StopsAt (· == Code.space) t) : Bare t ∧ t ≠ [] := by
  have member : ∀ x ∈ t, x ∈ s ++ (z ++ t) := fun x inside =>
    List.mem_append_right _ (List.mem_append_right _ inside)
  obtain ⟨z, a, rfl⟩ := List.eq_nil_or_concat z |>.resolve_left filled
  obtain rfl : a = Code.space := spaces a (by simp)
  have going : t ≠ [] := by
    rintro rfl
    refine bare.last ?_
    rw [List.concat_eq_append, List.append_nil, ← List.append_assoc, List.getLast?_concat]
  refine ⟨⟨fun x inside => bare.visible x (member x inside),
    fun x inside => bare.inLine x (member x inside), ?_, ?_, ?_⟩, going⟩
  · intro first
    exact absurd (stops _ first) (by decide)
  · have last := bare.last
    rw [List.getLast?_append, List.getLast?_append] at last
    intro space
    rw [space] at last
    exact last rfl
  · have signs := bare.signs
    rw [← List.append_assoc] at signs
    obtain ⟨y, rest, last | none⟩ := hasSignBehind_append signs
    · rw [List.concat_eq_append, ← List.append_assoc, List.getLast?_concat] at last
      obtain rfl := Option.some.inj last
      exact rest
    · simp at none

/-- A bare text begins with a word, which is the last one or has spaces and a bare text behind it. -/
theorem Bare.cases (bare : Bare t) (filled : t ≠ []) :
    ∃ s, s ≠ [] ∧ (∀ x ∈ s, isSolid x = true) ∧ s.getLast? ≠ some Code.colon ∧
      (t = s ∨ ∃ z u, t = s ++ (z ++ u) ∧ z ≠ [] ∧ (∀ x ∈ z, x = Code.space) ∧ Bare u ∧ u ≠ []) := by
  obtain ⟨s, v, rfl, solid, stops, -, -⟩ := exists_run isSolid t
  have word : s ≠ [] := by
    rintro rfl
    obtain ⟨x, v, rfl⟩ := List.exists_cons_of_ne_nil filled
    have solid_x : isSolid x = true := isSolid_iff.2 ⟨bare.visible x List.mem_cons_self,
      fun space => bare.first (by rw [space]; rfl), bare.inLine x List.mem_cons_self⟩
    have dull : isSolid x = false := stops x rfl
    rw [solid_x] at dull
    cases dull
  cases v with
  | nil =>
    exact ⟨s, word, solid, getLast?_ne_colon bare.signs rfl, .inl (List.append_nil s)⟩
  | cons x v =>
    have member : x ∈ s ++ x :: v := List.mem_append_right _ List.mem_cons_self
    have space : x = Code.space := by
      have dull : isSolid x = false := stops x rfl
      simpa [isSolid, bare.visible x member, bare.inLine x member] using dull
    obtain ⟨z, u, split, members, stops, took, -⟩ := exists_run (· == Code.space) (x :: v)
    have gap : z ≠ [] := by
      rintro rfl
      simp [space] at took
    rw [split] at bare ⊢
    have spaces : ∀ y ∈ z, y = Code.space := fun y inside => by simpa using members y inside
    have blank : isGap (firstOr (z ++ u)) = true := by
      rw [← split, space]
      rfl
    exact ⟨s, word, solid, getLast?_ne_colon bare.signs blank,
      .inr ⟨z, u, rfl, gap, spaces, bare.rest gap spaces stops⟩⟩

/-- A bare text begins with a character of a word, which is no hash sign. -/
theorem Bare.firstOr (bare : Bare t) (filled : t ≠ []) :
    isSolid (firstOr t) = true ∧ firstOr t ≠ Code.hash := by
  obtain ⟨x, t, rfl⟩ := List.exists_cons_of_ne_nil filled
  refine ⟨isSolid_iff.2 ⟨bare.visible x List.mem_cons_self,
    fun space => bare.first (by rw [← space]; rfl), bare.inLine x List.mem_cons_self⟩, ?_⟩
  rintro hash
  have hash : x = Code.hash := hash
  have signs := bare.signs
  rw [hasSignBehind, hash] at signs
  simp only [Bool.or_eq_false_iff] at signs
  exact absurd signs.1.2 (by decide)

theorem begins_of_isSolid (solid : isSolid (firstOr t) = true) (code : firstOr t ≠ Code.hash) :
    Begins t :=
  ⟨(isSolid_iff.1 solid).2.1, isInLine_of_isSolid solid, code⟩

theorem Bare.stops (bare : Bare t) : StopsAt (· == Code.space) t := by
  intro x head
  have other := bare.first
  rw [head] at other
  simpa using other

/-- However a bare text is broken into lines, a word stands at its start. -/
theorem Bare.begins_folded (bare : Bare t) (filled : t ≠ []) {fuel : Nat} (enough : t.length < fuel)
    (indent : Nat) (first : Bool) (column : Nat) (w : Text) :
    Begins (foldedFrom (fun _ => false) indent fuel first column t ++ w) := by
  have word := bare.firstOr filled
  have start : Yaml.firstOr (foldedFrom (fun _ => false) indent fuel first column t ++ w) =
      Yaml.firstOr t := by
    rw [firstOr_foldedFrom _ bare.stops
      (fun x head => bare.inLine x (List.mem_of_mem_head? head)) enough]
    obtain ⟨x, t, rfl⟩ := List.exists_cons_of_ne_nil filled
    rfl
  exact begins_of_isSolid (by rw [start]; exact word.1) (by rw [start]; exact word.2)

theorem Begins.follows (begins : Begins t) (indented : 0 < k) : Follows k t where
  toBegins := begins
  apart := by
    have first := firstOr_run_append indented t
    refine atSeparator_of_ne ?_ ?_ <;>
    · show firstOr (Text.run Code.space k ++ t) ≠ _
      rw [first]
      decide

/-- A word is taken, and spaces or line ends after it tell whether the text goes on. -/
theorem plainFrom_word {v : Text} (solid : ∀ x ∈ s, isSolid x = true) (filled : s ≠ [])
    (last : s.getLast? ≠ some Code.colon) (stop : plainRun false v = [])
    (code : firstOr s ≠ Code.hash) (spaces : Text) (ended : Bool) (fuel i l j : Nat)
    {further : Text} {after : Cursor} {ended' : Bool}
    (gap : plainSpaces ⟨v, i + s.length, l, j + s.length⟩ = (further, after, ended')) :
    plainFrom false m spaces ended (fuel + 1) ⟨s ++ v, i, l, j⟩ =
      if further = [] ∨ after.first = Code.hash ∨ (!false ∧ (after.column : Int) < m) then
        (spaces ++ s, after, ended')
      else
        let (more, last, ended) := plainFrom false m further ended' fuel after
        (spaces ++ s ++ more, last, ended) := by
  have inLine : ∀ x ∈ s, isInLine x = true := fun x member => isInLine_of_isSolid (solid x member)
  obtain ⟨x, s, rfl⟩ := List.exists_cons_of_ne_nil filled
  have first : (⟨x :: s ++ v, i, l, j⟩ : Cursor).first ≠ Code.hash := code
  have run : plainRun false (⟨x :: s ++ v, i, l, j⟩ : Cursor).rest = x :: s :=
    plainRun_append solid last stop
  rw [plainFrom, if_neg first, run]
  dsimp only
  rw [Cursor.skip_of_inLine inLine, gap]

/-- A word and the spaces after it are taken, and the reader goes on. -/
theorem plainFrom_word_more {v w z more : Text} {i' l' j' rounds : Nat} {ended' : Bool}
    {last : Cursor} (solid : ∀ x ∈ s, isSolid x = true) (filled : s ≠ []) (colon : s.getLast? ≠ some Code.colon)
    (stop : plainRun false v = []) (code : firstOr s ≠ Code.hash) (spaces : Text) (ended : Bool)
    (i l j : Nat)
    (passed : plainSpaces ⟨v, i + s.length, l, j + s.length⟩ = (z, ⟨w, i', l', j'⟩, ended'))
    (gap : z ≠ []) (next : firstOr w ≠ Code.hash) (right : m ≤ j')
    (rest : plainFrom false m z ended' rounds ⟨w, i', l', j'⟩ = (more, last, true)) :
    plainFrom false m spaces ended (rounds + 1) ⟨s ++ v, i, l, j⟩ =
      (spaces ++ s ++ more, last, true) := by
  rw [plainFrom_word solid filled colon stop code spaces ended rounds i l j passed, if_neg, rest]
  rintro (none | hash | ⟨-, left⟩)
  · exact gap none
  · exact next hash
  · exact absurd left (Int.not_lt.2 right)

/-- The spaces between two words come back, whether or not the line is ended there. -/
theorem plainSpaces_of_folded {z u w : Text} {fuel : Nat} (indented : 0 < indent) (gap : z ≠ [])
    (blanks : ∀ x ∈ z, x = Code.space) (stops : StopsAt (· == Code.space) u)
    (begins : ∀ column, Begins (foldedFrom (fun _ => false) indent fuel false column u ++ w))
    (first : Bool) (column i l j : Nat) :
    plainRun false (foldedFrom (fun _ => false) indent (fuel + 1) first column (z ++ u) ++ w) = [] ∧
      ∃ column' i' l' j' ended,
        plainSpaces
          ⟨foldedFrom (fun _ => false) indent (fuel + 1) first column (z ++ u) ++ w, i, l, j⟩ =
          (z, ⟨foldedFrom (fun _ => false) indent fuel false column' u ++ w, i', l', j'⟩, ended) ∧
        (foldedFrom (fun _ => false) indent fuel false column' u).length <
          (foldedFrom (fun _ => false) indent (fuel + 1) first column (z ++ u)).length ∧
        (j' = indent ∨ j ≤ j') := by
  have run : z = Text.run Code.space z.length := List.eq_replicate_of_mem blanks
  have longer := List.length_pos_iff.2 gap
  rw [foldedFrom_spaces _ gap blanks stops]
  split
  case isTrue folds =>
    have lone : z = [Code.space] := by
      simp only [Bool.and_eq_true, decide_eq_true_eq] at folds
      rw [run, folds.1.1.1]
      rfl
    obtain ⟨i', l', line⟩ := plainSpaces_of_line ((begins indent).follows indented)
      (c := ⟨Code.newline :: (Text.run Code.space indent ++
        (foldedFrom (fun _ => false) indent fuel false indent u ++ w)), i, l, j⟩) rfl
    rw [lone]
    simp only [nextLine, List.cons_append, List.append_assoc]
    refine ⟨plainRun_of_isGap rfl _, indent, i', l', indent, true, line, ?_, .inl rfl⟩
    simp only [List.length_cons, List.length_append]
    omega
  case isFalse =>
    have line := plainSpaces_of_spaces (n := z.length) (begins (column + z.length)) i l j
    rw [← run] at line
    rw [List.append_assoc]
    refine ⟨?_, _, _, _, _, _, line, by simp [longer], .inr (Nat.le_add_right j z.length)⟩
    obtain ⟨x, z, rfl⟩ := List.exists_cons_of_ne_nil gap
    obtain rfl := blanks x List.mem_cons_self
    exact plainRun_of_isGap rfl _

/-- The last word is taken up to the line end, behind which the next line is indented less. -/
theorem plainFrom_last_word (solid : ∀ x ∈ s, isSolid x = true) (filled : s ≠ [])
    (colon : s.getLast? ≠ some Code.colon) (code : firstOr s ≠ Code.hash) (follows : Follows k r)
    (low : (k : Int) < m) (spaces : Text) (ended : Bool) (rounds i l j : Nat) :
    ∃ i' l', plainFrom false m spaces ended (rounds + 1)
      ⟨s ++ Code.newline :: (Text.run Code.space k ++ r), i, l, j⟩ =
        (spaces ++ s, ⟨r, i', l', k⟩, true) := by
  obtain ⟨i', l', line⟩ := plainSpaces_of_line follows
    (c := ⟨Code.newline :: (Text.run Code.space k ++ r), i + s.length, l, j + s.length⟩) rfl
  refine ⟨i', l', ?_⟩
  rw [plainFrom_word solid filled colon (plainRun_of_isGap rfl _) code spaces ended rounds i l j line,
    if_pos (.inr (.inr ⟨rfl, low⟩))]

/-- **A text without quotes comes back whole.** The reader stops where the next line begins. -/
theorem plainFrom_foldedFrom (indented : 0 < indent) (deep : m ≤ indent) (low : (k : Int) < m)
    (follows : Follows k r) (n : Nat) :
    ∀ (t : Text), t.length ≤ n → Bare t → t ≠ [] →
      ∀ (fuel : Nat) (first : Bool) (column : Nat) (spaces : Text) (ended : Bool)
        (i l j rounds : Nat),
        t.length < fuel → m ≤ j →
        (foldedFrom (fun _ => false) indent fuel first column t).length < rounds →
        ∃ i' l', plainFrom false m spaces ended rounds
          ⟨foldedFrom (fun _ => false) indent fuel first column t ++
            Code.newline :: (Text.run Code.space k ++ r), i, l, j⟩ =
          (spaces ++ t, ⟨r, i', l', k⟩, true) := by
  -- A round takes a whole word, so the induction is on a bound for the length.
  induction n with
  | zero =>
    intro t short _ filled
    exact absurd (List.length_eq_zero_iff.1 (Nat.le_zero.1 short)) filled
  | succ n ih =>
    intro t short bare filled fuel first column spaces ended i l j rounds enough right room
    obtain ⟨rounds, rfl⟩ := Nat.exists_eq_succ_of_ne_zero (Nat.ne_zero_of_lt room)
    have begins := bare.firstOr filled
    obtain ⟨s, word, solid, colon, rfl | ⟨z, u, rfl, gap, blanks, bare_u, filled_u⟩⟩ :=
      bare.cases filled
    · obtain ⟨fuel', first', column', room', written⟩ :=
        exists_foldedFrom_word (t := []) indent solid fuel first column (by simpa using enough)
      obtain ⟨fuel', rfl⟩ := Nat.exists_eq_succ_of_ne_zero (Nat.ne_zero_of_lt room')
      have whole : foldedFrom (fun _ => false) indent fuel first column t = t := by
        rw [List.append_nil] at written
        rw [written]
        exact List.append_nil t
      rw [whole]
      exact plainFrom_last_word solid word colon begins.2 follows low spaces ended rounds i l j
    · obtain ⟨fuel', first', column', room', written⟩ :=
        exists_foldedFrom_word indent solid fuel first column enough
      have hash : firstOr s ≠ Code.hash := by
        obtain ⟨x, s, rfl⟩ := List.exists_cons_of_ne_nil word
        exact begins.2
      have longer := List.length_pos_iff.2 word
      have longer' := List.length_pos_iff.2 gap
      simp only [List.length_append] at short room'
      obtain ⟨fuel', rfl⟩ : ∃ f, fuel' = f + 1 := ⟨fuel' - 1, by omega⟩
      have word_u (column : Nat) := bare_u.begins_folded filled_u (by omega : u.length < fuel')
        indent false column (Code.newline :: (Text.run Code.space k ++ r))
      obtain ⟨stop, column'', i', l', j', ended', passed, fewer, right'⟩ :=
        plainSpaces_of_folded indented gap blanks bare_u.stops word_u first' column' (i + s.length) l
          (j + s.length)
      rw [written, List.length_append] at room
      obtain ⟨i'', l'', more⟩ := ih u (by omega) bare_u filled_u fuel' false column'' z ended'
        i' l' j' rounds (by omega) (by omega) (by omega)
      refine ⟨i'', l'', ?_⟩
      rw [written, List.append_assoc, ← List.append_assoc spaces]
      exact plainFrom_word_more solid word colon stop hash spaces ended i l j passed gap
        (word_u column'').code (by omega) more

end Words

section Style

variable {t : Text}

theorem styleOf_eq_plain (style : styleOf t = .plain) :
    allowsPlain t = true ∧ plainTag t = .text ∧ t ≠ [] := by
  unfold styleOf at style
  split at style
  case isTrue allowed =>
    simp only [Bool.and_eq_true, decide_eq_true_eq] at allowed
    refine ⟨allowed.1, allowed.2, ?_⟩
    rintro rfl
    exact absurd allowed.2 (by decide)
  case isFalse => split at style <;> cases style

theorem styleOf_eq_single (style : styleOf t = .single) :
    (∀ x ∈ t, isVisible x = true) ∧ hasSpaceAtLineEnd t = false := by
  unfold styleOf at style
  split at style
  · cases style
  · split at style
    case isTrue allowed => simpa [allowsSingle] using allowed
    case isFalse => cases style

theorem bare_of_allowsPlain (allowed : allowsPlain t = true) : Bare t := by
  simp only [allowsPlain, Bool.and_eq_true, List.all_eq_true, Bool.not_eq_true', bne_iff_ne,
    List.any_eq_false] at allowed
  obtain ⟨⟨⟨⟨visible, inLine⟩, first⟩, last⟩, signs⟩ := allowed
  refine ⟨visible, fun x member => by simpa using inLine x member, first, last, ?_⟩
  cases t with
  | nil => rfl
  | cons x t =>
    rw [hasSign, Bool.or_eq_false_iff, startsWithSign] at signs
    obtain ⟨start, behind⟩ := signs
    simp only [Bool.or_eq_false_iff] at start
    obtain ⟨⟨⟨start, mark⟩, -⟩, -⟩ := start
    have hash : x ≠ Code.hash := by
      rintro rfl
      exact absurd start (by decide)
    have colon : (x == Code.colon && isGap (firstOr t)) = false := by
      by_cases same : x = Code.colon
      · simpa [same] using mark
      · simp [same]
    simp [hasSignBehind, behind, colon, hash]

/-- The first character begins a plain scalar, with what is written behind it. -/
theorem begins_of_allowsPlain (allowed : allowsPlain t = true) (filled : t ≠ []) {fuel : Nat}
    (enough : t.length < fuel) (indent : Nat) (first : Bool) (column : Nat) (r : Text) :
    ∃ c w, foldedFrom (fun _ => false) indent fuel first column t ++ r = c :: w ∧
      isSolid c = true ∧ startSigns.contains c = false ∧
      (c = Code.question ∨ c = Code.colon ∨ c = Code.dash → isGap (firstOr w) = false) := by
  have bare := bare_of_allowsPlain allowed
  obtain ⟨s, word, solid, -, split⟩ := bare.cases filled
  obtain ⟨v, rfl, gap⟩ : ∃ v, t = s ++ v ∧ isGap (firstOr v) = true := by
    rcases split with rfl | ⟨z, u, rfl, some, blanks, -⟩
    · exact ⟨[], (List.append_nil _).symm, rfl⟩
    · obtain ⟨x, z, rfl⟩ := List.exists_cons_of_ne_nil some
      obtain rfl := blanks x List.mem_cons_self
      exact ⟨_, rfl, rfl⟩
  obtain ⟨fuel', first', column', -, written⟩ :=
    exists_foldedFrom_word indent solid fuel first column enough
  obtain ⟨c, s, rfl⟩ := List.exists_cons_of_ne_nil word
  obtain ⟨solid_c, others⟩ := List.forall_mem_cons.1 solid
  refine ⟨c, s ++ (foldedFrom (fun _ => false) indent fuel' first' column' v ++ r), ?_, solid_c, ?_⟩
  · rw [written, List.append_assoc]
    rfl
  have signs : hasSign (c :: s ++ v) = false := by
    simp only [allowsPlain, Bool.and_eq_true, Bool.not_eq_true'] at allowed
    exact allowed.2
  rw [List.cons_append, hasSign, Bool.or_eq_false_iff, startsWithSign] at signs
  have start := signs.1
  simp only [Bool.or_eq_false_iff] at start
  obtain ⟨⟨⟨start, mark⟩, -⟩, -⟩ := start
  refine ⟨start, fun sign => ?_⟩
  have behind : isGap (firstOr (s ++ v)) = false := by
    rcases sign with rfl | rfl | rfl <;> exact mark
  cases s with
  | nil =>
    rw [List.nil_append, gap] at behind
    cases behind
  | cons y s => exact behind

end Style

end EditorText.Yaml
