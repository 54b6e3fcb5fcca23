import EditorText.Proofs.Yaml.Places
import EditorText.Yaml.Written
import EditorText.Yaml.FlowScalar

/-!
# Reading between quotes

Inside quotes a reader takes characters up to a blank, then blanks with the line ends among them, and
so on up to the closing quote. `Scans` says what it makes of a written text when it stands among
characters, and `Goes` when it stands before a blank or the closing quote. Each way to begin a written
text has one lemma, so that a written text is read by an induction over what was to be written.
-/

set_option autoImplicit false

namespace EditorText.Yaml

/-- A character that stands for itself between quotes of either kind. -/
def isInner (x : Code) : Bool :=
  !(isGap x || x == Code.apostrophe || x == Code.quote || x == Code.backslash)

/-- The quote of a kind. -/
def closing (double : Bool) : Code :=
  if double then Code.quote else Code.apostrophe

/-- What is read at a character that is not inner: `none` at a blank and at the closing quote. -/
def piece? (double : Bool) (c : Cursor) : Option Read :=
  match c.rest with
  | Code.apostrophe :: t =>
    if double then some (.ok ([Code.apostrophe], c.next))
    else if firstOr t = Code.apostrophe then some (.ok ([Code.apostrophe], c.skip 2))
    else none
  | Code.quote :: _ => if double then none else some (.ok ([Code.quote], c.next))
  | Code.backslash :: _ =>
    if double then some (flowEscape c.next) else some (.ok ([Code.backslash], c.next))
  | _ => none

section Reader

variable {double : Bool} {fuel : Nat} {c : Cursor} {x : Code} {t u w r : Text}

theorem flowText_succ (double : Bool) (fuel : Nat) (c : Cursor) :
    flowText double (fuel + 1) c =
      match piece? double (c.skip (c.run isInner).length) with
      | none => .ok (c.run isInner, c.skip (c.run isInner).length)
      | some read => do
        let (piece, c') ← read
        let (more, c') ← flowText double fuel c'
        return (c.run isInner ++ piece ++ more, c') := rfl

/-- An inner character is taken. -/
theorem flowText_inner (here : c.rest = x :: t) (inner : isInner x = true) {made : Text}
    {last : Cursor} (read : flowText double (fuel + 1) c.next = .ok (made, last)) :
    flowText double (fuel + 1) c = .ok (x :: made, last) := by
  have run : c.run isInner = x :: c.next.run isInner := by
    simp [Cursor.run, here, inner]
  rw [flowText_succ] at read ⊢
  rw [run]
  have skip : c.skip (x :: c.next.run isInner).length = c.next.skip (c.next.run isInner).length :=
    rfl
  rw [skip]
  cases piece : piece? double (c.next.skip (c.next.run isInner).length) with
  | none =>
    rw [piece] at read
    cases read
    rfl
  | some taken =>
    rw [piece] at read
    cases taken with
    | error e => cases read
    | ok made' =>
      obtain ⟨p, c'⟩ := made'
      dsimp only [bind, Except.bind] at read ⊢
      cases rest : flowText double fuel c' with
      | error e =>
        rw [rest] at read
        cases read
      | ok made' =>
        rw [rest] at read
        cases read
        rfl

/-- At a character that is not inner nothing is taken, or what the character begins. -/
theorem flowText_outer (outer : isInner (firstOr c.rest) = false) :
    flowText double (fuel + 1) c =
      match piece? double c with
      | none => .ok ([], c)
      | some read => do
        let (piece, c') ← read
        let (more, c') ← flowText double fuel c'
        return (piece ++ more, c') := by
  have run : c.run isInner = [] := by
    unfold Cursor.run
    cases rest : c.rest with
    | nil => rfl
    | cons x t =>
      rw [rest] at outer
      rw [List.takeWhile_cons_of_neg]
      simpa [firstOr] using outer
  rw [flowText_succ, run]
  rfl

end Reader

section Lines

variable {c : Cursor} {x : Code} {t u w r : Text}

/-- What a line end counts as. -/
def feed (x : Code) : Code :=
  if x = 0x85 then Code.newline else x

/-- A character at which a reader of blanks stops. -/
def isShown (x : Code) : Bool :=
  !(isGap x)

theorem lineBreak_of_isLineEnd (here : c.rest = x :: t) (ends : isLineEnd x = true) :
    c.lineBreak = ([feed x], c.next) := by
  simp only [isLineEnd, Bool.or_eq_true, beq_iff_eq] at ends
  unfold Cursor.lineBreak
  rw [here]
  rcases ends with ((rfl | rfl) | rfl) | rfl <;> rfl

theorem isBreak_of_isLineEnd (ends : isLineEnd x = true) : isBreak x = true := by
  simp only [isLineEnd, Bool.or_eq_true, beq_iff_eq] at ends
  rcases ends with ((rfl | rfl) | rfl) | rfl <;> rfl

/-- Only a dash or a dot begins a separator of documents. -/
theorem atSeparator_of_ne (dash : firstOr c.rest ≠ Code.dash) (dot : firstOr c.rest ≠ Code.dot) :
    c.atSeparator = false := by
  unfold Cursor.atSeparator
  cases rest : c.rest with
  | nil => rfl
  | cons x t =>
    rw [rest] at dash dot
    have notDash : x ≠ 45 := dash
    have notDot : x ≠ 46 := dot
    simp [notDash, notDot]

theorem isShown_iff : isShown x = true ↔
    x ≠ Code.tab ∧ x ≠ Code.space ∧ x ≠ endMark ∧ isBreak x = false := by
  simp [isShown, isGap, isSpaceOrEnd, isBreakOrEnd]

/-- Gaps are few. -/
theorem isShown_of_forall_ne (other : ∀ g ∈ [9, 32, 0, 10, 13, 0x85, 0x2028, 0x2029], x ≠ g) :
    isShown x = true := by
  simp only [List.forall_mem_cons, List.not_mem_nil, false_implies, implies_true, and_true] at other
  simp [isShown_iff, isBreak, other]

theorem firstOr_run_append {n : Nat} (filled : 0 < n) (t : Text) :
    firstOr (Text.run Code.space n ++ t) = Code.space := by
  obtain ⟨n, rfl⟩ := Nat.exists_eq_succ_of_ne_zero (Nat.pos_iff_ne_zero.1 filled)
  rfl

theorem stopsAt_of_isShown (shown : isShown (firstOr t) = true) :
    StopsAt (fun x => x == Code.space || x == Code.tab) t := by
  intro x first
  cases t with
  | nil => cases first
  | cons y t =>
    obtain rfl : y = x := by simpa using first
    obtain ⟨tab, space, -⟩ := isShown_iff.1 shown
    simpa [firstOr] using And.intro space tab

theorem isBlank_of_mem_run {n : Nat} : ∀ x ∈ Text.run Code.space n,
    (x == Code.space || x == Code.tab) = true := by
  intro x member
  rw [List.eq_of_mem_replicate member]
  rfl

/-- Blanks are passed up to a character that is shown. -/
theorem rest_skipWhile_blanks {n : Nat} (here : c.rest = Text.run Code.space n ++ t)
    (shown : isShown (firstOr t) = true) :
    (c.skipWhile fun x => x == Code.space || x == Code.tab).rest = t :=
  Cursor.rest_skipWhile here isBlank_of_mem_run (stopsAt_of_isShown shown)

/-- Line ends and the indentation behind them are read up to the text of the line. -/
theorem flowBreaks_eq {es : Text} {n fuel : Nat} (here : c.rest = es ++ (Text.run Code.space n ++ t))
    (ends : ∀ x ∈ es, isLineEnd x = true) (indented : 0 < n) (shown : isShown (firstOr t) = true)
    (enough : es.length < fuel) :
    ∃ c', flowBreaks fuel c = .ok (es.map feed, c') ∧ c'.rest = t := by
  induction es generalizing c fuel with
  | nil =>
    obtain ⟨fuel, rfl⟩ := Nat.exists_eq_succ_of_ne_zero (Nat.ne_zero_of_lt enough)
    have first : firstOr c.rest = Code.space := by
      rw [here]
      exact firstOr_run_append indented t
    have apart : c.atSeparator = false := atSeparator_of_ne (by rw [first]; decide)
      (by rw [first]; decide)
    have left := rest_skipWhile_blanks here shown
    have still : isBreak (c.skipWhile fun x => x == Code.space || x == Code.tab).first = false := by
      rw [Cursor.first_eq left]
      exact (isShown_iff.1 shown).2.2.2
    refine ⟨_, ?_, left⟩
    rw [flowBreaks, apart, if_neg Bool.false_ne_true]
    dsimp only
    rw [still, if_neg Bool.false_ne_true]
    rfl
  | cons x es ih =>
    obtain ⟨fuel, rfl⟩ := Nat.exists_eq_succ_of_ne_zero (Nat.ne_zero_of_lt enough)
    have ends_x := ends x List.mem_cons_self
    have first : firstOr c.rest = x := by rw [here]; rfl
    have apart : c.atSeparator = false := by
      refine atSeparator_of_ne ?_ ?_ <;>
      · rw [first]
        rintro rfl
        exact absurd ends_x (by decide)
    have stays : (c.skipWhile fun x => x == Code.space || x == Code.tab) = c := by
      refine Cursor.skipWhile_eq fun y first => ?_
      rw [here] at first
      obtain rfl : x = y := by simpa using first
      simp only [isLineEnd, Bool.or_eq_true, beq_iff_eq] at ends_x
      rcases ends_x with ((rfl | rfl) | rfl) | rfl <;> rfl
    have behind : c.next.rest = es ++ (Text.run Code.space n ++ t) := by
      rw [Cursor.rest_next, here]
      rfl
    obtain ⟨c', further, left⟩ := ih behind (fun y member => ends y (List.mem_cons_of_mem x member))
      (Nat.lt_of_succ_lt_succ enough)
    refine ⟨c', ?_, left⟩
    rw [flowBreaks, apart, if_neg Bool.false_ne_true]
    dsimp only
    rw [stays, Cursor.first, first, isBreak_of_isLineEnd ends_x, if_pos rfl,
      lineBreak_of_isLineEnd here ends_x, further]
    rfl

/-- Blanks in a line are read as they are. -/
theorem flowSpaces_of_spaces {n : Nat} (here : c.rest = Text.run Code.space n ++ t)
    (shown : isShown (firstOr t) = true) :
    ∃ c', flowSpaces c = .ok (Text.run Code.space n, c') ∧ c'.rest = t := by
  have left := rest_skipWhile_blanks here shown
  obtain ⟨-, -, filled, still⟩ := isShown_iff.1 shown
  have run : (c.run fun x => x == Code.space || x == Code.tab) = Text.run Code.space n :=
    Cursor.run_eq here isBlank_of_mem_run (stopsAt_of_isShown shown)
  refine ⟨_, ?_, left⟩
  unfold flowSpaces
  dsimp only
  have first := Cursor.first_eq left
  rw [Cursor.skipWhile] at first
  rw [first, if_neg filled, still, if_neg Bool.false_ne_true, run, ← run]
  rfl

/-- Line ends are read as what they count as. -/
theorem flowSpaces_of_lines {x : Code} {es : Text} {n : Nat}
    (here : c.rest = x :: es ++ (Text.run Code.space n ++ t)) (first : isLineEnd x = true)
    (ends : ∀ x ∈ es, isLineEnd x = true) (indented : 0 < n) (shown : isShown (firstOr t) = true) :
    ∃ c', flowSpaces c = .ok (foldBreaks [feed x] (es.map feed), c') ∧ c'.rest = t := by
  have none : (c.run fun x => x == Code.space || x == Code.tab) = [] := by
    refine Cursor.run_eq (s := []) here (by simp) fun y member => ?_
    obtain rfl : x = y := by simpa using member
    simp only [isLineEnd, Bool.or_eq_true, beq_iff_eq] at first
    rcases first with ((rfl | rfl) | rfl) | rfl <;> rfl
  have behind : c.next.rest = es ++ (Text.run Code.space n ++ t) := by
    rw [Cursor.rest_next, here]
    rfl
  have rounds : es.length < c.next.rest.length + 1 := by
    rw [behind, List.length_append]
    omega
  obtain ⟨c', further, left⟩ := flowBreaks_eq behind ends indented shown rounds
  have mark : c.first = x := Cursor.first_eq here
  have real : c.first ≠ endMark := by
    rw [mark]
    rintro rfl
    exact absurd first (by decide)
  have breaks : isBreak c.first = true := by
    rw [mark]
    exact isBreak_of_isLineEnd first
  refine ⟨c', ?_, left⟩
  unfold flowSpaces
  rw [none]
  dsimp only
  have still : c.skip ([] : Text).length = c := rfl
  rw [still, if_neg real, if_pos breaks, lineBreak_of_isLineEnd here first, further]
  rfl

end Lines

section Scanning

/-- Before a blank or the closing quote at the front of `w`, a reader adds `u` and stops behind the
closing quote of `w`. -/
def Goes (double : Bool) (w u r : Text) : Prop :=
  ∀ (c : Cursor) (rounds : Nat), c.rest = w ++ r → w.length ≤ rounds →
    ∃ c', flowRest double rounds c = .ok (u, c') ∧ c'.rest = r

/-- Among characters, a reader adds what stands before the next blank or the closing quote of `w`,
and then the rest of `u`. -/
def Scans (double : Bool) (w u r : Text) : Prop :=
  ∀ (c : Cursor) (fuel : Nat), c.rest = w ++ r → w.length ≤ fuel →
    ∃ text more w' c', flowText double fuel c = .ok (text, c') ∧ c'.rest = w' ++ r ∧
      w'.length ≤ w.length ∧ u = text ++ more ∧ Goes double w' more r

variable {double : Bool} {x : Code} {w u r : Text}

/-- A scalar is what is scanned behind its opening quote. -/
theorem Scans.flowScalar (h : Scans double w u r) {c : Cursor} {q : Code}
    (here : c.rest = q :: (w ++ r)) :
    ∃ c', flowScalar double c = .ok (u, c') ∧ c'.rest = r := by
  have inside : c.next.rest = w ++ r := by
    rw [Cursor.rest_next, here]
    rfl
  have enough : w.length ≤ c.next.rest.length + 1 := by
    rw [inside, List.length_append]
    omega
  obtain ⟨text, more, w', c', read, left, -, rfl, goes⟩ := h c.next _ inside enough
  have rounds : w'.length ≤ c'.rest.length + 1 := by
    rw [left, List.length_append]
    omega
  obtain ⟨last, further, behind⟩ := goes c' _ left rounds
  refine ⟨last, ?_, behind⟩
  unfold Yaml.flowScalar
  dsimp only
  rw [read]
  dsimp only [bind, Except.bind]
  rw [further]
  rfl

theorem goes_closing (double : Bool) (r : Text) : Goes double [closing double] [] r := by
  intro c rounds here enough
  obtain ⟨rounds, rfl⟩ := Nat.exists_eq_succ_of_ne_zero (Nat.ne_zero_of_lt enough)
  refine ⟨c.next, ?_, by rw [Cursor.rest_next, here]; rfl⟩
  have first : c.first = closing double := Cursor.first_eq here
  rw [flowRest, first]
  exact if_pos rfl

/-- A reader among characters goes on at a blank and at the closing quote. -/
theorem Goes.scans (h : Goes double (x :: w) u r) (outer : isInner x = false)
    (none : ∀ c : Cursor, c.rest = x :: (w ++ r) → piece? double c = none) :
    Scans double (x :: w) u r := by
  intro c fuel here enough
  obtain ⟨fuel, rfl⟩ := Nat.exists_eq_succ_of_ne_zero (Nat.ne_zero_of_lt enough)
  have outer' : isInner (firstOr c.rest) = false := by rwa [here]
  refine ⟨[], u, x :: w, c, ?_, here, Nat.le_refl _, rfl, h⟩
  rw [flowText_outer outer', none c here]

theorem Goes.scans_of_gap (h : Goes double w u r) (filled : w ≠ [])
    (blank : isGap (firstOr w) = true) : Scans double w u r := by
  obtain ⟨x, w, rfl⟩ := List.exists_cons_of_ne_nil filled
  have gap : isGap x = true := blank
  refine h.scans (by rw [isInner, gap]; rfl) fun c here => ?_
  unfold piece?
  rw [here]
  split
  case h_4 => rfl
  all_goals
    case _ heq =>
      obtain rfl := (List.cons.inj heq).1
      exact absurd gap (by decide)

theorem scans_inner (h : Scans double w u r) (inner : isInner x = true) :
    Scans double (x :: w) (x :: u) r := by
  intro c fuel here enough
  obtain ⟨fuel, rfl⟩ := Nat.exists_eq_succ_of_ne_zero (Nat.ne_zero_of_lt enough)
  have behind : c.next.rest = w ++ r := by
    rw [Cursor.rest_next, here]
    rfl
  obtain ⟨text, more, w', c', read, left, short, rfl, goes⟩ :=
    h c.next (fuel + 1) behind (Nat.le_of_succ_le enough)
  exact ⟨x :: text, more, w', c', flowText_inner here inner read, left, Nat.le_succ_of_le short,
    rfl, goes⟩

/-- What is written for a character with a meaning is read as the character. -/
theorem scans_piece {e p : Text} (h : Scans double w u r) (outer : isInner (firstOr e) = false)
    (filled : e ≠ [])
    (reads : ∀ c : Cursor, c.rest = e ++ (w ++ r) →
      ∃ c', piece? double c = some (.ok (p, c')) ∧ c'.rest = w ++ r) :
    Scans double (e ++ w) (p ++ u) r := by
  intro c fuel here enough
  have longer : 0 < e.length := List.length_pos_iff.2 filled
  rw [List.length_append] at enough
  obtain ⟨fuel, rfl⟩ : ∃ n, fuel = n + 1 := Nat.exists_eq_succ_of_ne_zero (by omega)
  rw [List.append_assoc] at here
  have outer' : isInner (firstOr c.rest) = false := by
    rw [here]
    cases e with
    | nil => exact absurd rfl filled
    | cons y e => exact outer
  obtain ⟨c', piece, behind⟩ := reads c here
  obtain ⟨text, more, w', last, read, left, short, rfl, goes⟩ := h c' fuel behind (by omega)
  refine ⟨p ++ text, more, w', last, ?_, left, ?_, (List.append_assoc ..).symm, goes⟩
  · rw [flowText_outer outer', piece]
    dsimp only [bind, Except.bind]
    rw [read]
    rfl
  · rw [List.length_append]
    omega

/-- A reader before a blank reads the blanks and goes on among characters. -/
theorem goes_blanks {b p : Text} (h : Scans double w u r) (filled : b ≠ [])
    (blank : isGap (firstOr b) = true)
    (reads : ∀ c : Cursor, c.rest = b ++ (w ++ r) →
      ∃ c', flowSpaces c = .ok (p, c') ∧ c'.rest = w ++ r) :
    Goes double (b ++ w) (p ++ u) r := by
  intro c rounds here enough
  have longer : 0 < b.length := List.length_pos_iff.2 filled
  rw [List.length_append] at enough
  obtain ⟨rounds, rfl⟩ : ∃ n, rounds = n + 1 := Nat.exists_eq_succ_of_ne_zero (by omega)
  rw [List.append_assoc] at here
  have first : c.first = firstOr b := by
    rw [Cursor.first_eq here]
    cases b with
    | nil => exact absurd rfl filled
    | cons y b => rfl
  have open_ : c.first ≠ if double then Code.quote else Code.apostrophe := by
    intro same
    rw [← first, same] at blank
    cases double <;> exact absurd blank (by decide)
  obtain ⟨c', spaces, behind⟩ := reads c here
  have room : w.length ≤ c'.rest.length + 1 := by
    rw [behind, List.length_append]
    omega
  obtain ⟨text, more, w', last, read, left, short, rfl, goes⟩ := h c' _ behind room
  obtain ⟨end_, further, final⟩ := goes last rounds left (by omega)
  refine ⟨end_, ?_, final⟩
  rw [flowRest, if_neg open_, spaces]
  dsimp only [bind, Except.bind]
  rw [read]
  dsimp only
  rw [further]
  simp [pure, Except.pure]

/-- Blanks in a line stand for themselves. -/
theorem goes_spaces (h : Scans double w u r) {n : Nat} (some : 0 < n)
    (shown : isShown (firstOr (w ++ r)) = true) :
    Goes double (Text.run Code.space n ++ w) (Text.run Code.space n ++ u) r := by
  refine goes_blanks h (by simpa using Nat.ne_of_gt some) ?_ fun c here =>
    flowSpaces_of_spaces here shown
  rw [← List.append_nil (Text.run Code.space n), firstOr_run_append some]
  rfl

/-- Line ends with the indentation behind them. -/
theorem goes_lines (h : Scans double w u r) {es : Text} {n : Nat} (first : isLineEnd x = true)
    (ends : ∀ x ∈ es, isLineEnd x = true) (indented : 0 < n)
    (shown : isShown (firstOr (w ++ r)) = true) :
    Goes double (x :: es ++ Text.run Code.space n ++ w)
      (foldBreaks [feed x] (es.map feed) ++ u) r := by
  refine goes_blanks h (by simp) ?_ fun c here => ?_
  · simp only [isLineEnd, Bool.or_eq_true, beq_iff_eq] at first
    rcases first with ((rfl | rfl) | rfl) | rfl <;> rfl
  · rw [List.append_assoc] at here
    exact flowSpaces_of_lines here first ends indented shown

end Scanning

end EditorText.Yaml
