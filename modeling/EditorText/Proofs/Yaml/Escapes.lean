import EditorText.Proofs.Text.Hexadecimal
import EditorText.Proofs.Yaml.Quoted
import EditorText.Yaml.Written

/-!
# Escaped texts are read as they were

Between double quotes every text of characters is read as it was written: each escape is read as the
character it stands for, and the ends that are put to long lines leave no trace.
-/

set_option autoImplicit false

namespace EditorText.Yaml

variable {w u r t : Text} {x : Code}

/-- A character: no surrogate and no number beyond the last one. -/
def isCharacter (x : Code) : Bool :=
  x ≤ 0x10FFFF && !Code.isSurrogate x

theorem piece?_backslash {c : Cursor} (here : c.rest = Code.backslash :: t) :
    piece? true c = some (flowEscape c.next) := by
  unfold piece?
  rw [here]
  rfl

theorem flowEscape_letter {c : Cursor} (here : c.rest = x :: t) {y : Code}
    (letter : escapeLetter? x = some y) : flowEscape c = .ok ([y], c.next) := by
  unfold flowEscape
  rw [Cursor.first_eq here]
  simp only [firstOr, List.headD_cons, letter]

/-- An escape by number is read as the number. -/
theorem flowEscape_number {c : Cursor} {digits n : Nat}
    (here : c.rest = x :: Text.hexCapital digits n ++ t) (letter : escapeLetter? x = none)
    (number : escapeDigits? x = some digits) (small : n ≤ 0x10FFFF) (room : n < 16 ^ digits) :
    ∃ c', flowEscape c = .ok ([n], c') ∧ c'.rest = t := by
  have behind : c.next.rest = Text.hexCapital digits n ++ t := by
    rw [Cursor.rest_next, here]
    rfl
  have length := Text.length_hexCapital digits n
  have taken : c.next.rest.take digits = Text.hexCapital digits n := by
    rw [behind, List.take_left' length]
  have hex : (Text.hexCapital digits n).all isHexDigit = true :=
    List.all_eq_true.2 (Text.isHexDigit_of_mem_hexCapital digits n)
  have value : Text.natOf 16 (Text.hexCapital digits n) = n := by
    rw [Text.natOf_hexCapital, Nat.mod_eq_of_lt room]
  have long : ¬ 0x7FFFFFFF < n := by omega
  have high : ¬ 0x10FFFF < n := by omega
  refine ⟨c.next.skip digits, ?_, ?_⟩
  · unfold flowEscape
    rw [Cursor.first_eq here]
    simp only [List.cons_append, firstOr, List.headD_cons, letter, number]
    rw [escapeCode, taken]
    dsimp only
    rw [if_pos ⟨length, hex⟩, value, if_neg long, if_neg high]
  · rw [Cursor.rest_skip, behind, List.drop_left' length]

theorem mem_of_lookup_eq_some {β : Type} {entries : List (Code × β)} {y : β}
    (found : entries.lookup x = some y) : (x, y) ∈ entries := by
  obtain ⟨before, behind, split, -⟩ := List.lookup_eq_some_iff.1 found
  rw [split]
  exact List.mem_append_right _ List.mem_cons_self

/-- A character that is not written as it is between double quotes is read off its escape. -/
theorem piece?_escapeOf {c : Cursor} (small : x ≤ 0x10FFFF) (here : c.rest = escapeOf x ++ t) :
    ∃ c', piece? true c = some (.ok ([x], c')) ∧ c'.rest = t := by
  unfold escapeOf at here
  cases found : escapeLetters.lookup x with
  | some letter =>
    rw [found] at here
    have behind : c.next.rest = letter.toNat :: t := by
      rw [Cursor.rest_next, here]
      rfl
    have table : ∀ e ∈ escapeLetters, escapeLetter? e.2.toNat = some e.1 := by decide
    have meaning : escapeLetter? letter.toNat = some x :=
      table (x, letter) (mem_of_lookup_eq_some found)
    refine ⟨c.next.next, ?_, ?_⟩
    · rw [piece?_backslash here, flowEscape_letter behind meaning]
    · rw [Cursor.rest_next, behind]
      rfl
  | none =>
    rw [found] at here
    have number (letter : Code) {digits : Nat} (none : escapeLetter? letter = none)
        (some : escapeDigits? letter = some digits) (room : x < 16 ^ digits)
        (here : c.rest = Code.backslash :: letter :: Text.hexCapital digits x ++ t) :
        ∃ c', piece? true c = .some (.ok ([x], c')) ∧ c'.rest = t := by
      have behind : c.next.rest = letter :: Text.hexCapital digits x ++ t := by
        rw [Cursor.rest_next, here]
        rfl
      obtain ⟨c', read, left⟩ := flowEscape_number behind none some small room
      exact ⟨c', by rw [piece?_backslash here, read], left⟩
    dsimp only at here
    split at here
    case isTrue byte =>
      exact number 'x'.toNat rfl rfl (Nat.lt_of_le_of_lt byte (by decide)) here
    split at here
    case isTrue word =>
      exact number 'u'.toNat rfl rfl (Nat.lt_of_le_of_lt word (by decide)) here
    case isFalse =>
      exact number 'U'.toNat rfl rfl (Nat.lt_of_le_of_lt small (by decide)) here

/-- A line end behind a backslash leaves no trace. -/
theorem scans_ended {n : Nat} (h : Scans true w u r) (indented : 0 < n)
    (shown : isShown (firstOr (w ++ r)) = true) :
    Scans true (Code.backslash :: nextLine n ++ w) u r := by
  refine scans_piece (p := []) h rfl (by simp) fun c here => ?_
  have behind : c.next.rest = Code.newline :: (Text.run Code.space n ++ (w ++ r)) := by
    rw [Cursor.rest_next, here]
    rfl
  have line := lineBreak_of_isLineEnd behind (by decide)
  have left : c.next.next.rest = [] ++ (Text.run Code.space n ++ (w ++ r)) := by
    rw [Cursor.rest_next, behind]
    rfl
  have rounds : ([] : Text).length < c.next.next.rest.length + 1 := Nat.succ_pos _
  obtain ⟨c', read, last⟩ := flowBreaks_eq left (by simp) indented shown rounds
  refine ⟨c', ?_, last⟩
  rw [piece?_backslash here]
  unfold flowEscape
  rw [Cursor.first_eq behind, line]
  exact congrArg some read

/-- A written text begins with blanks that stand for themselves and goes on with a character that is
shown. -/
def Spaced (w u r : Text) : Prop :=
  ∃ (n : Nat) (w' u' : Text), w = Text.run Code.space n ++ w' ∧ u = Text.run Code.space n ++ u' ∧
    Scans true w' u' r ∧ isShown (firstOr (w' ++ r)) = true

theorem Spaced.of_shown (h : Scans true w u r) (shown : isShown (firstOr (w ++ r)) = true) :
    Spaced w u r :=
  ⟨0, w, u, rfl, rfl, h, shown⟩

theorem Spaced.space (h : Spaced w u r) : Spaced (Code.space :: w) (Code.space :: u) r := by
  obtain ⟨n, w', u', rfl, rfl, scans, shown⟩ := h
  exact ⟨n + 1, w', u', rfl, rfl, scans, shown⟩

theorem Spaced.tail (h : Spaced (Code.space :: w) (Code.space :: u) r) : Spaced w u r := by
  obtain ⟨n, w', u', split, made, scans, shown⟩ := h
  cases n with
  | zero =>
    obtain rfl : Code.space :: w = w' := split
    have blank : isShown Code.space = true := shown
    exact absurd blank (by decide)
  | succ n =>
    obtain ⟨-, rfl⟩ := List.cons.inj split
    obtain ⟨-, rfl⟩ := List.cons.inj made
    exact ⟨n, w', u', rfl, rfl, scans, shown⟩

theorem Spaced.scans (h : Spaced w u r) : Scans true w u r := by
  obtain ⟨n, w', u', rfl, rfl, scans, shown⟩ := h
  cases n with
  | zero => exact scans
  | succ n =>
    exact (goes_spaces scans (Nat.succ_pos n) shown).scans_of_gap (List.cons_ne_nil _ _) rfl

/-- A space behind a backslash stands for itself. -/
theorem scans_protected (h : Scans true w u r) :
    Scans true (Code.backslash :: Code.space :: w) (Code.space :: u) r := by
  refine scans_piece (e := [Code.backslash, Code.space]) (p := [Code.space]) h rfl (by simp)
    fun c here => ?_
  have behind : c.next.rest = Code.space :: (w ++ r) := by
    rw [Cursor.rest_next, here]
    rfl
  refine ⟨c.next.next, ?_, by rw [Cursor.rest_next, behind]; rfl⟩
  rw [piece?_backslash here, flowEscape_letter behind rfl]

theorem isShown_of_isOpen (open_ : isOpen x = true) (filled : x ≠ Code.space) :
    isShown x = true := by
  have closed : ∀ g ∈ [9, 0, 10, 13, 0x85, 0x2028, 0x2029], isOpen g = false := by decide
  refine isShown_of_forall_ne fun g member => ?_
  rintro rfl
  by_cases space : x = Code.space
  · exact filled space
  · have other : x ∈ [9, 0, 10, 13, 0x85, 0x2028, 0x2029] := by
      simpa [space] using member
    rw [closed x other] at open_
    cases open_

/-- A character that is written as it is, apart from a space, stands for itself. -/
theorem scans_open (h : Scans true w u r) (open_ : isOpen x = true) (filled : x ≠ Code.space) :
    Scans true (x :: w) (x :: u) r := by
  by_cases apostrophe : x = Code.apostrophe
  · subst apostrophe
    refine scans_piece (e := [Code.apostrophe]) (p := [Code.apostrophe]) h rfl (by simp)
      fun c here => ⟨c.next, ?_, by rw [Cursor.rest_next, here]; rfl⟩
    unfold piece?
    rw [here]
    rfl
  · refine scans_inner h ?_
    have shown := isShown_of_isOpen open_ filled
    have quote : x ≠ Code.quote := by
      rintro rfl
      exact absurd open_ (by decide)
    have backslash : x ≠ Code.backslash := by
      rintro rfl
      exact absurd open_ (by decide)
    rw [isShown, Bool.not_eq_true'] at shown
    simp [isInner, shown, apostrophe, quote, backslash]

/-- At the start of a line such a character is protected by a backslash if it is a space. -/
theorem scans_led_cons (h : Scans true w t r) (open_ : isOpen x = true) :
    Scans true ((if (x :: t).head? = some Code.space then [Code.backslash] else []) ++ x :: w)
        (x :: t) r ∧
      isShown (firstOr ((if (x :: t).head? = some Code.space then [Code.backslash] else []) ++
        x :: w ++ r)) = true := by
  by_cases space : x = Code.space
  · subst space
    exact ⟨scans_protected h, rfl⟩
  · rw [if_neg (by simpa using space)]
    exact ⟨scans_open h open_ space, isShown_of_isOpen open_ space⟩

section Written

variable {indent column : Nat} {first afterEscape : Bool}

theorem exists_escapeOf (x : Code) : ∃ e, escapeOf x = Code.backslash :: e := by
  unfold escapeOf
  split
  · exact ⟨_, rfl⟩
  · split
    · exact ⟨_, rfl⟩
    · split <;> exact ⟨_, rfl⟩

theorem isShown_firstOr_escapeOf (x : Code) (w : Text) :
    isShown (firstOr (escapeOf x ++ w)) = true := by
  obtain ⟨e, split⟩ := exists_escapeOf x
  rw [split]
  rfl

theorem scans_escapeOf (h : Scans true w u r) (small : x ≤ 0x10FFFF) :
    Scans true (escapeOf x ++ w) (x :: u) r := by
  obtain ⟨e, split⟩ := exists_escapeOf x
  refine scans_piece (e := escapeOf x) (p := [x]) h ?_ ?_ fun c here => piece?_escapeOf small here
  · rw [split]
    rfl
  · rw [split]
    exact List.cons_ne_nil _ _

/-- The written form of a text begins with a backslash or with its first character. -/
theorem isShown_firstOr_escapedFrom (filled : t ≠ []) (unspaced : t.head? ≠ some Code.space)
    (u : Text) :
    isShown (firstOr (escapedFrom indent first afterEscape column t ++ u)) = true := by
  obtain ⟨x, t, rfl⟩ := List.exists_cons_of_ne_nil filled
  have other : x ≠ Code.space := by simpa using unspaced
  obtain ⟨e, escape⟩ := exists_escapeOf x
  rw [escapedFrom]
  dsimp only
  split
  · rw [escape]
    split <;> rfl
  · split
    · rfl
    case isFalse closed _ =>
      show isShown x = true
      exact isShown_of_isOpen (by simpa using closed) other

/-- A space at the start of a line is protected by a backslash. -/
theorem scans_led (filled : t ≠ []) (narrow : column ≤ lineWidth)
    (h : Spaced (escapedFrom indent false afterEscape column t ++ [Code.quote]) t r) :
    Scans true ((if t.head? = some Code.space then [Code.backslash] else []) ++
        escapedFrom indent false afterEscape column t ++ [Code.quote]) t r ∧
      isShown (firstOr ((if t.head? = some Code.space then [Code.backslash] else []) ++
        escapedFrom indent false afterEscape column t ++ [Code.quote] ++ r)) = true := by
  split
  case isFalse unspaced =>
    refine ⟨h.scans, ?_⟩
    rw [List.nil_append, List.append_assoc]
    exact isShown_firstOr_escapedFrom filled unspaced _
  case isTrue spaced =>
    obtain ⟨x, t, rfl⟩ := List.exists_cons_of_ne_nil filled
    obtain rfl : x = Code.space := by simpa using spaced
    have fits : ¬ lineWidth < column := Nat.not_lt.2 narrow
    have unfolded : escapedFrom indent false afterEscape column (Code.space :: t) =
        Code.space :: escapedFrom indent false false (column + 1) t := by
      have open_ : isOpen Code.space = true := rfl
      rw [escapedFrom]
      simp [open_, fits]
    rw [unfolded] at h ⊢
    exact ⟨scans_protected h.tail.scans, rfl⟩

/-- **A text between double quotes is read as it was.** -/
theorem spaced_escapedFrom (indented : 0 < indent) (narrow : indent < lineWidth) (r : Text)
    (t : Text) (small : ∀ x ∈ t, x ≤ 0x10FFFF) :
    ∀ (first afterEscape : Bool) (column : Nat),
      Spaced (escapedFrom indent first afterEscape column t ++ [Code.quote]) t r := by
  induction t with
  | nil =>
    intro first afterEscape column
    refine .of_shown ?_ rfl
    exact (goes_closing true r).scans rfl fun c here => by
      unfold piece?
      rw [here]
      rfl
  | cons x t ih =>
    intro first afterEscape column
    obtain ⟨small_x, others⟩ := List.forall_mem_cons.1 small
    rw [escapedFrom]
    dsimp only
    split
    · split
      case isTrue ended =>
        have filled : t ≠ [] := by
          rintro rfl
          simp at ended
        have room : indent + (if t.head? = some Code.space then [Code.backslash] else []).length ≤
            lineWidth := by
          split <;> simp <;> omega
        obtain ⟨led, shown⟩ := scans_led filled room (ih others false true _)
        have line := scans_ended led indented shown
        refine .of_shown ?_ ?_
        · simpa only [List.append_assoc, List.cons_append] using scans_escapeOf line small_x
        · simpa only [List.append_assoc, List.cons_append] using isShown_firstOr_escapeOf x _
      case isFalse =>
        rw [List.append_assoc]
        refine .of_shown (scans_escapeOf (ih others _ _ _).scans small_x) ?_
        rw [List.append_assoc]
        exact isShown_firstOr_escapeOf x _
    case isFalse closed =>
      have open_ : isOpen x = true := by simpa using closed
      split
      · refine .of_shown ?_ rfl
        have rest := (ih others false false
          (indent + (if (x :: t).head? = some Code.space then [Code.backslash] else []).length +
            1)).scans
        obtain ⟨led, shown⟩ := scans_led_cons rest open_
        have line := scans_ended led indented shown
        simpa only [List.append_assoc, List.cons_append] using line
      · by_cases space : x = Code.space
        · subst space
          exact (ih others _ _ _).space
        · exact .of_shown (scans_open (ih others _ _ _).scans open_ space)
            (isShown_of_isOpen open_ space)

end Written

end EditorText.Yaml
