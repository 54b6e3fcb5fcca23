import EditorText.Snippet.Run

/-!
# Positions agree with a scan

A run remembers the places it was asked for and looks for others from the nearest one below. Whatever
it remembers, it finds what a scan from the start of the text finds (`Places.Sound.find`): the line
feeds before the offset and the characters behind the last of them (`scan_append`). The location of
an error is what such scans find for it (`location_of_error?`).
-/

set_option autoImplicit false

namespace EditorText.Snippet

/-- The text ends where a line begins. -/
def EndsAtLine (t : Text) : Prop := t = [] ∨ ∃ x, t = x ++ [Code.newline]

/-- A text is some lines and what stands behind them on the next one. -/
theorem exists_endsAtLine (t : Text) : ∃ s m, t = s ++ m ∧ EndsAtLine s ∧ Code.newline ∉ m := by
  induction t with
  | nil => exact ⟨[], [], rfl, .inl rfl, List.not_mem_nil⟩
  | cons c t ih =>
    obtain ⟨s, m, rfl, ends, free⟩ := ih
    rcases ends with rfl | ⟨x, rfl⟩
    · by_cases feed : c = Code.newline
      · subst feed
        exact ⟨[Code.newline], m, rfl, .inr ⟨[], rfl⟩, free⟩
      · refine ⟨[], c :: m, rfl, .inl rfl, ?_⟩
        simpa [free] using Ne.symm feed
    · exact ⟨c :: (x ++ [Code.newline]), m, rfl, .inr ⟨c :: x, rfl⟩, free⟩

namespace Place

/-- Characters that are no line feeds lead on along a line. -/
theorem foldl_after_of_not_mem {t : Text} (free : Code.newline ∉ t) (p : Place) :
    t.foldl after p = ⟨p.line, p.column + t.length⟩ := by
  induction t generalizing p with
  | nil => rfl
  | cons c t ih =>
    obtain ⟨other, behind⟩ := List.ne_and_not_mem_of_not_mem_cons free
    have step : p.after c = ⟨p.line, p.column + 1⟩ := if_neg (Ne.symm other)
    have longer : p.column + 1 + t.length = p.column + (c :: t).length := by
      rw [List.length_cons]
      omega
    rw [List.foldl_cons, step, ih behind, longer]

theorem line_foldl_after (t : Text) (p : Place) :
    (t.foldl after p).line = p.line + t.count Code.newline := by
  induction t generalizing p with
  | nil => rfl
  | cons c t ih =>
    rw [List.foldl_cons, ih, List.count_cons]
    by_cases feed : c = Code.newline
    · simp [after, feed]
      omega
    · simp [after, feed]

theorem foldl_after_of_endsAtLine {s : Text} (ends : EndsAtLine s) :
    s.foldl after ⟨1, 1⟩ = ⟨1 + s.count Code.newline, 1⟩ := by
  rcases ends with rfl | ⟨x, rfl⟩
  · rfl
  · have line := line_foldl_after x ⟨1, 1⟩
    rw [List.foldl_append, List.count_append]
    show after _ Code.newline = _
    rw [after, if_pos rfl, line]
    rfl

/-- **What a scan finds**: the line feeds before an offset and the characters behind the last one. -/
theorem scan_append {s m : Text} (ends : EndsAtLine s) (free : Code.newline ∉ m) (v : Text) :
    scan (s ++ m ++ v) (s ++ m).length = ⟨1 + s.count Code.newline, 1 + m.length⟩ := by
  rw [scan, List.take_left, List.foldl_append, foldl_after_of_endsAtLine ends,
    foldl_after_of_not_mem free]

/-- A scan can be taken up where another one ended. -/
theorem foldl_after_scan (input : Text) {below offset : Nat} (h : below ≤ offset) :
    ((input.drop below).take (offset - below)).foldl after (scan input below) =
      scan input offset := by
  have split : input.take offset =
      input.take below ++ (input.drop below).take (offset - below) := by
    rw [← List.take_add]
    congr 1
    omega
  rw [scan, scan, split, List.foldl_append]

end Place

namespace Places

/-- What is remembered is what a scan finds, and the start is remembered. -/
structure Sound (known : Places) (input : Text) : Prop where
  start : ∃ p, known.lookup 0 = some p
  scanned : ∀ n p, known.lookup n = some p → p = Place.scan input n

theorem sound_start (input : Text) : start.Sound input := by
  refine ⟨⟨_, rfl⟩, ?_⟩
  intro n p found
  cases n with
  | zero => exact (Option.some.inj found).symm
  | succ n => cases found

variable {known : Places} {input : Text}

/-- The nearest offset that is remembered lies below, with the place that a scan finds there. -/
theorem Sound.nearest (h : known.Sound input) (n : Nat) :
    (known.nearest n).1 ≤ n ∧ (known.nearest n).2 = Place.scan input (known.nearest n).1 := by
  induction n with
  | zero =>
    obtain ⟨p, found⟩ := h.start
    refine ⟨Nat.le_refl 0, ?_⟩
    rw [Places.nearest, found]
    exact h.scanned 0 p found
  | succ n ih =>
    unfold Places.nearest
    split
    next p found => exact ⟨Nat.le_refl _, h.scanned _ p found⟩
    next => exact ⟨Nat.le_succ_of_le ih.1, ih.2⟩

/-- **A look-up agrees with a scan**, and what is remembered afterwards does too. -/
theorem Sound.find (h : known.Sound input) (offset : Nat) :
    (known.find input offset).1 = Place.scan input offset ∧
      (known.find input offset).2.Sound input := by
  unfold Places.find
  split
  next p found => exact ⟨h.scanned offset p found, h⟩
  next missing =>
    obtain ⟨below, place⟩ := h.nearest (offset - 1)
    have scanned : ((input.drop (known.nearest (offset - 1)).1).take
        (offset - (known.nearest (offset - 1)).1)).foldl Place.after
          (known.nearest (offset - 1)).2 = Place.scan input offset := by
      rw [place]
      exact Place.foldl_after_scan input (by omega)
    refine ⟨scanned, ?_, ?_⟩
    · obtain ⟨p, first⟩ := h.start
      have other : offset ≠ 0 := by
        rintro rfl
        rw [first] at missing
        cases missing
      have beside : (0 == offset) = false := beq_false_of_ne (Ne.symm other)
      exact ⟨p, by rw [List.lookup_cons, beside, first]⟩
    · intro n p found
      rw [List.lookup_cons] at found
      split at found
      next same =>
        obtain rfl := Option.some.inj found
        rw [eq_of_beq same]
        exact scanned
      next => exact h.scanned n p found

end Places

/-- An offset with its place. -/
def Place.position (p : Place) (offset : Nat) : Position := ⟨offset, p.line, p.column⟩

/-- The position that a scan finds for an offset. -/
def Position.scanned (input : Text) (offset : Nat) : Position :=
  (Place.scan input offset).position offset

namespace Run

variable {r : Run}

/-- A position is what a scan finds, and only what is remembered changes. -/
theorem position_eq (h : r.known.Sound r.input) (offset : Nat) :
    r.position offset =
      (.scanned r.input offset, { r with known := (r.known.find r.input offset).2 }) := by
  unfold position Position.scanned Place.position
  rw [← (h.find offset).1]

/-- A location is what scans find for its two offsets, and only what is remembered changes. -/
theorem location_eq (h : r.known.Sound r.input) (start stop : Nat) :
    r.location start stop =
      (⟨r.source, .scanned r.input start, .scanned r.input stop⟩,
        { r with known := ((r.known.find r.input start).2.find r.input stop).2 }) := by
  have behind : (r.known.find r.input start).2.Sound r.input := (h.find start).2
  have last := position_eq (r := { r with known := (r.known.find r.input start).2 }) behind stop
  unfold location
  rw [position_eq h start]
  dsimp only
  rw [last]

/-- Where an error ends: behind the character that it found, if it found one. -/
def stop (r : Run) : Nat :=
  if r.furthest < r.input.length then r.furthest + 1 else r.furthest

/-- **The error of a run stands where scans find the furthest place and the one behind it.** -/
theorem location_of_error? (h : r.known.Sound r.input) {e : SyntaxError}
    (failed : r.error?.1 = some e) :
    e.location = ⟨r.source, .scanned r.input r.furthest, .scanned r.input r.stop⟩ := by
  have made {expected : List Expectation} {found : Option Text} {place : Location}
      (some : SyntaxError.ofExpected? expected found place = some e) : e.location = place := by
    unfold SyntaxError.ofExpected? at some
    obtain ⟨m, -, rfl⟩ := Option.map_eq_some_iff.1 some
    rfl
  unfold error? at failed
  split at failed
  next c found =>
    have inside : r.furthest < r.input.length := (List.getElem?_eq_some_iff.1 found).1
    rw [made failed, location_eq h, stop, if_pos inside]
  next missing =>
    have outside : ¬ r.furthest < r.input.length := by
      rw [List.getElem?_eq_none_iff] at missing
      omega
    rw [made failed, location_eq h, stop, if_neg outside]

end Run

end EditorText.Snippet
