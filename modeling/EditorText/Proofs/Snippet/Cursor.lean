import EditorText.Proofs.Snippet.Lines

/-!
# What a rule does at the cursor

A run has read one part of the text and has the other before it (`Run.At`). It has recorded a trace,
of which it keeps the furthest place (`Run.Records`). Literals and characters are taken where they
stand, repetitions as far as they go (`Run.all_eq`), and what is not there is recorded (`At.fail`).
-/

set_option autoImplicit false

namespace EditorText.Snippet

namespace Run

/-- The run has recorded a trace: it keeps the furthest offset and what was expected there. -/
structure Records (r : Run) (trace : Trace) : Prop where
  bound : ∀ n e, (n, e) ∈ trace → n ≤ r.furthest
  expected_iff : ∀ e, e ∈ r.expected ↔ (r.furthest, e) ∈ trace
  reached : r.furthest = 0 ∨ ∃ e, (r.furthest, e) ∈ trace

/-- The cursor stands between two parts of the text, and the run has recorded a trace. -/
structure At (r : Run) (u v : Text) (trace : Trace) : Prop where
  input : r.input = u ++ v
  pos : r.pos = u.length
  unmuted : r.muted = 0
  records : r.Records trace

variable {r : Run} {u v w t : Text} {trace : Trace}

/-- A run begins in front of its text, with nothing recorded. -/
theorem at_start (text : Text) (source : Option Text) :
    At { input := text, source := source } [] text [] :=
  ⟨rfl, rfl, rfl, by simp, by simp, .inl rfl⟩

theorem Records.moveTo (h : r.Records trace) (n : Int) : (r.moveTo n).Records trace :=
  ⟨h.bound, h.expected_iff, h.reached⟩

theorem At.moveTo {u' v' : Text} (h : r.At u v trace) (same : u ++ v = u' ++ v') :
    (r.moveTo u'.length).At u' v' trace :=
  ⟨h.input.trans same, rfl, h.unmuted, h.records.moveTo _⟩

/-- What was expected further back is forgotten. -/
theorem Records.behind (h : r.Records trace) {n : Nat} (before : n < r.furthest) (e : Expectation) :
    r.Records (trace ++ [(n, e)]) := by
  refine ⟨?_, ?_, ?_⟩
  · intro m d hd
    rcases List.mem_append.1 hd with old | new
    · exact h.bound m d old
    · obtain ⟨rfl, -⟩ := Prod.mk.inj (List.mem_singleton.1 new)
      omega
  · intro d
    have other : r.furthest ≠ n := by omega
    simp [h.expected_iff, other]
  · rcases h.reached with none | ⟨d, hd⟩
    · omega
    · exact .inr ⟨d, List.mem_append_left _ hd⟩

/-- What is expected further on takes the place of the rest. -/
theorem Records.beyond (h : r.Records trace) {n : Nat} (behind : r.furthest < n) (e : Expectation) :
    Records { r with furthest := n, expected := [e] } (trace ++ [(n, e)]) := by
  refine ⟨?_, ?_, .inr ⟨e, by simp⟩⟩
  · intro m d hd
    rcases List.mem_append.1 hd with old | new
    · have bound := h.bound m d old
      exact Nat.le_of_lt (Nat.lt_of_le_of_lt bound behind)
    · exact Nat.le_of_eq (Prod.mk.inj (List.mem_singleton.1 new)).1
  · intro d
    have fresh : (n, d) ∉ trace := fun hd => by
      have bound := h.bound n d hd
      omega
    simp [fresh]

/-- What is expected at the same place is added. -/
theorem Records.here (h : r.Records trace) (e : Expectation) :
    Records { r with expected := r.expected ++ [e] } (trace ++ [(r.furthest, e)]) := by
  refine ⟨?_, ?_, .inr ⟨e, by simp⟩⟩
  · intro m d hd
    rcases List.mem_append.1 hd with old | new
    · exact h.bound m d old
    · exact Nat.le_of_eq (Prod.mk.inj (List.mem_singleton.1 new)).1
  · intro d
    simp [h.expected_iff]

/-- A failure at the cursor is recorded. -/
theorem At.fail (h : r.At u v trace) (e : Expectation) :
    (r.fail e).At u v (trace ++ [(u.length, e)]) := by
  have pos := h.pos
  have muted := h.unmuted
  unfold Run.fail
  split
  next before => exact ⟨h.input, h.pos, h.unmuted, h.records.behind (by omega) e⟩
  next notBefore =>
    split
    next beyond =>
      have place : r.pos.toNat = u.length := by omega
      rw [place]
      exact ⟨h.input, h.pos, h.unmuted, h.records.beyond (by omega) e⟩
    next notBeyond =>
      have place : u.length = r.furthest := by omega
      rw [place]
      exact ⟨h.input, h.pos, h.unmuted, h.records.here e⟩

/-- A run that keeps failures to itself records none. -/
theorem fail_of_muted (muted : 0 < r.muted) (e : Expectation) : r.fail e = r := by
  simp [Run.fail, muted]

theorem rest_eq (input : r.input = u ++ v) (pos : r.pos = u.length) : r.rest = v := by
  simp [Run.rest, pos, before_natCast, input]

/-- A literal is taken where it stands, and recorded where it does not. -/
theorem literal_of_front (e : Expectation) (input : r.input = u ++ (t ++ v))
    (pos : r.pos = u.length) : literal t e r = (some t, r.moveTo (u ++ t).length) := by
  have front : r.rest.startsWith t := Text.startsWith_iff.2 ⟨v, rest_eq input pos⟩
  have within : r.pos ≤ r.input.length := by
    rw [pos, input, List.length_append]
    omega
  simp only [literal, front, within, and_self, if_true]
  simp [moveTo, pos]

theorem literal_of_absent (e : Expectation) (input : r.input = u ++ v)
    (pos : r.pos = u.length) (absent : ¬ t <+: v) : literal t e r = (none, r.fail e) := by
  have front : ¬ r.rest.startsWith t := by
    rw [Text.startsWith_iff, rest_eq input pos]
    rintro ⟨s, rfl⟩
    exact absent (List.prefix_append _ _)
  simp [literal, front]

theorem char_of_member (members : Text) (inverted : Bool) (e : Expectation) {c : Code}
    (input : r.input = u ++ (c :: v)) (pos : r.pos = u.length)
    (member : members.contains c ≠ inverted) :
    char members inverted e r = (some [c], r.moveTo (u ++ [c]).length) := by
  have rest : r.rest = c :: v := rest_eq input pos
  have within : 0 ≤ r.input.length + r.pos := by omega
  have both : 0 ≤ r.input.length + r.pos ∧ members.contains c ≠ inverted := ⟨within, member⟩
  simp only [char, rest, if_pos both]
  simp [moveTo, pos]

theorem char_of_not_member (members : Text) (inverted : Bool) (e : Expectation)
    (input : r.input = u ++ v) (pos : r.pos = u.length)
    (others : ∀ c s, v = c :: s → members.contains c = inverted) :
    char members inverted e r = (none, r.fail e) := by
  have rest : r.rest = v := rest_eq input pos
  cases v with
  | nil => simp [char, rest]
  | cons c s =>
    have other := others c s rfl
    simp only [char, rest, other]
    simp

/-- A cursor that takes some text moves on. -/
theorem length_append_ne (filled : w ≠ []) : ((u ++ w).length : Int) ≠ u.length := by
  have := List.length_pos_iff.2 filled
  rw [List.length_append]
  omega

theorem taken_eq (input : r.input = u ++ w ++ v) (pos : r.pos = (u ++ w).length) :
    r.taken u.length = w := by
  simp only [Run.taken, pos, before_natCast, input]
  simp

/-- A repeated rule that takes units, each where it stands, takes a sequence of them and stops where
none stands. -/
theorem many_eq (rule : Rule) (unit : Text → Prop) (stop : Run → Run)
    (filled : ∀ x, unit x → x ≠ [])
    (takes : ∀ u x v, r.input = u ++ (x ++ v) → unit x →
      ∃ a, rule (r.moveTo u.length) = (some a, r.moveTo (u ++ x).length))
    (stops : ∀ u v, r.input = u ++ v → (∀ x, unit x → ¬ x <+: v) →
      rule (r.moveTo u.length) = (none, stop (r.moveTo u.length))) :
    ∀ (fuel : Nat) (u v : Text), r.input = u ++ v → v.length < fuel →
      ∃ w rest, v = w ++ rest ∧ Sequence unit w ∧ (∀ x, unit x → ¬ x <+: rest) ∧
        many rule fuel (r.moveTo u.length) = stop (r.moveTo (u ++ w).length) := by
  intro fuel
  induction fuel with
  | zero => exact fun u v _ short => absurd short (Nat.not_lt_zero _)
  | succ fuel ih =>
    intro u v input short
    by_cases more : ∃ x, unit x ∧ x <+: v
    · obtain ⟨x, hx, v, rfl⟩ := more
      obtain ⟨a, taken⟩ := takes u x v input hx
      have shorter : v.length < fuel := by
        have := List.length_pos_iff.2 (filled x hx)
        rw [List.length_append] at short
        omega
      obtain ⟨w, rest, rfl, hw, none, last⟩ := ih (u ++ x) v (by simp [input]) shorter
      refine ⟨x ++ w, rest, by simp, .cons hx hw, none, ?_⟩
      simp only [many, taken]
      simpa using last
    · have none : ∀ x, unit x → ¬ x <+: v := fun x hx front => more ⟨x, hx, front⟩
      refine ⟨[], v, rfl, .nil, none, ?_⟩
      simp only [many, stops u v input none, List.append_nil]

/-- The same for a rule that is repeated until it fails. -/
theorem all_eq (rule : Rule) (unit : Text → Prop) (stop : Run → Run)
    (input : r.input = u ++ v) (pos : r.pos = u.length) (filled : ∀ x, unit x → x ≠ [])
    (takes : ∀ u x v, r.input = u ++ (x ++ v) → unit x →
      ∃ a, rule (r.moveTo u.length) = (some a, r.moveTo (u ++ x).length))
    (stops : ∀ u v, r.input = u ++ v → (∀ x, unit x → ¬ x <+: v) →
      rule (r.moveTo u.length) = (none, stop (r.moveTo u.length))) :
    ∃ w rest, v = w ++ rest ∧ Sequence unit w ∧ (∀ x, unit x → ¬ x <+: rest) ∧
      all rule r = stop (r.moveTo (u ++ w).length) := by
  have enough : v.length < (r.input.length - r.pos).toNat + 1 := by
    rw [pos, input, List.length_append]
    omega
  have here : r.moveTo u.length = r := by rw [← pos]; rfl
  have result := many_eq rule unit stop filled takes stops _ u v input enough
  rwa [here] at result

theorem all_char_eq (members : Text) (inverted : Bool) (e : Expectation) {holds : Code → Prop}
    (class_iff : ∀ c, members.contains c ≠ inverted ↔ holds c) (input : r.input = u ++ v)
    (pos : r.pos = u.length) :
    ∃ w rest, v = w ++ rest ∧ Sequence (CodeUnit holds) w ∧
      (∀ x, CodeUnit holds x → ¬ x <+: rest) ∧
      all (char members inverted e) r = (r.moveTo (u ++ w).length).fail e := by
  refine all_eq _ _ (fun r => r.fail e) input pos ?_ ?_ ?_
  · rintro x ⟨c, -, rfl⟩
    simp
  · rintro u x v whole ⟨c, hc, rfl⟩
    exact ⟨_, char_of_member (r := r.moveTo u.length) members inverted e whole rfl
      ((class_iff c).2 hc)⟩
  · intro u v whole none
    refine char_of_not_member (r := r.moveTo u.length) members inverted e whole rfl ?_
    rintro c s rfl
    refine Decidable.byContradiction fun member => ?_
    exact none [c] ⟨c, (class_iff c).1 member, rfl⟩ ⟨s, rfl⟩

/-- A step that only moves the cursor does so without notice. -/
theorem quietly_eq {step : Run → Run} {n : Nat}
    (moves : step { r with muted := r.muted + 1 } = ({ r with muted := r.muted + 1 }).moveTo n) :
    r.quietly step = r.moveTo n := by
  simp [quietly, moves, Run.moveTo]

/-- Blanks are taken as far as they go. -/
theorem quietly_blanks_eq (input : r.input = u ++ v) (pos : r.pos = u.length) :
    ∃ w rest, v = w ++ rest ∧ Sequence Piece.blanks.Unit w ∧ Piece.blanks.Stops rest ∧
      r.quietly (all (char [Code.space, Code.tab] false blankSign)) =
        r.moveTo (u ++ w).length := by
  have class_iff (c : Code) : [Code.space, Code.tab].contains c ≠ false ↔ IsSpaceOrTab c := by
    simp [IsSpaceOrTab, Decidable.imp_iff_not_or]
  obtain ⟨w, rest, rfl, hw, stops, last⟩ :=
    all_char_eq (r := { r with muted := r.muted + 1 }) _ false blankSign class_iff input pos
  refine ⟨w, rest, rfl, hw, stops, quietly_eq ?_⟩
  rw [last, fail_of_muted (Nat.succ_pos _)]

/-- The rule for one line end. -/
def oneLineEnd : Rule :=
  orElse (literal [Code.carriageReturn, Code.newline] returnAndLineFeed)
    (literal [Code.newline] lineFeed)

theorem oneLineEnd_of_unit (muted : 0 < r.muted) (input : r.input = u ++ (w ++ v))
    (pos : r.pos = u.length) (unit : LineEndUnit w) :
    ∃ a, oneLineEnd r = (some a, r.moveTo (u ++ w).length) := by
  rcases unit with rfl | rfl
  · have other : ¬ [Code.carriageReturn, Code.newline] <+: [Code.newline] ++ v := by
      simp [Code.carriageReturn, Code.newline]
    refine ⟨[Code.newline], ?_⟩
    simp only [oneLineEnd, orElse, literal_of_absent returnAndLineFeed input pos other,
      fail_of_muted muted]
    rw [literal_of_front lineFeed input pos]
  · refine ⟨[Code.carriageReturn, Code.newline], ?_⟩
    simp only [oneLineEnd, orElse, literal_of_front returnAndLineFeed input pos]

theorem oneLineEnd_of_absent (muted : 0 < r.muted) (input : r.input = u ++ v)
    (pos : r.pos = u.length) (absent : ∀ x, LineEndUnit x → ¬ x <+: v) :
    oneLineEnd r = (none, r) := by
  simp only [oneLineEnd, orElse,
    literal_of_absent returnAndLineFeed input pos (absent _ (.inr rfl)), fail_of_muted muted]
  rw [literal_of_absent lineFeed input pos (absent _ (.inl rfl)), fail_of_muted muted]

/-- Line ends are taken as far as they go. -/
theorem quietly_newlines_eq (input : r.input = u ++ v) (pos : r.pos = u.length) :
    ∃ w rest, v = w ++ rest ∧ Sequence Piece.newlines.Unit w ∧ Piece.newlines.Stops rest ∧
      r.quietly (all oneLineEnd) = r.moveTo (u ++ w).length := by
  let quiet : Run := { r with muted := r.muted + 1 }
  have muted (n : Nat) : 0 < (quiet.moveTo n).muted := Nat.succ_pos _
  suffices taken : ∃ w rest, v = w ++ rest ∧ Sequence LineEndUnit w ∧
      (∀ x, LineEndUnit x → ¬ x <+: rest) ∧
      all oneLineEnd quiet = id (quiet.moveTo (u ++ w).length) by
    obtain ⟨w, rest, rfl, hw, stops, last⟩ := taken
    exact ⟨w, rest, rfl, hw, stops, quietly_eq last⟩
  refine all_eq oneLineEnd LineEndUnit id input pos ?_ ?_ ?_
  · rintro x (rfl | rfl) <;> simp
  · intro u x v whole unit
    exact oneLineEnd_of_unit (muted _) whole rfl unit
  · intro u v whole none
    exact oneLineEnd_of_absent (muted _) whole rfl none

end Run

end EditorText.Snippet
