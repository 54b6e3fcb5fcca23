import EditorText.Proofs.Snippet.Cursor

/-!
# Rules follow routes

The rules of a reading, with their cursor and their record of failures, do what the routes say:
`Obeys` ties a rule to the pieces it takes. A rule that answers has read its pieces, one that fails
has failed on them, and in both cases the trace of the route is what the run has recorded.
-/

set_option autoImplicit false

namespace EditorText.Snippet

/-- What becomes of a rule in front of a text: it reads its pieces and answers with what is kept of
them, if anything is, or it fails on them. -/
inductive Follows (ps : List Piece) (u v : Text) (trace : Trace) : Option Text × Run → Prop where
  | reads {w rest : Text} {kept : List Text} {more : Trace} {a : Text} {next : Run} :
      v = w ++ rest → Reads ps u.length w rest kept more → kept = [] ∨ kept = [a] →
      next.At (u ++ w) rest (trace ++ more) → Follows ps u v trace (some a, next)
  | fails {w rest : Text} {more : Trace} {last : Run} :
      v = w ++ rest → Fails ps u.length w rest more →
      (last.moveTo u.length).At u v (trace ++ more) → Follows ps u v trace (none, last)

/-- A rule that follows a route wherever it begins. -/
def Obeys (rule : Rule) (ps : List Piece) : Prop :=
  ∀ (r : Run) (u v : Text) (trace : Trace), r.At u v trace → Follows ps u v trace (rule r)

/-- Nothing is kept of any piece. -/
def Silent (ps : List Piece) : Prop := ∀ p ∈ ps, ∀ w, p.kept w = []

theorem Reads.silent {ps : List Piece} {n : Nat} {w rest : Text} {kept : List Text} {trace : Trace}
    (h : Reads ps n w rest kept trace) (silent : Silent ps) : kept = [] := by
  induction h with
  | done => rfl
  | @piece p ps _ w _ _ _ _ _ _ _ ih =>
    have first : p.kept w = [] := silent p (by simp) w
    have others : Silent ps := fun q hq => silent q (by simp [hq])
    rw [first, ih others]
    rfl

namespace Follows

variable {ps qs : List Piece} {u w rest : Text} {kept : List Text} {trace more : Trace}
  {last : Run} {a b : Text}

/-- A failure behind pieces that were read is a failure of the whole row. -/
theorem fails_behind (start : Int) (read : Reads ps u.length w rest kept more)
    (behind : Follows qs (u ++ w) rest (trace ++ more) (none, last)) :
    Follows (ps ++ qs) u (w ++ rest) trace (none, last.moveTo start) := by
  cases behind with
  | @fails x tail further _ split failed back =>
    subst split
    have failed' : Fails qs (u.length + w.length) x tail further := by simpa using failed
    have same : u ++ w ++ (x ++ tail) = u ++ (w ++ (x ++ tail)) := List.append_assoc _ _ _
    refine .fails (List.append_assoc w x tail).symm (read.append_fails failed') ?_
    have joined : (last.moveTo u.length).At u (w ++ (x ++ tail)) (trace ++ more ++ further) :=
      back.moveTo same
    rw [List.append_assoc trace] at joined
    exact joined

/-- What is read behind pieces that were read belongs to the whole row. -/
theorem reads_behind (read : Reads ps u.length w rest kept more)
    (behind : Follows qs (u ++ w) rest (trace ++ more) (some b, last))
    (answer : ∀ n x tail kept' further, Reads qs n x tail kept' further →
      kept' = [] ∨ kept' = [b] → kept ++ kept' = [] ∨ kept ++ kept' = [a]) :
    Follows (ps ++ qs) u (w ++ rest) trace (some a, last) := by
  cases behind with
  | @reads x tail kept' further _ _ split read' answer' at_last =>
    subst split
    have read'' : Reads qs (u.length + w.length) x tail kept' further := by simpa using read'
    refine .reads (List.append_assoc w x tail).symm (read.append read'')
      (answer _ _ _ _ _ read' answer') ?_
    simpa using at_last

end Follows

namespace Obeys

open Run

variable {ps qs : List Piece} {first second : Rule}

theorem literal (t : Text) : Obeys (Run.literal t (.literal t)) [.word t] := by
  intro r u v trace h
  by_cases front : t <+: v
  · obtain ⟨rest, rfl⟩ := front
    rw [literal_of_front _ h.input h.pos]
    have read : Reads [.word t] u.length (t ++ []) rest _ _ :=
      .piece (p := .word t) rfl (fun _ hx => hx.elim) .done
    have moved : (r.moveTo (u ++ t).length).At (u ++ t) rest trace := h.moveTo (by simp)
    exact .reads (by simp) read (.inl rfl) (by simpa [Piece.trace, Piece.recorded] using moved)
  · rw [literal_of_absent _ h.input h.pos front]
    exact .fails rfl (.here ⟨rfl, front⟩) ((h.fail _).moveTo rfl)

/-- A rule that repeats a piece as far as it goes obeys the piece, if it fails where the piece may
not be empty and is. -/
theorem repeated {p : Piece} {rule : Rule} (recorded : p.recorded)
    (runs : ∀ (r : Run) (u v : Text) (trace : Trace), r.At u v trace → ∃ w rest next,
      v = w ++ rest ∧ Sequence p.Unit w ∧ p.Stops rest ∧
      next.At (u ++ w) rest (trace ++ [((u ++ w).length, p.expectation)]) ∧
      (p.required = true ∧ w = [] ∧ rule r = (none, next) ∨
        (p.required = true → w ≠ []) ∧
          ∃ a, rule r = (some a, next) ∧ (p.kept w = [] ∨ p.kept w = [a]))) :
    Obeys rule [p] := by
  have repeats : ∀ t, p ≠ .word t := by
    rintro t rfl
    exact absurd recorded (by simp [Piece.recorded])
  intro r u v trace h
  obtain ⟨w, rest, next, rfl, hw, stops, at_next, outcome⟩ := runs r u v trace h
  rcases outcome with ⟨required, rfl, failed⟩ | ⟨filled, a, taken, kept⟩
  · rw [failed]
    refine .fails rfl (.here ⟨required, Piece.not_standsAt repeats stops⟩) ?_
    simpa using at_next.moveTo (by simp)
  · rw [taken]
    have fills : p.Fills w := by
      cases p with
      | word t => exact absurd rfl (repeats t)
      | blanks | dashes | value | newlines | everything => exact ⟨filled, hw⟩
    have read : Reads [p] u.length (w ++ []) rest _ _ := .piece fills stops .done
    refine .reads (by simp) read (by simpa using kept) ?_
    simpa [Piece.trace, recorded] using at_next

theorem blanks : Obeys Run.blanks [.blanks] := by
  refine repeated rfl fun r u v trace h => ?_
  obtain ⟨w, rest, rfl, hw, stops, last⟩ := quietly_blanks_eq h.input h.pos
  refine ⟨w, rest, _, rfl, hw, stops, (h.moveTo (by simp)).fail whitespace, .inr ⟨nofun, ?_⟩⟩
  simp only [Run.blanks, last]
  exact ⟨_, rfl, .inl rfl⟩

theorem newlines : Obeys Run.newlines [.newlines] := by
  refine repeated rfl fun r u v trace h => ?_
  obtain ⟨w, rest, rfl, hw, stops, last⟩ := quietly_newlines_eq h.input h.pos
  have moved : (r.moveTo (u ++ w).length).At (u ++ w) rest trace := h.moveTo (by simp)
  have after := moved.fail newline
  refine ⟨w, rest, _, rfl, hw, stops, after, ?_⟩
  rw [oneLineEnd] at last
  simp only [Run.newlines, last, after.pos, h.pos]
  by_cases empty : w = []
  · exact .inl ⟨rfl, empty, by simp [empty]⟩
  · exact .inr ⟨fun _ => empty, _, if_neg (length_append_ne empty), .inl rfl⟩

theorem value : Obeys Run.value [.value] := by
  refine repeated rfl fun r u v trace h => ?_
  have class_iff (c : Code) :
      [Code.carriageReturn, Code.newline].contains c ≠ true ↔ IsInLine c := by
    simp [IsInLine]
  obtain ⟨w, rest, rfl, hw, stops, last⟩ := all_char_eq _ true notLineEnd class_iff h.input h.pos
  have moved : (r.moveTo (u ++ w).length).At (u ++ w) rest trace := h.moveTo (by simp)
  have after := moved.fail notLineEnd
  refine ⟨w, rest, _, rfl, hw, stops, after, ?_⟩
  simp only [Run.value, last, after.pos, h.pos]
  by_cases empty : w = []
  · exact .inl ⟨rfl, empty, by simp [empty]⟩
  · refine .inr ⟨fun _ => empty, w, ?_, .inr rfl⟩
    rw [if_neg (length_append_ne empty), taken_eq after.input after.pos]

/-- Dashes behind the first one. -/
theorem dashes : Obeys (fun s => (some [], all (Run.literal [Code.dash] dashSign) s))
    [.dashes] := by
  refine repeated rfl fun r u v trace h => ?_
  suffices taken : ∃ w rest, v = w ++ rest ∧ Sequence (CodeUnit (· = Code.dash)) w ∧
      (∀ x, CodeUnit (· = Code.dash) x → ¬ x <+: rest) ∧
      all (Run.literal [Code.dash] dashSign) r = (r.moveTo (u ++ w).length).fail dashSign by
    obtain ⟨w, rest, rfl, hw, stops, last⟩ := taken
    refine ⟨w, rest, _, rfl, hw, stops, (h.moveTo (by simp)).fail dashSign, .inr ⟨nofun, ?_⟩⟩
    simp only [last]
    exact ⟨_, rfl, .inl rfl⟩
  refine all_eq _ _ (fun r => r.fail dashSign) h.input h.pos ?_ ?_ ?_
  · rintro x ⟨c, -, rfl⟩
    simp
  · rintro u x v whole ⟨c, rfl, rfl⟩
    exact ⟨_, literal_of_front (r := r.moveTo u.length) dashSign whole rfl⟩
  · intro u v whole none
    exact literal_of_absent (r := r.moveTo u.length) dashSign whole rfl
      (none _ ⟨_, rfl, rfl⟩)

/-- Two rules in a row obey the pieces of both. The answer is the second one's, so that nothing may
be kept of the pieces of the first. -/
theorem andThen (start : Int) (hf : Obeys first ps) (silent : Silent ps) (hs : Obeys second qs) :
    Obeys (Run.andThen start first second) (ps ++ qs) := by
  intro r u v trace h
  have front := hf r u v trace h
  simp only [Run.andThen]
  generalize first r = outcome at front
  cases front with
  | fails split failed back => exact .fails split (failed.append qs) (back.moveTo rfl)
  | @reads w rest kept more a next split read _ at_next =>
    subst split
    obtain rfl : kept = [] := read.silent silent
    have behind := hs next (u ++ w) rest (trace ++ more) at_next
    simp only
    generalize second next = outcome at behind
    obtain ⟨_ | b, last⟩ := outcome
    · exact behind.fails_behind start read
    · exact behind.reads_behind read fun _ _ _ _ _ _ answer => answer

/-- Two rules in a row of which the first one answers. -/
theorem followedBy (start : Int) (hf : Obeys first ps) (hs : Obeys second qs)
    (silent : Silent qs) : Obeys (Run.followedBy start first second) (ps ++ qs) := by
  intro r u v trace h
  have front := hf r u v trace h
  simp only [Run.followedBy]
  generalize first r = outcome at front
  cases front with
  | fails split failed back => exact .fails split (failed.append qs) (back.moveTo rfl)
  | @reads w rest kept more a next split read answer at_next =>
    subst split
    have behind := hs next (u ++ w) rest (trace ++ more) at_next
    simp only
    generalize second next = outcome at behind
    obtain ⟨_ | b, last⟩ := outcome
    · exact behind.fails_behind start read
    · refine behind.reads_behind read fun _ _ _ kept' _ read' _ => ?_
      obtain rfl : kept' = [] := read'.silent silent
      simpa using answer

theorem slashes : Obeys (Run.literal [Code.slash, Code.slash] Snippet.slashes)
    [.word [Code.slash, Code.slash]] := literal _

theorem colon : Obeys (Run.literal [Code.colon] colonSign) [.word [Code.colon]] := literal _

theorem dash : Obeys (Run.literal [Code.dash] dashSign) [.word [Code.dash]] := literal _

theorem silent_word (t : Text) : Silent [.word t] := by simp [Silent, Piece.kept]

theorem silent_blanks : Silent [.blanks] := by simp [Silent, Piece.kept]

/-- The rule of a header line obeys the pieces of the line. -/
theorem field (keyword : Text) : Obeys (Run.field keyword) (headerLine keyword) := by
  intro r
  exact andThen r.pos slashes (silent_word _) (andThen r.pos blanks silent_blanks
    (andThen r.pos (literal keyword) (silent_word _) (andThen r.pos blanks silent_blanks
      (andThen r.pos colon (silent_word _) (andThen r.pos blanks silent_blanks
        (followedBy r.pos value newlines (by simp [Silent, Piece.kept]))))))) r

theorem silent_dashLine : Silent dashLine := by simp [Silent, dashLine, Piece.kept]

/-- The rule of the line of dashes obeys its pieces. -/
theorem separator : Obeys Run.separator dashLine := by
  intro r u v trace h
  have line : Follows dashLine u v trace _ := andThen r.pos slashes (silent_word _)
    (andThen r.pos blanks silent_blanks (andThen r.pos dash (silent_word _)
      (andThen r.pos dashes (by simp [Silent, Piece.kept])
        (andThen r.pos blanks silent_blanks newlines)))) r u v trace h
  simp only [Run.separator]
  generalize Run.andThen r.pos _ _ r = outcome at line
  cases line with
  | fails split failed back => exact .fails split failed back
  | reads split read _ at_next =>
    obtain rfl := read.silent silent_dashLine
    exact .reads split read (.inl rfl) at_next

/-- The rule of the body obeys the pieces from the line of dashes on. -/
theorem body : Obeys Run.body (dashLine ++ [.everything]) := by
  intro r u v trace h
  have line := separator r u v trace h
  simp only [Run.body]
  generalize Run.separator r = outcome at line
  cases line with
  | fails split failed back => exact .fails split (failed.append _) (back.moveTo rfl)
  | @reads w rest kept more a next split read _ at_next =>
    subst split
    obtain rfl : kept = [] := read.silent silent_dashLine
    have place : (next.input.length : Int) ≤ next.pos ↔ rest = [] := by
      rw [at_next.input, at_next.pos, List.length_append, ← List.length_eq_zero_iff]
      omega
    simp only
    split
    next atEnd =>
      obtain rfl := place.1 atEnd
      have refused : Follows [.everything] (u ++ w) [] (trace ++ more)
          (none, next.fail .anything) :=
        .fails rfl (.here ⟨rfl, by simp [Piece.expectation, Expectation.StandsAt]⟩)
          ((at_next.fail _).moveTo rfl)
      exact refused.fails_behind r.pos read
    next notAtEnd =>
      have filled : rest ≠ [] := fun empty => notAtEnd (place.2 empty)
      have whole : Sequence Piece.everything.Unit rest :=
        Sequence.codes_iff.2 fun _ _ => trivial
      have taken : Reads [.everything] (u ++ w).length (rest ++ []) [] _ _ :=
        .piece ⟨fun _ => filled, whole⟩ (by rintro x ⟨c, -, rfl⟩; simp) .done
      have moved : (next.moveTo next.input.length).At (u ++ w ++ rest) [] (trace ++ more) := by
        rw [at_next.input]
        exact at_next.moveTo (by simp)
      have all : Follows [.everything] (u ++ w) rest (trace ++ more)
          (some next.rest, next.moveTo next.input.length) := by
        rw [rest_eq at_next.input at_next.pos]
        refine .reads (by simp) taken (.inr rfl) ?_
        simpa [Piece.trace, Piece.recorded] using moved
      exact all.reads_behind read fun _ _ _ _ _ _ answer => answer

end Obeys

end EditorText.Snippet
