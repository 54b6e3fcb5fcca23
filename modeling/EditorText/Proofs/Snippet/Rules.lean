import EditorText.Proofs.Snippet.Conduct

/-!
# How the rules of the grammar behave

Called with the cursor in the text, a rule that fails goes back to where it began, and one that
answers has gone on, by one code at least unless it looks for blanks. What the rules for blanks and
for line ends look for by themselves is never told (`conducts_blanks` to `conducts_snippet`).
-/

set_option autoImplicit false

namespace EditorText.Snippet.Run

/-- What the rules for blanks and for line ends look for by themselves. An error names the two as a
whole instead. -/
def IsInner (e : Expectation) : Prop :=
  e = blankSign ∨ e = returnAndLineFeed ∨ e = lineFeed

instance : DecidablePred IsInner := fun _ => inferInstanceAs (Decidable (_ ∨ _))

variable {allowed : Expectation → Prop} {r : Run} {back : Int} {gain : Nat} {rule : Rule}
  {keyword : Text} {e : Expectation}

/-- A rule that is repeated quietly, and of which an error says afterwards what it was to find. -/
theorem conducts_quietly_all (h : ∀ s, s.Inside → Conducts (fun _ => True) rule s.pos gain s)
    (at_r : r.Inside) (outer : allowed e) :
    Conducts allowed (always fun s => (s.quietly (all rule)).fail e) back 0 r := by
  have quiet : Conducts allowed (always (quietly (all rule))) back 0 r :=
    (conducts_all (r := r.act .mute) h at_r).quietly
  exact quiet.bind (conducts_fail (quiet.inside at_r nofun) outer) (fun _ _ _ => rfl)
    fun _ => (quiet.taken nofun).1

theorem conducts_blanks (at_r : r.Inside) : Conducts (¬ IsInner ·) blanks back 0 r := by
  have step : Conducts (¬ IsInner ·) (always fun s => (s.quietly
      (all (char [Code.space, Code.tab] false blankSign))).fail whitespace) back 0 r :=
    conducts_quietly_all (fun _ at_s => conducts_char at_s trivial) at_r (by decide)
  refine step.bind (conducts_answer (fun s => some (s.taken r.pos))
    (step.inside at_r nofun) (fun s same => ?_) nofun) (fun s same _ => ?_)
    fun _ => (step.taken nofun).1
  · rw [same.taken]
  · rw [blanks, same.pos]
    rfl

/-- Line ends as far as they go, and an error may say that one could follow. -/
def lineEnds (r : Run) : Run :=
  (r.quietly (all (orElse (literal [Code.carriageReturn, Code.newline] returnAndLineFeed)
    (literal [Code.newline] lineFeed)))).fail newline

theorem newlines_eq : newlines = filled lineEnds := rfl

theorem value_eq :
    value = filled (all (char [Code.carriageReturn, Code.newline] true notLineEnd)) := rfl

theorem conducts_newlines (at_r : r.Inside) : Conducts (¬ IsInner ·) newlines r.pos 1 r := by
  have lineEnd : ∀ s : Run, s.Inside → Conducts (fun _ => True)
      (orElse (literal [Code.carriageReturn, Code.newline] returnAndLineFeed)
        (literal [Code.newline] lineFeed)) s.pos 1 s := by
    intro s at_s
    have both : Conducts (fun _ => True)
        (literal [Code.carriageReturn, Code.newline] returnAndLineFeed) s.pos 2 s :=
      conducts_literal at_s trivial
    exact conducts_orElse at_s (both.weaken (by decide)) fun _ at_t =>
      conducts_literal at_t trivial
  rw [newlines_eq]
  exact conducts_filled (conducts_quietly_all lineEnd at_r (by decide)) at_r

theorem conducts_value (at_r : r.Inside) : Conducts (¬ IsInner ·) value r.pos 1 r := by
  rw [value_eq]
  exact conducts_filled (conducts_all (fun _ at_s => conducts_char at_s (by decide)) at_r) at_r

theorem not_isInner_literal {t : Text} (oneLine : Code.newline ∉ t) : ¬ IsInner (.literal t) := by
  rintro (same | same | same)
  · cases same
  · obtain rfl := Expectation.literal.inj same
    exact oneLine (by decide)
  · obtain rfl := Expectation.literal.inj same
    exact oneLine (by decide)

theorem conducts_word (t : Text) (outer : ¬ IsInner e) (s : Run) (at_s : s.Inside) :
    Conducts (¬ IsInner ·) (literal t e) s.pos t.length s :=
  conducts_literal at_s outer

theorem conducts_gap (s : Run) (at_s : s.Inside) : Conducts (¬ IsInner ·) blanks s.pos 0 s :=
  conducts_blanks at_s

theorem conducts_field (oneLine : Code.newline ∉ keyword) (at_r : r.Inside) :
    Conducts (¬ IsInner ·) (field keyword) r.pos 1 r := by
  have line (s : Run) (at_s : s.Inside) :
      Conducts (¬ IsInner ·) (followedBy r.pos value newlines) r.pos 2 s := by
    rw [followedBy_eq]
    exact conducts_inRow r.pos _ at_s (conducts_value at_s) fun _ => conducts_newlines
  have behindColon := conducts_andThen r.pos
    (conducts_word [Code.colon] (e := colonSign) (by decide))
    (conducts_andThen r.pos conducts_gap line)
  have behindKeyword := conducts_andThen r.pos (conducts_word keyword (not_isInner_literal oneLine))
    (conducts_andThen r.pos conducts_gap behindColon)
  have row := conducts_andThen r.pos
    (conducts_word [Code.slash, Code.slash] (e := slashes) (by decide))
    (conducts_andThen r.pos conducts_gap behindKeyword) r at_r
  have whole : Conducts (¬ IsInner ·) (field keyword) r.pos _ r :=
    row.congr fun s same => by rw [field, same.pos]
  exact whole.weaken (by omega)

/-- The line of dashes, before its answer is made of the text it takes. -/
def dashesLine (start : Int) : Rule :=
  andThen start (literal [Code.slash, Code.slash] slashes)
    (andThen start blanks
      (andThen start (literal [Code.dash] dashSign)
        (andThen start (fun s => (some [], all (literal [Code.dash] dashSign) s))
          (andThen start blanks newlines))))

theorem conducts_dashesLine (start : Int) (at_r : r.Inside) :
    Conducts (¬ IsInner ·) (dashesLine start) start 1 r := by
  have dash := conducts_word [Code.dash] (e := dashSign) (by decide)
  have dashes (s : Run) (at_s : s.Inside) : Conducts (¬ IsInner ·)
      (fun s => (some ([] : Text), all (literal [Code.dash] dashSign) s)) s.pos 0 s := by
    have step : Conducts (¬ IsInner ·) (always (all (literal [Code.dash] dashSign))) s.pos 0 s :=
      conducts_all dash at_s
    exact step.bind (conducts_answer (fun _ => some []) (step.inside at_s nofun)
      (fun _ _ => rfl) nofun) (fun _ _ _ => rfl) fun _ => (step.taken nofun).1
  have behindDash := conducts_andThen start dashes
    (conducts_andThen start conducts_gap fun _ => conducts_newlines)
  have row := conducts_andThen start
    (conducts_word [Code.slash, Code.slash] (e := slashes) (by decide))
    (conducts_andThen start conducts_gap (conducts_andThen start dash behindDash)) r at_r
  exact row.weaken (by omega)

theorem separator_eq (r : Run) : separator r =
    ((dashesLine r.pos r).1.map fun _ => (dashesLine r.pos r).2.taken r.pos,
      (dashesLine r.pos r).2) := by
  unfold separator dashesLine
  dsimp only
  split
  next found => rw [found]; rfl
  next missed => rw [missed]; rfl

theorem conducts_separator (at_r : r.Inside) : Conducts (¬ IsInner ·) separator r.pos 1 r := by
  have line : Conducts (¬ IsInner ·) (dashesLine r.pos) r.pos 1 r := conducts_dashesLine r.pos at_r
  cases answer : (dashesLine r.pos r).1 with
  | none =>
    refine line.bind (conducts_answer (fun _ => none)
      (line.inside_of_failed at_r answer) (fun _ _ => rfl) fun _ => line.failed answer)
      (fun s same answer' => ?_) (absurd rfl)
    rw [separator_eq, same.pos, answer', answer]
    rfl
  | some a =>
    have taken : (dashesLine r.pos r).1 ≠ none := by simp [answer]
    refine line.bind (conducts_answer (fun s => some (s.taken r.pos))
      (line.inside at_r taken) (fun s same => ?_) nofun) (fun s same answer' => ?_)
      fun _ => (line.taken taken).1
    · rw [same.taken]
    · rw [separator_eq, same.pos, answer', answer]
      rfl

/-- All that is left, at least one code. -/
def everything : Rule := fun s =>
  if s.input.length ≤ s.pos then (none, s.fail .anything)
  else (some s.rest, s.moveTo s.input.length)

theorem conducts_everything (r : Run) : Conducts (¬ IsInner ·) everything r.pos 1 r := by
  by_cases atEnd : r.input.length ≤ r.pos
  · refine conducts_of_failed (e := .anything) (by decide) fun s same => ?_
    rw [everything, same.input, same.pos, if_pos atEnd]
  · have far : r.pos + (r.input.length - r.pos).toNat = r.input.length := by omega
    have all : Conducts (¬ IsInner ·) everything r.pos (r.input.length - r.pos).toNat r := by
      refine conducts_of_taken (a := r.rest) (Int.le_of_eq far) fun s same => ?_
      rw [everything, same.input, same.pos, if_neg atEnd, same.rest, far]
    exact all.weaken (by omega)

theorem body_eq (r : Run) : body r = inRow r.pos (fun _ b => b) separator everything r := by
  unfold body inRow everything
  rcases separator r with ⟨_ | a, next⟩
  · rfl
  · dsimp only
    split <;> rfl

theorem conducts_body (at_r : r.Inside) : Conducts (¬ IsInner ·) body r.pos 1 r := by
  have row : Conducts (¬ IsInner ·) body r.pos 2 r := by
    refine (conducts_inRow r.pos (fun _ b => b) at_r (conducts_separator at_r)
      fun s _ => conducts_everything s).congr fun s same => ?_
    rw [body_eq, same.pos]
  exact row.weaken (by omega)

/-- A definition with the parts behind its name. -/
def named (name : Text) (parts : Option Text × Text × Text) : Definition :=
  ⟨name, parts.1, parts.2.1, parts.2.2⟩

theorem snippet_eq_inRow (r : Run) : snippet r =
    inRow r.pos named (field nameKeyword)
      (inRow r.pos Prod.mk (perhaps (field scopeKeyword))
        (inRow r.pos Prod.mk (field triggerKeyword) body)) r := by
  unfold snippet inRow perhaps
  rcases field nameKeyword r with ⟨_ | name, next⟩
  · rfl
  · dsimp only
    rcases field scopeKeyword next with ⟨scope, next⟩
    dsimp only
    rcases field triggerKeyword next with ⟨_ | trigger, next⟩
    · rfl
    · dsimp only
      rcases body next with ⟨_ | text, next⟩ <;> rfl

theorem conducts_snippet (at_r : r.Inside) : Conducts (¬ IsInner ·) snippet r.pos 1 r := by
  have line (keyword : Text) (oneLine : Code.newline ∉ keyword) (s : Run) (at_s : s.Inside) :
      Conducts (¬ IsInner ·) (field keyword) s.pos 1 s := conducts_field oneLine at_s
  have last (s : Run) (at_s : s.Inside) : Conducts (¬ IsInner ·)
      (inRow r.pos Prod.mk (field triggerKeyword) body) r.pos 2 s :=
    conducts_inRow r.pos _ at_s (line triggerKeyword (by decide) s at_s) fun _ => conducts_body
  have behindName (s : Run) (at_s : s.Inside) : Conducts (¬ IsInner ·)
      (inRow r.pos Prod.mk (perhaps (field scopeKeyword))
        (inRow r.pos Prod.mk (field triggerKeyword) body)) r.pos (0 + 2) s :=
    conducts_inRow r.pos _ at_s ((line scopeKeyword (by decide) s at_s).perhaps at_s s.pos) last
  have row : Conducts (¬ IsInner ·) snippet r.pos (1 + (0 + 2)) r := by
    refine (conducts_inRow r.pos named at_r (line nameKeyword (by decide) r at_r)
      behindName).congr fun s same => ?_
    rw [snippet_eq_inRow, same.pos]
  exact row.weaken (by omega)

/-- **The reading of a definition leaves the text, its name and the known places alone.** -/
theorem beside_snippet (at_r : r.Inside) : Beside r (snippet r).2 :=
  (conducts_snippet at_r).beside

end EditorText.Snippet.Run
