import EditorText.Proofs.Snippet.Acts

/-!
# How the rules behave

`Conducts` says what may be relied on when a rule is called with the cursor in the text: the acts it
does, what they may tell, where the cursor is after a failure and how far it has gone on after an
answer. Literals and characters behave so, and what is put together of rules that do: rules in a
row, the first of two that answers, repetitions and quiet ones. All of this is `Conducts.bind`, for
a rule and what follows it.
-/

set_option autoImplicit false

namespace EditorText.Snippet.Run

/-- The cursor stands in the text. -/
def Inside (r : Run) : Prop := 0 ≤ r.pos ∧ r.pos ≤ r.input.length

/-- A rule does acts that tell what is allowed, and nothing where failures are kept to themselves.
Where it fails the cursor is at `back`; where it answers the cursor has gone on by `gain` at least,
within the text. -/
structure Conducts {α : Type} (allowed : Expectation → Prop) (rule : Run → Option α × Run)
    (back : Int) (gain : Nat) (r : Run) : Prop where
  acts : ∃ acts, Does rule r acts ∧ (∀ p e, (p, e) ∈ told acts r → allowed e) ∧
    (0 < r.muted → told acts r = [])
  muted : (rule r).2.muted = r.muted
  failed : (rule r).1 = none → (rule r).2.pos = back
  taken : (rule r).1 ≠ none →
    r.pos + gain ≤ (rule r).2.pos ∧ (rule r).2.pos ≤ r.input.length

/-- A step, as a rule that always answers. -/
def always (step : Run → Run) : Run → Option Unit × Run := fun r => (some (), step r)

/-- Goes back and fails. -/
def backTo {α : Type} (start : Int) : Run → Option α × Run := fun r => (none, r.moveTo start)

/-- Two rules in a row, of whose answers one is made; if either fails the cursor goes back to
`start`. -/
def inRow {α β γ : Type} (start : Int) (make : α → β → γ) (first : Run → Option α × Run)
    (second : Run → Option β × Run) : Run → Option γ × Run := fun r =>
  match first r with
  | (some a, next) =>
    match second next with
    | (some b, last) => (some (make a b), last)
    | (none, last) => (none, last.moveTo start)
  | (none, next) => (none, next.moveTo start)

/-- A rule whose failure is an answer too. -/
def perhaps {α : Type} (rule : Run → Option α × Run) : Run → Option (Option α) × Run := fun r =>
  (some (rule r).1, (rule r).2)

/-- A step as a rule that fails if the cursor stays, and else answers with the text it took. -/
def filled (step : Run → Run) : Rule := fun r =>
  if (step r).pos = r.pos then (none, step r) else (some ((step r).taken r.pos), step r)

variable {α β γ : Type} {allowed : Expectation → Prop} {r s : Run} {back start : Int}
  {gain more : Nat}

theorem Alike.taken (h : Alike r s) (start : Int) : s.taken start = r.taken start := by
  simp only [Run.taken, before, h.input, h.pos]

theorem Alike.rest (h : Alike r s) : s.rest = r.rest := by
  simp only [Run.rest, before, h.input, h.pos]

namespace Conducts

variable {rule : Run → Option α × Run}

/-- A rule leaves the text, its name and the known places alone. -/
theorem beside (h : Conducts allowed rule back gain r) : Beside r (rule r).2 := by
  obtain ⟨acts, does, -⟩ := h.acts
  rw [does.run]
  exact beside_perform acts r

/-- Behind an answer the cursor stands in the text. -/
theorem inside (h : Conducts allowed rule back gain r) (at_r : r.Inside)
    (answer : (rule r).1 ≠ none) : (rule r).2.Inside := by
  obtain ⟨forward, within⟩ := h.taken answer
  have start := at_r.1
  exact ⟨by omega, by rwa [h.beside.input]⟩

/-- Behind a failure that goes back to where the rule began the cursor stands in the text. -/
theorem inside_of_failed (h : Conducts allowed rule r.pos gain r) (at_r : r.Inside)
    (none : (rule r).1 = none) : (rule r).2.Inside := by
  rw [Inside, h.failed none, h.beside.input]
  exact at_r

/-- What follows a rule does its acts behind those of the rule. `rule` is what both are together,
and `gain` is what the cursor has gone on by when the second one begins. -/
theorem bind {first : Run → Option α × Run} {second rule : Run → Option β × Run} {b : Int}
    {g : Nat} (hf : Conducts allowed first b g r)
    (hs : Conducts allowed second back more (first r).2)
    (behind : ∀ s, Alike r s → (first s).1 = (first r).1 → rule s = second (first s).2)
    (forward : (second (first r).2).1 ≠ none → r.pos + gain ≤ (first r).2.pos) :
    Conducts allowed rule back (gain + more) r := by
  have whole : rule r = second (first r).2 := behind r (.refl r) rfl
  have input := hf.beside.input
  obtain ⟨acts, does, tells, quiet⟩ := hf.acts
  obtain ⟨acts', does', tells', quiet'⟩ := hs.acts
  have there := does.run
  refine ⟨⟨acts ++ acts', ?_, ?_, ?_⟩, ?_, ?_, ?_⟩
  · intro s alike
    have front := does s alike
    have alike' : Alike (first r).2 (first s).2 := by
      rw [there, front]
      exact alike.perform acts
    rw [behind s alike (by rw [front]), does' _ alike', whole, perform_append, front]
  · intro p e inside
    rw [told_append] at inside
    rcases List.mem_append.1 inside with early | late
    · exact tells p e early
    · exact tells' p e (there ▸ late)
  · intro closed
    have closed' : 0 < (first r).2.muted := by rwa [hf.muted]
    rw [told_append, quiet closed, ← there, quiet' closed']
    rfl
  · rw [whole, hs.muted, hf.muted]
  · rw [whole]
    exact hs.failed
  · rw [whole]
    intro answer
    obtain ⟨far, within⟩ := hs.taken answer
    have near := forward answer
    exact ⟨by omega, by rwa [input] at within⟩

/-- A rule that is known to go on further. -/
theorem further (h : Conducts allowed rule back gain r) (more : Nat)
    (far : (rule r).1 ≠ none → r.pos + more ≤ (rule r).2.pos) :
    Conducts allowed rule back more r :=
  ⟨h.acts, h.muted, h.failed, fun answer => ⟨far answer, (h.taken answer).2⟩⟩

theorem weaken (h : Conducts allowed rule back gain r) (less : more ≤ gain) :
    Conducts allowed rule back more r := by
  refine h.further more fun answer => ?_
  have forward := (h.taken answer).1
  omega

end Conducts

section Primitives

/-- Without acts a rule can only look. -/
theorem conducts_answer (answer : Run → Option α) (at_r : r.Inside)
    (alike : ∀ s, Alike r s → answer s = answer r) (failed : answer r = none → r.pos = back) :
    Conducts allowed (fun s => (answer s, s)) back 0 r := by
  refine ⟨⟨[], ?_, nofun, fun _ => rfl⟩, rfl, failed, fun _ => ⟨by simp, at_r.2⟩⟩
  intro s same
  exact congrArg (·, s) (alike s same)

theorem conducts_backTo (r : Run) (start : Int) (gain : Nat) :
    Conducts allowed (backTo (α := α) start) start gain r := by
  refine ⟨⟨[.move start], fun _ _ => rfl, nofun, fun _ => rfl⟩, rfl, fun _ => rfl, ?_⟩
  exact fun answer => absurd rfl answer

theorem told_expect (e : Expectation) (r : Run) :
    told [.expect e] r = if r.muted = 0 then [(r.pos, e)] else [] := by
  simp [told, Act.told]

theorem tells_expect {e : Expectation} (outer : allowed e) (r : Run) :
    (∀ p d, (p, d) ∈ told [.expect e] r → allowed d) ∧
      (0 < r.muted → told [.expect e] r = []) := by
  rw [told_expect]
  refine ⟨fun p d inside => ?_, fun closed => if_neg (by omega)⟩
  split at inside
  · obtain ⟨-, rfl⟩ := Prod.mk.inj (List.mem_singleton.1 inside)
    exact outer
  · cases inside

/-- To tell what was expected leaves the cursor where it is. -/
theorem conducts_fail {e : Expectation} (at_r : r.Inside) (outer : allowed e) :
    Conducts allowed (always fun s => s.fail e) back 0 r := by
  refine ⟨⟨[.expect e], fun _ _ => rfl, tells_expect outer r⟩, muted_fail r e, nofun, ?_⟩
  intro _
  rw [always, pos_fail]
  exact ⟨by simp, at_r.2⟩

/-- A rule that fails where it stands. -/
theorem conducts_of_failed {rule : Run → Option α × Run} {e : Expectation} (outer : allowed e)
    (fails : ∀ s, Alike r s → rule s = (none, s.fail e)) :
    Conducts allowed rule r.pos gain r := by
  have here := fails r (.refl r)
  refine ⟨⟨[.expect e], fun s same => ?_, tells_expect outer r⟩, ?_, ?_, ?_⟩
  · rw [fails s same, here]
    rfl
  · rw [here, muted_fail]
  · rw [here]
    exact fun _ => pos_fail r e
  · rw [here]
    exact fun answer => absurd rfl answer

/-- A rule that takes some text. -/
theorem conducts_of_taken {rule : Run → Option α × Run} {a : α}
    (far : r.pos + gain ≤ r.input.length)
    (takes : ∀ s, Alike r s → rule s = (some a, s.moveTo (r.pos + gain))) :
    Conducts allowed rule back gain r := by
  have here := takes r (.refl r)
  refine ⟨⟨[.move (r.pos + gain)], fun s same => ?_, nofun, fun _ => rfl⟩, ?_, ?_, ?_⟩
  · rw [takes s same, here]
    rfl
  · rw [here]
    rfl
  · rw [here]
    exact nofun
  · rw [here]
    exact fun _ => ⟨Int.le_refl _, far⟩

theorem length_rest (at_r : r.Inside) : (r.rest.length : Int) = r.input.length - r.pos := by
  obtain ⟨low, high⟩ := at_r
  rw [Run.rest, before, if_pos low, List.length_drop]
  omega

theorem conducts_literal {t : Text} {e : Expectation} (at_r : r.Inside) (outer : allowed e) :
    Conducts allowed (literal t e) r.pos t.length r := by
  by_cases stands : r.pos ≤ r.input.length ∧ r.rest.startsWith t
  · obtain ⟨v, split⟩ := Text.startsWith_iff.1 stands.2
    have long := length_rest at_r
    rw [split, List.length_append] at long
    refine conducts_of_taken (a := t) (by omega) fun s same => ?_
    rw [literal, same.pos, same.input, same.rest, if_pos stands]
  · refine conducts_of_failed outer fun s same => ?_
    rw [literal, same.pos, same.input, same.rest, if_neg stands]

theorem conducts_char {members : Text} {inverted : Bool} {e : Expectation} (at_r : r.Inside)
    (outer : allowed e) : Conducts allowed (char members inverted e) r.pos 1 r := by
  cases front : r.rest with
  | nil =>
    refine conducts_of_failed outer fun s same => ?_
    rw [char, same.rest, front]
  | cons c t =>
    by_cases member : 0 ≤ r.input.length + r.pos ∧ members.contains c ≠ inverted
    · have long := length_rest at_r
      rw [front, List.length_cons] at long
      refine conducts_of_taken (a := [c]) (by omega) fun s same => ?_
      simp only [char, same.rest, front, same.input, same.pos, if_pos member]
      rfl
    · refine conducts_of_failed outer fun s same => ?_
      simp only [char, same.rest, front, same.input, same.pos, if_neg member]

end Primitives

section Combinators

/-- Rules that agree on alike runs behave alike. -/
theorem Conducts.congr {rule rule' : Run → Option α × Run} (h : Conducts allowed rule back gain r)
    (same : ∀ s, Alike r s → rule' s = rule s) : Conducts allowed rule' back gain r := by
  have here : rule' r = rule r := same r (.refl r)
  obtain ⟨⟨acts, does, tells⟩, muted, failed, taken⟩ := h
  refine ⟨⟨acts, fun s alike => ?_, tells⟩, ?_, ?_, ?_⟩
  · rw [same s alike, here]
    exact does s alike
  · rwa [here]
  · rwa [here]
  · rwa [here]

theorem Conducts.perhaps {rule : Run → Option α × Run} (h : Conducts allowed rule r.pos gain r)
    (at_r : r.Inside) (back : Int) : Conducts allowed (perhaps rule) back 0 r := by
  obtain ⟨⟨acts, does, tells⟩, muted, failed, taken⟩ := h
  refine ⟨⟨acts, fun s alike => ?_, tells⟩, muted, nofun, fun _ => ?_⟩
  · rw [Run.perhaps, does s alike]
    rfl
  · by_cases none : (rule r).1 = Option.none
    · rw [Run.perhaps, failed none]
      exact ⟨by simp, at_r.2⟩
    · obtain ⟨forward, within⟩ := taken none
      exact ⟨by dsimp only [Run.perhaps]; omega, within⟩

theorem conducts_inRow (start : Int) (make : α → β → γ) {first : Run → Option α × Run}
    {second : Run → Option β × Run} {b : Int} {b' : Run → Int} (at_r : r.Inside)
    (hf : Conducts allowed first b gain r)
    (hs : ∀ s, s.Inside → Conducts allowed second (b' s) more s) :
    Conducts allowed (inRow start make first second) start (gain + more) r := by
  cases answer : (first r).1 with
  | none =>
    refine hf.bind (conducts_backTo (first r).2 start more) (fun s _ same => ?_) (absurd rfl)
    rw [answer] at same
    rw [inRow, ← Prod.eta (first s), same]
    rfl
  | some a =>
    have at_next : (first r).2.Inside := hf.inside at_r (by simp [answer])
    have behind := hs _ at_next
    have row : Conducts allowed (fun s => match second s with
        | (some b, last) => (some (make a b), last)
        | (none, last) => (none, last.moveTo start)) start more (first r).2 := by
      cases answer' : (second (first r).2).1 with
      | none =>
        refine behind.bind (conducts_backTo _ start 0) (fun s _ same => ?_) (absurd rfl)
        rw [answer'] at same
        rw [← Prod.eta (second s), same]
        rfl
      | some b =>
        have at_last := behind.inside at_next (by simp [answer'])
        refine behind.bind (conducts_answer (fun _ => some (make a b)) at_last
          (fun _ _ => rfl) nofun) (fun s _ same => ?_) fun _ => ?_
        · rw [answer'] at same
          rw [← Prod.eta (second s), same]
        · exact (behind.taken (by simp [answer'])).1
    refine hf.bind row (fun s _ same => ?_) fun _ => (hf.taken (by simp [answer])).1
    rw [answer] at same
    rw [inRow, ← Prod.eta (first s), same]

theorem conducts_orElse {first second : Rule} (at_r : r.Inside)
    (hf : Conducts allowed first r.pos gain r)
    (hs : ∀ s, s.Inside → Conducts allowed second s.pos gain s) :
    Conducts allowed (orElse first second) r.pos gain r := by
  cases answer : (first r).1 with
  | none =>
    have at_next := hf.inside_of_failed at_r answer
    have behind := hs _ at_next
    rw [hf.failed answer] at behind
    have whole : Conducts allowed (orElse first second) r.pos (0 + gain) r := by
      refine hf.bind behind (fun s _ same => ?_) fun _ => ?_
      · rw [answer] at same
        rw [orElse, ← Prod.eta (first s), same]
      · rw [hf.failed answer]
        simp
    rwa [Nat.zero_add] at whole
  | some a =>
    have taken : (first r).1 ≠ none := by simp [answer]
    refine hf.bind (conducts_answer (fun _ => some a) (hf.inside at_r taken)
      (fun _ _ => rfl) nofun) (fun s _ same => ?_) fun _ => (hf.taken taken).1
    rw [answer] at same
    rw [orElse, ← Prod.eta (first s), same]

/-- A rule that is repeated goes on, also by nothing. -/
theorem conducts_many {rule : Rule} (h : ∀ r, r.Inside → Conducts allowed rule r.pos gain r)
    (fuel : Nat) (at_r : r.Inside) : Conducts allowed (always (many rule fuel)) back 0 r := by
  induction fuel generalizing r with
  | zero => exact conducts_answer (fun _ => some ()) at_r (fun _ _ => rfl) nofun
  | succ fuel ih =>
    have round := h r at_r
    cases answer : (rule r).1 with
    | none =>
      have at_next := round.inside_of_failed at_r answer
      have last : Conducts allowed (fun s => (some (), s)) back 0 (rule r).2 :=
        conducts_answer (fun _ => some ()) at_next (fun _ _ => rfl) nofun
      refine round.bind last (fun s _ same => ?_) fun _ => ?_
      · rw [answer] at same
        rw [always, many, ← Prod.eta (rule s), same]
      · rw [round.failed answer]
        simp
    | some a =>
      have taken : (rule r).1 ≠ none := by simp [answer]
      refine round.bind (ih (round.inside at_r taken)) (fun s _ same => ?_) fun _ => ?_
      · rw [answer] at same
        rw [always, many, ← Prod.eta (rule s), same]
        rfl
      · have forward := (round.taken taken).1
        omega

theorem conducts_all {rule : Rule} (h : ∀ r, r.Inside → Conducts allowed rule r.pos gain r)
    (at_r : r.Inside) : Conducts allowed (always (all rule)) back 0 r := by
  refine (conducts_many h ((r.input.length - r.pos).toNat + 1) at_r).congr fun s same => ?_
  rw [always, all, same.input, same.pos]
  rfl

/-- Nothing is told of what a step does quietly. -/
theorem Conducts.quietly {tells : Expectation → Prop} {step : Run → Run}
    (h : Conducts tells (always step) back gain (r.act .mute)) :
    Conducts allowed (always (quietly step)) back gain r := by
  obtain ⟨⟨acts, does, -, quiet⟩, muted, -, taken⟩ := h
  have none : told (.mute :: acts ++ [.unmute]) r = [] := by
    rw [told_append]
    exact congrArg (· ++ []) (quiet (Nat.succ_pos _))
  refine ⟨⟨.mute :: acts ++ [.unmute], fun s alike => ?_, ?_, fun _ => none⟩, ?_, nofun, ?_⟩
  · have inner := congrArg Prod.snd (does (s.act .mute) (alike.act .mute))
    rw [perform_append]
    exact congrArg (fun t : Run => (some (), t.act .unmute)) inner
  · rw [none]
    exact nofun
  · exact congrArg (· - 1) muted
  · exact taken

/-- A step that goes on, also by nothing, makes a rule that takes some text. -/
theorem conducts_filled {step : Run → Run} (h : Conducts allowed (always step) r.pos 0 r)
    (at_r : r.Inside) : Conducts allowed (filled step) r.pos 1 r := by
  have answers : (always step r).1 ≠ none := nofun
  have forward := (h.taken answers).1
  have look : Conducts allowed (filled step) r.pos (0 + 0) r := by
    refine h.bind (conducts_answer (fun s =>
      if s.pos = r.pos then none else some (s.taken r.pos)) (h.inside at_r answers)
      (fun s same => ?_) fun none => ?_) (fun s same _ => ?_) fun _ => forward
    · rw [same.pos, same.taken]
    · refine Decidable.byContradiction fun moved => ?_
      rw [if_neg moved] at none
      cases none
    · rw [filled, same.pos]
      by_cases moved : (step s).pos = r.pos <;> simp [always, moved]
  refine look.further 1 fun answer => ?_
  have moved : (step r).pos ≠ r.pos := by
    intro stayed
    rw [filled, if_pos stayed] at answer
    exact answer rfl
  have there : (filled step r).2 = step r := by rw [filled, if_neg moved]
  have forward' : r.pos ≤ (step r).pos := by simpa [always] using forward
  rw [there]
  omega

theorem andThen_eq (start : Int) (first second : Rule) :
    andThen start first second = inRow start (fun _ b => b) first second := by
  funext r
  unfold andThen inRow
  rcases first r with ⟨_ | a, next⟩
  · rfl
  · dsimp only
    rcases second next with ⟨_ | b, last⟩ <;> rfl

theorem conducts_andThen {first second : Rule} {b b' : Run → Int} (start : Int)
    (hf : ∀ s, s.Inside → Conducts allowed first (b s) gain s)
    (hs : ∀ s, s.Inside → Conducts allowed second (b' s) more s) :
    ∀ s, s.Inside → Conducts allowed (andThen start first second) start (gain + more) s := by
  intro s at_s
  rw [andThen_eq]
  exact conducts_inRow start _ at_s (hf s at_s) hs

theorem followedBy_eq (start : Int) (first second : Rule) :
    followedBy start first second = inRow start (fun a _ => a) first second := by
  funext r
  unfold followedBy inRow
  rcases first r with ⟨_ | a, next⟩
  · rfl
  · dsimp only
    rcases second next with ⟨_ | b, last⟩ <;> rfl

end Combinators

end EditorText.Snippet.Run
