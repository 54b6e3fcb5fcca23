import EditorText.Proofs.Pattern.Rejections
import EditorText.Replace.Operation

/-!
# Running the steps of an operation

An operation is run step by step, and a step does not know of those behind it. So running a row of
steps is running its front and then the rest on what the front made (`runSteps_append`), whether all
goes well or not. Steps whose patterns can be read make a text (`runSteps_of_compiles`), and of the
others the first ends the run with what the steps before it made (`apply_steps`).
-/

set_option autoImplicit false

namespace EditorText.Replace

section Engine

variable [Pattern.Engine]

/-- The pattern of the step can be read. -/
def Step.Compiles (s : Step) : Prop :=
  ∃ p, (Pattern.compile s.find stepFlags).result = .ok p

/-- The pattern of the step is reported as malformed, for a reason. -/
def Step.RejectedFor (s : Step) (reason : Text) : Prop :=
  ∃ q, (Pattern.compile s.find stepFlags).result = .error (.invalid q reason)

/-- The operation with other steps. -/
def Operation.withSteps (o : Operation) (steps : List Step) : Operation :=
  { o with steps := steps }

/-- The failure as it is when so many steps come before. -/
def RunError.behind (steps : Nat) : RunError → RunError
  | stepFailed operation index pattern reason text =>
    stepFailed operation (index + steps) pattern reason text
  | limit failure => limit failure

section Steps

variable {operation text : Text} {total index : Nat} {s : Step} {a b : List Step}

theorem Step.Compiles.apply (h : s.Compiles) (text : Text) : ∃ made, s.apply text = .ok made := by
  obtain ⟨p, read⟩ := h
  rw [Pattern.result_compile] at read
  exact ⟨substitute p (unescape s.replacement) text, by rw [Step.apply, read]⟩

theorem Step.RejectedFor.apply {reason : Text} (h : s.RejectedFor reason) (text : Text) :
    s.apply text = .error (.invalid s.find reason) := by
  obtain ⟨q, rejected⟩ := h
  obtain rfl := Pattern.eq_of_compile_invalid rejected
  rw [Pattern.result_compile] at rejected
  rw [Step.apply, rejected]

theorem Step.RejectedFor.not_compiles {reason : Text} (h : s.RejectedFor reason) :
    ¬ s.Compiles := by
  rintro ⟨p, read⟩
  obtain ⟨q, rejected⟩ := h
  rw [read] at rejected
  cases rejected

/-- **A row of steps is its front and then the rest**, run on what the front made. -/
theorem runSteps_append (operation : Text) (total index : Nat) (text : Text) (a b : List Step) :
    runSteps operation total index text (a ++ b) =
      (runSteps operation total index text a).bind fun mid =>
        runSteps operation total (index + a.length) mid b := by
  induction a generalizing index text with
  | nil => simp [runSteps, Outcome.bind, Outcome.ok]
  | cons s a ih =>
    rw [List.cons_append, runSteps, runSteps]
    cases made : s.apply text with
    | ok t =>
      dsimp only
      rw [ih, List.length_cons, Nat.add_assoc, Nat.add_comm 1]
    | error e => cases e <;> rfl

/-- Steps whose patterns can be read make a text and report nothing. -/
theorem runSteps_of_compiles (h : ∀ s ∈ a, s.Compiles) (operation : Text) (total index : Nat)
    (text : Text) : ∃ made, runSteps operation total index text a = .ok made := by
  induction a generalizing index text with
  | nil => exact ⟨text, rfl⟩
  | cons s a ih =>
    obtain ⟨here, there⟩ := List.forall_mem_cons.1 h
    obtain ⟨t, applied⟩ := here.apply text
    obtain ⟨made, run⟩ := ih there (index + 1) t
    exact ⟨made, by rw [runSteps, applied]; exact run⟩

/-- Behind such steps, a step whose pattern is rejected ends the run. -/
theorem runSteps_of_rejected {reason made : Text} (index : Nat)
    (front : runSteps operation total index text a = .ok made) (h : s.RejectedFor reason)
    (later : List Step) :
    runSteps operation total index text (a ++ s :: later) =
      stepFailure operation total (index + a.length) made (.invalid s.find reason) := by
  rw [runSteps_append, front]
  unfold Outcome.bind Outcome.ok
  dsimp only
  rw [runSteps, h.apply]
  rfl

/-- Where a run of steps begins shows in the index of a failure and nowhere else; how many steps the
operation has shows in a notice alone. -/
theorem result_runSteps_behind (operation : Text) (total total' index n : Nat) (text : Text)
    (a : List Step) :
    (runSteps operation total (index + n) text a).result =
      ((runSteps operation total' index text a).result).mapError (RunError.behind n) := by
  induction a generalizing index text with
  | nil => rfl
  | cons s a ih =>
    rw [runSteps, runSteps]
    cases made : s.apply text with
    | ok t =>
      dsimp only
      rw [Nat.add_right_comm, ih]
    | error e => cases e <;> rfl

theorem result_runSteps_total (operation : Text) (total total' index : Nat) (text : Text)
    (a : List Step) : (runSteps operation total index text a).result =
      (runSteps operation total' index text a).result := by
  induction a generalizing index text with
  | nil => rfl
  | cons s a ih =>
    rw [runSteps, runSteps]
    cases made : s.apply text with
    | ok t => exact ih (index + 1) t
    | error e => cases e <;> rfl

end Steps

section Apply

variable {o : Operation} {text made : Text} {a b : List Step}

/-- What an operation reports and makes if all of its steps make a text. -/
theorem apply_of_made (run : runSteps o.name o.steps.length 0 text o.steps = .ok made) :
    o.apply text =
      ⟨[.notice (.operationStarted o.name o.steps.length),
        .measurement (.latency .replaceDuration),
        .measurement (.count .replaceSteps o.steps.length (some o.name)),
        .notice (.operationApplied o.name o.steps.length)], .ok made⟩ := by
  unfold Operation.apply
  rw [run]
  rfl

/-- What an operation reports if a step fails, apart from what the step reports: that it began. -/
theorem apply_of_error {events : List Event} {e : RunError}
    (run : runSteps o.name o.steps.length 0 text o.steps = ⟨events, .error e⟩) :
    o.apply text =
      ⟨.notice (.operationStarted o.name o.steps.length) :: events, .error e⟩ := by
  unfold Operation.apply
  rw [run]
  rfl

/-- An operation answers what its steps do. -/
theorem result_apply (o : Operation) (text : Text) :
    (o.apply text).result = (runSteps o.name o.steps.length 0 text o.steps).result := by
  rcases run : runSteps o.name o.steps.length 0 text o.steps with ⟨events, e | made⟩
  · rw [apply_of_error run]
  · unfold Operation.apply
    rw [run]
    rfl

/-- **Operations are put together step by step.** What steps and further steps make is what the
further ones make of what the first ones made; a failure among the first is the failure of all, and
one among the further is counted from the first step of all. -/
theorem result_apply_append (o : Operation) (text : Text) (a b : List Step) :
    ((o.withSteps (a ++ b)).apply text).result =
      match ((o.withSteps a).apply text).result with
      | .ok mid => (((o.withSteps b).apply mid).result).mapError (RunError.behind a.length)
      | .error e => .error e := by
  have front : (runSteps o.name (a ++ b).length 0 text a).result =
      ((o.withSteps a).apply text).result := by
    rw [result_apply]
    exact result_runSteps_total ..
  have behind (mid : Text) : (runSteps o.name (a ++ b).length (0 + a.length) mid b).result =
      (((o.withSteps b).apply mid).result).mapError (RunError.behind a.length) := by
    rw [result_apply]
    exact result_runSteps_behind ..
  have whole : ((o.withSteps (a ++ b)).apply text).result =
      (runSteps o.name (a ++ b).length 0 text (a ++ b)).result := result_apply ..
  rw [whole, runSteps_append, ← front]
  cases first : (runSteps o.name (a ++ b).length 0 text a).result with
  | ok mid => exact (Outcome.result_bind_ok first).trans (behind mid)
  | error e => exact Outcome.result_bind_error first

/-- Steps whose patterns can be read make what they make one by one. -/
theorem exists_foldlM_apply (o : Operation) (compile : ∀ s ∈ a, s.Compiles) (text : Text) :
    ∃ made, ((o.withSteps a).apply text).result = .ok made ∧
      a.foldlM (fun t s => ((o.withSteps [s]).apply t).result) text = .ok made := by
  induction a generalizing text with
  | nil => exact ⟨text, result_apply .., rfl⟩
  | cons s a ih =>
    obtain ⟨here, there⟩ := List.forall_mem_cons.1 compile
    obtain ⟨t, applied⟩ := here.apply text
    have single : ((o.withSteps [s]).apply text).result = .ok t := by
      rw [result_apply, Operation.withSteps, runSteps, applied]
      rfl
    obtain ⟨made, made_eq, folded⟩ := ih there t
    refine ⟨made, ?_, ?_⟩
    · refine (result_apply_append o text [s] a).trans ?_
      rw [single]
      dsimp only
      rw [made_eq]
      rfl
    · rw [List.foldlM_cons, single]
      exact folded

/-- The first step whose pattern cannot be read. -/
theorem exists_first_rejected
    (readable : ∀ s ∈ a, s.Compiles ∨ ∃ reason, s.RejectedFor reason)
    (some : ∃ s ∈ a, ¬ s.Compiles) :
    ∃ front s later reason, a = front ++ s :: later ∧ (∀ r ∈ front, r.Compiles) ∧
      s.RejectedFor reason := by
  induction a with
  | nil => simp at some
  | cons s a ih =>
    obtain ⟨here, there⟩ := List.forall_mem_cons.1 readable
    rcases here with compiles | ⟨reason, rejected⟩
    · have behind : ∃ r ∈ a, ¬ r.Compiles := by
        obtain ⟨r, member, fails⟩ := some
        rcases List.mem_cons.1 member with rfl | further
        · exact absurd compiles fails
        · exact ⟨r, further, fails⟩
      obtain ⟨front, r, later, reason, rfl, good, rejected⟩ := ih there behind
      exact ⟨s :: front, r, later, reason, rfl, List.forall_mem_cons.2 ⟨compiles, good⟩, rejected⟩
    · exact ⟨[], s, a, reason, rfl, by simp, rejected⟩

/-- **A step whose pattern is malformed ends the operation** with its index, its pattern and what
the steps before it made, whatever the steps behind it are, and is counted once. -/
theorem apply_of_rejected {front : List Step} {s : Step} {reason : Text} (o : Operation)
    (text : Text) (good : ∀ r ∈ front, r.Compiles) (rejected : s.RejectedFor reason) :
    ∃ committed, ((o.withSteps front).apply text).result = .ok committed ∧
      ∀ later, ((o.withSteps (front ++ s :: later)).apply text).result =
          .error (.stepFailed o.name front.length s.find reason committed) ∧
        ((o.withSteps (front ++ s :: later)).apply text).measurements =
          [.count .replaceErrors 1 (some o.name)] := by
  obtain ⟨committed, made⟩ := runSteps_of_compiles good o.name front.length 0 text
  refine ⟨committed, by rw [apply_of_made made], fun later => ?_⟩
  obtain ⟨same, front_eq⟩ :=
    runSteps_of_compiles good o.name (front ++ s :: later).length 0 text
  have agree := result_runSteps_total o.name front.length (front ++ s :: later).length 0 text front
  rw [made, front_eq] at agree
  obtain rfl : committed = same := by injection agree
  have run := runSteps_of_rejected 0 front_eq rejected later
  rw [Nat.zero_add] at run
  rw [apply_of_error (o := o.withSteps (front ++ s :: later)) run]
  exact ⟨rfl, rfl⟩

/-- **An operation goes through its steps**, each on what the one before made, as far as their
patterns can be read, whatever the engine is. If all can, there is a text, and what is measured is one
duration and the number of the steps. Otherwise the first that cannot ends the operation, with its
index, its pattern and what the steps before it made; the steps behind it do not count, and what is
measured is one error. Steps and further steps are run as one row or as two. -/
theorem apply_steps (o : Operation) (text : Text)
    (readable : ∀ s ∈ o.steps, s.Compiles ∨ ∃ reason, s.RejectedFor reason) :
    ((∀ s ∈ o.steps, s.Compiles) →
      ∃ made, (o.apply text).result = .ok made ∧
        o.steps.foldlM (fun t s => ((o.withSteps [s]).apply t).result) text = .ok made ∧
        (o.apply text).measurements =
          [.latency .replaceDuration, .count .replaceSteps o.steps.length (some o.name)]) ∧
    ((∃ s ∈ o.steps, ¬ s.Compiles) →
      ∃ k s reason committed, o.steps[k]? = some s ∧ s.RejectedFor reason ∧
        (∀ r ∈ o.steps.take k, r.Compiles) ∧
        ((o.withSteps (o.steps.take k)).apply text).result = .ok committed ∧
        (o.apply text).result = .error (.stepFailed o.name k s.find reason committed) ∧
        (o.apply text).measurements = [.count .replaceErrors 1 (some o.name)] ∧
        ∀ later, ((o.withSteps (o.steps.take (k + 1) ++ later)).apply text).result =
            (o.apply text).result ∧
          ((o.withSteps (o.steps.take (k + 1) ++ later)).apply text).measurements =
            (o.apply text).measurements) ∧
    ∀ a b, o.steps = a ++ b → (o.apply text).result =
      match ((o.withSteps a).apply text).result with
      | .ok mid => (((o.withSteps b).apply mid).result).mapError (RunError.behind a.length)
      | .error e => .error e := by
  refine ⟨fun compile => ?_, fun some => ?_, fun a b split => ?_⟩
  · obtain ⟨made, result, folded⟩ := exists_foldlM_apply o compile text
    obtain ⟨made', run⟩ := runSteps_of_compiles compile o.name o.steps.length 0 text
    refine ⟨made, result, folded, ?_⟩
    rw [apply_of_made run]
    rfl
  · obtain ⟨front, s, later, reason, steps, good, rejected⟩ := exists_first_rejected readable some
    obtain ⟨committed, before, fails⟩ := apply_of_rejected o text good rejected
    have whole : o.withSteps (front ++ s :: later) = o := by rw [← steps]; rfl
    have steps' : o.steps = (front ++ [s]) ++ later := by rw [steps, List.append_assoc]; rfl
    have upTo : o.steps.take front.length = front := by rw [steps, List.take_left]
    have through : o.steps.take (front.length + 1) = front ++ [s] := by
      rw [steps', List.take_left' (by simp)]
    obtain ⟨result, measured⟩ := fails later
    rw [whole] at result measured
    refine ⟨front.length, s, reason, committed, ?_, rejected, ?_, ?_, result, measured, ?_⟩
    · rw [steps, List.getElem?_append_right (Nat.le_refl _), Nat.sub_self]
      rfl
    · rwa [upTo]
    · rwa [upTo]
    · intro further
      rw [through, List.append_assoc, List.singleton_append, result, measured]
      exact fails further
  · rw [← result_apply_append, ← split]
    rfl

end Apply

end Engine

/-- A step that doubles a vowel, one with an open group, and one with an open set. -/
def doubling : Operation :=
  ⟨Text.ofString "double", [⟨Text.ofString "[ae]", Text.ofString "$&$&"⟩,
    ⟨Text.ofString "(o", []⟩, ⟨Text.ofString "[u", []⟩]⟩

/-- The open group ends the operation with what the step before it made; the open set is never read,
though it is rejected too. -/
theorem apply_steps_doubling :
    (∀ s ∈ doubling.steps, s.Compiles ∨ ∃ reason, s.RejectedFor reason) ∧
    (∃ reason, (doubling.apply (Text.ofString "tea")).result =
      .error (.stepFailed (Text.ofString "double") 1 (Text.ofString "(o") reason
        (Text.ofString "teeaa"))) ∧
    (doubling.apply (Text.ofString "tea")).measurements =
      [.count .replaceErrors 1 (some (Text.ofString "double"))] := by
  have first : Step.Compiles ⟨Text.ofString "[ae]", Text.ofString "$&$&"⟩ := ⟨_, rfl⟩
  have second : Step.RejectedFor ⟨Text.ofString "(o", []⟩
      (Text.ofString "missing ), unterminated subpattern at position 0") := ⟨_, rfl⟩
  have third : Step.RejectedFor ⟨Text.ofString "[u", []⟩
      (Text.ofString "unterminated character set at position 0") := ⟨_, rfl⟩
  have readable : ∀ s ∈ doubling.steps, s.Compiles ∨ ∃ reason, s.RejectedFor reason := by
    simp only [doubling, List.forall_mem_cons, List.not_mem_nil, false_implies, implies_true,
      and_true]
    exact ⟨.inl first, .inr ⟨_, second⟩, .inr ⟨_, third⟩⟩
  obtain ⟨-, failing, appended⟩ := apply_steps doubling (Text.ofString "tea") readable
  refine ⟨readable, ⟨_, (appended (doubling.steps.take 1) (doubling.steps.drop 1) rfl).trans rfl⟩, ?_⟩
  have some : ∃ s ∈ doubling.steps, ¬ s.Compiles :=
    ⟨⟨Text.ofString "(o", []⟩, by simp [doubling], second.not_compiles⟩
  obtain ⟨k, s, reason, committed, -, -, -, -, -, measured, -⟩ := failing some
  exact measured

end EditorText.Replace
