import EditorText.Proofs.Align.Chains
import EditorText.Proofs.Pattern.Answers
import EditorText.Proofs.Replace.Running

/-!
# How failures are reported

A pattern that cannot be read ends an operation or an alignment. If it is malformed, the failure says
so and is counted: an operation hands over what the steps before it made. If it meets a limit of the
engine, the failure is the limit alone, nothing is counted and what was made is lost
(`failures_reported`). Among the limits is the depth of calls: groups that stand inside each other
deeper than the platform has room for make the reader of patterns run out of its stack.
-/

set_option autoImplicit false

namespace EditorText

open Pattern (Limits convert)

namespace Replace

section Limits

variable [Pattern.Platform]

/-- Steps are run to the end, or as far as the first whose pattern cannot be read. -/
theorem runSteps_cases (operation : Text) (total index : Nat) (text : Text) (a : List Step) :
    (∃ made, runSteps operation total index text a = .ok made) ∨
    ∃ front s later committed, a = front ++ s :: later ∧
      runSteps operation total index text front = .ok committed ∧
      ((∃ reason, runSteps operation total index text a =
          stepFailure operation total (index + front.length) committed (.invalid s.find reason)) ∨
        ∃ f, Limits (convert s.find) f ∧
          runSteps operation total index text a = .fail (.limit f)) := by
  induction a generalizing index text with
  | nil => exact .inl ⟨text, rfl⟩
  | cons s a ih =>
    rcases Pattern.read_cases s.find stepFlags rfl with
      ⟨q, read⟩ | ⟨reason, read⟩ | ⟨f, limits, read⟩
    · have applied : s.apply text = .ok (substitute q (unescape s.replacement) text) := by
        rw [Step.apply, read]
      have next (b : List Step) : runSteps operation total index text (s :: b) =
          runSteps operation total (index + 1) (substitute q (unescape s.replacement) text) b := by
        rw [runSteps, applied]
      rw [next]
      rcases ih (index + 1) (substitute q (unescape s.replacement) text) with
        made | ⟨front, r, later, committed, rfl, before, ends⟩
      · exact .inl made
      · refine .inr ⟨s :: front, r, later, committed, rfl, (next front).trans before, ?_⟩
        rwa [List.length_cons, Nat.add_comm front.length, ← Nat.add_assoc]
    · have rejected : s.apply text = .error (.invalid s.find reason) := by rw [Step.apply, read]
      exact .inr ⟨[], s, a, text, rfl, rfl, .inl ⟨reason, by rw [runSteps, rejected]; rfl⟩⟩
    · have limited : s.apply text = .error (.limit f) := by rw [Step.apply, read]
      exact .inr ⟨[], s, a, text, rfl, rfl, .inr ⟨f, limits, by rw [runSteps, limited]; rfl⟩⟩

/-- An operation makes a text, or a step of it fails behind those that made something. The failure
carries what they made if the pattern is malformed, and is counted once; a limit is neither. -/
theorem apply_cases (o : Operation) (text : Text) :
    (∃ made, (o.apply text).result = .ok made) ∨
    ∃ k s committed, o.steps[k]? = some s ∧
      ((o.withSteps (o.steps.take k)).apply text).result = .ok committed ∧
      ((∃ reason,
          (o.apply text).result = .error (.stepFailed o.name k s.find reason committed) ∧
          (o.apply text).measurements = [.count .replaceErrors 1 (some o.name)]) ∨
        ∃ f, Limits (convert s.find) f ∧ (o.apply text).result = .error (.limit f) ∧
          (o.apply text).measurements = []) := by
  rcases runSteps_cases o.name o.steps.length 0 text o.steps with
    ⟨made, run⟩ | ⟨front, s, later, committed, steps, before, ends⟩
  · exact .inl ⟨made, by rw [apply_of_made run]⟩
  · have upTo : o.steps.take front.length = front := by rw [steps, List.take_left]
    have fed : ((o.withSteps front).apply text).result = .ok committed := by
      rw [result_apply]
      refine (result_runSteps_total _ _ o.steps.length _ _ _).trans ?_
      exact congrArg Outcome.result before
    refine .inr ⟨front.length, s, committed, ?_, by rwa [upTo], ?_⟩
    · rw [steps, List.getElem?_append_right (Nat.le_refl _), Nat.sub_self]
      rfl
    · rw [Nat.zero_add] at ends
      rcases ends with ⟨reason, run⟩ | ⟨f, limits, run⟩
      · rw [apply_of_error run]
        exact .inl ⟨reason, rfl, rfl⟩
      · rw [apply_of_error run]
        exact .inr ⟨f, limits, rfl, rfl⟩

end Limits

end Replace

namespace Outcome

variable {ε α β : Type}

theorem measurements_bind_ok {x : Outcome ε α} {f : α → Outcome ε β} {a : α}
    (h : x.result = .ok a) : (x.bind f).measurements = x.measurements ++ (f a).measurements := by
  rw [measurements, events_bind_ok h, List.filterMap_append]
  rfl

theorem measurements_bind {x : Outcome ε α} {f : α → Outcome ε β} (first : x.measurements = [])
    (next : ∀ a, (f a).measurements = []) : (x.bind f).measurements = [] := by
  cases run : x.result with
  | ok a => rw [measurements_bind_ok run, first, next, List.append_nil]
  | error e => rw [measurements, events_bind_error run]; exact first

end Outcome

namespace Align

section Engine

variable [Pattern.Engine]

/-- A pass measures nothing. -/
theorem measurements_alignPass (eol : Text) (startLine tabSize : Int) (text p : Text) :
    (alignPass eol startLine tabSize text p).measurements = [] := by
  have compiled : ((Pattern.compile p {}).mapError AlignError.rejected).measurements = [] := by
    unfold Pattern.compile
    rcases Pattern.read p {} with (_ | _) | _ <;> rfl
  have built : (buildBlock text eol p startLine).measurements = [] := by
    refine Outcome.measurements_bind compiled fun q => ?_
    split <;> rfl
  exact Outcome.measurements_bind built fun b => rfl

theorem measurements_alignFurther (eol : Text) (startLine tabSize : Int) (b : Block)
    (ps : List Text) :
    (alignFurther eol startLine tabSize b ps).measurements = [] := by
  induction ps generalizing b with
  | nil => rfl
  | cons p ps ih =>
    exact Outcome.measurements_bind (measurements_alignPass ..) fun next => ih next

theorem measurements_alignInPasses (eol : Text) (startLine tabSize : Int) (text : Text)
    (ps : List Text) :
    (alignInPasses text ps startLine eol tabSize).measurements = [] := by
  cases ps with
  | nil => rfl
  | cons p ps =>
    exact Outcome.measurements_bind (measurements_alignPass ..) fun b =>
      measurements_alignFurther _ _ _ b ps

/-- Passes make a block, or one of them fails: its pattern is rejected, there is no line ending, or a
padding of it cannot be written. -/
theorem alignInPasses_ends (eol : Text) (startLine tabSize : Int) {ps : List Text} (some : ps ≠ [])
    (text : Text) :
    (∃ b, (alignInPasses text ps startLine eol tabSize).result = .ok b) ∨
    (∃ p ∈ ps, ∃ e, (Pattern.compile p {}).result = .error e ∧
      (alignInPasses text ps startLine eol tabSize).result = .error (.rejected e)) ∨
    (eol = [] ∧ (alignInPasses text ps startLine eol tabSize).result = .error .emptyLineEnding) ∨
    ∃ x, Outgrows eol startLine tabSize x text ps ∧
      (alignInPasses text ps startLine eol tabSize).result = .error (.overlong x) := by
  induction ps generalizing text with
  | nil => exact absurd rfl some
  | cons p ps ih =>
    have ends {e : AlignError} (failed : (alignPass eol startLine tabSize text p).result = .error e) :
        (alignInPasses text (p :: ps) startLine eol tabSize).result = .error e :=
      Outcome.result_bind_error failed
    cases compiles : (Pattern.compile p {}).result with
    | error e =>
      exact .inr (.inl ⟨p, List.mem_cons_self, e, compiles,
        ends (result_alignPass_of_rejected compiles)⟩)
    | ok q =>
      by_cases empty : eol = []
      · subst empty
        exact .inr (.inr (.inl ⟨rfl, ends (result_alignPass_of_no_eol compiles)⟩))
      have result := result_alignPass compiles empty startLine tabSize text
      cases fits : (trimmedBlock q eol startLine text).excess? tabSize with
      | some x =>
        rw [fits] at result
        exact .inr (.inr (.inr ⟨x, ⟨q, compiles, .inl fits⟩, ends result⟩))
      | none =>
        rw [fits] at result
        cases ps with
        | nil =>
          rw [result_alignInPasses_one]
          exact .inl ⟨_, result⟩
        | cons r ps =>
          have further := result_alignInPasses_cons eol startLine tabSize text p r ps
          rw [result] at further
          rw [further]
          rcases ih (List.cons_ne_nil r ps) (passBlock (finder q) eol startLine tabSize text).text
            with made | ⟨p', member, rejected⟩ | none | ⟨x, outgrows, failed⟩
          · exact .inl made
          · exact .inr (.inl ⟨p', List.mem_cons_of_mem p member, rejected⟩)
          · exact .inr (.inr (.inl none))
          · exact .inr (.inr (.inr ⟨x, ⟨q, compiles, .inr ⟨fits, outgrows⟩⟩, failed⟩))

/-- What is measured of an alignment that fails is what its failure is worth. -/
theorem measurements_replacementFor_of_error {region : Region} {chain : Text} {tabSize : HostValue}
    {e : AlignError} (failed : (replacementFor region chain tabSize).result = .error e) :
    (replacementFor region chain tabSize).measurements =
      (⟨failureEvents e, .error e⟩ : Outcome AlignError Block).measurements := by
  unfold replacementFor at failed ⊢
  split at failed
  · cases failed
  rename_i filled
  rw [if_neg filled]
  generalize passesOf chain = passes at failed ⊢
  cases passes with
  | nil => cases failed
  | cons p ps =>
    have columns : (usableTabSize tabSize : Outcome AlignError Int).result =
        .ok (tabSize.tabSize?.getD defaultTabSize) := result_usableTabSize tabSize
    have quiet : (usableTabSize tabSize : Outcome AlignError Int).measurements = [] := by
      unfold usableTabSize
      split <;> rfl
    refine (Outcome.measurements_bind_ok columns).trans ?_
    replace failed := (Outcome.result_bind_ok columns).symm.trans failed
    rw [quiet, List.nil_append]
    dsimp only at failed ⊢
    have passes := measurements_alignInPasses region.eol region.startLine
      (tabSize.tabSize?.getD defaultTabSize) region.text (p :: ps)
    cases run : (alignInPasses region.text (p :: ps) region.startLine region.eol
        (tabSize.tabSize?.getD defaultTabSize)).result with
    | ok b =>
      rw [run] at failed
      cases failed
    | error e' =>
      rw [run] at failed
      cases failed
      rw [Outcome.measurements] at passes ⊢
      rw [List.filterMap_append, passes, List.nil_append]
      rfl

end Engine

/-- An alignment answers, or a pattern of its chain cannot be read, or there is no line ending, or a
padding cannot be written. A malformed pattern alone is counted. -/
theorem replacementFor_cases [Pattern.Platform] (region : Region) (chain : Text) (tabSize : HostValue) :
    (∃ answer, (replacementFor region chain tabSize).result = .ok answer) ∨
    (∃ p ∈ passesOf chain, ∃ reason,
      (replacementFor region chain tabSize).result = .error (.rejected (.invalid p reason)) ∧
      (replacementFor region chain tabSize).measurements = [.count .alignErrors 1 none]) ∨
    (replacementFor region chain tabSize).measurements = [] ∧
      ((∃ p ∈ passesOf chain, ∃ f, Limits (convert p) f ∧
        (replacementFor region chain tabSize).result = .error (.rejected (.limit f))) ∨
      (region.eol = [] ∧ (replacementFor region chain tabSize).result = .error .emptyLineEnding) ∨
      ∃ x, Outgrows region.eol region.startLine (tabSize.tabSize?.getD defaultTabSize) x region.text
          (passesOf chain) ∧
        (replacementFor region chain tabSize).result = .error (.overlong x)) := by
  by_cases filled : region.text = []
  · exact .inl ⟨none, by rw [replacementFor, if_pos filled]; rfl⟩
  by_cases some : passesOf chain = []
  · exact .inl ⟨none, replacementFor_of_no_pass filled some tabSize⟩
  have result := replacementFor_of_passes filled some tabSize
  rcases alignInPasses_ends region.eol region.startLine (tabSize.tabSize?.getD defaultTabSize) some
      region.text with ⟨b, made⟩ | ⟨p, member, e, rejected, failed⟩ | ⟨empty, failed⟩ |
      ⟨x, outgrows, failed⟩
  · rw [made] at result
    exact .inl ⟨_, result⟩
  all_goals
    rw [failed] at result
    have measured := measurements_replacementFor_of_error result
  · rcases Pattern.compile_cases p {} rfl with ⟨q, made⟩ | ⟨reason, made⟩ |
        ⟨f, limits, made⟩
    all_goals
      rw [made] at rejected
      cases rejected
    · exact .inr (.inl ⟨p, member, reason, result, measured⟩)
    · exact .inr (.inr ⟨measured, .inl ⟨p, member, f, limits, result⟩⟩)
  · exact .inr (.inr ⟨measured, .inr (.inl ⟨empty, result⟩)⟩)
  · exact .inr (.inr ⟨measured, .inr (.inr ⟨x, outgrows, result⟩)⟩)

end Align

/-- **A failure is reported as one of a malformed pattern, unless a limit is met**, whatever names of
characters the platform knows and however deep its calls may go. Compiling a pattern gives it or
reports it as malformed, under its own name. An operation makes a text, or hands
over what the steps before a malformed pattern made, and counts one error. An alignment answers, or
reports a malformed pattern of its chain and counts one error. A pattern that meets a limit, by a
cause that stands in its text, is neither reported nor counted, and what the steps before it made is
lost; no more is an alignment counted that has no line ending to cut at or a padding that cannot be
written. -/
theorem failures_reported [Pattern.Platform] (p : Text) (flags : Pattern.Flags)
    (plain : flags.choosesClasses = false) (o : Replace.Operation) (text : Text) (region : Region)
    (chain : Text) (tabSize : HostValue) :
    ((∃ q, Pattern.compile p flags = .ok q) ∨
      (∃ reason, Pattern.compile p flags =
        ⟨[.notice (.patternRejected p reason)], .error (.invalid p reason)⟩) ∨
      ∃ f, Limits (convert p) f ∧ Pattern.compile p flags = .fail (.limit f)) ∧
    ((∃ made, (o.apply text).result = .ok made) ∨
      ∃ k s committed, o.steps[k]? = some s ∧
        ((o.withSteps (o.steps.take k)).apply text).result = .ok committed ∧
        ((∃ reason,
            (o.apply text).result = .error (.stepFailed o.name k s.find reason committed) ∧
            (o.apply text).measurements = [.count .replaceErrors 1 (some o.name)]) ∨
          ∃ f, Limits (convert s.find) f ∧ (o.apply text).result = .error (.limit f) ∧
            (o.apply text).measurements = [])) ∧
    ((∃ answer, (Align.replacementFor region chain tabSize).result = .ok answer) ∨
      (∃ p ∈ Align.passesOf chain, ∃ reason,
        (Align.replacementFor region chain tabSize).result =
          .error (.rejected (.invalid p reason)) ∧
        (Align.replacementFor region chain tabSize).measurements = [.count .alignErrors 1 none]) ∨
      (Align.replacementFor region chain tabSize).measurements = [] ∧
        ((∃ p ∈ Align.passesOf chain, ∃ f, Limits (convert p) f ∧
          (Align.replacementFor region chain tabSize).result = .error (.rejected (.limit f))) ∨
        (region.eol = [] ∧
          (Align.replacementFor region chain tabSize).result = .error .emptyLineEnding) ∨
        ∃ x, Align.Outgrows region.eol region.startLine (tabSize.tabSize?.getD defaultTabSize) x
            region.text (Align.passesOf chain) ∧
          (Align.replacementFor region chain tabSize).result = .error (.overlong x))) :=
  ⟨Pattern.compile_cases p flags plain, Replace.apply_cases o text,
    Align.replacementFor_cases region chain tabSize⟩

/-- An operation whose first step doubles a vowel and whose second asks for too many rounds. -/
def endless : Replace.Operation :=
  ⟨Text.ofString "endless", [⟨Text.ofString "[ae]", Text.ofString "$&$&"⟩,
    ⟨Text.ofString "a\x7b4294967295\x7d", []⟩]⟩

/-- A group that is left open is reported and counted; the cause of the other failure stands in a
pattern of the operation. -/
theorem failures_reported_of_open_group :
    ({} : Pattern.Flags).choosesClasses = false ∧
    (∃ reason, Pattern.compile (Text.ofString "(o") {} =
      ⟨[.notice (.patternRejected (Text.ofString "(o") reason)],
        .error (.invalid (Text.ofString "(o") reason)⟩) ∧
    (∃ s ∈ endless.steps, ∃ f, Limits (convert s.find) f ∧
      (endless.apply (Text.ofString "tea")).result = .error (.limit f)) ∧
    (Align.replacementFor { text := Text.ofString "a=b" } (Text.ofString "(o")
      (.whole 4)).measurements = [.count .alignErrors 1 none] := by
  obtain ⟨compiled, applied, aligned⟩ := failures_reported (Text.ofString "(o") {} rfl endless
    (Text.ofString "tea") { text := Text.ofString "a=b" } (Text.ofString "(o") (.whole 4)
  refine ⟨rfl, ?_, ?_, ?_⟩
  · have malformed : (Pattern.compile (Text.ofString "(o") {}).result =
        .error (.invalid (Text.ofString "(o") _) := rfl
    rcases compiled with ⟨q, made⟩ | rejected | ⟨f, -, limited⟩
    · rw [made] at malformed
      cases malformed
    · exact rejected
    · rw [limited] at malformed
      cases malformed
  · have failed : (endless.apply (Text.ofString "tea")).result.isOk = false := by decide +kernel
    have uncounted : (endless.apply (Text.ofString "tea")).measurements = [] := by decide +kernel
    rcases applied with ⟨made, result⟩ | ⟨k, s, committed, step, -, ⟨reason, -, measured⟩ | found⟩
    · rw [result] at failed
      cases failed
    · rw [measured] at uncounted
      cases uncounted
    · obtain ⟨f, limits, result, -⟩ := found
      exact ⟨s, List.mem_of_getElem? step, f, limits, result⟩
  · have malformed : (Align.replacementFor { text := Text.ofString "a=b" } (Text.ofString "(o")
        (.whole 4)).result = .error (.rejected (.invalid (Text.ofString "(o") _)) := rfl
    rcases aligned with ⟨answer, result⟩ | ⟨p, -, reason, -, measured⟩ |
        ⟨-, ⟨p, -, f, -, result⟩ | ⟨-, result⟩ | ⟨x, -, result⟩⟩
    · rw [result] at malformed
      cases malformed
    · exact measured
    all_goals
      rw [result] at malformed
      cases malformed

/-- **A count of rounds may be too large.** Such a pattern is not reported as malformed, an operation
loses what the step before it made, and nothing is counted. Nor is a pattern reported that opens more
groups inside each other than there is room for. -/
theorem failures_not_reported :
    (Pattern.compile (Text.ofString "a\x7b4294967295\x7d") {}).result matches
      .error (.limit .tooManyRounds) ∧
    (endless.apply (Text.ofString "tea")).result matches .error (.limit .tooManyRounds) ∧
    (endless.apply (Text.ofString "tea")).measurements = [] ∧
    (Align.replacementFor { text := Text.ofString "a=b" } (Text.ofString "a\x7b4294967295\x7d")
      (.whole 4)).result matches .error (.rejected (.limit .tooManyRounds)) ∧
    (Align.replacementFor { text := Text.ofString "a=b" } (Text.ofString "a\x7b4294967295\x7d")
      (.whole 4)).measurements = [] ∧
    (Pattern.compile (List.replicate 491 Code.openParen) {}).result matches
      .error (.limit .tooDeep) := by
  decide +kernel

end EditorText
