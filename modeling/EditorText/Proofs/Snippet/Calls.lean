import EditorText.Proofs.Snippet.Grammar
import EditorText.Proofs.Snippet.Rules

/-!
# Calls of rules, in any order

The rules can be called by themselves, in any order, with the cursor set to any place of the text in
between. Whatever was called before, every call is `Orderly`: a failure leaves the cursor where it
was, an answer moves it forward within the text, failures are recorded at the furthest place alone,
and nothing that a rule looks for by itself is ever expected (`orderly_call`).
-/

set_option autoImplicit false

namespace EditorText.Snippet

open Run

/-- A call of a rule. -/
inductive Call where
  | blanks
  | newlines
  | value
  | field (keyword : Text)
  | separator
  | body
  | snippet

/-- What a call answers with. -/
inductive Answer where
  | text (t : Text)
  | definition (d : Definition)

/-- A rule that answers with what is made of another one's answer. -/
def answering {α : Type} (make : α → Answer) (rule : Run → Option α × Run) :
    Run → Option Answer × Run := fun r => ((rule r).1.map make, (rule r).2)

namespace Call

/-- Calls the rule. -/
def run : Call → Run → Option Answer × Run
  | blanks => answering .text Run.blanks
  | newlines => answering .text Run.newlines
  | value => answering .text Run.value
  | field keyword => answering .text (Run.field keyword)
  | separator => answering .text Run.separator
  | body => answering .text Run.body
  | snippet => answering .definition Run.snippet

/-- A keyword stands on one line. -/
def IsPlain : Call → Prop
  | field keyword => ∀ c ∈ keyword, IsInLine c
  | _ => True

/-- The rule answers with all the text it takes. -/
def IsWhole : Call → Prop
  | blanks | newlines | value | separator => True
  | field _ | body | snippet => False

/-- How far a call goes on at least. -/
def gain : Call → Nat
  | blanks => 0
  | _ => 1

end Call

/-- A run over a text in which rules were called, and the cursor was set, in any order. -/
inductive Reached (text : Text) (source : Option Text) : Run → Prop where
  | start : Reached text source { input := text, source := source }
  | seek {r : Run} {place : Nat} : Reached text source r → place ≤ text.length →
      Reached text source (r.moveTo place)
  | call {r : Run} {c : Call} : Reached text source r → c.IsPlain →
      Reached text source (c.run r).2

/-- What a call does to a run `r` that becomes `next`. -/
structure Orderly (c : Call) (r : Run) (answer : Option Answer) (next : Run) : Prop where
  input : next.input = r.input
  failed : answer = none → next.pos = r.pos
  within : answer ≠ none → r.pos ≤ next.pos ∧ next.pos ≤ r.input.length
  forward : answer ≠ none → c ≠ .blanks → r.pos < next.pos
  slice : c.IsWhole → ∀ a, answer = some a →
    a = .text ((r.input.take next.pos.toNat).drop r.pos.toNat)
  unmuted : next.muted = 0
  furthest : r.furthest ≤ next.furthest
  kept : next.furthest = r.furthest → r.expected <+: next.expected
  recorded : ∃ acts, Does c.run r acts ∧ (next.furthest ≠ r.furthest →
    ∀ e ∈ next.expected, ((next.furthest : Int), e) ∈ told acts r)
  outer : ∀ e ∈ next.expected, ¬ IsInner e

/-- The cursor stands in the text, no rule keeps failures to itself, and nothing is expected that a
rule looks for by itself. -/
structure Sits (text : Text) (r : Run) : Prop where
  input : r.input = text
  inside : r.Inside
  unmuted : r.muted = 0
  outer : ∀ e ∈ r.expected, ¬ IsInner e

section Conduct

variable {α : Type} {allowed : Expectation → Prop} {r : Run} {back : Int} {gain : Nat}

theorem Run.Conducts.answering {rule : Run → Option α × Run}
    (h : Conducts allowed rule back gain r) (make : α → Answer) :
    Conducts allowed (answering make rule) back gain r := by
  have none_iff : (Snippet.answering make rule r).1 = none ↔ (rule r).1 = none :=
    Option.map_eq_none_iff
  obtain ⟨⟨acts, does, tells⟩, muted, failed, taken⟩ := h
  refine ⟨⟨acts, fun s alike => ?_, tells⟩, muted, fun none => ?_, fun answer => ?_⟩
  · rw [Snippet.answering, does s alike]
    rfl
  · exact failed (none_iff.1 none)
  · exact taken fun none => answer (none_iff.2 none)

theorem Call.conducts {c : Call} (plain : c.IsPlain) (at_r : r.Inside) :
    Conducts (¬ IsInner ·) c.run r.pos c.gain r := by
  cases c with
  | blanks => exact (conducts_blanks at_r).answering .text
  | newlines => exact (conducts_newlines at_r).answering .text
  | value => exact (conducts_value at_r).answering .text
  | field keyword =>
    have oneLine : Code.newline ∉ keyword := fun inside => (plain _ inside).2 rfl
    exact (conducts_field oneLine at_r).answering .text
  | separator => exact (conducts_separator at_r).answering .text
  | body => exact (conducts_body at_r).answering .text
  | snippet => exact (conducts_snippet at_r).answering .definition

/-- The text between two places of the cursor. -/
theorem taken_eq_slice {r next : Run} (input : next.input = r.input) (low : 0 ≤ r.pos)
    (low' : 0 ≤ next.pos) :
    next.taken r.pos = (r.input.take next.pos.toNat).drop r.pos.toNat := by
  rw [Run.taken, before, before, if_pos low, if_pos low', input, List.drop_take]

theorem answer_of_filled {step : Run → Run} {t : Text} (h : (filled step r).1 = some t) :
    t = (filled step r).2.taken r.pos := by
  unfold filled at h ⊢
  split at h
  · cases h
  next moved =>
    rw [if_neg moved]
    exact (Option.some.inj h).symm

/-- A rule that answers with all it takes answers with the text up to the cursor. -/
theorem Call.answer_eq {c : Call} (whole : c.IsWhole) {a : Answer}
    (h : (c.run r).1 = some a) : a = .text ((c.run r).2.taken r.pos) := by
  cases c with
  | blanks => exact (Option.some.inj h).symm
  | newlines =>
    simp only [Call.run, Snippet.answering, newlines_eq] at h ⊢
    obtain ⟨t, found, rfl⟩ := Option.map_eq_some_iff.1 h
    rw [answer_of_filled found]
  | value =>
    simp only [Call.run, Snippet.answering, value_eq] at h ⊢
    obtain ⟨t, found, rfl⟩ := Option.map_eq_some_iff.1 h
    rw [answer_of_filled found]
  | separator =>
    obtain ⟨t, found, rfl⟩ := Option.map_eq_some_iff.1 h
    rw [separator_eq] at found
    obtain ⟨_, -, rfl⟩ := Option.map_eq_some_iff.1 found
    simp only [Call.run, Snippet.answering, separator_eq]
  | field _ | body | snippet => exact whole.elim

end Conduct

section Calls

variable {text : Text} {source : Option Text} {r : Run} {c : Call}

/-- What is expected behind a call was expected before, or the call told it there. -/
theorem Call.noted (plain : c.IsPlain) (at_r : r.Inside) :
    ∃ acts, Does c.run r acts ∧ (∀ p e, (p, e) ∈ told acts r → ¬ IsInner e) ∧
      Noted (told acts r) r (c.run r).2 := by
  obtain ⟨acts, does, tells, -⟩ := (Call.conducts plain at_r).acts
  refine ⟨acts, does, tells, ?_⟩
  rw [does.run]
  exact noted_perform acts r

theorem Sits.orderly (sits : Sits text r) (plain : c.IsPlain) :
    Orderly c r (c.run r).1 (c.run r).2 := by
  have conducts := Call.conducts plain sits.inside
  obtain ⟨acts, does, tells, noted⟩ := Call.noted plain sits.inside
  have low := sits.inside.1
  refine ⟨conducts.beside.input, conducts.failed, ?_, ?_, ?_, ?_, noted.forward, ?_, ?_, ?_⟩
  · intro answer
    obtain ⟨far, within⟩ := conducts.taken answer
    exact ⟨by omega, within⟩
  · intro answer notBlanks
    have far := (conducts.taken answer).1
    have gain : c.gain = 1 := by
      cases c with
      | blanks => exact absurd rfl notBlanks
      | _ => rfl
    omega
  · intro whole a answer
    have far := (conducts.taken (by simp [answer])).1
    rw [Call.answer_eq whole answer, taken_eq_slice conducts.beside.input low (by omega)]
  · rw [conducts.muted, sits.unmuted]
  · intro stayed
    rw [noted.expected, if_pos stayed]
    exact List.prefix_append _ _
  · refine ⟨acts, does, fun moved e inside => ?_⟩
    rw [noted.expected, if_neg moved] at inside
    exact mem_here.1 inside
  · intro e inside
    rw [noted.expected] at inside
    rcases List.mem_append.1 inside with old | new
    · split at old
      · exact sits.outer e old
      · cases old
    · exact tells _ e (mem_here.1 new)

/-- A call keeps the cursor in the text and failures in order. -/
theorem Sits.call (sits : Sits text r) (plain : c.IsPlain) : Sits text (c.run r).2 := by
  have orderly := sits.orderly plain
  refine ⟨orderly.input.trans sits.input, ?_, orderly.unmuted, orderly.outer⟩
  have conducts := Call.conducts plain sits.inside
  by_cases none : (c.run r).1 = Option.none
  · exact conducts.inside_of_failed sits.inside none
  · exact conducts.inside sits.inside none

theorem Reached.sits (h : Reached text source r) : Sits text r := by
  induction h with
  | start => exact ⟨rfl, ⟨Int.le_refl 0, Int.natCast_nonneg _⟩, rfl, nofun⟩
  | @seek r place _ within sits =>
    have inside : (r.moveTo place).Inside := by
      refine ⟨Int.natCast_nonneg place, ?_⟩
      rw [Run.moveTo, sits.input]
      exact Int.ofNat_le.2 within
    exact ⟨sits.input, inside, sits.unmuted, sits.outer⟩
  | call _ plain sits => exact sits.call plain

/-- **Every call of a rule is orderly**, whatever was called before. -/
theorem orderly_call (reached : Reached text source r) (plain : c.IsPlain) :
    Orderly c r (c.run r).1 (c.run r).2 :=
  reached.sits.orderly plain

/-- A line of dashes and then a name are looked for where nothing stands but a keyword. -/
theorem orderly_call_keywordAlone :
    let text := Text.ofChars ['/', '/', ' ', 'N', 'a', 'm', 'e']
    let r := (Call.separator.run { input := text, source := none }).2
    let next := ((Call.field nameKeyword).run r).2
    (r.furthest = 3 ∧ r.expected = [whitespace, dashSign]) ∧
      (next.furthest = 7 ∧ next.expected = [whitespace, colonSign]) ∧
      Orderly (.field nameKeyword) r ((Call.field nameKeyword).run r).1 next := by
  refine ⟨by decide, by decide, ?_⟩
  exact orderly_call (.call .start trivial) (by decide : ∀ c ∈ nameKeyword, IsInLine c)

end Calls

end EditorText.Snippet
