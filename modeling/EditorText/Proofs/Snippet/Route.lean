import EditorText.Proofs.Snippet.Piece

/-!
# Routes through a definition

A route is the row of pieces that a definition is made of, from its first slash to the end of its
body. Three relations tell what a route does with a text: `Spells` cuts a text into pieces in any
way the grammar allows, `Reads` takes each piece as far as it goes, and `Fails` does the same up to
a piece that cannot be taken. The last two keep a trace of what was expected where.

On a tight route, where no piece can go on with what the next ones begin with, the three agree: a
text is spelled in one way (`Spells.unique`), what is read is spelled (`Reads.spells`), and where a
route fails the trace says what could have come next (`Fails.frontier`).
-/

set_option autoImplicit false

namespace EditorText.Snippet

/-- A text cut into the pieces of a route, with what is kept of them. -/
inductive Spells : List Piece → Text → List Text → Prop where
  | done : Spells [] [] []
  | piece {p : Piece} {ps : List Piece} {w t : Text} {kept : List Text} :
      p.Holds w → Spells ps t kept → Spells (p :: ps) (w ++ t) (p.kept w ++ kept)

/-- A text taken piece by piece from an offset on, each piece as far as it goes in front of the text
behind, with what is kept and the trace. -/
inductive Reads : List Piece → Nat → Text → Text → List Text → Trace → Prop where
  | done {n : Nat} {rest : Text} : Reads [] n [] rest [] []
  | piece {p : Piece} {ps : List Piece} {n : Nat} {w t rest : Text} {kept : List Text}
      {trace : Trace} :
      p.Fills w → p.Stops (t ++ rest) → Reads ps (n + w.length) t rest kept trace →
      Reads (p :: ps) n (w ++ t) rest (p.kept w ++ kept) (p.trace (n + w.length) ++ trace)

/-- A text taken piece by piece from an offset on, up to a piece that the text behind refuses. -/
inductive Fails : List Piece → Nat → Text → Text → Trace → Prop where
  | here {p : Piece} {ps : List Piece} {n : Nat} {rest : Text} :
      p.Refuses rest → Fails (p :: ps) n [] rest [(n, p.expectation)]
  | later {p : Piece} {ps : List Piece} {n : Nat} {w t rest : Text} {trace : Trace} :
      p.Fills w → p.Stops (t ++ rest) → Fails ps (n + w.length) t rest trace →
      Fails (p :: ps) n (w ++ t) rest (p.trace (n + w.length) ++ trace)

/-- The first piece of a route may begin with a text. -/
def Opening : List Piece → Text → Prop
  | [], _ => True
  | p :: _, t => p.Opens t

/-- Whether a piece could go on depends on the next character alone. -/
def Piece.Sharp (p : Piece) (rest : Text) : Prop :=
  ∀ c r s, rest = c :: r → ¬ p.expectation.StandsAt (c :: s)

/-- A piece in front of a route does not go on with what the route begins with, and leaves nothing
that the route may not begin with. -/
structure Follow (p : Piece) (ps : List Piece) : Prop where
  solid : ∀ t, p = .word t → t ≠ []
  final : p = .everything → ps = []
  stops : ∀ t kept, Spells ps t kept → p.Stops t
  opens : ∀ rest, p.Stops rest → Opening ps rest
  sharp : (∀ t, p ≠ .word t) → ∀ n c t rest trace, Fails ps n (c :: t) rest trace →
    p.Stops (c :: t ++ rest) → p.Sharp (c :: t ++ rest)

/-- Each piece of a route fits the pieces behind it. -/
def Tight : List Piece → Prop
  | [] => True
  | p :: ps => Follow p ps ∧ Tight ps

/-- What the trace says about the place where a route fails: the text before it, `u`, begins a
document, `u` is none itself, every document that goes on from there begins with something expected,
for everything expected there is such a document, and nothing expected stands there now. -/
structure Frontier (Doc : Text → Prop) (u rest : Text) (expected : Expectation → Prop) : Prop where
  viable : ∃ t, Doc (u ++ t)
  unfinished : ¬ Doc u
  complete : ∀ t, Doc (u ++ t) → ∃ e, expected e ∧ e.StandsAt t
  sound : ∀ e, expected e → ∃ t, Doc (u ++ t) ∧ e.StandsAt t
  absent : ∀ e, expected e → ¬ e.StandsAt rest

theorem Frontier.congr {Doc : Text → Prop} {u rest : Text} {E F : Expectation → Prop}
    (h : Frontier Doc u rest E) (same : ∀ e, E e ↔ F e) : Frontier Doc u rest F := by
  rwa [show F = E from funext fun e => propext (same e).symm]

/-- The texts that a route spells. -/
def Spelled (ps : List Piece) (t : Text) : Prop := ∃ kept, Spells ps t kept

/-- What a trace has at an offset. -/
def Trace.At (trace : Trace) (n : Nat) (e : Expectation) : Prop := (n, e) ∈ trace

namespace Spells

theorem append {ps qs : List Piece} {s t : Text} {ks kt : List Text} (hs : Spells ps s ks)
    (ht : Spells qs t kt) : Spells (ps ++ qs) (s ++ t) (ks ++ kt) := by
  induction hs with
  | done => exact ht
  | piece hp _ ih =>
    rw [List.append_assoc, List.append_assoc]
    exact .piece hp ih

theorem split {ps qs : List Piece} {t : Text} {kept : List Text} (h : Spells (ps ++ qs) t kept) :
    ∃ a b ka kb, t = a ++ b ∧ kept = ka ++ kb ∧ Spells ps a ka ∧ Spells qs b kb := by
  induction ps generalizing t kept with
  | nil => exact ⟨[], t, [], kept, rfl, rfl, .done, h⟩
  | cons p ps ih =>
    cases h with
    | @piece _ _ w t kept hp ht =>
      obtain ⟨a, b, ka, kb, rfl, rfl, ha, hb⟩ := ih ht
      exact ⟨w ++ a, b, p.kept w ++ ka, kb, by simp, by simp, .piece hp ha, hb⟩

/-- A tight route spells a text in one way, also in front of two different ends. -/
theorem unique_front {ps qs qs' : List Piece} {a a' b b' : Text} {ka ka' kb kb' : List Text}
    (tight : Tight (ps ++ qs)) (tight' : Tight (ps ++ qs')) (ha : Spells ps a ka)
    (hb : Spells qs b kb) (ha' : Spells ps a' ka') (hb' : Spells qs' b' kb')
    (same : a ++ b = a' ++ b') : ka = ka' ∧ b = b' := by
  induction ha generalizing a' ka' with
  | done =>
    cases ha' with
    | done => exact ⟨rfl, by simpa using same⟩
  | @piece p ps w t k hp ht ih =>
    cases ha' with
    | @piece _ _ w' t' k' hp' ht' =>
      rw [List.append_assoc, List.append_assoc] at same
      have stops : p.Stops (t ++ b) := tight.1.stops _ _ (ht.append hb)
      have stops' : p.Stops (t' ++ b') := tight'.1.stops _ _ (ht'.append hb')
      rcases Piece.cut hp.1 stops hp'.1 same with ⟨rfl, rest⟩ | ⟨repeats, further⟩
      · obtain ⟨rfl, equal⟩ := ih tight.2 tight'.2 ht' rest
        exact ⟨rfl, equal⟩
      · exact absurd further (Piece.not_standsAt repeats stops')

end Spells

namespace Reads

variable {ps qs : List Piece} {n : Nat} {s t rest : Text} {ks kt : List Text} {a b : Trace}

theorem append (hs : Reads ps n s (t ++ rest) ks a)
    (ht : Reads qs (n + s.length) t rest kt b) :
    Reads (ps ++ qs) n (s ++ t) rest (ks ++ kt) (a ++ b) := by
  generalize behind : t ++ rest = more at hs
  induction hs with
  | done => simpa using ht
  | @piece p ps n w s more kept trace hw stops _ ih =>
    subst behind
    have inner := ih (by simpa [Nat.add_assoc] using ht) rfl
    simp only [List.append_assoc, List.cons_append] at inner ⊢
    exact .piece hw (by simpa using stops) inner

theorem append_fails (hs : Reads ps n s (t ++ rest) ks a)
    (ht : Fails qs (n + s.length) t rest b) : Fails (ps ++ qs) n (s ++ t) rest (a ++ b) := by
  generalize behind : t ++ rest = more at hs
  induction hs with
  | done => simpa using ht
  | @piece p ps n w s more kept trace hw stops _ ih =>
    subst behind
    have inner := ih (by simpa [Nat.add_assoc] using ht) rfl
    simp only [List.append_assoc, List.cons_append] at inner ⊢
    exact .later hw (by simpa using stops) inner

/-- What a tight route reads it spells. -/
theorem spells (tight : Tight ps) (h : Reads ps n t rest kt a) (opening : Opening ps (t ++ rest)) :
    Spells ps t kt := by
  induction h with
  | done => exact .done
  | @piece p ps n w t rest kept trace hw stops _ ih =>
    have next : Spells ps t kept := ih tight.2 (tight.1.opens _ stops)
    have opens : p.Opens (w ++ (t ++ rest)) := by simpa [Opening] using opening
    exact .piece ⟨hw, Piece.opens_of_append hw opens⟩ next

end Reads

theorem exists_spells (ps : List Piece) : ∃ t kept, Spells ps t kept := by
  induction ps with
  | nil => exact ⟨[], [], .done⟩
  | cons p ps ih =>
    obtain ⟨w, hw⟩ := p.exists_holds
    obtain ⟨t, kept, ht⟩ := ih
    exact ⟨w ++ t, _, .piece hw ht⟩

theorem Fails.append {ps : List Piece} {n : Nat} {t rest : Text} {trace : Trace}
    (h : Fails ps n t rest trace) (qs : List Piece) : Fails (ps ++ qs) n t rest trace := by
  induction h with
  | here refuses => exact .here refuses
  | later hw stops _ ih => exact .later hw stops ih

/-- Where a piece refuses the text that stands there, its expectation is all that could stand. -/
theorem frontier_here {p : Piece} {ps : List Piece} {rest : Text} (follow : Follow p ps)
    (refuses : p.Refuses rest) : Frontier (Spelled (p :: ps)) [] rest (· = p.expectation) := by
  have begins {t : Text} (h : Spelled (p :: ps) t) : p.expectation.StandsAt t := by
    obtain ⟨_, h⟩ := h
    cases h with
    | piece hw _ => exact Piece.standsAt_of_fills hw.1 (.inr refuses.1) _
  obtain ⟨t, kept, ht⟩ := exists_spells (p :: ps)
  refine ⟨⟨t, kept, ht⟩, ?unfinished, ?complete, ?sound, ?absent⟩
  case unfinished =>
    intro empty
    exact Piece.not_standsAt_nil follow.solid (begins empty)
  case complete => exact fun t h => ⟨p.expectation, rfl, begins h⟩
  case sound =>
    rintro e rfl
    exact ⟨t, ⟨kept, ht⟩, begins ⟨kept, ht⟩⟩
  case absent =>
    rintro e rfl
    exact refuses.2

/-- A piece in front of a route moves the place of failure behind it. If the route fails at once,
the piece could also have gone on. -/
theorem Frontier.behind {p : Piece} {ps : List Piece} {w u rest : Text}
    {expected : Expectation → Prop} (h : Frontier (Spelled ps) u rest expected)
    (follow : Follow p ps) (notLast : p ≠ .everything) (hw : p.Holds w)
    (stops : p.Stops (u ++ rest))
    (sharp : (∀ t, p ≠ .word t) → u ≠ [] → p.Sharp (u ++ rest)) :
    Frontier (Spelled (p :: ps)) (w ++ u) rest fun e =>
      expected e ∨ (u = [] ∧ p.recorded ∧ e = p.expectation) := by
  -- A document that goes on from here has either the same text for the piece or a longer one.
  have cases_of {t : Text} (ht : Spelled (p :: ps) (w ++ u ++ t)) :
      Spelled ps (u ++ t) ∨ (u = [] ∧ p.recorded ∧ p.expectation.StandsAt t) := by
    obtain ⟨_, ht⟩ := ht
    generalize whole : w ++ u ++ t = text at ht
    cases ht with
    | @piece _ _ w' t' kept hw' ht' =>
      rw [List.append_assoc] at whole
      have stops' : p.Stops t' := follow.stops _ _ ht'
      rcases Piece.cut hw'.1 stops' hw.1 whole.symm with ⟨-, rfl⟩ | ⟨repeats, further⟩
      · exact .inl ⟨kept, ht'⟩
      · right
        cases u with
        | cons c u => exact absurd further (sharp repeats (by simp) c (u ++ rest) (u ++ t) rfl)
        | nil => exact ⟨rfl, Piece.recorded_of_repeats repeats notLast, further⟩
  have behind {t : Text} (ht : Spelled ps t) : Spelled (p :: ps) (w ++ t) := by
    obtain ⟨kept, ht⟩ := ht
    exact ⟨_, .piece hw ht⟩
  refine ⟨?viable, ?unfinished, ?complete, ?sound, ?absent⟩
  case viable =>
    obtain ⟨t, ht⟩ := h.viable
    exact ⟨t, by simpa using behind ht⟩
  case unfinished =>
    intro whole
    rcases cases_of (t := []) (by simpa using whole) with shorter | ⟨-, -, further⟩
    · exact h.unfinished (by simpa using shorter)
    · exact Piece.not_standsAt_nil follow.solid further
  case complete =>
    intro t ht
    rcases cases_of ht with shorter | ⟨empty, recorded, further⟩
    · obtain ⟨e, he, stands⟩ := h.complete t shorter
      exact ⟨e, .inl he, stands⟩
    · exact ⟨p.expectation, .inr ⟨empty, recorded, rfl⟩, further⟩
  case sound =>
    rintro e (he | ⟨rfl, recorded, rfl⟩)
    · obtain ⟨t, ht, stands⟩ := h.sound e he
      exact ⟨t, by simpa using behind ht, stands⟩
    · obtain ⟨z, hz, stands⟩ := Piece.exists_longer recorded hw
      obtain ⟨t, kept, ht⟩ := exists_spells ps
      refine ⟨z ++ t, ?_, stands t⟩
      have longer : Spelled (p :: ps) (w ++ z ++ t) := ⟨_, .piece hz ht⟩
      simpa using longer
  case absent =>
    rintro e (he | ⟨rfl, recorded, rfl⟩)
    · exact h.absent e he
    · apply Piece.not_standsAt _ stops
      rintro t rfl
      simp [Piece.recorded] at recorded

/-- **The frontier of a route**: where a tight route fails, its trace at that place says what could
have come next. -/
theorem Fails.frontier {ps : List Piece} {n : Nat} {u rest : Text} {trace : Trace}
    (tight : Tight ps) (h : Fails ps n u rest trace) (opening : Opening ps (u ++ rest)) :
    Frontier (Spelled ps) u rest (trace.At (n + u.length)) := by
  induction h with
  | here refuses =>
    refine (frontier_here tight.1 refuses).congr fun e => ?_
    simp [Trace.At]
  | @later p ps n w u rest trace hw stops hu ih =>
    have inner := ih tight.2 (tight.1.opens _ stops)
    have opens : p.Opens (w ++ (u ++ rest)) := by simpa [Opening] using opening
    have notLast : p ≠ .everything := by
      intro last
      rw [tight.1.final last] at hu
      cases hu
    have sharp (repeats : ∀ t, p ≠ .word t) (filled : u ≠ []) : p.Sharp (u ++ rest) := by
      cases u with
      | nil => exact absurd rfl filled
      | cons c u => exact tight.1.sharp repeats _ _ _ _ _ hu stops
    have outer := inner.behind tight.1 notLast ⟨hw, Piece.opens_of_append hw opens⟩ stops sharp
    have place : n + (w ++ u).length = n + w.length + u.length := by simp [Nat.add_assoc]
    rw [place]
    refine outer.congr fun e => ?_
    rw [Trace.At, Trace.At, List.mem_append, Piece.mem_trace_iff]
    simp [or_comm]

end EditorText.Snippet
