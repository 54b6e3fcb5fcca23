import EditorText.Snippet.Run

/-!
# What a rule does to a run

A rule reads the run that it starts from, but it changes a run only in a row of acts (`Act`): it
moves the cursor, begins or ends to keep failures to itself, and tells what it expected at the
cursor. `Does` says that a rule answers alike and does the same acts wherever only the record of
failures differs. What acts tell (`told`) is all that the record learns of them, at the place where
the cursor stood (`noted_perform`), and they leave the text, its name and the known places alone
(`beside_perform`).
-/

set_option autoImplicit false

namespace EditorText.Snippet.Run

/-- A run over the same text, in which the same places are known. -/
structure Beside (r s : Run) : Prop where
  input : s.input = r.input
  source : s.source = r.source
  known : s.known = r.known

/-- A run that differs at most in what has been recorded. -/
structure Alike (r s : Run) : Prop extends Beside r s where
  pos : s.pos = r.pos
  muted : s.muted = r.muted

/-- One thing that a rule does to a run. -/
inductive Act where
  | move (place : Int)
  | mute
  | unmute
  | expect (e : Expectation)

/-- The run after an act. -/
def act (r : Run) : Act → Run
  | .move place => r.moveTo place
  | .mute => { r with muted := r.muted + 1 }
  | .unmute => { r with muted := r.muted - 1 }
  | .expect e => r.fail e

/-- The run after acts, one behind the other. -/
def perform (acts : List Act) (r : Run) : Run :=
  acts.foldl act r

/-- What was expected where the cursor stood. -/
abbrev Told := List (Int × Expectation)

/-- What an act tells of the cursor; a run that keeps failures to itself tells nothing. -/
def Act.told (r : Run) : Act → Told
  | .expect e => if r.muted = 0 then [(r.pos, e)] else []
  | .move _ | .mute | .unmute => []

/-- What acts tell, one behind the other. -/
def told : List Act → Run → Told
  | [], _ => []
  | a :: acts, r => a.told r ++ told acts (r.act a)

/-- What was told of one place. -/
def Told.here (told : Told) (place : Nat) : List Expectation :=
  (told.filter fun x => x.1 = (place : Int)).map Prod.snd

/-- A rule does these acts from a run on, and answers the same, whatever has been recorded. -/
def Does {α : Type} (rule : Run → α × Run) (r : Run) (acts : List Act) : Prop :=
  ∀ s, Alike r s → rule s = ((rule r).1, perform acts s)

/-- A run has recorded what was told since another one. -/
structure Noted (told : Told) (r s : Run) : Prop where
  forward : r.furthest ≤ s.furthest
  bound : ∀ p e, (p, e) ∈ told → p ≤ s.furthest
  expected : s.expected =
    (if s.furthest = r.furthest then r.expected else []) ++ told.here s.furthest

section Frame

variable {r s t : Run}

theorem Beside.refl (r : Run) : Beside r r := ⟨rfl, rfl, rfl⟩

theorem Beside.trans (first : Beside r s) (second : Beside s t) : Beside r t :=
  ⟨second.input.trans first.input, second.source.trans first.source,
    second.known.trans first.known⟩

theorem beside_fail (r : Run) (e : Expectation) : Beside r (r.fail e) := by
  unfold fail
  split
  · exact .refl r
  · split
    · exact ⟨rfl, rfl, rfl⟩
    · exact ⟨rfl, rfl, rfl⟩

theorem pos_fail (r : Run) (e : Expectation) : (r.fail e).pos = r.pos := by
  unfold fail
  split
  · rfl
  · split <;> rfl

theorem muted_fail (r : Run) (e : Expectation) : (r.fail e).muted = r.muted := by
  unfold fail
  split
  · rfl
  · split <;> rfl

theorem beside_act (r : Run) (a : Act) : Beside r (r.act a) := by
  cases a with
  | move place => exact ⟨rfl, rfl, rfl⟩
  | mute => exact ⟨rfl, rfl, rfl⟩
  | unmute => exact ⟨rfl, rfl, rfl⟩
  | expect e => exact beside_fail r e

/-- **Acts leave the text, its name and the known places alone.** -/
theorem beside_perform (acts : List Act) (r : Run) : Beside r (perform acts r) := by
  induction acts generalizing r with
  | nil => exact .refl r
  | cons a acts ih => exact (beside_act r a).trans (ih (r.act a))

theorem Alike.refl (r : Run) : Alike r r := ⟨.refl r, rfl, rfl⟩

/-- Acts do not tell runs apart that differ in their records alone. -/
theorem Alike.act (h : Alike r s) (a : Act) : Alike (r.act a) (s.act a) := by
  have beside : Beside (r.act a) (s.act a) :=
    ⟨(beside_act s a).input.trans (h.input.trans (beside_act r a).input.symm),
      (beside_act s a).source.trans (h.source.trans (beside_act r a).source.symm),
      (beside_act s a).known.trans (h.known.trans (beside_act r a).known.symm)⟩
  cases a with
  | move place => exact ⟨beside, rfl, h.muted⟩
  | mute => exact ⟨beside, h.pos, congrArg (· + 1) h.muted⟩
  | unmute => exact ⟨beside, h.pos, congrArg (· - 1) h.muted⟩
  | expect e =>
    exact ⟨beside, (pos_fail s e).trans (h.pos.trans (pos_fail r e).symm),
      (muted_fail s e).trans (h.muted.trans (muted_fail r e).symm)⟩

theorem Alike.perform (h : Alike r s) (acts : List Act) :
    Alike (perform acts r) (perform acts s) := by
  induction acts generalizing r s with
  | nil => exact h
  | cons a acts ih => exact ih (h.act a)

theorem perform_append (acts more : List Act) (r : Run) :
    perform (acts ++ more) r = perform more (perform acts r) :=
  List.foldl_append

theorem Does.run {α : Type} {rule : Run → α × Run} {acts : List Act} (h : Does rule r acts) :
    (rule r).2 = perform acts r :=
  congrArg Prod.snd (h r (.refl r))

end Frame

section Record

variable {r s t : Run} {x y : Told}

theorem told_append (acts more : List Act) (r : Run) :
    told (acts ++ more) r = told acts r ++ told more (perform acts r) := by
  induction acts generalizing r with
  | nil => rfl
  | cons a acts ih =>
    rw [List.cons_append, told, told, ih, List.append_assoc]
    rfl

theorem mem_here {e : Expectation} {place : Nat} :
    e ∈ x.here place ↔ ((place : Int), e) ∈ x := by
  simp [Told.here]

theorem here_append (x y : Told) (place : Nat) :
    Told.here (x ++ y) place = x.here place ++ y.here place := by
  simp [Told.here]

theorem here_single (p : Int) (e : Expectation) (place : Nat) :
    Told.here [(p, e)] place = if p = place then [e] else [] := by
  by_cases same : p = place <;> simp [Told.here, same]

/-- Nothing was told of a place that lies behind all that was told. -/
theorem here_eq_nil {place : Nat} (behind : ∀ p e, (p, e) ∈ x → p < place) :
    x.here place = [] := by
  refine List.eq_nil_iff_forall_not_mem.2 fun e inside => ?_
  exact Int.lt_irrefl _ (behind place e (mem_here.1 inside))

/-- Where nothing was told the record is what it was. -/
theorem noted_nil (furthest : s.furthest = r.furthest) (expected : s.expected = r.expected) :
    Noted [] r s := by
  refine ⟨Nat.le_of_eq furthest.symm, nofun, ?_⟩
  rw [if_pos furthest, expected]
  exact (List.append_nil _).symm

theorem Noted.trans (first : Noted x r s) (second : Noted y s t) : Noted (x ++ y) r t := by
  have forward := first.forward
  have forward' := second.forward
  refine ⟨by omega, ?_, ?_⟩
  · intro p e inside
    rcases List.mem_append.1 inside with old | new
    · have bound := first.bound p e old
      omega
    · exact second.bound p e new
  · rw [here_append, ← List.append_assoc, second.expected]
    congr 1
    by_cases stayed : t.furthest = s.furthest
    · rw [if_pos stayed, stayed, first.expected]
    · have none : x.here t.furthest = [] := by
        refine here_eq_nil fun p e inside => ?_
        have bound := first.bound p e inside
        omega
      have moved : t.furthest ≠ r.furthest := by omega
      rw [if_neg stayed, if_neg moved, none]
      rfl

/-- What a run does not keep to itself is recorded at the cursor. -/
theorem noted_fail (unmuted : r.muted = 0) (e : Expectation) :
    Noted [(r.pos, e)] r (r.fail e) := by
  have here {place : Nat} (inside : r.pos ≤ place) :
      ∀ p d, (p, d) ∈ [(r.pos, e)] → p ≤ place := by
    intro p d single
    obtain ⟨rfl, -⟩ := Prod.mk.inj (List.mem_singleton.1 single)
    exact inside
  unfold fail
  split
  next before =>
    have behind : r.pos < r.furthest := before.resolve_left (by omega)
    refine ⟨Nat.le_refl _, here (by omega), ?_⟩
    rw [if_pos rfl, here_single, if_neg (by omega), List.append_nil]
  next notBefore =>
    split
    next beyond =>
      refine ⟨by dsimp only; omega, here (by dsimp only; omega), ?_⟩
      dsimp only
      rw [if_neg (by omega), here_single, if_pos (by omega)]
      rfl
    next notBeyond =>
      refine ⟨Nat.le_refl _, here (by dsimp only; omega), ?_⟩
      dsimp only
      rw [if_pos rfl, here_single, if_pos (by omega)]

/-- An act records what it tells. -/
theorem noted_act (r : Run) (a : Act) : Noted (a.told r) r (r.act a) := by
  cases a with
  | move place => exact noted_nil rfl rfl
  | mute => exact noted_nil rfl rfl
  | unmute => exact noted_nil rfl rfl
  | expect e =>
    by_cases unmuted : r.muted = 0
    · rw [Act.told, if_pos unmuted]
      exact noted_fail unmuted e
    · have kept : r.fail e = r := if_pos (.inl (by omega))
      rw [Act.told, if_neg unmuted, act, kept]
      exact noted_nil rfl rfl

/-- **What acts tell is recorded**, and nothing else: the furthest place never goes back, what was
expected there stays in front while the place stays, and is forgotten when it moves. -/
theorem noted_perform (acts : List Act) (r : Run) : Noted (told acts r) r (perform acts r) := by
  induction acts generalizing r with
  | nil => exact noted_nil rfl rfl
  | cons a acts ih => exact (noted_act r a).trans (ih (r.act a))

end Record

end EditorText.Snippet.Run
