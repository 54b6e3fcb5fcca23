import EditorText.Proofs.Snippet.Lines

/-!
# Where two routes part

Both routes of a definition begin with the name line and the start of a further line; behind it one
goes on with the prefix and the other with the scope. A text that fails on two routes that part at a
keyword has a frontier in common (`exists_frontier`): the place where it came further, or what both
say where they came equally far.
-/

set_option autoImplicit false

namespace EditorText.Snippet

/-- A piece is taken from a text in one way. -/
theorem Piece.taken_unique {p : Piece} {w w' rest rest' : Text} (hw : p.Fills w)
    (stops : p.Stops rest) (hw' : p.Fills w') (stops' : p.Stops rest')
    (same : w ++ rest = w' ++ rest') : w = w' ∧ rest = rest' := by
  rcases Piece.cut hw stops hw' same with equal | ⟨repeats, further⟩
  · exact equal
  · exact absurd further (Piece.not_standsAt repeats stops')

/-- A piece that refuses a text is not taken from it. -/
theorem Piece.not_fills_of_refuses {p : Piece} {w rest : Text} (refuses : p.Refuses (w ++ rest)) :
    ¬ p.Fills w := fun hw =>
  refuses.2 (Piece.standsAt_of_fills hw (.inr refuses.1) rest)

section Unique

variable {ps qs : List Piece} {n : Nat} {u u' v v' : Text} {k k' : List Text} {t t' : Trace}

theorem Reads.unique (h : Reads ps n u v k t) (h' : Reads ps n u' v' k' t')
    (same : u ++ v = u' ++ v') : u = u' ∧ v = v' ∧ t = t' := by
  induction h generalizing u' k' t' with
  | done =>
    cases h'
    exact ⟨rfl, same, rfl⟩
  | piece hw stops _ ih =>
    cases h' with
    | piece hw' stops' hr' =>
      rw [List.append_assoc, List.append_assoc] at same
      obtain ⟨rfl, behind⟩ := Piece.taken_unique hw stops hw' stops' same
      obtain ⟨rfl, rfl, rfl⟩ := ih hr' behind
      exact ⟨rfl, rfl, rfl⟩

theorem Fails.unique (h : Fails ps n u v t) (h' : Fails ps n u' v' t')
    (same : u ++ v = u' ++ v') : u = u' ∧ t = t' := by
  induction h generalizing u' t' with
  | here refuses =>
    cases h' with
    | here _ => exact ⟨rfl, rfl⟩
    | later hw' _ _ =>
      rw [List.nil_append, List.append_assoc] at same
      exact absurd hw' (Piece.not_fills_of_refuses (same ▸ refuses))
  | later hw stops _ ih =>
    cases h' with
    | here refuses =>
      rw [List.nil_append, List.append_assoc] at same
      exact absurd hw (Piece.not_fills_of_refuses (same ▸ refuses))
    | later hw' stops' hr' =>
      rw [List.append_assoc, List.append_assoc] at same
      obtain ⟨rfl, behind⟩ := Piece.taken_unique hw stops hw' stops' same
      obtain ⟨rfl, rfl⟩ := ih hr' behind
      exact ⟨rfl, rfl⟩

theorem Reads.not_fails (h : Reads ps n u v k t) (h' : Fails ps n u' v' t')
    (same : u ++ v = u' ++ v') : False := by
  induction h generalizing u' t' with
  | done => cases h'
  | piece hw stops _ ih =>
    cases h' with
    | here refuses =>
      rw [List.nil_append, List.append_assoc] at same
      exact Piece.not_fills_of_refuses (same ▸ refuses) hw
    | later hw' stops' hr' =>
      rw [List.append_assoc, List.append_assoc] at same
      obtain ⟨rfl, behind⟩ := Piece.taken_unique hw stops hw' stops' same
      exact ih hr' behind

/-- A route fails on its first part, or reads that and fails behind it. -/
theorem Fails.split (h : Fails (ps ++ qs) n u v t) : Fails ps n u v t ∨
    ∃ a b k s s', u = a ++ b ∧ t = s ++ s' ∧ Reads ps n a (b ++ v) k s ∧
      Fails qs (n + a.length) b v s' := by
  induction ps generalizing n u t with
  | nil => exact .inr ⟨[], u, [], [], t, rfl, rfl, .done, h⟩
  | cons p ps ih =>
    cases h with
    | here refuses => exact .inl (.here refuses)
    | @later _ _ _ w u _ t hw stops h =>
      rcases ih h with failed | ⟨a, b, k, s, s', rfl, rfl, read, failed⟩
      · exact .inl (.later hw stops failed)
      · refine .inr ⟨w ++ a, b, _, _, s', (List.append_assoc ..).symm,
          (List.append_assoc ..).symm, .piece hw (by simpa using stops) read, ?_⟩
        simpa [Nat.add_assoc] using failed

/-- What is read of a route in two parts is read part by part. -/
theorem Reads.split (h : Reads (ps ++ qs) n u v k t) : ∃ a b ka kb s s', u = a ++ b ∧
    k = ka ++ kb ∧ t = s ++ s' ∧ Reads ps n a (b ++ v) ka s ∧
      Reads qs (n + a.length) b v kb s' := by
  induction ps generalizing n u k t with
  | nil => exact ⟨[], u, [], k, [], t, rfl, rfl, rfl, .done, h⟩
  | cons p ps ih =>
    cases h with
    | @piece _ _ _ w u _ k t hw stops h =>
      obtain ⟨a, b, ka, kb, s, s', rfl, rfl, rfl, front, back⟩ := ih h
      refine ⟨w ++ a, b, _, kb, _, s', (List.append_assoc ..).symm, (List.append_assoc ..).symm,
        (List.append_assoc ..).symm, .piece hw (by simpa using stops) front, ?_⟩
      simpa [Nat.add_assoc] using back

/-- Nothing is expected behind the place of failure. -/
theorem Fails.bound (h : Fails ps n u v t) {m : Nat} {e : Expectation} (he : (m, e) ∈ t) :
    m ≤ n + u.length := by
  induction h with
  | here _ =>
    obtain ⟨rfl, -⟩ : m = _ ∧ e = _ := by simpa using he
    exact Nat.le_refl _
  | later _ _ _ ih =>
    rw [List.length_append]
    rcases List.mem_append.1 he with here | later
    · have := (Piece.mem_trace_iff.1 here).1
      omega
    · have := ih later
      omega

/-- What was read leaves expectations of pieces that could have gone on. -/
theorem Reads.recorded (h : Reads ps n u v k t) {m : Nat} {e : Expectation} (he : (m, e) ∈ t) :
    ∃ p : Piece, p.recorded ∧ e = p.expectation := by
  induction h with
  | done => exact absurd he List.not_mem_nil
  | @piece p _ _ _ _ _ _ _ _ _ _ ih =>
    rcases List.mem_append.1 he with here | later
    · exact ⟨p, (Piece.mem_trace_iff.1 here).2⟩
    · exact ih later

end Unique

/-- Whether a repetition could go on depends on the next character alone, unless that may begin a
line end. -/
theorem Piece.sharp_of_recorded {p : Piece} (recorded : p.recorded) {c : Code} {rest : Text}
    (inLine : IsInLine c) (absent : ¬ p.expectation.StandsAt (c :: rest)) :
    p.Sharp (c :: rest) := by
  have codes {holds : Code → Prop} (unit : p.Unit = CodeUnit holds)
      (repeats : ∀ t, p ≠ .word t) : p.Sharp (c :: rest) := by
    rintro d r s same stands
    cases same
    simp only [standsAt_iff repeats, unit, codeUnit_begins_iff, List.cons.injEq] at absent stands
    obtain ⟨_, _, ⟨rfl, -⟩, hc⟩ := stands
    exact absent ⟨c, rest, ⟨rfl, rfl⟩, hc⟩
  cases p with
  | word t | everything => exact absurd recorded (by simp [Piece.recorded])
  | newlines =>
    apply newlines_sharp
    rintro d r same
    cases same
    exact inLine
  | blanks | dashes | value =>
    refine codes rfl fun t same => ?_
    cases same

namespace Frontier

variable {L L' : Text → Prop} {u v b : Text} {E E' : Expectation → Prop} {c : Code}

/-- Two languages with a frontier at the same place. -/
theorem beside (h : Frontier L u v E) (h' : Frontier L' u v E') :
    Frontier (fun t => L t ∨ L' t) u v fun e => E e ∨ E' e where
  viable := h.viable.imp fun _ => .inl
  unfinished := by
    rintro (first | second)
    · exact h.unfinished first
    · exact h'.unfinished second
  complete := by
    rintro t (first | second)
    · exact (h.complete t first).imp fun _ he => ⟨.inl he.1, he.2⟩
    · exact (h'.complete t second).imp fun _ he => ⟨.inr he.1, he.2⟩
  sound := by
    rintro e (first | second)
    · exact (h.sound e first).imp fun _ ht => ⟨.inl ht.1, ht.2⟩
    · exact (h'.sound e second).imp fun _ ht => ⟨.inr ht.1, ht.2⟩
  absent := by
    rintro e (first | second)
    · exact h.absent e first
    · exact h'.absent e second

theorem swap (h : Frontier (fun t => L t ∨ L' t) u v E) :
    Frontier (fun t => L' t ∨ L t) u v E := by
  rwa [show (fun t => L' t ∨ L t) = fun t => L t ∨ L' t from funext fun _ => propext or_comm]

/-- Of two frontiers the one further on counts, if nothing that was expected at the other one begins
with the character that stands there. -/
theorem ahead (h : Frontier L (u ++ c :: b) v E) (h' : Frontier L' u (c :: b ++ v) E')
    (sharp : ∀ e, E' e → ∀ s, ¬ e.StandsAt (c :: s)) :
    Frontier (fun t => L t ∨ L' t) (u ++ c :: b) v E := by
  have none (s : Text) : ¬ L' (u ++ c :: s) := fun further => by
    obtain ⟨e, he, stands⟩ := h'.complete _ further
    exact sharp e he s stands
  refine ⟨h.viable.imp fun _ => .inl, ?_, ?_, ?_, h.absent⟩
  · rintro (first | second)
    · exact h.unfinished first
    · exact none b second
  · rintro t (first | second)
    · exact h.complete t first
    · exact absurd (by simpa using second) (none (b ++ t))
  · exact fun e he => (h.sound e he).imp fun _ ht => ⟨.inl ht.1, ht.2⟩

end Frontier

/-- Two keywords whose first characters differ and do not end a line. -/
def Apart (k k' : Text) : Prop :=
  ∃ c s d s', k = c :: s ∧ k' = d :: s' ∧ c ≠ d ∧ IsInLine c ∧ IsInLine d

theorem Apart.symm {k k' : Text} : Apart k k' → Apart k' k := by
  rintro ⟨c, s, d, s', hk, hk', differ, hc, hd⟩
  exact ⟨d, s', c, s, hk', hk, differ.symm, hd, hc⟩

/-- Two languages have a frontier in common, behind which neither of two traces has anything and at
which both say what could have come next. -/
structure CommonFrontier (L L' : Text → Prop) (u v : Text) (t t' : Trace) : Prop where
  top : ∀ m e, (m, e) ∈ t ∨ (m, e) ∈ t' → m ≤ u.length
  frontier : Frontier (fun w => L w ∨ L' w) u v fun e => t.At u.length e ∨ t'.At u.length e

theorem CommonFrontier.symm {L L' : Text → Prop} {u v : Text} {t t' : Trace}
    (h : CommonFrontier L L' u v t t') : CommonFrontier L' L u v t' t where
  top m e he := h.top m e he.symm
  frontier := h.frontier.swap.congr fun _ => or_comm

section Parting

variable {front ps qs : List Piece} {k k' : Text}

/-- A route that refuses its keyword stays behind the one whose keyword stands there. -/
theorem frontier_of_keyword {a b v : Text} {kept : List Text} {s t : Trace}
    (tight : Tight (front ++ .word k :: ps)) (tight' : Tight (front ++ .word k' :: qs))
    (opening : ∀ ps w, Opening (front ++ ps) w) (apart : Apart k k')
    (read : Reads front 0 a (k ++ b ++ v) kept s)
    (fails : Fails (front ++ .word k :: ps) 0 (a ++ (k ++ b)) v t) :
    Frontier (fun w => Spelled (front ++ .word k :: ps) w ∨ Spelled (front ++ .word k' :: qs) w)
      (a ++ (k ++ b)) v (t.At (a ++ (k ++ b)).length) := by
  obtain ⟨c, x, d, y, rfl, rfl, differ, inLine, -⟩ := apart
  have other : ¬ d :: y <+: c :: x ++ b ++ v := by
    rintro ⟨r, same⟩
    exact differ (List.cons.inj same).1.symm
  have refused : Fails (.word (d :: y) :: qs) (0 + a.length) [] (c :: x ++ b ++ v) _ :=
    .here ⟨rfl, other⟩
  have fails' := read.append_fails (t := []) refused
  simp only [List.append_nil] at fails'
  have further := fails.frontier tight (opening _ _)
  have behind := fails'.frontier tight' (opening _ _)
  rw [Nat.zero_add] at further behind
  refine further.ahead behind ?_
  intro e he r stands
  rcases List.mem_append.1 he with recorded | keyword
  · obtain ⟨p, repeats, rfl⟩ := read.recorded recorded
    exact Piece.sharp_of_recorded repeats inLine (behind.absent _ he) c _ r rfl stands
  · obtain rfl : e = .literal (d :: y) := by simpa [Piece.expectation] using keyword
    obtain ⟨z, same⟩ := stands
    exact differ (List.cons.inj same).1.symm

/-- The frontier of the route whose keyword stands there is common to both. -/
theorem common_of_keyword {a b v : Text} {kept : List Text} {s t t' : Trace}
    (tight : Tight (front ++ .word k :: ps)) (tight' : Tight (front ++ .word k' :: qs))
    (opening : ∀ ps w, Opening (front ++ ps) w) (apart : Apart k k')
    (read : Reads front 0 a (k ++ b ++ v) kept s)
    (fails : Fails (front ++ .word k :: ps) 0 (a ++ (k ++ b)) v t)
    (fails' : Fails (front ++ .word k' :: qs) 0 a (k ++ b ++ v) t') :
    CommonFrontier (Spelled (front ++ .word k :: ps)) (Spelled (front ++ .word k' :: qs))
      (a ++ (k ++ b)) v t t' := by
  have filled : 0 < k.length := by
    obtain ⟨c, x, _, _, rfl, -⟩ := apart
    exact Nat.succ_pos _
  have behind {m : Nat} {e : Expectation} (he : (m, e) ∈ t') : m < (a ++ (k ++ b)).length := by
    have := fails'.bound he
    simp only [List.length_append]
    omega
  refine ⟨?_, (frontier_of_keyword tight tight' opening apart read fails).congr fun e => ?_⟩
  · rintro m e (he | he)
    · simpa using fails.bound he
    · exact Nat.le_of_lt (behind he)
  · have none : ¬ t'.At (a ++ (k ++ b)).length e := fun he => Nat.lt_irrefl _ (behind he)
    simp only [none, or_false]

/-- At one place of failure both frontiers count. -/
theorem common_of_same {u v : Text} {t t' : Trace} (tight : Tight ps) (tight' : Tight qs)
    (opening : ∀ w, Opening ps w) (opening' : ∀ w, Opening qs w) (fails : Fails ps 0 u v t)
    (fails' : Fails qs 0 u v t') : CommonFrontier (Spelled ps) (Spelled qs) u v t t' where
  top := by
    rintro m e (he | he)
    · simpa using fails.bound he
    · simpa using fails'.bound he
  frontier := by
    have joined := (fails.frontier tight (opening _)).beside (fails'.frontier tight' (opening' _))
    simpa using joined

/-- **The common frontier**: two routes that part at a keyword have a frontier in common in any text
on which both fail. -/
theorem exists_frontier {u u' v v' : Text} {t t' : Trace}
    (tight : Tight (front ++ .word k :: ps)) (tight' : Tight (front ++ .word k' :: qs))
    (opening : ∀ ps w, Opening (front ++ ps) w) (apart : Apart k k')
    (fails : Fails (front ++ .word k :: ps) 0 u v t)
    (fails' : Fails (front ++ .word k' :: qs) 0 u' v' t') (same : u ++ v = u' ++ v') :
    ∃ a b, u ++ v = a ++ b ∧
      CommonFrontier (Spelled (front ++ .word k :: ps)) (Spelled (front ++ .word k' :: qs))
        a b t t' := by
  have common (place : u = u') : ∃ a b, u ++ v = a ++ b ∧
      CommonFrontier (Spelled (front ++ .word k :: ps)) (Spelled (front ++ .word k' :: qs))
        a b t t' := by
    subst place
    obtain rfl := List.append_cancel_left same
    exact ⟨u, v, rfl, common_of_same tight tight' (opening _) (opening _) fails fails'⟩
  rcases fails.split with early | ⟨a, b, _, s, s₁, rfl, rfl, read, late⟩
  · rcases fails'.split with early' | ⟨a', b', _, s', s₁', rfl, rfl, read', late'⟩
    · exact common (early.unique early' same).1
    · exact (read'.not_fails early (by simpa using same.symm)).elim
  · rcases fails'.split with early' | ⟨a', b', _, s', s₁', rfl, rfl, read', late'⟩
    · exact (read.not_fails early' (by simpa using same)).elim
    · obtain ⟨rfl, rest, rfl⟩ := read.unique read' (by simpa using same)
      -- Behind the common front, each route has its keyword there or has not.
      cases late with
      | here refuses =>
        cases late' with
        | here _ => exact common rfl
        | @later _ _ _ w b' _ _ hw _ _ =>
          obtain rfl : w = k' := hw
          obtain rfl : v = w ++ b' ++ v' := rest
          rw [List.append_nil] at fails
          refine ⟨a ++ (w ++ b'), v', same, CommonFrontier.symm ?_⟩
          exact common_of_keyword tight' tight opening apart.symm read' fails' fails
      | @later _ _ _ w b _ _ hw _ _ =>
        obtain rfl : w = k := hw
        cases late' with
        | here _ =>
          obtain rfl : v' = w ++ b ++ v := rest.symm
          rw [List.append_nil] at fails'
          refine ⟨a ++ (w ++ b), v, rfl, ?_⟩
          exact common_of_keyword tight tight' opening apart read fails fails'
        | @later _ _ _ w' b' _ _ hw' _ _ =>
          obtain rfl : w' = k' := hw'
          obtain ⟨c, x, d, y, rfl, rfl, differ, -⟩ := apart
          exact absurd (List.cons.inj rest).1 differ

end Parting

end EditorText.Snippet
