import EditorText.Proofs.Yaml.Escapes
import EditorText.Proofs.Yaml.Handing

/-!
# The tokens of a written document

A lexer that stands at a token outside of flow collections, with nothing held back, is known by the
text that is left, the column and the indentation of the block collections around it. `Lexes` and
`Behind` say which tokens it hands out from there on: at the start of a token, and right behind one.
Each way to begin the text that is left has one lemma, from which a document is read back to front.
-/

set_option autoImplicit false

namespace EditorText.Yaml

namespace Lexer

/-- A lexer that goes on to a token in a column, where keys are allowed. -/
def Stands (indent : Int) (outer : List Int) (r : Text) (k : Nat) (s : Lexer) : Prop :=
  ∃ c allowed h i l, s = ready c indent outer allowed h ∧
    s.toToken = ready ⟨r, i, l, k⟩ indent outer true h

/-- Closing the collections that are indented deeper than a column takes `n` ends. -/
def Unwinds (k : Int) (n : Nat) (indent : Int) (outer : List Int) (indent' : Int)
    (outer' : List Int) : Prop :=
  ∀ c h, (ready c indent outer true h).unwindTo k =
    { ready c indent' outer' true h with waiting := List.replicate n .blockEnd }

/-- The tokens that stand for a collection that is opened in a column: its start, or none where it
is open already. -/
inductive Opens (k : Int) (start : Token) : Int → List Int → List Token → Int → List Int → Prop
  | new {indent : Int} {outer : List Int} (less : indent < k) :
    Opens k start indent outer [start] k (indent :: outer)
  | same {outer : List Int} : Opens k start k outer [] k outer

end Lexer

open Lexer

/-- From the start of a token on, a lexer hands out some tokens and ends. -/
def Lexes (indent : Int) (outer : List Int) (r : Text) (k : Nat) (ts : List Token) : Prop :=
  ∀ (s : Lexer) (fuel : Nat), Stands indent outer r k s → 8 * r.length + 16 ≤ fuel →
    Tokens.from_ fuel s = ⟨ts, none⟩

/-- From the end of a token on, a lexer hands out some tokens and ends. No key may follow on the
line. -/
def Behind (indent : Int) (outer : List Int) (r : Text) (k : Nat) (ts : List Token) : Prop :=
  ∀ (i l h fuel : Nat), 8 * r.length + 16 ≤ fuel →
    Tokens.from_ fuel (ready ⟨r, i, l, k⟩ indent outer false h) = ⟨ts, none⟩

section Steps

variable {indent indent' indent'' : Int} {outer outer' outer'' : List Int} {r key : Text}
  {ts start ws : List Token} {k n : Nat} {g : Code}

theorem stands_of_spaces (begins : Begins r) (i l j h : Nat) :
    Stands indent outer r (j + n) (ready ⟨Text.run Code.space n ++ r, i, l, j⟩ indent outer true h) :=
  ⟨_, _, h, i + n, l, rfl, toToken_of_spaces begins rfl⟩

theorem stands_of_line (follows : Follows k r) (i l j h : Nat) (allowed : Bool) :
    Stands indent outer r k
      (ready ⟨Code.newline :: (Text.run Code.space k ++ r), i, l, j⟩ indent outer allowed h) := by
  obtain ⟨i', l', arrives⟩ := toToken_of_line follows
    (s := ready ⟨Code.newline :: (Text.run Code.space k ++ r), i, l, j⟩ indent outer allowed h)
    rfl rfl
  exact ⟨_, _, h, i', l', rfl, arrives⟩

/-- No collection ends at a token that is indented as deep as they are. -/
theorem unwindTo_of_le {s : Lexer} {k : Int} (deep : s.indent ≤ k) : s.unwindTo k = s := by
  have still : ¬ k < s.indent := Int.not_lt.2 deep
  rw [unwindTo, unwind, if_neg still]
  split <;> rfl

theorem unwinds_of_le {k : Int} (deep : indent ≤ k) : Unwinds k 0 indent outer indent outer :=
  fun _ _ => unwindTo_of_le deep

theorem Lexer.Opens.le {k : Int} {t : Token} (opens : Opens k t indent outer start indent' outer') :
    indent ≤ k ∧ indent' = k := by
  cases opens with
  | new less => exact ⟨Int.le_of_lt less, rfl⟩
  | same => exact ⟨Int.le_refl _, rfl⟩

theorem blockDash_eq (opens : Opens k .blockSequenceStart indent outer start indent' outer')
    (i l h : Nat) :
    blockDash { ready ⟨Code.dash :: r, i, l, k⟩ indent outer true h with waiting := ws } =
      .ok { ready ⟨r, i + 1, l, k + 1⟩ indent' outer' true h with
        waiting := ws ++ (start ++ [.blockEntry]) } := by
  have next : (⟨Code.dash :: r, i, l, k⟩ : Cursor).next = ⟨r, i + 1, l, k + 1⟩ :=
    Cursor.next_of_inLine rfl r i l k
  cases opens with
  | new less => simp [blockDash, ready, inFlow, openBlock, less, push, dropKey, moveTo, next]
  | same => simp [blockDash, ready, inFlow, openBlock, push, dropKey, moveTo, next]

/-- **A dash ends the collections that are indented deeper and begins an item.** -/
theorem lexes_dash (unwinds : Unwinds k n indent outer indent' outer')
    (opens : Opens k .blockSequenceStart indent' outer' start indent'' outer'')
    (begins : Begins r) (few : n ≤ 4) (rest : Lexes indent'' outer'' r (k + 2) ts) :
    Lexes indent outer (Code.dash :: Code.space :: r) k
      (List.replicate n .blockEnd ++ (start ++ [.blockEntry]) ++ ts) := by
  rintro s fuel ⟨c, allowed, h, i, l, rfl, arrives⟩ enough
  have one : start.length ≤ 1 := by
    cases opens <;> simp
  have read := fetch_eq arrives rfl (unwinds _ h)
  rw [token_dash rfl, blockDash_eq opens] at read
  simp only [List.length_cons] at enough
  obtain ⟨fuel, rfl⟩ := Nat.exists_eq_succ_of_ne_zero (Nat.ne_zero_of_lt enough)
  refine from_of_fetch rfl rfl read (from_ready (m := 8 * r.length + 16) ?_ fun fuel h enough => ?_)
  · simp only [List.length_append, List.length_replicate, List.length_singleton]
    omega
  · have stands : Stands indent'' outer'' r (k + 2) _ :=
      stands_of_spaces (n := 1) begins (i + 1) l (k + 1) h
    exact rest _ fuel stands enough

/-- **The end of the text ends all collections.** The outermost one stands in column zero. -/
theorem lexes_end (unwinds : Unwinds 0 n indent outer 0 [-1]) (few : n ≤ 4) :
    Lexes indent outer [] 0 (List.replicate n .blockEnd ++ [.blockEnd, .streamEnd]) := by
  rintro s fuel ⟨c, allowed, h, i, l, rfl, arrives⟩ enough
  simp only [List.length_nil] at enough
  obtain ⟨fuel, rfl⟩ : ∃ m, fuel = m + 1 + (n + 2) + 1 := ⟨fuel - (n + 4), by omega⟩
  have read := fetch_eq arrives rfl (unwinds _ h)
  have last : token { ready ⟨[], i, l, 0⟩ 0 [-1] true h with
      waiting := List.replicate n Token.blockEnd } =
      .ok { ready ⟨[], i, l, 0⟩ (-1) [] false h with
        waiting := List.replicate n .blockEnd ++ [.blockEnd, .streamEnd], finished := true } := by
    simp [token, ready, endStream, unwindTo, unwind, inFlow, push, dropKey, bind, Except.bind, pure,
      Except.pure]
  rw [last] at read
  refine from_of_fetch rfl rfl read ?_
  have handed := from_of_finished (n := fuel)
    (s := { ready ⟨[], i, l, 0⟩ (-1) [] false h with
      waiting := List.replicate n Token.blockEnd ++ [.blockEnd, .streamEnd], finished := true })
    rfl rfl
  simpa using handed

/-- A key of letters. -/
structure IsKey (key : Text) : Prop where
  filled : key ≠ []
  letters : ∀ x ∈ key, 97 ≤ x ∧ x ≤ 122
  short : key.length ≤ 1024

/-- Letters make words and are no signs. -/
theorem IsKey.letter (isKey : IsKey key) {x : Code} (member : x ∈ key) :
    isSolid x = true ∧ startSigns.contains x = false ∧ x ≠ Code.question ∧ x ≠ Code.colon ∧
      x ≠ Code.dash ∧ x ≠ Code.hash := by
  have known : ∀ x < 123, 97 ≤ x → isSolid x = true ∧ startSigns.contains x = false ∧
      x ≠ Code.question ∧ x ≠ Code.colon ∧ x ≠ Code.dash ∧ x ≠ Code.hash := by decide
  obtain ⟨low, high⟩ := isKey.letters x member
  exact known x (Nat.lt_succ_of_le high) low

/-- A key is read up to its colon. -/
theorem plainScalar_key (isKey : IsKey key) (gap : isGap g = true) (m : Int) (i l : Nat) :
    plainScalar false m ⟨key ++ Code.colon :: g :: r, i, l, k⟩ =
      (key, ⟨Code.colon :: g :: r, i + key.length, l, k + key.length⟩, false) := by
  have solid : ∀ x ∈ key, isSolid x = true := fun x member => (isKey.letter member).1
  have last : key.getLast? ≠ some Code.colon := fun colon =>
    (isKey.letter (List.mem_of_getLast? colon)).2.2.2.1 rfl
  have stop : plainRun false (Code.colon :: g :: r) = [] := by
    simp [plainRun, endsColon, firstOr, gap]
  have code : firstOr key ≠ Code.hash := by
    obtain ⟨x, t, split⟩ := List.exists_cons_of_ne_nil isKey.filled
    rw [split]
    exact (isKey.letter (by rw [split]; exact List.mem_cons_self)).2.2.2.2.2
  have still : plainSpaces ⟨Code.colon :: g :: r, i + key.length, l, k + key.length⟩ =
      ([], ⟨Code.colon :: g :: r, i + key.length, l, k + key.length⟩, false) :=
    plainSpaces_of_spaces (n := 0) (begins_cons rfl (by decide) (by decide) (g :: r)) _ _ _
  rw [plainScalar, plainFrom_word solid isKey.filled last stop code [] false _ i l k still,
    if_pos (.inl rfl)]
  rfl

/-- The lexer that has read a key, which it holds back. -/
def holding (key : Text) (required : Bool) (i l k h : Nat) (r : Text) (indent : Int)
    (outer : List Int) : Lexer :=
  { ready ⟨r, i + key.length, l, k + key.length⟩ indent outer false h with
    keys := [(0, ⟨h, required, i, l, k⟩)], waiting := [.scalar key true] }

theorem plainText_key (isKey : IsKey key) (gap : isGap g = true) (i l h : Nat) :
    plainText (ready ⟨key ++ Code.colon :: g :: r, i, l, k⟩ indent outer true h) =
      .ok (holding key (indent == k) i l k h (Code.colon :: g :: r) indent outer) := by
  have read := plainScalar_key (r := r) (k := k) isKey gap (indent + 1) i l
  have held : holdKey (ready ⟨key ++ Code.colon :: g :: r, i, l, k⟩ indent outer true h) =
      .ok { ready ⟨key ++ Code.colon :: g :: r, i, l, k⟩ indent outer true h with
        keys := [(0, ⟨h, indent == k, i, l, k⟩)] } := rfl
  unfold plainText
  rw [held]
  exact congrArg (fun read : Text × Cursor × Bool => Except.ok
    { ready read.2.1 indent outer read.2.2 h with
      keys := [(0, ⟨h, indent == k, i, l, k⟩)], waiting := [.scalar read.1 true] }) read

/-- A colon ends the key, which opens a mapping or goes on with one. -/
theorem valueMark_holding (opens : Opens k .blockMappingStart indent outer start indent' outer')
    (required : Bool) (i l h : Nat) :
    valueMark (holding key required i l k h (Code.colon :: r) indent outer) =
      .ok { ready ⟨r, i + key.length + 1, l, k + key.length + 1⟩ indent' outer' false h with
        waiting := start ++ [.key, .scalar key true, .value] } := by
  have next : (⟨Code.colon :: r, i + key.length, l, k + key.length⟩ : Cursor).next =
      ⟨r, i + key.length + 1, l, k + key.length + 1⟩ := Cursor.next_of_inLine rfl r _ l _
  cases opens with
  | new less =>
    simp [valueMark, holding, ready, makeKey, inFlow, openBlock, less, push, moveTo, next, pure,
      bind, Except.pure, Except.bind]
  | same =>
    simp [valueMark, holding, ready, makeKey, inFlow, openBlock, push, moveTo, next, pure,
      bind, Except.pure, Except.bind]

theorem dropStale_holding (isKey : IsKey key) (required : Bool) (i l h : Nat) :
    dropStale (holding key required i l k h r indent outer) =
      .ok (holding key required i l k h r indent outer) := by
  have fresh : isStale (holding key required i l k h r indent outer) ⟨h, required, i, l, k⟩ =
      false := by
    simpa [isStale, holding, ready] using isKey.short
  simp only [dropStale, holding] at fresh ⊢
  simp [fresh]

/-- A key is held back until its colon is read. -/
theorem from_holding {s : Lexer} {fuel h i l : Nat} {required : Bool} (isKey : IsKey key)
    (deep : indent ≤ k) (gap : isGap g = true)
    (read : valueMark (holding key required i l k h (Code.colon :: g :: r) indent outer) = .ok s)
    (rest : Tokens.from_ fuel s = ⟨ts, none⟩) :
    Tokens.from_ (fuel + 1) (holding key required i l k h (Code.colon :: g :: r) indent outer) =
      ⟨ts, none⟩ := by
  have kept : dropStale (holding key required i l k h (Code.colon :: g :: r) indent outer) = _ :=
    dropStale_holding isKey required i l h
  have colon := begins_cons (c := Code.colon) rfl (by decide) (by decide) (g :: r)
  have still : (holding key required i l k h (Code.colon :: g :: r) indent outer).toToken =
      holding key required i l k h (Code.colon :: g :: r) indent outer :=
    toToken_of_spaces (n := 0) colon rfl
  have more : (holding key required i l k h (Code.colon :: g :: r) indent outer).needsMore =
      .ok (true, holding key required i l k h (Code.colon :: g :: r) indent outer) := by
    have going : (holding key required i l k h (Code.colon :: g :: r) indent outer).finished =
      false := rfl
    rw [needsMore, going, if_neg Bool.false_ne_true, if_neg (by simp [holding]), kept]
    simp [holding, ready, bind, Except.bind, pure, Except.pure]
  have fetched :
      (holding key required i l k h (Code.colon :: g :: r) indent outer).fetch = .ok s := by
    have inside : k + key.length ≠ 0 := by
      have := List.length_pos_iff.2 isKey.filled
      omega
    have unwound : (holding key required i l k h (Code.colon :: g :: r) indent outer).unwindTo
        ((k + key.length : Nat) : Int) =
        holding key required i l k h (Code.colon :: g :: r) indent outer := by
      refine unwindTo_of_le ?_
      show indent ≤ _
      omega
    rw [fetch, arrive, still, kept, ← read, ← token_colon inside rfl rfl gap]
    exact congrArg token unwound
  rw [Tokens.from_, more]
  dsimp only
  rw [fetched]
  exact rest

/-- **A key with its colon.** The mapping that it belongs to may begin with it. -/
theorem lexes_key (isKey : IsKey key) (inside : k ≠ 0)
    (opens : Opens k .blockMappingStart indent outer start indent' outer') (gap : isGap g = true)
    (rest : Behind indent' outer' (g :: r) (k + key.length + 1) ts) :
    Lexes indent outer (key ++ Code.colon :: g :: r) k
      (start ++ [.key, .scalar key true, .value] ++ ts) := by
  rintro s fuel ⟨c, allowed, h, i, l, rfl, arrives⟩ enough
  have one : start.length ≤ 1 := by
    cases opens <;> simp
  have filled := List.length_pos_iff.2 isKey.filled
  simp only [List.length_append, List.length_cons] at enough
  obtain ⟨fuel, rfl⟩ : ∃ n, fuel = n + 2 := Nat.exists_eq_add_of_le' (by omega)
  have read := fetch_eq arrives rfl (unwindTo_of_le opens.le.1)
  have begins : token (ready ⟨key ++ Code.colon :: g :: r, i, l, k⟩ indent outer true h) =
      plainText (ready ⟨key ++ Code.colon :: g :: r, i, l, k⟩ indent outer true h) := by
    obtain ⟨x, t, split⟩ := List.exists_cons_of_ne_nil isKey.filled
    obtain ⟨solid, unsigned, question, colon, dash, -⟩ :=
      isKey.letter (by rw [split]; exact List.mem_cons_self)
    refine token_plain inside rfl (by rw [split]; rfl) solid unsigned ?_
    rintro (same | same | same)
    · exact absurd same question
    · exact absurd same colon
    · exact absurd same dash
  rw [begins, plainText_key isKey gap] at read
  refine from_of_fetch rfl rfl read (from_holding isKey opens.le.1 gap
    (valueMark_holding opens _ _ _ _)
    (from_ready (m := 8 * (g :: r).length + 16) ?_ fun fuel h enough => ?_))
  · simp only [List.length_append, List.length_cons, List.length_nil]
    omega
  · exact rest _ _ _ _ enough

/-- The end of a line leads to the next token. -/
theorem behind_line (follows : Follows k r) {j : Nat} (rest : Lexes indent outer r k ts) :
    Behind indent outer (Code.newline :: (Text.run Code.space k ++ r)) j ts := by
  intro i l h fuel enough
  refine rest _ fuel (stands_of_line follows i l j h false) ?_
  simp only [List.length_cons, List.length_append] at enough
  omega

/-- Brackets that hold nothing. -/
theorem behind_brackets {j : Nat} (deep : indent ≤ j) (rest : Behind indent outer r (j + 3) ts) :
    Behind indent outer (Code.space :: Code.openBracket :: Code.closeBracket :: r) j
      (.flowSequenceStart :: .flowSequenceEnd :: ts) := by
  intro i l h fuel enough
  simp only [List.length_cons] at enough
  obtain ⟨fuel, rfl⟩ : ∃ n, fuel = n + 4 := Nat.exists_eq_add_of_le' (by omega)
  have opened : fetch (ready ⟨Code.space :: Code.openBracket :: Code.closeBracket :: r, i, l, j⟩
      indent outer false h) =
      .ok { ready ⟨Code.closeBracket :: r, i + 2, l, j + 2⟩ indent outer true h with
        level := 1, waiting := [.flowSequenceStart] } := by
    have begins := begins_cons (c := Code.openBracket) rfl (by decide) (by decide)
      (Code.closeBracket :: r)
    have arrives := toToken_of_spaces (n := 1) begins
      (s := ready ⟨Code.space :: Code.openBracket :: Code.closeBracket :: r, i, l, j⟩ indent outer
        false h) rfl
    have deep : indent ≤ ((j + 1 : Nat) : Int) := by omega
    have next : (⟨Code.openBracket :: Code.closeBracket :: r, i + 1, l, j + 1⟩ : Cursor).next =
      ⟨Code.closeBracket :: r, i + 2, l, j + 2⟩ := Cursor.next_of_inLine rfl _ _ l _
    rw [fetch_eq arrives rfl (unwindTo_of_le deep), token_openBracket (Nat.succ_ne_zero j) rfl]
    simp [openFlow, holdKey, ready, push, moveTo, next, bind, Except.bind, pure, Except.pure]
  have closed : fetch { ready ⟨Code.closeBracket :: r, i + 2, l, j + 2⟩ indent outer true (h + 1) with
      level := 1 } =
      .ok { ready ⟨r, i + 3, l, j + 3⟩ indent outer false (h + 1) with
        waiting := [.flowSequenceEnd] } := by
    have begins := begins_cons (c := Code.closeBracket) rfl (by decide) (by decide) r
    have arrives := toToken_of_spaces (n := 0) begins
      (s := { ready ⟨Code.closeBracket :: r, i + 2, l, j + 2⟩ indent outer true (h + 1) with
        level := 1 }) rfl
    have deep : indent ≤ ((j + 2 : Nat) : Int) := by omega
    have next : (⟨Code.closeBracket :: r, i + 2, l, j + 2⟩ : Cursor).next = ⟨r, i + 3, l, j + 3⟩ :=
      Cursor.next_of_inLine rfl _ _ l _
    rw [fetch_eq arrives rfl (unwindTo_of_le deep), token_closeBracket (Nat.succ_ne_zero _) rfl]
    simp [closeFlow, dropKey, ready, push, moveTo, next, bind, Except.bind, pure, Except.pure]
  have handed := rest (i + 3) l (h + 2) fuel (by omega)
  exact from_of_fetch rfl rfl opened (from_of_single rfl rfl
    (from_of_fetch rfl rfl closed (from_of_single rfl rfl handed)))

/-- The token of a written text. -/
def valueToken (t : Text) : Token :=
  .scalar (reread t) (styleOf t = .plain)

/-- A scalar in quotes. -/
theorem behind_quoted {double : Bool} {w u : Text} {j : Nat} (follows : Follows k r)
    (scans : Scans double w u (Code.newline :: (Text.run Code.space k ++ r))) (inside : indent ≤ j)
    (rest : Lexes indent outer r k ts) :
    Behind indent outer
      (Code.space :: closing double :: (w ++ Code.newline :: (Text.run Code.space k ++ r))) j
      (.scalar u false :: ts) := by
  intro i l h fuel enough
  simp only [List.length_cons, List.length_append] at enough
  obtain ⟨fuel, rfl⟩ : ∃ n, fuel = n + 2 := Nat.exists_eq_add_of_le' (by omega)
  generalize tail : Code.newline :: (Text.run Code.space k ++ r) = v at scans ⊢
  have begins : Begins (closing double :: (w ++ v)) := by
    cases double <;> exact begins_cons rfl (by decide) (by decide) _
  have arrives := toToken_of_spaces (n := 1) begins
    (s := ready ⟨Code.space :: closing double :: (w ++ v), i, l, j⟩ indent outer false h) rfl
  have deep : indent ≤ ((j + 1 : Nat) : Int) := by omega
  obtain ⟨⟨left, i', l', j'⟩, scalar, behind⟩ :=
    scans.flowScalar (c := ⟨closing double :: (w ++ v), i + 1, l, j + 1⟩) rfl
  obtain rfl : left = v := behind
  have read : fetch (ready ⟨Code.space :: closing double :: (w ++ left), i, l, j⟩ indent outer
      false h) =
      .ok { ready ⟨left, i', l', j'⟩ indent outer false h with waiting := [.scalar u false] } := by
    rw [fetch_eq arrives rfl (unwindTo_of_le deep), token_quote (Nat.succ_ne_zero j) double rfl]
    simp [quotedText, holdKey, ready, push, moveTo, scalar, bind, Except.bind, pure, Except.pure]
  refine from_of_fetch rfl rfl read (from_of_single rfl rfl ?_)
  subst tail
  exact rest _ fuel (stands_of_line follows i' l' j' (h + 1) false) (by omega)

/-- A scalar without quotes. -/
theorem behind_plain {t : Text} {w column j : Nat} (allowed : allowsPlain t = true)
    (filled : t ≠ []) (deep : indent < w) (inside : indent ≤ j) (shallow : k ≤ indent)
    (follows : Follows k r) (rest : Lexes indent outer r k ts) :
    Behind indent outer
      (Code.space :: (foldedFrom (fun _ => false) w (t.length + 1) true column t ++
        Code.newline :: (Text.run Code.space k ++ r))) j
      (.scalar t true :: ts) := by
  intro i l h fuel enough
  simp only [List.length_cons, List.length_append] at enough
  obtain ⟨fuel, rfl⟩ : ∃ n, fuel = n + 2 := Nat.exists_eq_add_of_le' (by omega)
  have indented : 0 < w := by omega
  obtain ⟨c, v, begins, solid, unsigned, mark⟩ := begins_of_allowsPlain allowed filled
    (Nat.lt_add_one t.length) w true column (Code.newline :: (Text.run Code.space k ++ r))
  have hash : c ≠ Code.hash := by
    rintro rfl
    exact absurd unsigned (by decide)
  obtain ⟨i', l', scalar⟩ := plainFrom_foldedFrom (m := indent + 1) indented (by omega) (by omega)
    follows t.length t (Nat.le_refl _) (bare_of_allowsPlain allowed) filled (t.length + 1) true column
    [] false (i + 1) l (j + 1) (v.length + 2) (Nat.lt_succ_self _) (by omega) (by
      have same := congrArg List.length begins
      simp only [List.length_cons, List.length_append] at same
      omega)
  rw [begins] at scalar ⊢
  have arrives := toToken_of_spaces (n := 1) (begins_of_isSolid (t := c :: v) solid hash)
    (s := ready ⟨Code.space :: c :: v, i, l, j⟩ indent outer false h) rfl
  have deep : indent ≤ ((j + 1 : Nat) : Int) := by omega
  have read : fetch (ready ⟨Code.space :: c :: v, i, l, j⟩ indent outer false h) =
      .ok { ready ⟨r, i', l', k⟩ indent outer true h with waiting := [.scalar t true] } := by
    rw [fetch_eq arrives rfl (unwindTo_of_le deep),
      token_plain (Nat.succ_ne_zero j) rfl rfl solid unsigned mark]
    exact congrArg (fun read : Text × Cursor × Bool => Except.ok
      { ready read.2.1 indent outer read.2.2 h with waiting := [.scalar read.1 true] }) scalar
  have stands : Stands indent outer r k _ :=
    stands_of_spaces (n := 0) follows.toBegins i' l' k (h + 1)
  exact from_of_fetch rfl rfl read (from_of_single rfl rfl (rest _ fuel stands (by omega)))

/-- **The value of a key is read as one scalar.** What follows on the next line is not part of it. -/
theorem behind_written {t : Text} {w column j : Nat} (characters : ∀ x ∈ t, x ≤ 0x10FFFF)
    (wide : w < lineWidth) (deep : indent < w) (inside : indent ≤ j) (shallow : k ≤ indent)
    (follows : Follows k r) (rest : Lexes indent outer r k ts) :
    Behind indent outer
      (Code.space :: (written w column t ++ Code.newline :: (Text.run Code.space k ++ r))) j
      (valueToken t :: ts) := by
  have indented : 0 < w := by omega
  have apart : firstOr (Code.newline :: (Text.run Code.space k ++ r)) ≠ Code.apostrophe :=
    show Code.newline ≠ Code.apostrophe by decide
  unfold written valueToken reread
  cases style : styleOf t with
  | plain =>
    obtain ⟨allowed, -, filled⟩ := styleOf_eq_plain style
    exact behind_plain allowed filled deep inside shallow follows rest
  | single =>
    obtain ⟨visible, free⟩ := styleOf_eq_single style
    have refolds := scans_foldedFrom indented apart (t.length + 1) t (Nat.lt_succ_self _) visible free
    exact behind_quoted follows (refolds true (column + 1)) inside rest
  | double =>
    have spaced := spaced_escapedFrom indented wide (Code.newline :: (Text.run Code.space k ++ r)) t
      characters true false (column + 1)
    exact behind_quoted follows spaced.scans inside rest

end Steps

end EditorText.Yaml
