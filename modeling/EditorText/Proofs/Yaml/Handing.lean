import EditorText.Proofs.Yaml.Plain
import EditorText.Yaml.Lexer

/-!
# How tokens are handed out

A lexer hands out the tokens that wait, then passes the gap before the next token and reads it by its
first characters.
-/

set_option autoImplicit false

namespace EditorText.Yaml

open Lexer

/-- A lexer that has handed out all tokens that it has read. -/
def Lexer.ready (c : Cursor) (indent : Int) (outer : List Int) (allowed : Bool)
    (handed : Nat) : Lexer :=
  { at_ := c, indent := indent, indents := outer, keyAllowed := allowed, handed := handed }

section Handing

variable {s s' : Lexer} {ts : List Token} {n : Nat}

theorem dropStale_of_keys (free : s.keys = []) : s.dropStale = .ok s := by
  obtain ⟨at_, level, indent, indents, allowed, keys, waiting, handed, finished⟩ := s
  obtain rfl : keys = [] := free
  rfl

theorem needsMore_of_keys (free : s.keys = []) (filled : s.waiting ≠ []) :
    s.needsMore = .ok (false, s) := by
  unfold needsMore
  by_cases ended : s.finished = true
  · exact if_pos ended
  · rw [if_neg ended, if_neg filled, dropStale_of_keys free]
    dsimp only [bind, Except.bind]
    rw [free]
    rfl

/-- Where no token is held back, those that wait are handed out. -/
theorem from_of_waiting (free : s.keys = [])
    (rest : Tokens.from_ n { s with waiting := [], handed := s.handed + s.waiting.length } =
      ⟨ts, none⟩) :
    Tokens.from_ (n + s.waiting.length) s = ⟨s.waiting ++ ts, none⟩ := by
  obtain ⟨at_, level, indent, indents, allowed, keys, waiting, handed, finished⟩ := s
  induction waiting generalizing handed with
  | nil => exact rest
  | cons t waiting ih =>
    have less : handed + (t :: waiting).length = handed + 1 + waiting.length := by
      rw [List.length_cons]
      omega
    dsimp only at free rest ih ⊢
    rw [less] at rest
    rw [List.length_cons, ← Nat.add_assoc, Tokens.from_, needsMore_of_keys free (by simp)]
    dsimp only
    rw [ih _ free rest]
    rfl

/-- Behind the last token, those that wait are handed out and no more are read. -/
theorem from_of_finished (free : s.keys = []) (ended : s.finished = true) :
    Tokens.from_ (n + 1 + s.waiting.length) s = ⟨s.waiting, none⟩ := by
  have last : Tokens.from_ (n + 1)
      { s with waiting := [], handed := s.handed + s.waiting.length } = ⟨[], none⟩ := by
    simp [Tokens.from_, needsMore, ended]
  simpa using from_of_waiting free last

/-- A lexer with nothing to hand out reads a token. -/
theorem from_of_fetch (idle : s.waiting = []) (going : s.finished = false)
    (read : s.fetch = .ok s') (rest : Tokens.from_ n s' = ⟨ts, none⟩) :
    Tokens.from_ (n + 1) s = ⟨ts, none⟩ := by
  have more : s.needsMore = .ok (true, s) := by
    rw [needsMore, going, if_neg Bool.false_ne_true, if_pos idle]
  rw [Tokens.from_, more]
  dsimp only
  rw [read]
  exact rest

theorem from_of_single {t : Token} (free : s.keys = []) (single : s.waiting = [t])
    (rest : Tokens.from_ n { s with waiting := [], handed := s.handed + 1 } = ⟨ts, none⟩) :
    Tokens.from_ (n + 1) s = ⟨t :: ts, none⟩ := by
  obtain ⟨at_, level, indent, indents, allowed, keys, waiting, handed, finished⟩ := s
  obtain rfl : waiting = [t] := single
  exact from_of_waiting free rest

/-- More rounds do no harm: how a bound is met. -/
theorem from_ready {c : Cursor} {indent : Int} {outer : List Int} {allowed : Bool} {h m : Nat}
    {ws : List Token} {fuel : Nat} (enough : m + ws.length ≤ fuel)
    (rest : ∀ fuel h, m ≤ fuel → Tokens.from_ fuel (ready c indent outer allowed h) = ⟨ts, none⟩) :
    Tokens.from_ fuel { ready c indent outer allowed h with waiting := ws } = ⟨ws ++ ts, none⟩ := by
  obtain ⟨n, rfl⟩ := Nat.exists_eq_add_of_le' (Nat.le_of_add_left_le enough)
  exact from_of_waiting (s := { ready c indent outer allowed h with waiting := ws }) rfl
    (rest n _ (by omega))

end Handing

section Arriving

variable {s : Lexer} {k : Nat} {r : Text} {i l j n : Nat}

theorem inFlow_of_level (block : s.level = 0) : s.inFlow = false := by
  rw [inFlow, block]
  rfl

theorem skipGap_of_spaces (begins : Begins r)
    (here : s.at_ = ⟨Text.run Code.space n ++ r, i, l, j⟩) (fuel : Nat) :
    skipGap (fuel + 1) s = s.moveTo ⟨r, i + n, l, j + n⟩ := by
  have passed : s.at_.skipWhile (· == Code.space) = ⟨r, i + n, l, j + n⟩ := by
    rw [Cursor.skipWhile, here, begins.run_spaces, Text.length_run, Cursor.skip_spaces]
  have code : (⟨r, i + n, l, j + n⟩ : Cursor).skipComment = ⟨r, i + n, l, j + n⟩ := by
    unfold Cursor.skipComment
    have other : ¬ (firstOr r == Code.hash) = true := by simpa using begins.code
    exact if_neg other
  have line : (⟨r, i + n, l, j + n⟩ : Cursor).lineBreak = ([], ⟨r, i + n, l, j + n⟩) :=
    Cursor.lineBreak_of_isInLine begins.inLine
  rw [skipGap]
  dsimp only
  rw [passed, code, line]
  rfl

theorem begins_cons {c : Code} (inLine : isInLine c = true) (filled : c ≠ Code.space)
    (code : c ≠ Code.hash) (r : Text) : Begins (c :: r) :=
  ⟨filled, inLine, code⟩

/-- Spaces before a token are passed. -/
theorem toToken_of_spaces (begins : Begins r)
    (here : s.at_ = ⟨Text.run Code.space n ++ r, i, l, j⟩) :
    s.toToken = s.moveTo ⟨r, i + n, l, j + n⟩ := by
  have unmarked : ¬ (s.at_.index = 0 ∧ s.at_.first = byteOrderMark) := by
    rintro ⟨-, mark⟩
    rw [here] at mark
    cases n with
    | zero =>
      have mark : firstOr r = byteOrderMark := mark
      have inLine := begins.inLine
      rw [mark] at inLine
      exact absurd inLine (by decide)
    | succ n =>
      have mark : Code.space = byteOrderMark := mark
      exact absurd mark (by decide)
  rw [toToken, if_neg unmarked]
  exact skipGap_of_spaces begins here _

/-- A line end before a token allows keys. -/
theorem toToken_of_line (follows : Follows k r)
    (here : s.at_ = ⟨Code.newline :: (Text.run Code.space k ++ r), i, l, j⟩) (block : s.level = 0) :
    ∃ i' l', s.toToken = { s with at_ := ⟨r, i', l', k⟩, keyAllowed := true } := by
  have rest : s.at_.rest = Code.newline :: (Text.run Code.space k ++ r) := by rw [here]
  have unmarked : ¬ (s.at_.index = 0 ∧ s.at_.first = byteOrderMark) := by
    rintro ⟨-, mark⟩
    rw [Cursor.first_eq rest] at mark
    have mark : Code.newline = byteOrderMark := mark
    exact absurd mark (by decide)
  have still : s.at_.skipWhile (· == Code.space) = s.at_ := by
    refine Cursor.skipWhile_eq fun x first => ?_
    rw [rest] at first
    obtain rfl : Code.newline = x := by simpa using first
    rfl
  have code : s.at_.skipComment = s.at_ := by
    unfold Cursor.skipComment
    rw [Cursor.first_eq rest]
    rfl
  obtain ⟨i', l', line⟩ := Cursor.lineBreak_newline rest
  have outside := inFlow_of_level block
  have further := skipGap_of_spaces follows.toBegins
    (s := { s.moveTo ⟨Text.run Code.space k ++ r, i', l', 0⟩ with
      keyAllowed := s.keyAllowed || !s.inFlow }) rfl
    (Text.run Code.space k ++ r).length
  refine ⟨i' + k, l', ?_⟩
  rw [toToken, if_neg unmarked, rest, List.length_cons, skipGap]
  dsimp only
  rw [still, code, line]
  dsimp only
  rw [if_neg (by simp), further, outside]
  simp [moveTo]

/-- Reading goes on from the token that a lexer arrives at. -/
theorem fetch_eq {s' t : Lexer} (arrives : s.toToken = t) (free : t.keys = [])
    (unwinds : t.unwindTo t.at_.column = s') : s.fetch = s'.token := by
  rw [fetch, arrive, arrives, dropStale_of_keys free]
  exact congrArg token unwinds

end Arriving

section Reading

variable {s : Lexer} {c g : Code} {r w : Text}

theorem atLineOf_of_ne {c : Cursor} {mark : Code} (other : c.first ≠ mark) :
    c.atLineOf mark = false := by
  unfold Cursor.atLineOf
  cases rest : c.rest with
  | nil => simp
  | cons x t =>
    have other : x ≠ mark := by rwa [Cursor.first_eq rest] at other
    simp [other]

/-- Inside a line no separator of documents stands. -/
theorem atLineOf_of_column {c : Cursor} {mark : Code} (inside : c.column ≠ 0) :
    c.atLineOf mark = false := by
  simp [Cursor.atLineOf, inside]

/-- The character behind the first one. -/
theorem peek_one (here : s.at_.rest = c :: w) : s.at_.peek 1 = firstOr w := by
  rw [Cursor.peek, here]
  cases w <;> rfl

/-- A dash alone begins an item. -/
theorem token_dash (here : s.at_.rest = Code.dash :: Code.space :: r) : s.token = s.blockDash := by
  have first : s.at_.first = Code.dash := Cursor.first_eq here
  have next : s.at_.peek 1 = Code.space := peek_one here
  have other : Code.space ≠ Code.dash := by decide
  have line : s.at_.atLineOf Code.dash = false := by
    simp [Cursor.atLineOf, here, other]
  have dots : s.at_.atLineOf Code.dot = false := atLineOf_of_ne (by rw [first]; decide)
  unfold token
  simp only [here, first, next, line, dots]
  rfl

/-- A colon before a gap ends a key. -/
theorem token_colon (inside : s.at_.column ≠ 0) (block : s.level = 0)
    (here : s.at_.rest = Code.colon :: g :: r) (gap : isGap g = true) : s.token = s.valueMark := by
  have outside := inFlow_of_level block
  have first : s.at_.first = Code.colon := Cursor.first_eq here
  have next : s.at_.peek 1 = g := peek_one here
  unfold token
  simp only [here, first, next, gap, outside, atLineOf_of_column inside]
  rfl

theorem token_quote (inside : s.at_.column ≠ 0) (double : Bool)
    (here : s.at_.rest = closing double :: r) : s.token = s.quotedText double := by
  have first : s.at_.first = closing double := Cursor.first_eq here
  unfold token
  simp only [here, first, atLineOf_of_column inside]
  cases double <;> rfl

theorem token_openBracket (inside : s.at_.column ≠ 0) (here : s.at_.rest = Code.openBracket :: r) :
    s.token = s.openFlow .flowSequenceStart := by
  have first : s.at_.first = Code.openBracket := Cursor.first_eq here
  unfold token
  simp only [here, first, atLineOf_of_column inside]
  rfl

theorem token_closeBracket (inside : s.at_.column ≠ 0) (here : s.at_.rest = Code.closeBracket :: r) :
    s.token = s.closeFlow .flowSequenceEnd := by
  have first : s.at_.first = Code.closeBracket := Cursor.first_eq here
  unfold token
  simp only [here, first, atLineOf_of_column inside]
  rfl

/-- A plain scalar begins at a character that is no sign, also at one that is a mark before a gap
only. -/
theorem atPlain_of_unsigned (block : s.level = 0) (here : s.at_.rest = c :: w)
    (solid : isSolid c = true) (unsigned : startSigns.contains c = false)
    (mark : c = Code.question ∨ c = Code.colon ∨ c = Code.dash → isGap (firstOr w) = false) :
    s.atPlain = true := by
  have first : s.at_.first = c := Cursor.first_eq here
  unfold atPlain
  dsimp only
  rw [first, peek_one here, inFlow_of_level block]
  by_cases sign : c = Code.question ∨ c = Code.colon ∨ c = Code.dash
  · rw [mark sign]
    rcases sign with rfl | rfl | rfl <;> rfl
  · simp only [not_or] at sign
    have letter : isIndicator c = false := by
      simp only [isIndicator, unsigned, beq_eq_false_iff_ne.2 sign.1,
        beq_eq_false_iff_ne.2 sign.2.1, beq_eq_false_iff_ne.2 sign.2.2, Bool.or_false]
    rw [isGap_of_isSolid solid, letter]
    rfl

/-- What is no sign begins a plain scalar. -/
theorem token_plain (inside : s.at_.column ≠ 0) (block : s.level = 0) (here : s.at_.rest = c :: w)
    (solid : isSolid c = true) (unsigned : startSigns.contains c = false)
    (mark : c = Code.question ∨ c = Code.colon ∨ c = Code.dash → isGap (firstOr w) = false) :
    s.token = s.plainText := by
  have first : s.at_.first = c := Cursor.first_eq here
  have next := peek_one here
  have outside := inFlow_of_level block
  have plain := atPlain_of_unsigned block here solid unsigned mark
  have other (x : Code) (sign : startSigns.contains x = true) : c ≠ x := by
    rintro rfl
    rw [unsigned] at sign
    cases sign
  have unmarked {x : Code} (sign : x = Code.question ∨ x = Code.colon ∨ x = Code.dash) :
      ¬ (c = x ∧ isGap (firstOr w) = true) := by
    rintro ⟨rfl, gap⟩
    rw [mark sign] at gap
    cases gap
  have dash := unmarked (.inr (.inr rfl))
  have question : ¬ (c = Code.question ∧ (false = true ∨ isGap (firstOr w) = true)) :=
    fun ⟨same, gap⟩ => unmarked (.inl rfl) ⟨same, gap.resolve_left Bool.false_ne_true⟩
  have colon : ¬ (c = Code.colon ∧ (false = true ∨ isGap (firstOr w) = true)) :=
    fun ⟨same, gap⟩ => unmarked (.inr (.inl rfl)) ⟨same, gap.resolve_left Bool.false_ne_true⟩
  unfold token
  dsimp only
  rw [first, next, outside, atLineOf_of_column inside, atLineOf_of_column inside,
    if_neg (by rw [here]; simp), if_neg fun h => inside h.2, if_neg Bool.false_ne_true,
    if_neg Bool.false_ne_true, if_neg (other _ rfl), if_neg (other _ rfl), if_neg (other _ rfl),
    if_neg (other _ rfl), if_neg (other _ rfl), if_neg dash, if_neg question, if_neg colon,
    if_neg (other _ rfl), if_neg (other _ rfl), if_neg (other _ rfl), if_neg fun h => other _ rfl h.1,
    if_neg fun h => other _ rfl h.1, if_neg (other _ rfl), if_neg (other _ rfl), if_pos plain]

end Reading

end EditorText.Yaml
