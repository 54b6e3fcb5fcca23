import EditorText.Proofs.Pattern.Levels
import EditorText.Proofs.Pattern.Limits
import Mathlib.Algebra.Ring.Nat

/-!
# What readers of patterns serve

Each reader of a part of a pattern stands behind that part when it answers, and fails for faults and
limits alone. What it answers is no deeper than that part lets it be.
-/

set_option autoImplicit false

namespace EditorText.Pattern

/-- Letters that stand for switches, among them those that choose the character classes. -/
structure Spells (letters : Text) (on : Flags) : Prop where
  known : ∀ l ∈ letters, (Flags.ofLetter? l).isSome
  ascii : on.ascii = true → 'a'.toNat ∈ letters
  unicode : on.unicode = true → 'u'.toNat ∈ letters

namespace Spells

variable {letters : Text} {on flag : Flags} {c : Code}

theorem eq_a_of_ascii (h : Flags.ofLetter? c = some flag) (ascii : flag.ascii = true) :
    c = 'a'.toNat := by
  by_contra other
  simp only [Flags.ofLetter?, if_neg other] at h
  split_ifs at h <;> cases h <;> contradiction

theorem eq_u_of_unicode (h : Flags.ofLetter? c = some flag) (unicode : flag.unicode = true) :
    c = 'u'.toNat := by
  by_contra other
  simp only [Flags.ofLetter?, if_neg other] at h
  split_ifs at h <;> cases h <;> contradiction

theorem nil : Spells [] {} where
  known := by simp
  ascii := nofun
  unicode := nofun

theorem snoc (h : Spells letters on) (letter : Flags.ofLetter? c = some flag) :
    Spells (letters ++ [c]) (on.union flag) where
  known := by
    intro l member
    rcases List.mem_append.1 member with before | last
    · exact h.known l before
    · rw [List.mem_singleton.1 last, letter]
      rfl
  ascii := by
    intro ascii
    rcases Bool.or_eq_true_iff.1 ascii with before | last
    · exact List.mem_append_left _ (h.ascii before)
    · rw [eq_a_of_ascii letter last]
      exact List.mem_append_right _ (List.mem_singleton_self _)
  unicode := by
    intro unicode
    rcases Bool.or_eq_true_iff.1 unicode with before | last
    · exact List.mem_append_left _ (h.unicode before)
    · rw [eq_u_of_unicode letter last]
      exact List.mem_append_right _ (List.mem_singleton_self _)

theorem switched {source : Text} (h : Spells letters on)
    (inside : Text.ofChars ['(', '?'] ++ letters ++ [Code.closeParen] <:+: source) :
    Switched source on where
  ascii ascii := ⟨letters, inside, h.known, h.ascii ascii⟩
  unicode unicode := ⟨letters, inside, h.known, h.unicode unicode⟩

end Spells

namespace Reader

variable {source l : Text} {m n : Nat} {P : Reading → Prop}

section Numbers

theorem hexValue?_lt (d : Code) : (hexValue? d).getD 0 < 16 := by
  unfold hexValue?
  simp only [Bool.and_eq_true, decide_eq_true_eq]
  split
  case isTrue range => exact (Nat.sub_le_sub_right range.2 48).trans_lt (by decide)
  split
  case isTrue range => exact (Nat.sub_le_sub_right range.2 55).trans_lt (by decide)
  split
  case isTrue range => exact (Nat.sub_le_sub_right range.2 87).trans_lt (by decide)
  case isFalse => decide

/-- A number is bounded by the number of its hexadecimal digits. -/
theorem natOf_hex_lt (ds : Text) : Text.natOf 16 ds < 16 ^ ds.length := by
  have bound (ds : Text) : ∀ n : Nat,
      ds.foldl (fun n c => n * 16 + ((hexValue? c).getD 0)) n < (n + 1) * 16 ^ ds.length := by
    induction ds with
    | nil => intro n; simp
    | cons d ds ih =>
      intro n
      have digit := hexValue?_lt d
      rw [List.foldl_cons, List.length_cons, Nat.pow_succ']
      refine (ih _).trans_le ?_
      rw [← Nat.mul_assoc]
      exact Nat.mul_le_mul_right _ (by omega)
  have whole := bound ds 0
  rwa [Nat.zero_add, Nat.one_mul] at whole

end Numbers

variable [Platform]

section Escapes

theorem serves_hexEscape {letter : Code} {digits : Nat}
    (known : digits < 8 ∨ digits = 8 ∧ letter = 'U'.toNat) :
    Serves source (At source m [Code.backslash, letter] n) (hexEscape letter digits) fun _ =>
      At source m [] n := by
  refine (serves_takeWhile isHexDigit digits).bind fun ds => ?_
  refine serves_ite (fun _ => (serves_failBack _ _).bind_false) fun full => ?_
  have count : ds.length = digits := by simpa using full
  refine serves_of_forall (p := (∀ d ∈ ds, isHexDigit d = true) ∧
    Code.backslash :: letter :: ds <:+: source) (fun _ h => ⟨h.1, h.2.2.inside⟩) ?_
  rintro ⟨hex, inside⟩
  refine serves_ite (fun large => ?_) fun _ => serves_ite (fun _ => (serves_failBack _ _).bind_false)
    fun _ => serves_pure fun _ h => h.2.2.forget
  have long : digits = 8 ∧ letter = 'U'.toNat := by
    refine known.resolve_left fun short => ?_
    have small := natOf_hex_lt ds
    have power : 16 ^ ds.length ≤ 16 ^ 7 := Nat.pow_le_pow_right (by decide) (by omega)
    omega
  exact (serves_throw (.code hex (count.trans long.1) (long.2 ▸ inside) large)).bind_false

theorem serves_namedEscape :
    Serves source (At source m l n) namedEscape fun _ => At source m [] n := by
  refine (serves_accept _).bind fun taken => ?_
  cases taken with
  | false => exact (serves_fail _).bind_false
  | true =>
    refine Serves.bind ((serves_name _ _).from (fun _ h => h.2)) fun name => ?_
    refine serves_ite (fun _ => (serves_failBack _ _).bind_false) fun _ => ?_
    split
    · exact serves_pure fun _ h => h.le (Nat.sub_le n 1)
    · exact serves_failBack _ _

/-- An escape in octal digits is not too large for a code number, or it is a fault. -/
theorem serves_octalEscape (ds : Text) : Serves source P (octalEscape ds) fun _ => P :=
  serves_ite (fun _ => (serves_failBack _ _).bind_false) fun _ => serves_pure fun _ h => h

theorem serves_codeEscape (c : Code) : Serves source P (codeEscape c) fun _ => P :=
  serves_ite (fun _ => (serves_failBack _ _).bind_false) fun _ => serves_pure fun _ h => h

theorem serves_numberEscape? (c : Code) :
    Serves source (At source m [Code.backslash, c] n) (numberEscape? c) fun _ => At source m [] n := by
  have hex (digits : Nat) (known : digits < 8 ∨ digits = 8 ∧ c = 'U'.toNat) :
      Serves source (At source m [Code.backslash, c] n)
        (do return some (← hexEscape c digits)) fun _ => At source m [] n :=
    (serves_hexEscape known).bind fun _ => serves_pure fun _ h => h
  refine serves_ite (fun _ => hex 2 (.inl (by decide))) fun _ => ?_
  refine serves_ite (fun _ => hex 4 (.inl (by decide))) fun _ => ?_
  refine serves_ite (fun same => hex 8 (.inr ⟨rfl, same⟩)) fun _ => ?_
  exact serves_ite (fun _ => serves_namedEscape.bind fun _ => serves_pure fun _ h => h)
    fun _ => serves_pure fun _ h => h.forget

/-- Digits are taken and what they say is worked out. -/
theorem serves_setEscape (c : Code) :
    Serves source (At source m [Code.backslash, c] n) (setEscape c) fun _ => At source m [] n := by
  unfold setEscape
  split
  · exact serves_pure fun _ h => h.forget
  split
  · exact serves_pure fun _ h => h.forget
  refine (serves_numberEscape? c).bind fun r => ?_
  split
  · exact serves_pure fun _ h => h
  refine serves_ite (fun _ => ?_) fun _ => ?_
  · refine (serves_takeWhile _ _).bind fun ds => (serves_octalEscape _).bind fun _ => ?_
    exact serves_pure fun _ h => h.2.2.forget
  · refine serves_ite (fun _ => (serves_failBack _ _).bind_false) fun _ => ?_
    exact (serves_codeEscape c).bind fun _ => serves_pure fun _ h => h

theorem serves_isClosed (group : Nat) : Serves source P (isClosed group) fun _ => P :=
  serves_get_bind fun _ h => serves_pure fun _ same => same ▸ h

theorem serves_checkLookbehind (group : Nat) :
    Serves source P (checkLookbehind group) fun _ => P := by
  refine serves_get_bind fun s h => ?_
  split
  · refine (serves_isClosed group).bind fun _ => ?_
    refine serves_ite (fun _ => (serves_fail _).bind_false) fun _ => ?_
    exact serves_ite (fun _ => serves_fail _) fun _ => serves_pure fun _ same => same ▸ h
  · exact serves_pure fun _ same => same ▸ h

theorem serves_groupEscape (ds : Text) :
    Serves source P (groupEscape ds) fun item s => item.levels = 0 ∧ P s := by
  refine serves_get_bind fun s h => ?_
  refine serves_ite (fun _ => (serves_failBack _ _).bind_false) fun _ => ?_
  refine (serves_isClosed _).bind fun _ => ?_
  refine serves_ite (fun _ => (serves_failBack _ _).bind_false) fun _ => ?_
  exact (serves_checkLookbehind _).bind fun _ => serves_pure fun _ same => ⟨rfl, same ▸ h⟩

theorem serves_digitEscape (c : Code) : Serves source (At source m l n) (digitEscape c)
    fun item s => item.levels = 0 ∧ At source m [] n s := by
  refine (serves_takeWhile _ _).bind fun ds => ?_
  cases ds with
  | nil => exact (serves_groupEscape _).imp fun _ _ h => ⟨h.1, h.2.2.2.forget⟩
  | cons d ds =>
    refine serves_ite (fun _ => ?_) fun _ =>
      (serves_groupEscape _).imp fun _ _ h => ⟨h.1, h.2.2.2.forget⟩
    refine ((serves_takeWhile _ _).from (fun _ h => h.2.2)).bind fun es => ?_
    cases es with
    | nil => exact (serves_groupEscape _).imp fun _ _ h => ⟨h.1, h.2.2.2.forget⟩
    | cons e es =>
      exact (serves_octalEscape _).bind fun _ => serves_pure fun _ h => ⟨rfl, h.2.2.forget⟩

theorem serves_escape (c : Code) : Serves source (At source m [Code.backslash, c] n) (escape c)
    fun item s => item.levels = 0 ∧ At source m [] n s := by
  unfold escape
  split
  · exact serves_pure fun _ h => ⟨rfl, h.forget⟩
  split
  · exact serves_pure fun _ h => ⟨rfl, h.forget⟩
  split
  · exact serves_pure fun _ h => ⟨rfl, h.forget⟩
  refine (serves_numberEscape? c).bind fun r => ?_
  split
  · exact serves_pure fun _ h => ⟨rfl, h⟩
  refine serves_ite (fun _ => ?_) fun _ => ?_
  · exact (serves_takeWhile _ _).bind fun ds => serves_pure fun _ h => ⟨rfl, h.2.2.forget⟩
  refine serves_ite (fun _ => serves_digitEscape c) fun _ => ?_
  exact (serves_codeEscape c).bind fun _ => serves_pure fun _ h => ⟨rfl, h⟩

end Escapes

section Sets

theorem serves_setPiece (p : Piece) :
    Serves source (At source m (l ++ p.text) n) (setPiece p) fun _ => At source m [] n := by
  cases p with
  | plain c => exact serves_pure fun _ h => h.forget
  | escaped c => exact (serves_setEscape c).from (fun _ h => h.behind)

theorem serves_setRange (first last : Piece) (low high : SetItem) :
    Serves source P (setRange first last low high) fun _ => P := by
  unfold setRange
  split
  · exact serves_ite (fun _ => (serves_failBack _ _).bind_false) fun _ => serves_pure fun _ h => h
  · exact serves_failBack _ _

theorem serves_setItems (start : Nat) (sofar : List SetItem) {fuel : Nat} (enough : n < fuel) :
    Serves source (At source m l n) (setItems start sofar fuel) fun _ => At source m [] n := by
  induction fuel generalizing l n sofar with
  | zero => omega
  | succ fuel ih =>
    rw [setItems]
    refine serves_take.bind fun r => ?_
    cases r with
    | none => exact serves_failAt _ _
    | some p =>
      refine serves_of_forall (fun _ h => h.1) fun positive => ?_
      refine serves_ite (fun _ => serves_pure fun _ h => h.2.forget.le (Nat.sub_le n 1)) fun _ => ?_
      refine ((serves_setPiece p).from (fun _ h => h.2)).bind fun item => ?_
      refine (serves_accept _).bind fun dash => ?_
      cases dash with
      | false =>
        exact (ih _ (n := n - 1) (by omega)).imp fun _ _ h => h.le (Nat.sub_le n 1)
      | true =>
        refine (serves_take.from (fun _ h => h.2.forget)).bind fun r => ?_
        cases r with
        | none => exact serves_failAt _ _
        | some q =>
          refine serves_ite (fun _ => serves_pure fun _ h => h.2.forget.le (by omega)) fun _ => ?_
          refine ((serves_setPiece q).from (fun _ h => h.2)).bind fun last => ?_
          refine (serves_setRange p q item last).bind fun range => ?_
          exact (ih _ (n := n - 1 - 1 - 1) (by omega)).imp
            fun _ _ h => h.le (by omega)

theorem serves_offset : Serves source P offset fun _ => P :=
  serves_get_bind fun _ h => serves_pure fun _ same => same ▸ h

theorem serves_charSet : Serves source (At source m l n) charSet
    fun item s => item.levels = 0 ∧ At source m [] n s := by
  have taken : Serves source (At source m l n) (accept Code.caret) fun _ => At source m [] n :=
    (serves_accept _).imp fun inverted s h => by
      cases inverted with
      | false => exact h.forget
      | true => exact h.2.forget.le (Nat.sub_le n 1)
  refine serves_offset.bind fun start => taken.bind fun inverted => ?_
  refine serves_get_bind_rest fun s less => ?_
  refine ((serves_setItems _ [] (Nat.lt_succ_self s.rest.length)).imp
    fun _ _ behind => behind.le less).bind fun items => ?_
  split <;> exact serves_pure fun _ h => ⟨rfl, h⟩

end Sets

section Counts

/-- A bound has too many rounds or digits, or it can be worked with. -/
theorem serves_bound {ds : Text} (known : BoundIn source ds) :
    Serves source P (bound ds) fun _ => P := by
  refine serves_ite (fun many => (serves_throw (.digits known many)).bind_false) fun _ => ?_
  exact serves_ite (fun large => (serves_throw (.rounds known large)).bind_false)
    fun _ => serves_pure fun _ h => h

/-- Bounds that are none leave the reader where it stood. -/
theorem serves_bounds : Serves source (At source m [Code.openBrace] n) bounds fun _ =>
    At source m [] n := by
  refine serves_get_bind fun start h => ?_
  refine ((serves_peek (l := [Code.openBrace]) (n := n)).mono (fun _ same => same ▸ h)
    fun _ _ h => h.1).bind fun next => ?_
  refine serves_ite (fun _ => serves_pure fun _ h => h.forget) fun _ => ?_
  refine (serves_takeWhile _ _).bind fun low => ?_
  refine serves_of_forall (p := BoundIn source low) (fun _ h => ⟨h.1, .inl h.2.2.inside⟩) ?_
  intro lower
  refine Serves.bind ((serves_accept Code.comma).from (fun _ h => h.2.2)) ?_
  intro comma
  refine serves_ite_bind (Q := fun high s => BoundIn source high ∧ At source m [] n s) ?_ ?_ ?_
  · rintro rfl
    refine (serves_takeWhile (l := [Code.comma]) (m := m) (n := n - 1) _ _).mono ?_ ?_
    · exact fun _ h => At.behind (f := Code.openBrace :: low) h.2
    · exact fun _ _ h => ⟨⟨h.1, .inr h.2.2.inside⟩, h.2.2.forget.le (Nat.sub_le n 1)⟩
  · intro none
    exact serves_pure fun _ h => ⟨lower, (if_neg none ▸ h).forget⟩
  intro high
  refine serves_of_forall (fun _ h => h.1) fun higher => ?_
  refine Serves.bind ((serves_accept Code.closeBrace).from (fun _ h => h.2)) ?_
  intro closed
  cases closed with
  | false =>
    exact (serves_set (Q := fun _ => At source m [] n) h.forget).bind fun _ =>
      serves_pure fun _ h => h
  | true =>
    refine serves_ite_bind (Q := fun _ => At source m [] n) ?_ ?_ fun least => ?_
    · exact fun _ => serves_pure fun _ h => h.2.forget.le (Nat.sub_le n 1)
    · exact fun _ => (serves_bound lower).from (fun _ h => h.2.forget.le (Nat.sub_le n 1))
    refine serves_ite (fun _ => serves_pure fun _ h => h) fun _ => ?_
    refine (serves_bound higher).bind fun most => ?_
    exact serves_ite (fun _ => (serves_failAt _ _).bind_false) fun _ => serves_pure fun _ h => h

theorem serves_count (mark : Code) (known : isRepeatMark mark = true) :
    Serves source (At source m [mark] n) (count mark) fun _ => At source m [] n := by
  unfold count
  refine serves_ite (fun _ => serves_pure fun _ h => h.forget) fun question => ?_
  refine serves_ite (fun _ => serves_pure fun _ h => h.forget) fun asterisk => ?_
  refine serves_ite (fun _ => serves_pure fun _ h => h.forget) fun plus => ?_
  have brace : mark = Code.openBrace := by
    simpa [isRepeatMark, question, asterisk, plus] using known
  exact brace ▸ serves_bounds

theorem serves_greed : Serves source (At source m l n) greed fun _ => At source m [] n := by
  refine (serves_accept _).bind fun lazy => ?_
  cases lazy with
  | true => exact serves_pure fun _ h => h.2.forget.le (Nat.sub_le n 1)
  | false =>
    refine (serves_accept _).bind fun possessive => ?_
    cases possessive with
    | true => exact serves_pure fun _ h => h.2.forget.le (Nat.sub_le n 1)
    | false => exact serves_pure fun _ h => h.forget

/-- What is repeated is no repetition, so that it may be one level deeper. -/
theorem serves_repeatLast {k : Nat} {sofar : List Node} (fits : ∀ x ∈ sofar, Fits k x)
    (start : Nat) (c : Count) (g : Greed) : Serves source P (repeatLast start c g sofar)
      fun items s => (∀ x ∈ items, Fits k x) ∧ P s := by
  unfold repeatLast
  split
  · exact serves_failAt _ _
  · exact serves_failAt _ _
  · exact serves_failAt _ _
  next last rest _ once =>
    obtain ⟨first, others⟩ := List.forall_mem_cons.1 fits
    refine serves_pure fun _ h => ⟨List.forall_mem_cons.2 ⟨?_, others⟩, h⟩
    cases last with
    | rep => exact absurd rfl (once _ _ _ _)
    | _ => exact Nat.succ_le_succ first

theorem serves_repetition {mark : Code} (known : isRepeatMark mark = true) {k : Nat}
    {sofar : List Node} (fits : ∀ x ∈ sofar, Fits k x) :
    Serves source (At source m [mark] n) (repetition mark sofar)
      fun items s => (∀ x ∈ items, Fits k x) ∧ At source m [] n s := by
  refine serves_offset.bind fun start => (serves_count mark known).bind fun c => ?_
  split
  · exact serves_pure fun _ h => ⟨List.forall_mem_cons.2 ⟨.of_leaf rfl, fits⟩, h⟩
  · refine (serves_repeatLast fits _ _ _).bind fun _ => ?_
    refine (serves_greed.from fun _ h => h.2).bind fun g => ?_
    exact serves_repeatLast fits _ _ _

end Counts

section Switches

/-- The letters between the head of a group and the character behind them say what is on. -/
theorem serves_flagsOn (letters : Text) (on : Flags) (c : Code) (spelt : Spells letters on)
    {fuel : Nat} (enough : n < fuel) :
    Serves source (At source m (Text.ofChars ['(', '?'] ++ letters ++ [c]) n) (flagsOn on c fuel)
      fun r s => At source m [] n s ∧ (r.2 = Code.closeParen → Switched source r.1) := by
  induction fuel generalizing n letters on c with
  | zero => omega
  | succ fuel ih =>
    rw [flagsOn]
    refine serves_ite (fun _ => (serves_fail _).bind_false) fun _ => ?_
    split
    case h_2 => exact serves_failBack _ _
    case h_1 flag letter =>
    have longer := spelt.snoc letter
    refine serves_ite (fun _ => (serves_fail _).bind_false) fun _ => ?_
    refine serves_take.bind fun r => ?_
    rcases r with _ | d | d
    · exact serves_fail _
    · refine serves_ite (fun _ => serves_pure fun s h => ⟨h.2.forget.le (Nat.sub_le n 1), ?_⟩) ?_
      · rintro rfl
        rw [List.append_assoc _ letters] at h
        exact longer.switched h.2.inside
      intro _
      refine serves_ite (fun _ => ?_) fun _ => serves_failBack _ _
      refine serves_of_forall (fun _ h => h.1) fun positive => ?_
      refine (ih (n := n - 1) (letters ++ [c]) _ d longer (by omega)).mono ?_ ?_
      · intro s h
        rw [List.append_assoc _ letters] at h
        exact h.2
      · exact fun _ _ h => ⟨h.1.le (Nat.sub_le n 1), h.2⟩
    · exact serves_failBack _ _

theorem serves_flagsOff (off : Flags) (c : Code) {fuel : Nat} (enough : n < fuel) :
    Serves source (At source m l n) (flagsOff off c fuel) fun _ => At source m [] n := by
  induction fuel generalizing l n off c with
  | zero => omega
  | succ fuel ih =>
    rw [flagsOff]
    refine serves_ite (fun _ => (serves_fail _).bind_false) fun _ => ?_
    split
    case h_2 => exact serves_failBack _ _
    case h_1 flag letter =>
    refine serves_ite (fun _ => (serves_fail _).bind_false) fun _ => ?_
    refine serves_take.bind fun r => ?_
    rcases r with _ | d | d
    · exact serves_fail _
    · refine serves_ite (fun _ => serves_pure fun s h => h.2.forget.le (Nat.sub_le n 1)) fun _ => ?_
      refine serves_ite (fun _ => ?_) fun _ => serves_failBack _ _
      refine serves_of_forall (fun _ h => h.1) fun positive => ?_
      exact (ih (n := n - 1) _ d (by omega)).mono (fun _ h => h.2) fun _ _ h => h.le (Nat.sub_le n 1)
    · exact serves_failBack _ _

/-- What is switched on for the whole pattern is so by its letters. -/
theorem serves_flagChange (c : Code) :
    Serves source (At source m (Text.ofChars ['(', '?'] ++ [c]) n) (flagChange c) fun change s =>
      At source m [] n s ∧ ∀ on, change = .everywhere on → Switched source on := by
  refine serves_get_bind_rest fun start less => ?_
  generalize start.rest.length = left at less
  refine Serves.imp (Q := fun change s => At source m [] left s ∧
    ∀ on, change = .everywhere on → Switched source on) ?_ fun _ _ h => ⟨h.1.le less, h.2⟩
  refine serves_ite_bind (Q := fun r s =>
    At source m [] left s ∧ (r.2 = Code.closeParen → Switched source r.1)) ?_ ?_ ?_
  · rintro rfl
    exact serves_pure fun _ h => ⟨h.forget, nofun⟩
  · exact fun _ => serves_flagsOn [] {} c .nil (Nat.lt_succ_self left)
  rintro ⟨on, last⟩
  refine serves_ite (fun ends => serves_pure fun s behind => ⟨behind.1, ?_⟩) fun _ => ?_
  · rintro _ ⟨⟩
    exact behind.2 ends
  refine serves_ite (fun _ => (serves_failBack _ _).bind_false) fun _ => ?_
  refine serves_ite (fun _ => serves_pure fun _ h => ⟨h.1, nofun⟩) fun _ => ?_
  refine Serves.bind (serves_take.from fun _ h => h.1) fun r => ?_
  rcases r with _ | d | d
  · exact serves_fail _
  · refine serves_ite (fun _ => (serves_failBack _ _).bind_false) fun _ => ?_
    refine serves_of_forall (fun _ h => h.1) fun positive => ?_
    have rounds : left - 1 < left + 1 := by omega
    refine Serves.bind ((serves_flagsOff {} d rounds).from fun _ h => h.2) fun off => ?_
    refine serves_ite (fun _ => (serves_failBack _ _).bind_false) fun _ => ?_
    refine serves_ite (fun _ => (serves_failBack _ _).bind_false) fun _ => ?_
    exact serves_pure fun _ h => ⟨h.le (Nat.sub_le left 1), nofun⟩
  · exact serves_failBack _ _

end Switches

section Heads

theorem serves_comment (start : Nat) {fuel : Nat} (enough : n < fuel) :
    Serves source (At source m l n) (comment start fuel) fun _ => At source m [] n := by
  induction fuel generalizing l n with
  | zero => omega
  | succ fuel ih =>
    rw [comment]
    refine serves_peek.bind fun r => ?_
    cases r with
    | none => exact serves_failAt _ _
    | some p =>
      refine serves_take_of_first.bind fun _ => ?_
      refine serves_of_forall (fun _ h => h.2.1) fun positive => ?_
      refine serves_ite (fun _ => serves_pure fun _ h => h.2.2.forget.le (Nat.sub_le n 1)) fun _ => ?_
      exact (ih (n := n - 1) (by omega)).mono (fun _ h => h.2.2) fun _ _ h => h.le (Nat.sub_le n 1)

theorem serves_lineComment {fuel : Nat} (enough : n < fuel) :
    Serves source (At source m l n) (lineComment fuel) fun _ => At source m [] n := by
  induction fuel generalizing l n with
  | zero => omega
  | succ fuel ih =>
    rw [lineComment]
    refine serves_take.bind fun r => ?_
    cases r with
    | none => exact serves_pure fun _ h => h.forget
    | some p =>
      refine serves_of_forall (fun _ h => h.1) fun positive => ?_
      refine serves_ite (fun _ => serves_pure fun _ h => h.2.forget.le (Nat.sub_le n 1)) fun _ => ?_
      exact (ih (n := n - 1) (by omega)).mono (fun _ h => h.2) fun _ _ h => h.le (Nat.sub_le n 1)

theorem serves_checkName (name : Text) : Serves source P (checkName name) fun _ => P :=
  serves_ite (fun _ => serves_failBack _ _) fun _ => serves_pure fun _ h => h

theorem serves_groupNamed (name : Text) : Serves source P (groupNamed name) fun _ => P := by
  refine serves_get_bind fun s h => ?_
  split
  · exact serves_pure fun _ same => same ▸ h
  · exact serves_failBack _ _

theorem serves_namedBackref : Serves source (At source m l n) namedBackref
    fun item s => item.levels = 0 ∧ At source m [] n s := by
  refine (serves_name _ _).bind fun name => (serves_checkName name).bind fun _ => ?_
  refine (serves_groupNamed name).bind fun group => (serves_isClosed group).bind fun _ => ?_
  refine serves_ite (fun _ => (serves_failBack _ _).bind_false) fun _ => ?_
  exact (serves_checkLookbehind group).bind fun _ => serves_pure fun _ h => ⟨rfl, h⟩

theorem serves_conditionGroup :
    Serves source (At source m l n) conditionGroup fun _ => At source m [] n := by
  refine (serves_name _ _).bind fun name => ?_
  have look (group : Nat) : Serves source (At source m [] n)
      (do checkLookbehind group; pure group) fun _ => At source m [] n :=
    (serves_checkLookbehind group).bind fun _ => serves_pure fun _ h => h
  refine serves_ite (fun _ => (serves_groupNamed name).bind look) fun _ => ?_
  split
  · exact (serves_failBack _ _).bind_false
  · refine serves_ite (fun _ => (serves_failBack _ _).bind_false) fun _ => ?_
    refine serves_get_bind fun s h => serves_ite (fun _ => ?_) fun _ => ?_
    · have asked (mentions : List (Nat × Nat)) : At source m [] n { s with asked := mentions } :=
        { h with }
      exact (serves_set (Q := fun _ => At source m [] n) (asked _)).bind fun _ => look _
    · exact (look _).from (fun _ same => same ▸ h)
  · exact (serves_failBack _ _).bind_false

theorem serves_openGroup (name : Option Text) :
    Serves source (At source m l n) (openGroup name) fun _ => At source m l n := by
  refine serves_get_bind fun s h => ?_
  have opened {names : List (Text × Nat)} (numbered : Numbered names (s.opened + 1)) :
      At source m l n { s with opened := s.opened + 1, names := names } :=
    { h with numbered := numbered }
  split
  · have unnamed := opened (h.numbered.mono (Nat.le_succ _))
    exact (serves_set (Q := fun _ => At source m l n) unnamed).bind fun _ =>
      serves_pure fun _ h => h
  · split
    · exact (serves_failBack _ _).bind_false
    · have named := fun name => opened (h.numbered.snoc name)
      exact (serves_set (Q := fun _ => At source m l n) (named _)).bind fun _ =>
        serves_pure fun _ h => h

theorem serves_widthNow (body : Node) : Serves source P (widthNow body) fun _ => P :=
  serves_get_bind fun _ h => serves_pure fun _ same => same ▸ h

theorem serves_closeGroup (number : Nat) (body : Node) :
    Serves source (At source m l n) (closeGroup number body) fun _ => At source m l n :=
  (serves_widthNow body).bind fun _ =>
    serves_modify fun _ h => { h with }

theorem serves_groupEnd (start : Nat) :
    Serves source (At source m l n) (groupEnd start) fun _ => At source m [] n := by
  refine (serves_accept _).bind fun closed => ?_
  cases closed with
  | false => exact serves_failAt _ _
  | true => exact serves_pure fun _ h => h.2.forget.le (Nat.sub_le n 1)

end Heads

end Reader

end EditorText.Pattern
