import EditorText.Pattern.Reading
import Mathlib.Data.List.Infix

/-!
# Limits that patterns meet

A reader of patterns fails for a fault of the pattern, or for a limit of the engine. A limit has its
cause in the text of the pattern: a count or an escaped code number that is too large, two switches
that exclude each other, or more groups than the platform has room for inside each other (`Limits`).
`Serves` says of a reader what holds behind it and that it fails for no other reason. What carries it
through the recursion is `At`: the reader stands behind some known characters, and no more than so
many are left, so that it never runs out of rounds, with no more than so many parentheses among them,
so that it runs out of calls only where the pattern has too many. It also says that names belong to
groups that have been opened (`Numbered`).
-/

set_option autoImplicit false

namespace EditorText.Pattern

/-- The pattern switches something on for the whole of it, by a letter. -/
def SwitchesOn (source : Text) (letter : Char) : Prop :=
  ∃ letters : Text, Text.ofChars ['(', '?'] ++ letters ++ [Code.closeParen] <:+: source ∧
    (∀ l ∈ letters, (Flags.ofLetter? l).isSome) ∧ letter.toNat ∈ letters

/-- The pattern switches on how these flags choose the character classes. -/
structure Switched (source : Text) (on : Flags) : Prop where
  ascii : on.ascii = true → SwitchesOn source 'a'
  unicode : on.unicode = true → SwitchesOn source 'u'

theorem Switched.union {source : Text} {a b : Flags} (ha : Switched source a)
    (hb : Switched source b) : Switched source (a.union b) where
  ascii on := (Bool.or_eq_true_iff.1 on).elim ha.ascii hb.ascii
  unicode on := (Bool.or_eq_true_iff.1 on).elim ha.unicode hb.unicode

/-- Digits stand in the pattern as a bound of a repetition: behind a brace or a comma. -/
structure BoundIn (source ds : Text) : Prop where
  digits : ∀ d ∈ ds, isAsciiDigit d = true
  inside : Code.openBrace :: ds <:+: source ∨ Code.comma :: ds <:+: source

/-- What in a pattern meets a limit. Each parenthesis may open a group, which takes up to three calls,
and there may be an alternative and a repetition around all of them. -/
inductive Limits [Platform] (source : Text) : Failure → Prop where
  | rounds {ds : Text} (bound : BoundIn source ds) (many : roundLimit ≤ Text.natOf 10 ds) :
      Limits source .tooManyRounds
  | digits {ds : Text} (bound : BoundIn source ds) (many : Text.digitLimit < ds.length) :
      Limits source (.tooManyDigits ds.length)
  | code {ds : Text} (digits : ∀ d ∈ ds, isHexDigit d = true) (eight : ds.length = 8)
      (inside : Code.backslash :: 'U'.toNat :: ds <:+: source)
      (large : 0x7FFFFFFF < Text.natOf 16 ds) : Limits source .codeTooLarge
  | classes (ascii : SwitchesOn source 'a') (unicode : SwitchesOn source 'u') :
      Limits source .clashingClasses
  | groups (many : Platform.calls < 3 * source.count Code.openParen + 2) : Limits source .tooDeep

/-- Names belong to groups that there are. -/
def Numbered (names : List (Text × Nat)) (groups : Nat) : Prop :=
  ∀ name n, (name, n) ∈ names → 0 < n ∧ n ≤ groups

theorem Numbered.mono {names : List (Text × Nat)} {groups more : Nat} (h : Numbered names groups)
    (le : groups ≤ more) : Numbered names more :=
  fun name n member => ⟨(h name n member).1, (h name n member).2.trans le⟩

/-- A name for the next group. -/
theorem Numbered.snoc {names : List (Text × Nat)} {groups : Nat} (h : Numbered names groups)
    (name : Text) : Numbered (names ++ [(name, groups + 1)]) (groups + 1) := by
  intro other n member
  rcases List.mem_append.1 member with before | last
  · exact h.mono (Nat.le_succ groups) other n before
  · obtain ⟨-, rfl⟩ := Prod.mk.inj (List.mem_singleton.1 last)
    exact ⟨Nat.succ_pos groups, Nat.le_refl _⟩

/-- A fault of the pattern, or a limit that the pattern meets. -/
def Excused [Platform] (source : Text) (e : Failure) : Prop :=
  (∃ fault, e = .malformed fault) ∨ Limits source e

namespace Reader

variable {α β : Type} {source : Text} {P : Reading → Prop} {Q : α → Reading → Prop}

/-- Where `P` holds the reader answers, with `Q` behind it, or fails for a fault of the pattern
or a limit that the pattern meets. -/
def Serves [Platform] (source : Text) (P : Reading → Prop) (m : Reader α) (Q : α → Reading → Prop) :
    Prop :=
  ∀ s, P s → match m s with
    | .ok (a, s') => Q a s'
    | .error e => Excused source e

section Logic

variable [Platform]

theorem Serves.mono {P' : Reading → Prop} {Q' : α → Reading → Prop} {m : Reader α}
    (h : Serves source P m Q) (before : ∀ s, P' s → P s)
    (behind : ∀ a s, Q a s → Q' a s) : Serves source P' m Q' := by
  intro s holds
  have served := h s (before s holds)
  cases run : m s with
  | ok made =>
    rw [run] at served
    exact behind _ _ served
  | error e =>
    rw [run] at served
    exact served

theorem Serves.from {P' : Reading → Prop} {m : Reader α} (h : Serves source P m Q)
    (before : ∀ s, P' s → P s) : Serves source P' m Q :=
  h.mono before fun _ _ holds => holds

theorem Serves.imp {Q' : α → Reading → Prop} {m : Reader α} (h : Serves source P m Q)
    (behind : ∀ a s, Q a s → Q' a s) : Serves source P m Q' :=
  h.mono (fun _ holds => holds) behind

theorem serves_pure {a : α} (h : ∀ s, P s → Q a s) : Serves source P (pure a) Q := h

theorem Serves.bind {m : Reader α} {f : α → Reader β} {Q' : β → Reading → Prop}
    (first : Serves source P m Q) (next : ∀ a, Serves source (Q a) (f a) Q') :
    Serves source P (m >>= f) Q' := by
  intro s holds
  have served := first s holds
  change match (m s).bind fun made => f made.1 made.2 with
    | .ok (b, s') => Q' b s'
    | .error e => Excused source e
  cases run : m s with
  | ok made =>
    rw [run] at served
    exact next made.1 made.2 served
  | error e =>
    rw [run] at served
    exact served

/-- What holds wherever the reader starts may be used to show what it does. -/
theorem serves_of_forall {p : Prop} {m : Reader α} (known : ∀ s, P s → p)
    (h : p → Serves source P m Q) : Serves source P m Q :=
  fun s holds => h (known s holds) s holds

/-- What is known of an answer may be used to show what follows from it. -/
theorem Serves.bind_and {m : Reader α} {f : α → Reader β} {R : α → Prop} {P' : Reading → Prop}
    {Q' : β → Reading → Prop} (first : Serves source P m fun a s => R a ∧ P' s)
    (next : ∀ a, R a → Serves source P' (f a) Q') : Serves source P (m >>= f) Q' :=
  first.bind fun a => serves_of_forall (fun _ h => h.1) fun known =>
    (next a known).from fun _ h => h.2

/-- What is read off the state is known of it. -/
theorem serves_get_bind {f : Reading → Reader β} {Q : β → Reading → Prop}
    (next : ∀ s, P s → Serves source (· = s) (f s) Q) :
    Serves source P (get >>= f) Q :=
  fun s holds => next s holds s rfl

theorem serves_set {s' : Reading} {Q : PUnit → Reading → Prop} (h : Q ⟨⟩ s') :
    Serves source P (set s') Q :=
  fun _ _ => h

theorem serves_modify {f : Reading → Reading} {Q : PUnit → Reading → Prop}
    (h : ∀ s, P s → Q ⟨⟩ (f s)) : Serves source P (modify f) Q := h

theorem serves_failAt (offset : Nat) (cause : Cause) :
    Serves source P (failAt offset cause : Reader α) Q :=
  fun _ _ => .inl ⟨⟨cause, some offset⟩, rfl⟩

theorem serves_fail (cause : Cause) : Serves source P (fail cause : Reader α) Q :=
  serves_get_bind fun s _ => serves_failAt s.offset cause

theorem serves_failBack (back : Nat) (cause : Cause) :
    Serves source P (failBack back cause : Reader α) Q :=
  serves_get_bind fun s _ => serves_failAt (s.offset - back) cause

theorem serves_throw {e : Failure} (h : Limits source e) :
    Serves source P (throw e : Reader α) Q :=
  fun _ _ => .inr h

/-- Nothing comes behind a reader that cannot answer. -/
theorem Serves.bind_false {m : Reader α} {f : α → Reader β} {Q : β → Reading → Prop}
    (h : Serves source P m fun _ _ => False) : Serves source P (m >>= f) Q :=
  h.bind fun _ _ never => never.elim

theorem serves_ite {p : Prop} [Decidable p] {m m' : Reader α}
    (yes : p → Serves source P m Q) (no : ¬ p → Serves source P m' Q) :
    Serves source P (if p then m else m') Q := by
  split
  · exact yes ‹p›
  · exact no ‹¬ p›

/-- What both branches lead to is shown once. -/
theorem serves_ite_bind {p : Prop} [Decidable p] {m m' : Reader α} {f : α → Reader β}
    {Q' : β → Reading → Prop} (yes : p → Serves source P m Q)
    (no : ¬ p → Serves source P m' Q) (next : ∀ a, Serves source (Q a) (f a) Q') :
    Serves source P (if p then m >>= f else m' >>= f) Q' :=
  serves_ite (fun h => (yes h).bind next) fun h => (no h).bind next

end Logic

/-- The reader stands behind some characters of the pattern. At most `n` are left, and at most `m`
parentheses among them. What is switched on is so by the pattern, and the names are names of groups
that have been opened. -/
structure At (source : Text) (m : Nat) (l : Text) (n : Nat) (s : Reading) : Prop where
  suffix : l ++ s.rest <:+ source
  bound : s.rest.length ≤ n
  parens : s.rest.count Code.openParen ≤ m
  switched : Switched source s.flags
  numbered : Numbered s.names s.opened

section Cursor

variable {l : Text} {m n : Nat}

section At

variable {s : Reading}

/-- The characters further back may be forgotten. -/
theorem At.behind {f : Text} (h : At source m (f ++ l) n s) : At source m l n s :=
  { h with suffix := (List.suffix_append f _).trans (List.append_assoc .. ▸ h.suffix) }

theorem At.forget (h : At source m l n s) : At source m [] n s :=
  At.behind (f := l) (by rwa [List.append_nil])

theorem At.le (h : At source m l n s) {n' : Nat} (more : n ≤ n') : At source m l n' s :=
  { h with bound := h.bound.trans more }

theorem At.more (h : At source m l n s) {m' : Nat} (more : m ≤ m') : At source m' l n s :=
  { h with parens := h.parens.trans more }

theorem At.exactly (h : At source m l n s) : At source m l s.rest.length s :=
  { h with bound := Nat.le_refl _ }

theorem At.inside (h : At source m l n s) : l <:+: source :=
  (List.prefix_append l s.rest).isInfix.trans h.suffix.isInfix

end At

theorem firstPiece?_eq_some {t : Text} {p : Piece} (h : firstPiece? t = some p) :
    t = p.text ++ t.drop p.length ∧ p.text.length = p.length := by
  unfold firstPiece? at h
  split at h <;> cases h <;> exact ⟨rfl, rfl⟩

variable [Platform]

/-- A reader may count what is left. -/
theorem serves_get_bind_rest {f : Reading → Reader α} (next : ∀ s : Reading, s.rest.length ≤ n →
    Serves source (At source m l s.rest.length) (f s) Q) :
    Serves source (At source m l n) (get >>= f) Q :=
  serves_get_bind fun s h => (next s h.bound).from fun s' same => by
    subst same
    exact h.exactly

theorem serves_checkEnd : Serves source P checkEnd fun _ => P :=
  serves_get_bind fun _ holds => serves_ite (fun _ => serves_failAt _ _) fun _ =>
    serves_pure fun _ same => same ▸ holds

/-- Where taking a piece, if there is one, leaves a reader. -/
def Behind (source : Text) (m : Nat) (l : Text) (n : Nat) : Option Piece → Reading → Prop
  | none, s => At source m l n s
  | some p, s => 0 < n ∧ At source m (l ++ p.text) (n - 1) s

/-- Taking a piece takes its parentheses too. -/
theorem serves_take_counted {r : Option Piece} :
    Serves source (fun s => At source m l n s ∧ firstPiece? s.rest = r) take fun r' s =>
      r' = r ∧ Behind source m l n r s ∧
        ∀ p, r = some p → p.text.count Code.openParen + s.rest.count Code.openParen ≤ m := by
  refine serves_get_bind ?_
  rintro s ⟨h, first⟩
  rw [first]
  cases r with
  | none => exact serves_pure fun _ same => same ▸ ⟨rfl, h, nofun⟩
  | some p =>
    obtain ⟨split, length⟩ := firstPiece?_eq_some first
    have count := congrArg List.length split
    rw [List.length_append, length] at count
    have parens := h.parens
    rw [split, List.count_append] at parens
    have positive : 0 < p.length := by cases p <;> simp [Piece.length]
    have bound := h.bound
    have after : At source m (l ++ p.text) (n - 1)
        { s with rest := s.rest.drop p.length, offset := s.offset + p.length } :=
      { h with
        suffix := by rw [List.append_assoc, ← split]; exact h.suffix
        bound := by dsimp only; omega
        parens := (Nat.le_add_left _ _).trans parens }
    refine (serves_set (Q := fun _ s => At source m (l ++ p.text) (n - 1) s ∧
      p.text.count Code.openParen + s.rest.count Code.openParen ≤ m) ⟨after, parens⟩).bind fun _ => ?_
    refine serves_checkEnd.bind fun _ => serves_pure fun s' h' => ⟨rfl, ⟨?_, h'.1⟩, ?_⟩
    · omega
    · rintro _ ⟨⟩
      exact h'.2

theorem serves_take_of_first {r : Option Piece} :
    Serves source (fun s => At source m l n s ∧ firstPiece? s.rest = r) take fun r' s =>
      r' = r ∧ Behind source m l n r s :=
  serves_take_counted.imp fun _ _ h => ⟨h.1, h.2.1⟩

theorem serves_take :
    Serves source (At source m l n) take (Behind source m l n) :=
  fun s h => (serves_take_of_first (r := firstPiece? s.rest)).mono (fun _ holds => holds)
    (fun _ _ behind => behind.1 ▸ behind.2) s ⟨h, rfl⟩

theorem serves_peek : Serves source (At source m l n) peek fun r s =>
    At source m l n s ∧ firstPiece? s.rest = r :=
  serves_get_bind fun s h => serves_pure fun s' same => by
    subst same
    exact ⟨h, rfl⟩

/-- A character that comes next is taken, another is left. -/
theorem serves_accept (c : Code) : Serves source (At source m l n) (accept c) fun taken s =>
    if taken then 0 < n ∧ At source m (l ++ [c]) (n - 1) s else At source m l n s := by
  refine serves_peek.bind fun r => ?_
  have left : Serves source (fun s => At source m l n s ∧ firstPiece? s.rest = r)
      (pure false : Reader Bool) fun taken s =>
        if taken then 0 < n ∧ At source m (l ++ [c]) (n - 1) s else At source m l n s :=
    serves_pure fun _ h => h.1
  rcases r with _ | d | d
  · exact left
  · refine serves_ite (fun same => ?_) fun _ => left
    subst same
    exact serves_take_of_first.bind fun _ => serves_pure fun _ h => h.2
  · exact left

/-- Characters of a class are taken as far as they go. -/
theorem serves_takeWhile (holds : Code → Bool) (most : Nat) :
    Serves source (At source m l n) (takeWhile holds most) fun ds s =>
      (∀ d ∈ ds, holds d = true) ∧ ds.length ≤ most ∧ At source m (l ++ ds) n s := by
  induction most generalizing l n with
  | zero => exact serves_pure fun _ h => ⟨by simp, Nat.le_refl _, by rwa [List.append_nil]⟩
  | succ most ih =>
    have none {r : Option Piece} : Serves source (fun s => At source m l n s ∧ firstPiece? s.rest = r)
        (pure [] : Reader Text) fun ds s =>
          (∀ d ∈ ds, holds d = true) ∧ ds.length ≤ most + 1 ∧ At source m (l ++ ds) n s :=
      serves_pure fun _ h => ⟨by simp, by simp, by rw [List.append_nil]; exact h.1⟩
    rw [takeWhile]
    refine serves_peek.bind fun r => ?_
    rcases r with _ | c | c
    · exact none
    · refine serves_ite (fun member => ?_) fun _ => none
      refine serves_take_of_first.bind fun _ => ?_
      refine ((ih (l := l ++ [c]) (n := n - 1)).from (fun _ h => h.2.2)).bind
        fun ds => serves_pure fun s h => ?_
      obtain ⟨others, short, at_⟩ := h
      refine ⟨List.forall_mem_cons.2 ⟨member, others⟩, by simpa using short, ?_⟩
      rw [List.append_assoc] at at_
      exact at_.le (Nat.sub_le n 1)
    · exact none

/-- Pieces up to a terminator are taken with rounds to spare. -/
theorem serves_takeUntil (terminator : Code) (what : String) (sofar : Text) {fuel : Nat}
    (enough : n < fuel) :
    Serves source (At source m l n) (takeUntil terminator what sofar fuel) fun _ =>
      At source m [] n := by
  induction fuel generalizing l n sofar with
  | zero => omega
  | succ fuel ih =>
    rw [takeUntil]
    refine serves_take.bind fun r => ?_
    cases r with
    | none => exact serves_ite (fun _ => serves_fail _) fun _ => serves_failBack _ _
    | some p =>
      refine serves_ite (fun _ => serves_ite (fun _ => serves_failBack _ _) fun _ =>
        serves_pure fun _ h => h.2.forget.le (Nat.sub_le n 1)) fun _ => ?_
      refine serves_of_forall (fun _ h => h.1) fun positive => ?_
      exact (ih (sofar ++ p.text) (n := n - 1) (by omega)).mono (fun _ h => h.2)
        fun _ _ h => h.le (Nat.sub_le n 1)

theorem serves_name (terminator : Code) (what : String) :
    Serves source (At source m l n) (name terminator what) fun _ => At source m [] n :=
  serves_get_bind_rest fun s less =>
    (serves_takeUntil terminator what [] (Nat.lt_succ_self s.rest.length)).imp
      fun _ _ behind => behind.le less

end Cursor

end Reader

end EditorText.Pattern
