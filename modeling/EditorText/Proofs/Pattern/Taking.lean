import EditorText.Proofs.Pattern.Classes
import EditorText.Proofs.Pattern.Limits
import EditorText.Proofs.Pattern.Literals

/-!
# What the reader of sets takes

`Takes` says of a reader what it has taken off the pattern where it answers. Behind an opening
bracket the reader of sets takes the rest of a class (`takes_charSet`), and as a class ends at one
place, it stands behind the class with which the pattern goes on (`rest_charSet`).
-/

set_option autoImplicit false

namespace EditorText.Pattern

variable {c : Code} {k s t u v : Text}

section Pieces

/-- Such a character goes on with a member, or is one. -/
def GoesOn (c : Code) : Prop := c ≠ Code.backslash ∧ c ≠ Code.closeBracket

instance (c : Code) : Decidable (GoesOn c) :=
  inferInstanceAs (Decidable (c ≠ Code.backslash ∧ c ≠ Code.closeBracket))

theorem GoesOn.of_hex {d : Code} (hex : isHexDigit d = true) : GoesOn d := by
  constructor
  all_goals
    rintro rfl
    exact absurd hex (by decide)

theorem GoesOn.of_name {d : Code} (named : isNamePart d = true) : GoesOn d := by
  constructor
  all_goals
    rintro rfl
    exact absurd named (by decide)

/-- Characters behind a member belong to it, or are members. -/
theorem Members.behind_text (h : Members t) (goesOn : ∀ d ∈ s, GoesOn d) : Members (s ++ t) := by
  induction s with
  | nil => exact h
  | cons d s ih =>
    obtain ⟨here, others⟩ := List.forall_mem_cons.1 goesOn
    exact .code here.1 here.2 (ih others)

theorem Members.ne_nil (h : Members t) : t ≠ [] := by
  cases h <;> simp

/-- A backslash that is read as a character stands at the end. -/
theorem ne_backslash_of_plain {r : Text} (first : firstPiece? (c :: (t ++ r)) = some (.plain c))
    (some : t ≠ []) : c ≠ Code.backslash := by
  rintro rfl
  obtain ⟨d, t, rfl⟩ := List.exists_cons_of_ne_nil some
  cases first

/-- A piece is a first member. -/
theorem Members.filled {p : Piece} {r : Text} (h : Members t)
    (first : firstPiece? (p.text ++ (t ++ r)) = some p) : Filled (p.text ++ t) := by
  cases p with
  | plain c => exact .code (ne_backslash_of_plain (t := t) first h.ne_nil) h
  | escaped c => exact .escape c h

/-- A piece, other than the bracket that ends the class, is a further member. -/
theorem Members.behind_piece {p : Piece} {r : Text} (h : Members t)
    (first : firstPiece? (p.text ++ (t ++ r)) = some p) (other : p ≠ .plain Code.closeBracket) :
    Members (p.text ++ t) := by
  cases p with
  | plain c =>
    have plain := ne_backslash_of_plain (t := t) first h.ne_nil
    exact .code plain (fun same => other (same ▸ rfl)) h
  | escaped c => exact .escape c h

theorem Filled.head?_append (h : Filled t) : (t ++ u).head? = t.head? := by
  cases h <;> rfl

/-- Two texts that begin alike end their members at one place. -/
theorem Members.unique (hs : Members s) (ht : Members t) (same : s ++ u = t ++ v) : s = t := by
  induction hs generalizing t with
  | done =>
    cases ht with
    | done => rfl
    | escape _ _ => exact absurd (List.cons.inj same).1 (by decide)
    | code _ other _ => exact absurd (List.cons.inj same).1.symm other
  | escape c _ ih =>
    cases ht with
    | done => exact absurd (List.cons.inj same).1 (by decide)
    | escape d ht =>
      obtain ⟨rfl, behind⟩ := List.cons.inj (List.cons.inj same).2
      rw [ih ht behind]
    | code plain _ _ => exact absurd (List.cons.inj same).1.symm plain
  | code plain other _ ih =>
    cases ht with
    | done => exact absurd (List.cons.inj same).1 other
    | escape _ _ => exact absurd (List.cons.inj same).1 plain
    | code _ _ ht =>
      obtain ⟨rfl, behind⟩ := List.cons.inj same
      rw [ih ht behind]

theorem Filled.unique (hs : Filled s) (ht : Filled t) (same : s ++ u = t ++ v) : s = t := by
  cases hs with
  | escape c hs =>
    cases ht with
    | escape d ht =>
      obtain ⟨rfl, behind⟩ := List.cons.inj (List.cons.inj same).2
      rw [hs.unique ht behind]
    | code plain _ => exact absurd (List.cons.inj same).1.symm plain
  | code plain hs =>
    cases ht with
    | escape _ _ => exact absurd (List.cons.inj same).1 plain
    | code _ ht =>
      obtain ⟨rfl, behind⟩ := List.cons.inj same
      rw [hs.unique ht behind]

/-- What begins with a caret is not what begins with another member. -/
theorem Filled.append_ne_caret (h : Filled t) (other : t.head? ≠ some Code.caret) :
    t ++ u ≠ Code.caret :: v := by
  intro same
  rw [← h.head?_append, same] at other
  exact other rfl

/-- A class ends at one place. -/
theorem IsClass.unique (hk : IsClass k) (hs : IsClass s) (same : k ++ u = s ++ v) : k = s := by
  cases hk with
  | plain other hk =>
    cases hs with
    | plain _ hs => rw [hk.unique hs (List.cons.inj same).2]
    | inverted _ => exact absurd (List.cons.inj same).2 (hk.append_ne_caret other)
  | inverted hk =>
    cases hs with
    | plain other hs => exact absurd (List.cons.inj same).2.symm (hs.append_ne_caret other)
    | inverted hs => rw [hk.unique hs (List.cons.inj (List.cons.inj same).2).2]

end Pieces

namespace Reader

variable {α β : Type} {P Q : α → Text → Text → Prop}

/-- Where a reader answers it has taken some text and left the rest, of which `P` holds. -/
def Takes (m : Reader α) (P : α → Text → Text → Prop) : Prop :=
  ∀ s a s', m s = .ok (a, s') → ∃ l, s.rest = l ++ s'.rest ∧ P a l s'.rest

section Taking

theorem Takes.imp {m : Reader α} (h : Takes m P) (weaker : ∀ a l r, P a l r → Q a l r) :
    Takes m Q := by
  intro s a s' run
  obtain ⟨l, split, holds⟩ := h s a s' run
  exact ⟨l, split, weaker a l s'.rest holds⟩

theorem takes_pure {a : α} (h : ∀ r, P a [] r) : Takes (pure a) P := by
  intro s b s' run
  obtain ⟨rfl, rfl⟩ := Prod.mk.inj (Except.ok.inj run)
  exact ⟨[], rfl, h s.rest⟩

/-- Where two readers in turn answer, both do. -/
theorem exists_runs_of_bind {m : Reader α} {f : α → Reader β} {s s' : Reading} {b : β}
    (run : (m >>= f) s = .ok (b, s')) :
    ∃ a middle, m s = .ok (a, middle) ∧ f a middle = .ok (b, s') := by
  rw [run_bind] at run
  cases made : m s with
  | error e =>
    rw [made] at run
    cases run
  | ok made' =>
    rw [made] at run
    exact ⟨made'.1, made'.2, rfl, run⟩

theorem Takes.bind {m : Reader α} {f : α → Reader β} {R : β → Text → Text → Prop}
    (first : Takes m P)
    (next : ∀ a, Takes (f a) fun b l' r => ∀ l, P a l (l' ++ r) → R b (l ++ l') r) :
    Takes (m >>= f) R := by
  intro s b s' run
  obtain ⟨a, middle, made, rest⟩ := exists_runs_of_bind run
  obtain ⟨l, split, before⟩ := first s a middle made
  obtain ⟨l', split', behind⟩ := next a middle b s' rest
  rw [split'] at split before
  exact ⟨l ++ l', by rw [split, List.append_assoc], behind l before⟩

/-- Nothing comes behind a reader that never answers. -/
theorem Takes.bind_false {m : Reader α} {f : α → Reader β} {R : β → Text → Text → Prop}
    (never : Takes m fun _ _ _ => False) : Takes (m >>= f) R := by
  intro s b s' run
  obtain ⟨a, middle, made, -⟩ := exists_runs_of_bind run
  obtain ⟨-, -, absurd⟩ := never s a middle made
  exact absurd.elim

/-- Looking at the state takes nothing. -/
theorem takes_get_bind {f : Reading → Reader α} (h : ∀ s, Takes (f s) P) :
    Takes (get >>= f) P :=
  fun s a s' run => h s s a s' run

theorem takes_failAt (offset : Nat) (cause : Cause) : Takes (failAt offset cause : Reader α) P :=
  fun _ _ _ run => nomatch run

theorem takes_fail (cause : Cause) : Takes (fail cause : Reader α) P :=
  takes_get_bind fun _ => takes_failAt _ _

theorem takes_failBack (back : Nat) (cause : Cause) : Takes (failBack back cause : Reader α) P :=
  takes_get_bind fun _ => takes_failAt _ _

theorem takes_ite {p : Prop} [Decidable p] {m m' : Reader α} (yes : p → Takes m P)
    (no : ¬ p → Takes m' P) : Takes (if p then m else m') P := by
  split
  · exact yes ‹p›
  · exact no ‹¬ p›

theorem firstPiece?_eq_none (none : firstPiece? t = .none) : t = [] := by
  unfold firstPiece? at none
  split at none
  · rfl
  · cases none
  · cases none

theorem head?_of_plain (first : firstPiece? t = some (.plain c)) : t.head? = some c := by
  obtain ⟨split, -⟩ := firstPiece?_eq_some first
  rw [split]
  rfl

theorem head?_of_escaped (first : firstPiece? t = some (.escaped c)) :
    t.head? = some Code.backslash := by
  obtain ⟨split, -⟩ := firstPiece?_eq_some first
  rw [split]
  rfl

/-- The next piece is taken, or there is none. -/
theorem takes_take : Takes take fun p l r =>
    firstPiece? (l ++ r) = p ∧ l = p.elim [] Piece.text := by
  intro s a s' run
  cases first : firstPiece? s.rest with
  | none =>
    have nothing : take s = .ok (none, s) := by
      simp only [take, run_bind, run_get, run_pure, Except.bind, first]
    rw [nothing] at run
    obtain ⟨rfl, rfl⟩ := Prod.mk.inj (Except.ok.inj run)
    exact ⟨[], rfl, first, rfl⟩
  | some p =>
    obtain ⟨split, -⟩ := firstPiece?_eq_some first
    simp only [take, checkEnd, run_bind, run_get, run_set, Except.bind, first] at run
    by_cases last : s.rest.drop p.length = [Code.backslash]
    · rw [if_pos last] at run
      cases run
    · rw [if_neg last] at run
      obtain ⟨rfl, rfl⟩ := Prod.mk.inj (Except.ok.inj run)
      exact ⟨p.text, split, by rw [← split, first], rfl⟩

theorem takes_peek : Takes peek fun p l r => l = [] ∧ firstPiece? r = p := by
  intro s a s' run
  obtain ⟨rfl, rfl⟩ := Prod.mk.inj (Except.ok.inj run)
  exact ⟨[], rfl, rfl, rfl⟩

/-- What is done at the next piece, by what it is. -/
theorem takes_peek_bind {f : Option Piece → Reader α}
    (next : ∀ p, Takes (f p) fun a l r => firstPiece? (l ++ r) = p → P a l r) :
    Takes (peek >>= f) P :=
  takes_peek.bind fun p => (next p).imp fun _ _ _ h _ ⟨nothing, first⟩ =>
    nothing ▸ h first

/-- A character of which it is known that it comes next is taken. -/
theorem takes_take_bind {f : Option Piece → Reader α} {Q : α → Text → Text → Prop}
    (next : ∀ p, Takes (f p) Q) (both : ∀ a l r, Q a l r → P a (c :: l) r) :
    Takes (take >>= f) fun a l r => firstPiece? (l ++ r) = some (.plain c) → P a l r := by
  refine takes_take.bind fun p => (next p).imp fun a l r h l' ⟨taken, text⟩ first => ?_
  rw [List.append_assoc, taken] at first
  rw [text, first]
  exact both a l r h

/-- A character that comes next is taken, another is left. -/
theorem takes_accept (plain : c ≠ Code.backslash) : Takes (accept c) fun taken l r =>
    if taken then l = [c] else l = [] ∧ r.head? ≠ some c := by
  refine takes_peek_bind fun p => ?_
  rcases p with _ | d | d
  · refine takes_pure fun r (first : firstPiece? r = none) => ⟨rfl, ?_⟩
    rw [firstPiece?_eq_none first]
    exact nofun
  · refine takes_ite (fun same => ?_) fun other => ?_
    · subst same
      exact takes_take_bind (Q := fun taken l _ => taken = true ∧ l = [])
        (fun _ => takes_pure fun _ => ⟨rfl, rfl⟩)
        fun _ _ _ ⟨taken, nothing⟩ => by simp [taken, nothing]
    · refine takes_pure fun r (first : firstPiece? r = some (.plain d)) => ⟨rfl, ?_⟩
      rw [head?_of_plain first]
      simpa using other
  · refine takes_pure fun r (first : firstPiece? r = some (.escaped d)) => ⟨rfl, ?_⟩
    rw [head?_of_escaped first]
    simpa using plain.symm

/-- Characters of a class are taken. -/
theorem takes_takeWhile (holds : Code → Bool) (most : Nat) :
    Takes (takeWhile holds most) fun ds l _ => l = ds ∧ ∀ d ∈ ds, holds d = true := by
  have nothing {p : Text → Text → Prop} : Takes (pure [] : Reader Text) fun ds l r =>
      p l r → l = ds ∧ ∀ d ∈ ds, holds d = true :=
    takes_pure fun _ _ => ⟨rfl, List.forall_mem_nil _⟩
  induction most with
  | zero => exact takes_pure fun _ => ⟨rfl, List.forall_mem_nil _⟩
  | succ most ih =>
    rw [takeWhile]
    refine takes_peek_bind fun p => ?_
    rcases p with _ | c | c
    · exact nothing
    · refine takes_ite (fun member => ?_) fun _ => nothing
      refine takes_take_bind (Q := fun ds l _ => ds = c :: l ∧ ∀ d ∈ l, holds d = true)
        (fun _ => ih.bind fun ds => takes_pure fun r l read => ?_) fun ds l r read => ?_
      · rw [List.append_nil, read.1]
        exact ⟨rfl, read.2⟩
      · rw [read.1]
        exact ⟨rfl, List.forall_mem_cons.2 ⟨member, read.2⟩⟩
    · exact nothing

end Taking

section Sets

/-- The reader takes characters alone that go on with a member, if anything. -/
def TakesText (m : Reader α) : Prop :=
  Takes m fun _ l _ => ∀ d ∈ l, GoesOn d

theorem takesText_pure (a : α) : TakesText (pure a) :=
  takes_pure fun _ => nofun

theorem takesText_throw (e : Failure) : TakesText (throw e : Reader α) :=
  fun _ _ _ run => nomatch run

theorem takesText_failBack (back : Nat) (cause : Cause) :
    TakesText (failBack back cause : Reader α) :=
  takes_failBack _ _

theorem TakesText.bind {m : Reader α} {f : α → Reader β} (first : TakesText m)
    (next : ∀ a, TakesText (f a)) : TakesText (m >>= f) :=
  Takes.bind first fun a => (next a).imp fun _ _ _ behind _ before =>
    List.forall_mem_append.2 ⟨before, behind⟩

theorem takesText_takeWhile {holds : Code → Bool}
    (goesOn : ∀ d, holds d = true → GoesOn d) (most : Nat) :
    TakesText (takeWhile holds most) :=
  (takes_takeWhile holds most).imp fun _ _ _ ⟨taken, digits⟩ d member =>
    goesOn d (digits d (taken ▸ member))

theorem isHexDigit_of_octal {d : Code} (octal : isOctalDigit d = true) : isHexDigit d = true := by
  simp only [isOctalDigit, Bool.and_eq_true, decide_eq_true_eq] at octal
  have decimal : (decide (48 ≤ d) && decide (d ≤ 57)) = true := by
    simpa using ⟨octal.1, octal.2.trans (by decide)⟩
  rw [isHexDigit, hexValue?, if_pos decimal]
  rfl

/-- A check takes nothing. -/
theorem TakesText.check {p : Prop} [Decidable p] {m : Reader β} {next : Reader α}
    (fails : TakesText m) (h : TakesText next) :
    TakesText (if p then m >>= fun _ => next else next) :=
  takes_ite (fun _ => fails.bind fun _ => h) fun _ => h

theorem takesText_hexEscape (letter : Code) (n : Nat) : TakesText (hexEscape letter n) := by
  refine (takesText_takeWhile (fun _ => .of_hex) n).bind fun ds => ?_
  refine (takesText_failBack _ _).check ?_
  exact (takesText_throw _).check ((takesText_failBack _ _).check (takesText_pure _))

theorem takesText_octalEscape (ds : Text) : TakesText (octalEscape ds) :=
  (takesText_failBack _ _).check (takesText_pure _)

theorem takesText_codeEscape (c : Code) : TakesText (codeEscape c) :=
  (takesText_failBack _ _).check (takesText_pure _)

/-- The text up to a terminator is taken with it. -/
theorem takes_takeUntil (terminator : Code) (what : String) (sofar : Text) (fuel : Nat) :
    Takes (takeUntil terminator what sofar fuel) fun whole l _ =>
      sofar ++ l = whole ++ [terminator] := by
  induction fuel generalizing sofar with
  | zero => exact fun _ _ _ run => nomatch run
  | succ fuel ih =>
    rw [takeUntil]
    refine takes_take.bind fun p => ?_
    cases p with
    | none => exact takes_ite (fun _ => takes_fail _) fun _ => takes_failBack _ _
    | some p =>
      refine takes_ite (fun ends => ?_) fun _ => (ih _).imp fun whole l r read l' taken => ?_
      · refine takes_ite (fun _ => takes_failBack _ _) fun _ => takes_pure fun r l taken => ?_
        rw [taken.2, ends, List.append_nil]
        rfl
      · rw [taken.2, ← read, List.append_assoc]
        rfl

theorem takesText_setRange (first last : Piece) (low high : SetItem) :
    TakesText (setRange first last low high) := by
  unfold setRange
  split
  · exact (takesText_failBack _ _).check (takesText_pure _)
  · exact takesText_failBack _ _

variable [Platform]

/-- The name of a character is taken with the braces around it. -/
theorem takesText_namedEscape : TakesText namedEscape := by
  refine (takes_accept (by decide)).bind fun opened => ?_
  cases opened with
  | false => exact Takes.bind_false (takes_fail _)
  | true =>
  refine Takes.imp (P := fun _ l _ => ∀ d ∈ l, GoesOn d) ?_ fun _ l _ goesOn brace taken => ?_
  · have whole : Takes (name Code.closeBrace "character name") fun n l _ =>
        l = n ++ [Code.closeBrace] :=
      takes_get_bind fun s => takes_takeUntil _ _ [] _
    refine whole.bind fun n => takes_ite (fun _ => Takes.bind_false (takes_failBack _ _)) fun _ => ?_
    split
    next known =>
      refine takes_pure fun r l taken => ?_
      rw [List.append_nil, taken]
      refine List.forall_mem_append.2 ⟨fun d member => ?_, by decide⟩
      exact .of_name (Platform.isNamePart_of_named? known d member)
    · exact takes_failBack _ _
  · rw [show brace = [Code.openBrace] from taken]
    exact List.forall_mem_cons.2 ⟨by decide, goesOn⟩

theorem takesText_numberEscape? (c : Code) : TakesText (numberEscape? c) := by
  have hex (digits : Nat) : TakesText (do return some (← hexEscape c digits)) :=
    (takesText_hexEscape c digits).bind fun _ => takesText_pure _
  refine takes_ite (fun _ => hex 2) fun _ => takes_ite (fun _ => hex 4) fun _ => ?_
  refine takes_ite (fun _ => hex 8) fun _ => takes_ite (fun _ => ?_) fun _ => takesText_pure _
  exact takesText_namedEscape.bind fun _ => takesText_pure _

/-- An escape in a set goes on with such characters alone. -/
theorem takesText_setEscape (c : Code) : TakesText (setEscape c) := by
  unfold setEscape
  split
  · exact takesText_pure _
  split
  · exact takesText_pure _
  refine (takesText_numberEscape? c).bind fun r => ?_
  split
  · exact takesText_pure _
  refine takes_ite (fun _ => ?_) fun _ => ?_
  · refine (takesText_takeWhile (fun _ octal => .of_hex (isHexDigit_of_octal octal)) 2).bind fun ds => ?_
    exact (takesText_octalEscape _).bind fun _ => takesText_pure _
  · refine (takesText_failBack _ _).check ?_
    exact (takesText_codeEscape c).bind fun _ => takesText_pure _

theorem takesText_setPiece (p : Piece) : TakesText (setPiece p) := by
  cases p with
  | plain c => exact takesText_pure _
  | escaped c => exact takesText_setEscape c

/-- Behind a dash the set ends, or a range does and further members follow. -/
theorem takes_behindDash {further : SetItem → Reader (List SetItem)}
    (members : ∀ range, Takes (further range) fun _ l _ => Members l) (start : Nat)
    (sofar : List SetItem) (p : Piece) (item : SetItem) :
    Takes (do
      match ← take with
      | none => failAt start .unterminatedSet
      | some q =>
        if q = .plain Code.closeBracket then
          return sofar ++ [item, .code Code.dash]
        let last ← setPiece q
        let range ← setRange p q item last
        further range) fun _ l _ => Members l := by
  refine takes_take.bind fun q => ?_
  cases q with
  | none => exact takes_failAt _ _
  | some q =>
    refine takes_ite (fun last => takes_pure fun r l ⟨_, text⟩ => ?_) fun inside => ?_
    · rw [text, last]
      exact .done
    refine Takes.imp (P := fun _ l _ => Members l) ?_ fun _ l r members l' ⟨first, text⟩ => ?_
    · refine Takes.bind (takesText_setPiece q) fun last => ?_
      refine Takes.bind (takesText_setRange p q item last) fun range => ?_
      exact (members range).imp fun _ l _ members l' goesOn l'' goesOn' =>
        (members.behind_text goesOn).behind_text goesOn'
    · rw [text] at first ⊢
      exact members.behind_piece first inside

/-- The members of a set are taken with the bracket that ends it. -/
theorem takes_setItems (start : Nat) (sofar : List SetItem) (fuel : Nat) :
    Takes (setItems start sofar fuel) fun _ l _ =>
      (sofar = [] → Filled l) ∧ (sofar ≠ [] → Members l) := by
  induction fuel generalizing sofar with
  | zero => exact fun _ _ _ run => nomatch run
  | succ fuel ih =>
    have further (item : SetItem) : Takes (setItems start (sofar ++ [item]) fuel) fun _ l _ =>
        Members l :=
      (ih _).imp fun _ _ _ h => h.2 (by simp)
    rw [setItems]
    refine takes_take.bind fun p => ?_
    cases p with
    | none => exact takes_failAt _ _
    | some p =>
      refine takes_ite (fun last => takes_pure fun r l ⟨_, text⟩ => ?_) fun inside => ?_
      · obtain ⟨rfl, filled⟩ := last
        rw [text]
        exact ⟨fun none => absurd none filled, fun _ => .done⟩
      refine Takes.imp (P := fun _ l _ => Members l) ?_ fun _ l r members l' ⟨first, text⟩ => ?_
      · -- Behind the piece: what belongs to it, and a further member or a dash.
        refine Takes.bind (takesText_setPiece p) fun item => ?_
        refine Takes.imp (P := fun _ l _ => Members l) ?_ fun _ l _ members l' goesOn =>
          members.behind_text goesOn
        refine (takes_accept (by decide)).bind fun dash => ?_
        cases dash with
        | false => exact (further item).imp fun _ l _ members l' ⟨nothing, _⟩ => by rwa [nothing]
        | true =>
          refine (takes_behindDash further start sofar p item).imp fun _ l _ members l' taken => ?_
          rw [show l' = [Code.dash] from taken]
          exact .code (by decide) (by decide) members
      · rw [text] at first ⊢
        refine ⟨fun _ => members.filled first, fun filled => members.behind_piece first ?_⟩
        exact fun last => inside ⟨last, filled⟩

/-- **The reader of sets takes a class**, of which the opening bracket has been read. -/
theorem takes_charSet : Takes charSet fun _ l _ => IsClass (Code.openBracket :: l) := by
  refine Takes.bind (P := fun _ l _ => l = []) (takes_get_bind fun s => takes_pure fun _ => rfl)
    fun start => ?_
  refine Takes.imp (P := fun _ l _ => IsClass (Code.openBracket :: l)) ?_
    fun _ l _ cls l' nothing => by rwa [nothing]
  refine (takes_accept (by decide)).bind fun inverted => takes_get_bind fun s => ?_
  refine (takes_setItems _ [] _).bind fun items => ?_
  refine Takes.imp (P := fun _ l _ => l = []) ?_ fun _ l r nothing l' ⟨filled, _⟩ l'' caret => ?_
  · split
    · exact takes_pure fun _ => rfl
    · exact takes_pure fun _ => rfl
  · rw [nothing, List.append_nil] at caret ⊢
    have members := filled rfl
    cases inverted with
    | false =>
      obtain ⟨rfl, other⟩ := caret
      rw [members.head?_append] at other
      exact .plain other members
    | true =>
      rw [show l'' = [Code.caret] from caret]
      exact .inverted members

/-- **The reader of sets stands behind the class** with which the pattern went on, if it answers. -/
theorem rest_charSet {s s' : Reading} {node : Node} (read : charSet s = .ok (node, s')) :
    (∃ k, IsClass k ∧ Code.openBracket :: s.rest = k ++ s'.rest) ∧
    ∀ k r, IsClass k → Code.openBracket :: s.rest = k ++ r → s'.rest = r := by
  obtain ⟨l, split, cls⟩ := takes_charSet s node s' read
  refine ⟨⟨_, cls, by rw [split, List.cons_append]⟩, fun k r other here => ?_⟩
  rw [split, ← List.cons_append] at here
  obtain rfl := cls.unique other here
  exact List.append_cancel_left here

end Sets

end Reader

end EditorText.Pattern
