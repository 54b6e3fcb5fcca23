import EditorText.Proofs.Pattern.Answers
import EditorText.Proofs.Replace.Quoting

/-!
# What a template stands for

`Expands` says what a template stands for, by one pass from the left with a rule for each kind of
token: what a token inserts goes to the output and is not looked at again. With digits of one script
every template stands for one text, and `expand` gives it (`expand_eq_iff`).
-/

set_option autoImplicit false

namespace EditorText.Replace

/-- The number that a digit from `0` to `9` denotes. -/
def oneDigit (d : Code) : Nat := d - 48

/-- The number that two of these digits denote. -/
def twoDigits (d e : Code) : Nat := 10 * (d - 48) + (e - 48)

/-- The pattern of a match has a group of this number. -/
def Found.Has (f : Found) (n : Nat) : Prop := 1 ≤ n ∧ n ≤ f.groupCount

/-- The text of a group that there is: the part of the text that it matched, or nothing if it took no
part. -/
inductive GroupText (f : Found) (n : Nat) : Text → Prop where
  | took {s : Span} : f.Has n → f.hit.groupSpan? n = some s → GroupText f n (f.text.slice s)
  | absent : f.Has n → f.hit.groupSpan? n = none → GroupText f n []

/-- The digit does not make a group number together with a digit behind it. -/
def NoPair (f : Found) (d : Code) (t : Text) : Prop :=
  ∀ e r, t = e :: r → isAsciiDigit e = true → ¬ f.Has (twoDigits d e)

/-- The digit, of any script, makes no group number together with a digit behind it. -/
def Unpaired (f : Found) (d : Code) (t : Text) : Prop :=
  ∀ e r, t = e :: r → isDigit e = true → ¬ f.Has (number [d, e])

/-- What stands behind a dollar sign makes no token with it. -/
def Tokenless (t : Text) : Prop :=
  ∀ c r, t = c :: r →
    c ∉ [Code.dollar, Code.ampersand, Code.backtick, Code.apostrophe] ∧
    isAsciiDigit c = false ∧ (c = Code.less → Code.greater ∉ r)

/-- What a template stands for against a match. -/
inductive Expands (f : Found) : Text → Text → Prop where
  | done : Expands f [] []
  | copied {c : Code} {t out : Text} : c ≠ Code.dollar → Expands f t out →
      Expands f (c :: t) (c :: out)
  | dollar {t out : Text} : Expands f t out →
      Expands f (Code.dollar :: Code.dollar :: t) (Code.dollar :: out)
  | whole {t out : Text} : Expands f t out →
      Expands f (Code.dollar :: Code.ampersand :: t) (f.text.slice f.hit.span ++ out)
  | before {t out : Text} : Expands f t out →
      Expands f (Code.dollar :: Code.backtick :: t) (f.text.take f.hit.span.start ++ out)
  | after {t out : Text} : Expands f t out →
      Expands f (Code.dollar :: Code.apostrophe :: t) (f.text.drop f.hit.span.stop ++ out)
  | pair {d e : Code} {t g out : Text} : isAsciiDigit d = true → isAsciiDigit e = true →
      GroupText f (twoDigits d e) g → Expands f t out →
      Expands f (Code.dollar :: d :: e :: t) (g ++ out)
  -- A second digit is the first character of what is left, and is copied.
  | single {d : Code} {t g out : Text} : isAsciiDigit d = true → NoPair f d t →
      GroupText f (oneDigit d) g → Expands f t out → Expands f (Code.dollar :: d :: t) (g ++ out)
  | noGroup {d : Code} {t out : Text} : isAsciiDigit d = true → NoPair f d t →
      ¬ f.Has (oneDigit d) → Expands f t out →
      Expands f (Code.dollar :: d :: t) (Code.dollar :: d :: out)
  | named {name t g out : Text} {n : Nat} : Code.greater ∉ name → f.names.lookup name = some n →
      GroupText f n g → Expands f t out →
      Expands f (Code.dollar :: Code.less :: (name ++ Code.greater :: t)) (g ++ out)
  | unknownName {name t out : Text} : Code.greater ∉ name → f.names ≠ [] →
      f.names.lookup name = none → Expands f t out →
      Expands f (Code.dollar :: Code.less :: (name ++ Code.greater :: t)) out
  | noNames {name t out : Text} : Code.greater ∉ name → f.names = [] → Expands f t out →
      Expands f (Code.dollar :: Code.less :: (name ++ Code.greater :: t))
        (Code.dollar :: Code.less :: (name ++ Code.greater :: out))
  | alone {t out : Text} : Tokenless t → Expands f t out →
      Expands f (Code.dollar :: t) (Code.dollar :: out)

/-- The digits in a text are those of one script. -/
def AsciiDigits (t : Text) : Prop := ∀ c ∈ t, isDigit c = true → isAsciiDigit c = true

section Groups

variable {f : Found} {n : Nat} {g : Text}

theorem hasGroup_iff : f.hasGroup n = true ↔ f.Has n := by
  simp [Found.hasGroup, Found.Has, Nat.succ_le_iff]

theorem groupText_group (has : f.Has n) : GroupText f n (f.group n) := by
  unfold Found.group Pattern.Match.group?
  cases span : f.hit.groupSpan? n with
  | none => exact .absent has span
  | some s => exact .took has span

theorem GroupText.has (h : GroupText f n g) : f.Has n := by
  cases h with
  | took has _ => exact has
  | absent has _ => exact has

theorem GroupText.eq (h : GroupText f n g) : f.group n = g := by
  unfold Found.group Pattern.Match.group?
  cases h with
  | took _ span => rw [span]; rfl
  | absent _ span => rw [span]; rfl

end Groups

section Digits

variable {d e : Code} {s t : Text}

theorem AsciiDigits.tail (h : AsciiDigits (d :: t)) : AsciiDigits t :=
  fun c member => h c (List.mem_cons_of_mem d member)

theorem AsciiDigits.behind (h : AsciiDigits (s ++ t)) : AsciiDigits t :=
  fun c member => h c (List.mem_append_right s member)

theorem digitValue?_of_ascii (digit : isAsciiDigit d = true) : digitValue? d = some (d - 48) := by
  have range : 48 ≤ d ∧ d ≤ 57 := by simpa [isAsciiDigit] using digit
  have small : d < 128 := range.2.trans_lt (by decide)
  rw [digitValue?, if_pos small, if_pos (by simpa using range)]

theorem isDigit_of_ascii (digit : isAsciiDigit d = true) : isDigit d = true := by
  rw [isDigit, digitValue?_of_ascii digit]
  rfl

theorem number_one (digit : isAsciiDigit d = true) : number [d] = oneDigit d := by
  simp [number, digitValue?_of_ascii digit, oneDigit]

theorem number_two (digit : isAsciiDigit d = true) (digit' : isAsciiDigit e = true) :
    number [d, e] = twoDigits d e := by
  simp [number, digitValue?_of_ascii digit, digitValue?_of_ascii digit', twoDigits, Nat.mul_comm]

/-- Where the digits are those of one script, it says the same of all digits. -/
theorem NoPair.unpaired {f : Found} (noPair : NoPair f d t) (digit : isAsciiDigit d = true)
    (ascii : AsciiDigits t) : Unpaired f d t := by
  rintro e r rfl digit'
  have second : isAsciiDigit e = true := ascii e (by simp) digit'
  rw [number_two digit second]
  exact noPair e r rfl second

/-- The signs that begin tokens, apart from digits. -/
def signs : List Code := [Code.dollar, Code.ampersand, Code.backtick, Code.apostrophe, Code.less]

theorem notMem_of_digit (digit : isDigit d = true) : d ∉ signs := by
  intro sign
  simp only [signs, List.mem_cons, List.not_mem_nil, or_false] at sign
  rcases sign with rfl | rfl | rfl | rfl | rfl <;> exact absurd digit (by decide)

end Digits

section Pieces

variable (f : Found) {t : Text} {d e : Code} {piece : Piece} {covered : Nat}

theorem piecesFrom_eq (skip : Nat) (t : Text) : piecesFrom skip t = pieces (t.drop skip) := by
  induction skip generalizing t with
  | zero => rfl
  | succ skip ih =>
    cases t with
    | nil => rfl
    | cons c t => exact ih t

/-- A token is expanded, and what it does not cover after it. -/
theorem expand_token (token : token? t = some (piece, covered)) :
    expand (Code.dollar :: t) f = piece.expand f ++ expand (t.drop covered) f := by
  have read : pieces (Code.dollar :: t) = piece :: piecesFrom covered t := by
    rw [pieces, piecesFrom, token]
  rw [expand, read, piecesFrom_eq, List.flatMap_cons]
  rfl

/-- A dollar sign that begins no token is copied. -/
theorem expand_alone (token : token? t = none) :
    expand (Code.dollar :: t) f = Code.dollar :: expand t f := by
  have read : pieces (Code.dollar :: t) = .code Code.dollar :: pieces t := by
    rw [pieces, piecesFrom, token]
    rfl
  rw [expand, read, List.flatMap_cons]
  rfl

end Pieces

section Tokens

variable {t r name : Text} {c d e : Code}

/-- What begins with none of the signs is read as one or two digits, or as no token. -/
theorem token?_cons (other : c ∉ signs) (t : Text) :
    token? (c :: t) =
      if isDigit c then
        if t.head?.any isDigit then some (.digits (c :: t.take 1), 2) else some (.digits [c], 1)
      else none := by
  simp only [signs, List.mem_cons, List.not_mem_nil, or_false, not_or] at other
  obtain ⟨dollar, ampersand, backtick, apostrophe, less⟩ := other
  cases t with
  | nil => rw [token?] <;> first | rfl | assumption
  | cons e r => rw [token?] <;> first | rfl | assumption

theorem token?_two (digit : isDigit d = true) (digit' : isDigit e = true) (r : Text) :
    token? (d :: e :: r) = some (.digits [d, e], 2) := by
  rw [token?_cons (notMem_of_digit digit), if_pos digit]
  exact if_pos digit'

theorem token?_one (digit : isDigit d = true) (single : ¬ t.head?.any isDigit) :
    token? (d :: t) = some (.digits [d], 1) := by
  rw [token?_cons (notMem_of_digit digit), if_pos digit, if_neg single]

theorem angled?_append (free : Code.greater ∉ name) (r : Text) :
    angled? (name ++ Code.greater :: r) = some (name, r) := by
  induction name with
  | nil => rfl
  | cons c name ih =>
    obtain ⟨other, behind⟩ := List.ne_and_not_mem_of_not_mem_cons free
    rw [List.cons_append, angled?, ih behind]
    · rfl
    · exact Ne.symm other

theorem angled?_eq_none (free : Code.greater ∉ t) : angled? t = none := by
  induction t with
  | nil => rfl
  | cons c t ih =>
    obtain ⟨other, behind⟩ := List.ne_and_not_mem_of_not_mem_cons free
    rw [angled?, ih behind]
    · rfl
    · exact Ne.symm other

theorem token?_angled (free : Code.greater ∉ name) (r : Text) :
    token? (Code.less :: (name ++ Code.greater :: r)) = some (.named name, name.length + 2) := by
  rw [token?, angled?_append free]
  rfl

theorem token?_eq_none (tokenless : Tokenless t)
    (ascii : AsciiDigits t) : token? t = none := by
  cases t with
  | nil => rfl
  | cons c r =>
    obtain ⟨noSign, noDigit, noName⟩ := tokenless c r rfl
    by_cases less : c = Code.less
    · subst less
      rw [token?, angled?_eq_none (noName rfl)]
      rfl
    · have other : c ∉ signs := by
        simp only [signs, List.mem_cons] at noSign ⊢
        tauto
      have none : ¬ isDigit c = true := by
        intro digit
        rw [ascii c (by simp) digit] at noDigit
        cases noDigit
      rw [token?_cons other, if_neg none]

end Tokens

section Rules

variable (f : Found) {t name : Text} {d e : Code}

theorem expand_ampersand (t : Text) :
    expand (Code.dollar :: Code.ampersand :: t) f = f.text.slice f.hit.span ++ expand t f := rfl

theorem expand_backtick (t : Text) :
    expand (Code.dollar :: Code.backtick :: t) f =
      f.text.take f.hit.span.start ++ expand t f := rfl

theorem expand_apostrophe (t : Text) :
    expand (Code.dollar :: Code.apostrophe :: t) f =
      f.text.drop f.hit.span.stop ++ expand t f := rfl

theorem expand_pair (digit : isDigit d = true) (digit' : isDigit e = true)
    (has : f.Has (number [d, e])) (t : Text) :
    expand (Code.dollar :: d :: e :: t) f = f.group (number [d, e]) ++ expand t f := by
  rw [expand_token f (token?_two digit digit' t), Piece.expand, if_pos (hasGroup_iff.2 has)]
  rfl

/-- Where two digits name no group, the first is a token of its own: a second one that the token
covers is copied with it. -/
theorem expand_digit (digit : isDigit d = true) (unpaired : Unpaired f d t) :
    expand (Code.dollar :: d :: t) f = Piece.expand f (.digits [d]) ++ expand t f := by
  by_cases second : t.head?.any isDigit
  · obtain ⟨e, r, rfl⟩ : ∃ e r, t = e :: r := by
      cases t with
      | nil => cases second
      | cons e r => exact ⟨e, r, rfl⟩
    have plain : e ≠ Code.dollar := by
      rintro rfl
      exact absurd (show isDigit Code.dollar = true from second) (by decide)
    have none : ¬ f.hasGroup (number [d, e]) = true := mt hasGroup_iff.1 (unpaired e r rfl second)
    have both : Piece.expand f (.digits [d, e]) = Piece.expand f (.digits [d]) ++ [e] := by
      show (if f.hasGroup (number [d, e]) then _ else if f.hasGroup (number [d]) then _ else _) =
        (if f.hasGroup (number [d]) then _ else _) ++ [e]
      rw [if_neg none]
      split <;> rfl
    rw [expand_token f (token?_two digit second r), both, expand_cons f plain, List.append_assoc]
    rfl
  · rw [expand_token f (token?_one digit second)]
    rfl

theorem expand_single (digit : isDigit d = true) (unpaired : Unpaired f d t)
    (has : f.Has (number [d])) :
    expand (Code.dollar :: d :: t) f = f.group (number [d]) ++ expand t f := by
  rw [expand_digit f digit unpaired, Piece.expand, if_pos (hasGroup_iff.2 has)]

theorem expand_noGroup (digit : isDigit d = true) (unpaired : Unpaired f d t)
    (none : ¬ f.Has (number [d])) :
    expand (Code.dollar :: d :: t) f = Code.dollar :: d :: expand t f := by
  have absent : ¬ f.hasGroup (number [d]) = true := mt hasGroup_iff.1 none
  rw [expand_digit f digit unpaired, Piece.expand, if_neg absent]
  rfl

theorem expand_named (free : Code.greater ∉ name) (t : Text) :
    expand (Code.dollar :: Code.less :: (name ++ Code.greater :: t)) f =
      Piece.expand f (.named name) ++ expand t f := by
  have rest : (Code.less :: (name ++ Code.greater :: t)).drop (name.length + 2) = t := by
    simp [List.drop_append]
  rw [expand_token f (token?_angled free t), rest]

theorem expand_name_of_some {n : Nat} (known : f.names.lookup name = some n) :
    Piece.expand f (.named name) = f.group n := by
  have some : ¬ f.names.isEmpty = true := by
    intro empty
    rw [List.isEmpty_iff.1 empty] at known
    cases known
  rw [Piece.expand, if_neg some, known]

theorem expand_name_of_none (some : f.names ≠ []) (unknown : f.names.lookup name = none) :
    Piece.expand f (.named name) = [] := by
  have filled : ¬ f.names.isEmpty = true := mt List.isEmpty_iff.1 some
  rw [Piece.expand, if_neg filled, unknown]

theorem expand_name_of_nil (none : f.names = []) :
    Piece.expand f (.named name) = Code.dollar :: Code.less :: name ++ [Code.greater] := by
  rw [Piece.expand, if_pos (List.isEmpty_iff.2 none)]

end Rules

section Scan

variable {f : Found} {template out : Text}

/-- A template gives what it stands for. -/
theorem Expands.eq (h : Expands f template out) (ascii : AsciiDigits template) :
    expand template f = out := by
  induction h with
  | done => rfl
  | copied plain _ ih => rw [expand_cons f plain, ih ascii.tail]
  | dollar _ ih => rw [expand_dollars, ih ascii.tail.tail]
  | whole _ ih => rw [expand_ampersand, ih ascii.tail.tail]
  | before _ ih => rw [expand_backtick, ih ascii.tail.tail]
  | after _ ih => rw [expand_apostrophe, ih ascii.tail.tail]
  | pair digit digit' group _ ih =>
    have value := number_two digit digit'
    rw [expand_pair f (isDigit_of_ascii digit) (isDigit_of_ascii digit') (value ▸ group.has), value,
      group.eq, ih ascii.tail.tail.tail]
  | single digit noPair group _ ih =>
    have value := number_one digit
    rw [expand_single f (isDigit_of_ascii digit) (noPair.unpaired digit ascii.tail.tail)
      (value ▸ group.has), value, group.eq, ih ascii.tail.tail]
  | noGroup digit noPair none _ ih =>
    have value := number_one digit
    rw [expand_noGroup f (isDigit_of_ascii digit) (noPair.unpaired digit ascii.tail.tail)
      (value ▸ none), ih ascii.tail.tail]
  | named free name group _ ih =>
    rw [expand_named f free, expand_name_of_some f name, group.eq, ih ascii.tail.tail.behind.tail]
  | unknownName free some none _ ih =>
    rw [expand_named f free, expand_name_of_none f some none, ih ascii.tail.tail.behind.tail]
    rfl
  | noNames free none _ ih =>
    rw [expand_named f free, expand_name_of_nil f none, ih ascii.tail.tail.behind.tail]
    simp
  | alone tokenless _ ih =>
    rw [expand_alone f (token?_eq_none tokenless ascii.tail), ih ascii.tail]

/-- A digit behind a dollar sign is read with a second one, alone, or as written. -/
theorem exists_rule_digit {d : Code} (digit : isAsciiDigit d = true) (t : Text) :
    ∃ r, r.length ≤ t.length ∧
      ∀ out, Expands f r out → ∃ new, Expands f (Code.dollar :: d :: t) new := by
  by_cases pair : ∃ e r, t = e :: r ∧ isAsciiDigit e = true ∧ f.Has (twoDigits d e)
  · obtain ⟨e, r, rfl, digit', has⟩ := pair
    refine ⟨r, by simp, fun out rest => ?_⟩
    exact ⟨_, .pair digit digit' (groupText_group has) rest⟩
  · have noPair : NoPair f d t := fun e r split digit' has => pair ⟨e, r, split, digit', has⟩
    refine ⟨t, Nat.le_refl _, fun out rest => ?_⟩
    by_cases has : f.Has (oneDigit d)
    · exact ⟨_, .single digit noPair (groupText_group has) rest⟩
    · exact ⟨_, .noGroup digit noPair has rest⟩

/-- A name behind a dollar sign belongs to a group or to none, or there are no names. -/
theorem exists_rule_name (numbered : Pattern.Numbered f.names f.groupCount) {name : Text}
    (free : Code.greater ∉ name) {t : Text} (rest : Expands f t out) :
    ∃ new, Expands f (Code.dollar :: Code.less :: (name ++ Code.greater :: t)) new := by
  cases known : f.names.lookup name with
  | some n =>
    obtain ⟨before, behind, names, -⟩ := List.lookup_eq_some_iff.1 known
    have has : f.Has n := numbered name n (by simp [names])
    exact ⟨_, .named free known (groupText_group has) rest⟩
  | none =>
    by_cases none : f.names = []
    · exact ⟨_, .noNames free none rest⟩
    · exact ⟨_, .unknownName free none known rest⟩

/-- There is a rule for every way a template begins, and it leaves less of it. -/
theorem exists_rule (numbered : Pattern.Numbered f.names f.groupCount) (c : Code) (t : Text) :
    ∃ r, r.length ≤ t.length ∧ ∀ out, Expands f r out → ∃ new, Expands f (c :: t) new := by
  by_cases plain : c = Code.dollar
  swap
  · exact ⟨t, Nat.le_refl _, fun out rest => ⟨_, .copied plain rest⟩⟩
  subst plain
  have alone (tokenless : Tokenless t) : ∃ r, r.length ≤ t.length ∧
      ∀ out, Expands f r out → ∃ new, Expands f (Code.dollar :: t) new :=
    ⟨t, Nat.le_refl _, fun out rest => ⟨_, .alone tokenless rest⟩⟩
  cases t with
  | nil => exact alone nofun
  | cons d t =>
    have sign (rule : ∀ out, Expands f t out → ∃ new, Expands f (Code.dollar :: d :: t) new) :
        ∃ r, r.length ≤ (d :: t).length ∧
          ∀ out, Expands f r out → ∃ new, Expands f (Code.dollar :: d :: t) new :=
      ⟨t, by simp, rule⟩
    by_cases dollar : d = Code.dollar
    · subst dollar
      exact sign fun out rest => ⟨_, .dollar rest⟩
    by_cases ampersand : d = Code.ampersand
    · subst ampersand
      exact sign fun out rest => ⟨_, .whole rest⟩
    by_cases backtick : d = Code.backtick
    · subst backtick
      exact sign fun out rest => ⟨_, .before rest⟩
    by_cases apostrophe : d = Code.apostrophe
    · subst apostrophe
      exact sign fun out rest => ⟨_, .after rest⟩
    by_cases digit : isAsciiDigit d = true
    · obtain ⟨r, shorter, rule⟩ := exists_rule_digit (f := f) digit t
      exact ⟨r, shorter.trans (by simp), rule⟩
    by_cases name : d = Code.less ∧ Code.greater ∈ t
    · obtain ⟨rfl, inside⟩ := name
      obtain ⟨name, r, rfl, free⟩ := List.eq_append_cons_of_mem inside
      exact ⟨r, by simp; omega, fun out rest => exists_rule_name numbered free rest⟩
    · apply alone
      intro c r split
      obtain ⟨rfl, rfl⟩ := List.cons.inj split
      refine ⟨by simp [dollar, ampersand, backtick, apostrophe], by simpa using digit, ?_⟩
      exact fun less inside => name ⟨less, inside⟩

/-- Every template stands for some text. -/
theorem exists_expands (numbered : Pattern.Numbered f.names f.groupCount) (template : Text) :
    ∃ out, Expands f template out := by
  induction size : template.length using Nat.strongRecOn generalizing template with
  | ind size' ih =>
    cases template with
    | nil => exact ⟨[], .done⟩
    | cons c t =>
      obtain ⟨r, shorter, rule⟩ := exists_rule numbered c t
      have less : r.length < size' := by
        rw [← size, List.length_cons]
        omega
      obtain ⟨out, rest⟩ := ih r.length less r rfl
      exact rule out rest

/-- **A template is expanded in one pass from the left.** For every pattern that can be read and every
match of it, whatever groups took part, a template with the digits of one script gives the text that
it stands for, and no other. Every group that it inserts is one that the pattern has. -/
theorem expand_eq_iff [Pattern.Platform] {tree : Pattern.Tree} {source : Text}
    {flags : Pattern.Flags} (read : Pattern.Tree.ofText source flags = .ok tree)
    (pattern text : Text) (m : Pattern.Match)
    (ascii : ∀ c ∈ template, isDigit c = true → isAsciiDigit c = true) :
    expand template (.ofMatch (.ofTree pattern tree) text m) = out ↔
      Expands (.ofMatch (.ofTree pattern tree) text m) template out := by
  have numbered : Pattern.Numbered tree.names tree.groups := Pattern.numbered_of_ofText read
  constructor
  · rintro rfl
    obtain ⟨out, h⟩ := exists_expands (f := .ofMatch (.ofTree pattern tree) text m) numbered template
    rwa [h.eq ascii]
  · intro h
    exact h.eq ascii

end Scan

/-- A pattern with a named group and one that need not take part. -/
def namedAndOptional : Text := Text.ofString "(?P<x>b)(c)?"

/-- A text that it matches in the middle. -/
def subject : Text := Text.ofString "a$bd"

/-- A template with tokens of every kind, and some that are none. -/
def everyToken : Text :=
  Text.ofString "$$1 $& $` $' $1 $2 $3 $0 $10 $01 $00 $<x> $<y> $<$1>$<x $"

/-- What it stands for. -/
def everyTokenOut : Text := Text.ofString "$1 b a$ d b  $3 $0 b0 b $00 b  $<x $"

theorem expand_eq_iff_everyToken :
    ∃ (tree : Pattern.Tree) (m : Pattern.Match),
      Pattern.Tree.ofText namedAndOptional {} = .ok tree ∧ tree.search subject 0 = some m ∧
      (∀ c ∈ everyToken, isDigit c = true → isAsciiDigit c = true) ∧
      Expands (.ofMatch (.ofTree namedAndOptional tree) subject m) everyToken everyTokenOut := by
  have ascii : ∀ c ∈ everyToken, isDigit c = true → isAsciiDigit c = true := by decide
  have answers : ((Pattern.Tree.ofText namedAndOptional {}).toOption.bind fun tree =>
      (tree.search subject 0).map fun m =>
        expand everyToken (.ofMatch (.ofTree namedAndOptional tree) subject m)) =
          some everyTokenOut := by
    decide +kernel
  cases read : Pattern.Tree.ofText namedAndOptional {} with
  | error e =>
    rw [read] at answers
    cases answers
  | ok tree =>
    rw [read] at answers
    obtain ⟨m, found, expanded⟩ := Option.map_eq_some_iff.1 answers
    refine ⟨tree, m, rfl, found, ascii, ?_⟩
    exact (expand_eq_iff read namedAndOptional subject m ascii).1 expanded

end EditorText.Replace
