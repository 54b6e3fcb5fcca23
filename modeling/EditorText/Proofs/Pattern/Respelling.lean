import EditorText.Pattern.Dialect
import Mathlib.Data.List.TakeWhile

/-!
# What the dialect changes in a pattern

`Respelt` says what becomes of a pattern, from the left: a token of the dialect is respelt
(`Token`), a backslash takes the character behind it along, and everything else is copied. Every
pattern has one respelling, which `convert` gives and which holds no token (`convert_respells`).
A token stands in a pattern where whole escapes stand before it (`Holds`), and the pattern is copied
exactly where none does (`convert_eq_self_iff`).
-/

set_option autoImplicit false

namespace EditorText.Pattern

/-- The name of a group: word characters, at least one. -/
structure IsName (name : Text) : Prop where
  some : name ≠ []
  word : ∀ c ∈ name, isWordPart c = true

/-- The tokens of the dialect, each with its respelling: the head of a named group and a reference
to one. -/
inductive Token : Text → Text → Prop where
  | group {name : Text} : IsName name →
      Token (Text.ofChars ['(', '?', '<'] ++ name ++ [Code.greater])
        (Text.ofChars ['(', '?', 'P', '<'] ++ name ++ [Code.greater])
  | reference {name : Text} : IsName name →
      Token (Text.ofChars ['\\', 'k', '<'] ++ name ++ [Code.greater])
        (Text.ofChars ['(', '?', 'P', '='] ++ name ++ [Code.closeParen])

/-- No token stands at the front of a text. -/
def NoToken (t : Text) : Prop := ∀ s n, Token s n → ¬ s <+: t

/-- What becomes of a pattern, read from the left. -/
inductive Respelt : Text → Text → Prop where
  | done : Respelt [] []
  | token {s n t out : Text} : Token s n → Respelt t out → Respelt (s ++ t) (n ++ out)
  | escape {c : Code} {t out : Text} : NoToken (Code.backslash :: c :: t) → Respelt t out →
      Respelt (Code.backslash :: c :: t) (Code.backslash :: c :: out)
  -- A backslash stands by itself only at the end.
  | code {c : Code} {t out : Text} : NoToken (c :: t) → (c = Code.backslash → t = []) →
      Respelt t out → Respelt (c :: t) (c :: out)

/-- From left to right a backslash goes with the character behind it, and none is left over. -/
inductive WholeEscapes : Text → Prop where
  | nil : WholeEscapes []
  | escape (c : Code) {t : Text} : WholeEscapes t → WholeEscapes (Code.backslash :: c :: t)
  | code {c : Code} {t : Text} : c ≠ Code.backslash → WholeEscapes t → WholeEscapes (c :: t)

/-- A token stands in a text and is not escaped. -/
def Holds (t : Text) : Prop :=
  ∃ u s n v, WholeEscapes u ∧ Token s n ∧ t = u ++ s ++ v

/-- A character that a token may have behind its first one. -/
def IsInner (c : Code) : Prop :=
  c = Code.question ∨ c = Code.less ∨ c = Code.greater ∨ isWordPart c = true

variable {c : Code} {name s n t u v out : Text}

section Tokens

theorem not_isInner_openParen : ¬ IsInner Code.openParen := by
  unfold IsInner
  decide

theorem not_isInner_backslash : ¬ IsInner Code.backslash := by
  unfold IsInner
  decide

theorem IsName.inner (h : IsName name) : ∀ c ∈ name, IsInner c :=
  fun c member => .inr (.inr (.inr (h.word c member)))

/-- A token begins with a parenthesis or a backslash, and neither stands further inside. -/
theorem Token.shape (token : Token s n) :
    ∃ c d r, s = c :: d :: r ∧ (c = Code.openParen ∨ c = Code.backslash) ∧
      ∀ e ∈ d :: r, IsInner e := by
  have inner {name : Text} (h : IsName name) (front : Text) (known : ∀ d ∈ front, IsInner d) :
      ∀ d ∈ front ++ name ++ [Code.greater], IsInner d := by
    intro d member
    rcases List.mem_append.1 member with member | last
    · rcases List.mem_append.1 member with front | name
      · exact known d front
      · exact h.inner d name
    · exact .inr (.inr (.inl (List.mem_singleton.1 last)))
  cases token with
  | group h =>
    refine ⟨_, _, _, rfl, .inl rfl, inner h (Text.ofChars ['?', '<']) ?_⟩
    unfold IsInner
    decide
  | reference h =>
    refine ⟨_, _, _, rfl, .inr rfl, inner h (Text.ofChars ['k', '<']) ?_⟩
    unfold IsInner
    decide

/-- A token becomes one character longer. -/
theorem Token.length_eq (token : Token s n) : n.length = s.length + 1 := by
  cases token <;> simp [Text.ofChars]

/-- What a token becomes begins with a parenthesis, behind which no token stands. -/
theorem Token.respelling (token : Token s n) :
    ∃ r, n = Code.openParen :: Code.question :: 'P'.toNat :: r ∧
      ∀ d ∈ r, d ≠ Code.openParen ∧ d ≠ Code.backslash := by
  have plain {name : Text} (h : IsName name) {first last : Code}
      (ends : ∀ d ∈ [first, last], d ≠ Code.openParen ∧ d ≠ Code.backslash) :
      ∀ d ∈ first :: name ++ [last], d ≠ Code.openParen ∧ d ≠ Code.backslash := by
    intro d member
    rcases List.mem_append.1 member with member | last
    · rcases List.mem_cons.1 member with first | member
      · exact ends d (by simp [first])
      · have inner := h.inner d member
        exact ⟨fun same => not_isInner_openParen (same ▸ inner),
          fun same => not_isInner_backslash (same ▸ inner)⟩
    · exact ends d (List.mem_cons_of_mem _ last)
  cases token with
  | @group name h => exact ⟨Code.less :: name ++ [Code.greater], rfl, plain h (by decide)⟩
  | @reference name h => exact ⟨Code.equals :: name ++ [Code.closeParen], rfl, plain h (by decide)⟩

theorem noToken_cons (paren : c ≠ Code.openParen) (backslash : c ≠ Code.backslash) :
    NoToken (c :: t) := by
  rintro s n token ⟨r, whole⟩
  obtain ⟨d, e, r', rfl, first, -⟩ := token.shape
  obtain ⟨rfl, -⟩ := List.cons.inj whole
  exact first.elim paren backslash

end Tokens

section Reading

theorem angledName?_append (h : IsName name) (r : Text) :
    angledName? (name ++ Code.greater :: r) = some (name, r) := by
  have stop : isWordPart Code.greater = false := by decide
  have front : (name ++ Code.greater :: r).takeWhile isWordPart = name := by
    rw [List.takeWhile_append_of_pos h.word, List.takeWhile_cons_of_neg (by simp [stop]),
      List.append_nil]
  have back : (name ++ Code.greater :: r).dropWhile isWordPart = Code.greater :: r := by
    rw [List.dropWhile_append_of_pos h.word, List.dropWhile_cons_of_neg (by simp [stop])]
  simp only [angledName?, front, back]
  cases name with
  | nil => exact absurd rfl h.some
  | cons c name => rfl

theorem of_angledName? {r : Text} (h : angledName? t = some (name, r)) :
    IsName name ∧ t = name ++ Code.greater :: r := by
  unfold angledName? at h
  dsimp only at h
  split at h
  · next c cs rest front back =>
    obtain ⟨rfl, rfl⟩ := Prod.mk.inj (Option.some.inj h)
    refine ⟨⟨by simp [front], fun c member => List.mem_takeWhile_imp member⟩, ?_⟩
    rw [← back, List.takeWhile_append_dropWhile]
  · cases h

theorem convertFrom_eq (skip : Nat) (t : Text) : convertFrom skip t = convert (t.drop skip) := by
  induction skip generalizing t with
  | zero => rfl
  | succ skip ih =>
    cases t with
    | nil => rfl
    | cons c t => exact ih t

/-- A token is respelt, and what is behind it after it. -/
theorem convert_token (token : Token s n) (t : Text) : convert (s ++ t) = n ++ convert t := by
  cases token with
  | @group name h =>
    have whole : Text.ofChars ['(', '?', '<'] ++ name ++ [Code.greater] ++ t =
        Code.openParen :: Code.question :: Code.less :: (name ++ Code.greater :: t) := by
      simp [Text.ofChars]
    have begins : Text.after? (Text.ofChars ['(', '?', '<'])
        (Code.openParen :: Code.question :: Code.less :: (name ++ Code.greater :: t)) =
          some (name ++ Code.greater :: t) := Text.after?_eq_some_iff.2 rfl
    have covered : (Code.question :: Code.less :: (name ++ Code.greater :: t)).drop
        (name.length + 3) = t := by simp
    rw [whole, convert, convertFrom, begins]
    · simp only [angledName?_append h t, convertFrom_eq, covered]
      simp
    · exact fun _ _ same => absurd same (by decide)
  | @reference name h =>
    have whole : Text.ofChars ['\\', 'k', '<'] ++ name ++ [Code.greater] ++ t =
        Code.backslash :: 'k'.toNat :: Code.less :: (name ++ Code.greater :: t) := by
      simp [Text.ofChars]
    have covered : ('k'.toNat :: Code.less :: (name ++ Code.greater :: t)).drop
        (name.length + 3) = t := by simp
    rw [whole, convert, convertFrom, if_pos rfl]
    simp only [angledName?_append h t, convertFrom_eq, covered]
    simp

/-- A backslash that begins no token takes the character behind it along. -/
theorem convert_escape (none : NoToken (Code.backslash :: c :: t)) :
    convert (Code.backslash :: c :: t) = Code.backslash :: c :: convert t := by
  have copied : Code.backslash :: c :: convertFrom 1 (c :: t) =
      Code.backslash :: c :: convert t := rfl
  by_cases angle : ∃ r, t = Code.less :: r
  · obtain ⟨r, rfl⟩ := angle
    rw [convert, convertFrom]
    split
    · next letter =>
      split
      · next name r' found =>
        obtain ⟨h, rfl⟩ := of_angledName? found
        refine absurd ?_ (none _ _ (.reference h))
        exact ⟨r', by simp [Text.ofChars, letter]⟩
      · exact copied
    · exact copied
  · rw [convert, convertFrom, ite_self]
    · exact copied
    · exact fun r split => angle ⟨r, split⟩

/-- A character that begins no token and no escape is copied. -/
theorem convert_code (none : NoToken (c :: t)) (alone : c = Code.backslash → t = []) :
    convert (c :: t) = c :: convert t := by
  rw [convert, convertFrom]
  · split
    · next r begins =>
      split
      · next name r' found =>
        obtain ⟨h, rfl⟩ := of_angledName? found
        refine absurd ?_ (none _ _ (.group h))
        exact ⟨r', by rw [Text.after?_eq_some_iff.1 begins]; simp⟩
      · rfl
    · rfl
  · intro d r same split
    exact absurd split (by simp [alone same])

/-- What becomes of a pattern is what `convert` gives. -/
theorem Respelt.eq (h : Respelt t out) : convert t = out := by
  induction h with
  | done => rfl
  | token token _ ih => rw [convert_token token, ih]
  | escape none _ ih => rw [convert_escape none, ih]
  | code none alone _ ih => rw [convert_code none alone, ih]

/-- Every pattern becomes something. -/
theorem respelt_convert (t : Text) : Respelt t (convert t) := by
  induction size : t.length using Nat.strongRecOn generalizing t with
  | ind size' ih =>
    have shorter {r : Text} (less : r.length < t.length) : Respelt r (convert r) :=
      ih r.length (size ▸ less) r rfl
    by_cases begins : ∃ s n, Token s n ∧ s <+: t
    · obtain ⟨s, n, token, r, rfl⟩ := begins
      obtain ⟨c, d, s, rfl, -, -⟩ := token.shape
      rw [convert_token token]
      exact .token token (shorter (by simp only [List.length_append, List.length_cons]; omega))
    have none : NoToken t := fun s n token front => begins ⟨s, n, token, front⟩
    cases t with
    | nil => exact .done
    | cons c t =>
      by_cases plain : c ≠ Code.backslash
      · have alone : c = Code.backslash → t = [] := fun same => absurd same plain
        rw [convert_code none alone]
        exact .code none alone (shorter (by simp))
      obtain rfl := Decidable.not_not.1 plain
      cases t with
      | nil => exact .code none (fun _ => rfl) .done
      | cons d t =>
        rw [convert_escape none]
        exact .escape none (shorter (Nat.lt_succ_of_lt (Nat.lt_succ_self _)))

end Reading

section Again

/-- Where one text begins with characters that stand inside tokens, the other begins so too. -/
def Fronts (t out : Text) : Prop := ∀ s, (∀ c ∈ s, IsInner c) → s <+: out → s <+: t

theorem Fronts.cons (h : Fronts t out) (c : Code) : Fronts (c :: t) (c :: out) := by
  intro s inner front
  cases s with
  | nil => exact List.nil_prefix
  | cons d s =>
    obtain ⟨rfl, rest⟩ := List.cons_prefix_cons.1 front
    exact List.cons_prefix_cons.2 ⟨rfl, h s (fun c member => inner c (by simp [member])) rest⟩

theorem Fronts.noToken (h : Fronts t out) (none : NoToken (c :: t)) : NoToken (c :: out) := by
  intro s n token front
  obtain ⟨d, e, r, rfl, -, inner⟩ := token.shape
  obtain ⟨rfl, rest⟩ := List.cons_prefix_cons.1 front
  exact none _ _ token (List.cons_prefix_cons.2 ⟨rfl, h _ inner rest⟩)

/-- What is respelt or escaped begins with no character that stands inside a token. -/
theorem Respelt.fronts (h : Respelt t out) : Fronts t out := by
  intro s inner front
  induction s generalizing t out with
  | nil => exact List.nil_prefix
  | cons c s ih =>
    have here : IsInner c := inner c (by simp)
    cases h with
    | done => exact front
    | token token _ =>
      obtain ⟨r, rfl, -⟩ := token.respelling
      exact absurd ((List.cons_prefix_cons.1 front).1 ▸ here) not_isInner_openParen
    | escape _ _ => exact absurd ((List.cons_prefix_cons.1 front).1 ▸ here) not_isInner_backslash
    | code _ _ further =>
      obtain ⟨rfl, rest⟩ := List.cons_prefix_cons.1 front
      exact List.cons_prefix_cons.2
        ⟨rfl, ih further (fun d member => inner d (by simp [member])) rest⟩

/-- Characters with which neither a token nor an escape begins are copied. -/
theorem Respelt.behind (h : Respelt t out)
    (plain : ∀ c ∈ s, c ≠ Code.openParen ∧ c ≠ Code.backslash) : Respelt (s ++ t) (s ++ out) := by
  induction s with
  | nil => exact h
  | cons c s ih =>
    obtain ⟨⟨paren, backslash⟩, others⟩ := List.forall_mem_cons.1 plain
    exact .code (noToken_cons paren backslash) (fun same => absurd same backslash) (ih others)

/-- A text without parentheses and backslashes is copied. -/
theorem convert_eq_self (plain : ∀ c ∈ t, c ≠ Code.openParen ∧ c ≠ Code.backslash) :
    convert t = t := by
  have copied := Respelt.done.behind plain
  rw [List.append_nil] at copied
  exact copied.eq

/-- Behind a parenthesis and a question mark a letter makes no token. -/
theorem noToken_letter (t : Text) :
    NoToken (Code.openParen :: Code.question :: 'P'.toNat :: t) := by
  rintro s n token ⟨r, whole⟩
  cases token with
  | group _ =>
    have third := (List.cons.inj (List.cons.inj (List.cons.inj whole).2).2).1
    exact absurd third (by decide)
  | reference _ => exact absurd (List.cons.inj whole).1 (by decide)

/-- What a pattern has become stays as it is. -/
theorem Respelt.again (h : Respelt t out) : Respelt out out := by
  induction h with
  | done => exact .done
  | token token _ ih =>
    obtain ⟨r, rfl, plain⟩ := token.respelling
    have further := ih.behind plain
    exact .code (noToken_letter _) (fun same => absurd same (by decide))
      (further.behind (s := [Code.question, 'P'.toNat]) (by decide))
  | escape none h ih => exact .escape ((h.fronts.cons _).noToken none) ih
  | @code c t out none alone h ih =>
    have last : c = Code.backslash → out = [] := by
      intro same
      rw [← h.eq, alone same]
      rfl
    exact .code (h.fronts.noToken none) last ih

end Again

section Parts

theorem WholeEscapes.behind_code (h : WholeEscapes (c :: t)) (plain : c ≠ Code.backslash) :
    WholeEscapes t := by
  cases h with
  | escape _ _ => exact absurd rfl plain
  | code _ h => exact h

theorem WholeEscapes.behind_escape (h : WholeEscapes (Code.backslash :: c :: t)) :
    WholeEscapes t := by
  cases h with
  | escape _ h => exact h
  | code plain _ => exact absurd rfl plain

theorem WholeEscapes.behind_inner (h : WholeEscapes (s ++ t)) (inner : ∀ d ∈ s, IsInner d) :
    WholeEscapes t := by
  induction s with
  | nil => exact h
  | cons d s ih =>
    obtain ⟨here, others⟩ := List.forall_mem_cons.1 inner
    exact ih (h.behind_code fun same => not_isInner_backslash (same ▸ here)) others

/-- No escape reaches over the end of a token. -/
theorem Token.wholeEscapes_behind (token : Token s n) (h : WholeEscapes (s ++ t)) :
    WholeEscapes t := by
  obtain ⟨c, d, r, rfl, first, inner⟩ := token.shape
  rcases first with rfl | rfl
  · exact (h.behind_code (by decide)).behind_inner inner
  · exact WholeEscapes.behind_inner h.behind_escape fun e member => inner e (by simp [member])

/-- A token does not reach over a place behind which no character from inside a token stands. -/
theorem NoToken.append (none : NoToken t) (some : t ≠ [])
    (outer : ∀ c ∈ v.head?, ¬ IsInner c) : NoToken (t ++ v) := by
  rintro s n token ⟨r, whole⟩
  rcases List.append_eq_append_iff.1 whole with ⟨x, rfl, -⟩ | ⟨x, rfl, back⟩
  · exact none s n token ⟨x, rfl⟩
  · cases x with
    | nil => exact none _ n token (by simp)
    | cons c x =>
      obtain ⟨d, e, r', split, -, inner⟩ := token.shape
      obtain ⟨f, t, rfl⟩ := List.exists_cons_of_ne_nil some
      obtain ⟨-, inside⟩ := List.cons.inj split
      have member : c ∈ e :: r' := by
        rw [← inside]
        simp
      exact outer c (by simp [back]) (inner c member)

/-- What becomes of two parts of a pattern. -/
theorem Respelt.append {out' : Text} (h : Respelt u out) (whole : WholeEscapes u)
    (h' : Respelt v out') (outer : ∀ c ∈ v.head?, ¬ IsInner c) :
    Respelt (u ++ v) (out ++ out') := by
  induction h with
  | done => exact h'
  | token token _ ih =>
    rw [List.append_assoc, List.append_assoc]
    exact .token token (ih (token.wholeEscapes_behind whole))
  | escape none _ ih => exact .escape (none.append (by simp) outer) (ih whole.behind_escape)
  | @code c t out none alone _ ih =>
    have plain : c ≠ Code.backslash := by
      rintro rfl
      rw [alone rfl] at whole
      cases whole with
      | code plain _ => exact plain rfl
    exact .code (none.append (by simp) outer) (fun same => absurd same plain)
      (ih (whole.behind_code plain))

/-- The parts of a pattern are respelt by themselves where neither an escape nor a token reaches
from one into the other. -/
theorem convert_append (whole : WholeEscapes u) (outer : ∀ c ∈ v.head?, ¬ IsInner c) :
    convert (u ++ v) = convert u ++ convert v :=
  ((respelt_convert u).append whole (respelt_convert v) outer).eq

/-- A token that is not escaped is respelt. -/
theorem convert_token_inside (whole : WholeEscapes u) (token : Token s n) (v : Text) :
    convert (u ++ s ++ v) = convert u ++ n ++ convert v := by
  have outer : ∀ c ∈ (s ++ v).head?, ¬ IsInner c := by
    obtain ⟨c, d, r, rfl, first, -⟩ := token.shape
    rintro e same
    obtain rfl : c = e := Option.some.inj same
    rcases first with rfl | rfl
    · exact not_isInner_openParen
    · exact not_isInner_backslash
  rw [List.append_assoc, convert_append whole outer, convert_token token, List.append_assoc]

end Parts

section Holds

theorem Respelt.length_le (h : Respelt t out) : t.length ≤ out.length := by
  induction h with
  | done => exact Nat.le_refl _
  | token token _ ih =>
    rw [List.length_append, List.length_append, token.length_eq]
    omega
  | escape _ _ ih => simpa using ih
  | code _ _ _ ih => simpa using ih

theorem Holds.behind_escape (h : Holds t) : Holds (Code.backslash :: c :: t) := by
  obtain ⟨u, s, n, v, whole, token, rfl⟩ := h
  exact ⟨Code.backslash :: c :: u, s, n, v, .escape c whole, token, rfl⟩

theorem Holds.behind_code (h : Holds t) (plain : c ≠ Code.backslash) : Holds (c :: t) := by
  obtain ⟨u, s, n, v, whole, token, rfl⟩ := h
  exact ⟨c :: u, s, n, v, .code plain whole, token, rfl⟩

theorem not_holds_nil : ¬ Holds [] := by
  rintro ⟨u, s, n, v, -, token, split⟩
  obtain ⟨c, d, r, rfl, -, -⟩ := token.shape
  simp at split

/-- A pattern without tokens is copied. -/
theorem Respelt.eq_of_not_holds (h : Respelt t out) (none : ¬ Holds t) : out = t := by
  induction h with
  | done => rfl
  | @token s n t _ token _ _ => exact absurd ⟨[], s, n, t, .nil, token, rfl⟩ none
  | escape _ _ ih => rw [ih (mt Holds.behind_escape none)]
  | @code c t _ _ alone _ ih =>
    by_cases plain : c ≠ Code.backslash
    · rw [ih (mt (·.behind_code plain) none)]
    · rw [alone (Decidable.not_not.1 plain)] at ih ⊢
      rw [ih not_holds_nil]

/-- **A pattern is copied exactly where no token stands in it that is not escaped.** -/
theorem convert_eq_self_iff : convert t = t ↔ ¬ Holds t := by
  constructor
  · rintro same ⟨u, s, n, v, whole, token, rfl⟩
    have sizes := congrArg List.length same
    have front := (respelt_convert u).length_le
    have back := (respelt_convert v).length_le
    rw [convert_token_inside whole token v] at sizes
    simp only [List.length_append, token.length_eq] at sizes
    omega
  · exact fun none => (respelt_convert t).eq_of_not_holds none

end Holds

/-- **The dialect changes the tokens of a pattern and nothing else.** From the left each token that
is not escaped is respelt and every other character copied, and this is all that `convert` gives.
What it gives holds no token, so that a second run changes nothing. -/
theorem convert_respells (p : Text) :
    (∀ out, convert p = out ↔ Respelt p out) ∧
    (∀ u s n v, p = u ++ s ++ v → WholeEscapes u → Token s n →
      convert p = convert u ++ n ++ convert v) ∧
    convert (convert p) = convert p := by
  refine ⟨fun out => ⟨?_, Respelt.eq⟩, ?_, (respelt_convert p).again.eq⟩
  · rintro rfl
    exact respelt_convert p
  · rintro u s n v rfl whole token
    exact convert_token_inside whole token v

/-- Escaped backslashes before a reference, heads without an end, tokens inside of others and a
backslash at the end. -/
def tangled : Text := Text.ofString "\\\\\\k<a>(?<b(?<c>(?\\k<d>\\"

theorem convert_respells_tangled :
    ∃ u s n v, tangled = u ++ s ++ v ∧ WholeEscapes u ∧ Token s n ∧
      convert tangled = convert u ++ n ++ convert v ∧
      Respelt tangled (Text.ofString "\\\\(?P=a)(?<b(?P<c>(?(?P=d)\\") ∧
      convert (convert tangled) = convert tangled := by
  have whole : WholeEscapes [Code.backslash, Code.backslash] := .escape _ .nil
  have name : IsName ['a'.toNat] := ⟨by decide, by decide⟩
  obtain ⟨only, inside, again⟩ := convert_respells tangled
  exact ⟨_, _, _, Text.ofString "(?<b(?<c>(?\\k<d>\\", rfl, whole, .reference name,
    inside _ _ _ _ rfl whole (.reference name), (only _).1 (by decide), again⟩

end EditorText.Pattern
