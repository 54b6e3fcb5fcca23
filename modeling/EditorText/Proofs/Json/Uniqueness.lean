import EditorText.Proofs.Json.Grammar
import EditorText.Proofs.Yaml.Places

/-!
# JSON texts have one meaning

No text denotes two values (`Denotes.unique`). The text of a value is told from what follows it:
a number ends where no character of a number follows, and every other value ends with a character
of its own. `Sharp` says this of the texts of a relation up to a length, so that the texts of lists
and members follow from the texts of their parts, and all of `Writes` by induction on the length.
-/

set_option autoImplicit false

namespace EditorText.Json

open Yaml (StopsAt takeWhile_append_of_stopsAt dropWhile_append_of_stopsAt)

/-- The longest run of a class at the start of a text is told from what follows it. -/
theorem run_inj {holds : Code → Bool} {s s' t t' : Text} (members : ∀ c ∈ s, holds c = true)
    (members' : ∀ c ∈ s', holds c = true) (stops : StopsAt holds t) (stops' : StopsAt holds t')
    (same : s ++ t = s' ++ t') : s = s' ∧ t = t' := by
  constructor
  · rw [← takeWhile_append_of_stopsAt members stops, same,
      takeWhile_append_of_stopsAt members' stops']
  · rw [← dropWhile_append_of_stopsAt members stops, same,
      dropWhile_append_of_stopsAt members' stops']

section Strings

variable {s s' r r' : Text}

/-- No letter behind a backslash is for two characters, and none announces a number. -/
theorem escapeLetters_functional :
    (∀ p ∈ escapeLetters, ∀ q ∈ escapeLetters, p.1 = q.1 → p.2 = q.2) ∧
      ∀ p ∈ escapeLetters, p.1 ≠ 117 := by
  decide

theorem Encodes.first {u : Code × Bool} (h : Encodes s u) : ∃ c t, s = c :: t ∧ c ≠ Code.quote := by
  cases h with
  | plain _ other _ => exact ⟨_, _, rfl, other⟩
  | letter _ => exact ⟨_, _, rfl, by decide⟩
  | number _ _ => exact ⟨_, _, rfl, by decide⟩

theorem Encodes.unique {u u' : Code × Bool} (h : Encodes s u) (h' : Encodes s' u')
    (same : s ++ r = s' ++ r') : s = s' ∧ r = r' ∧ u = u' := by
  obtain ⟨functional, unannounced⟩ := escapeLetters_functional
  cases h with
  | plain _ _ free =>
    cases h' with
    | plain _ _ _ =>
      obtain ⟨rfl, rest⟩ := List.cons.inj same
      exact ⟨rfl, rest, rfl⟩
    | letter _ => exact absurd (List.cons.inj same).1 free
    | number _ _ => exact absurd (List.cons.inj same).1 free
  | letter listed =>
    cases h' with
    | plain _ _ free => exact absurd (List.cons.inj same).1.symm free
    | letter listed' =>
      obtain ⟨rfl, rest⟩ := List.cons.inj (List.cons.inj same).2
      obtain rfl := functional _ listed _ listed' rfl
      exact ⟨rfl, rest, rfl⟩
    | number _ _ => exact absurd (List.cons.inj (List.cons.inj same).2).1 (unannounced _ listed)
  | number four _ =>
    cases h' with
    | plain _ _ free => exact absurd (List.cons.inj same).1.symm free
    | letter listed' =>
      exact absurd (List.cons.inj (List.cons.inj same).2).1.symm (unannounced _ listed')
    | number four' _ =>
      obtain ⟨rfl, rest⟩ :=
        List.append_inj (List.cons.inj (List.cons.inj same).2).2 (four.trans four'.symm)
      exact ⟨rfl, rest, rfl⟩

theorem EncodesAll.unique {us us' : List (Code × Bool)} (h : EncodesAll s us)
    (h' : EncodesAll s' us') (same : s ++ Code.quote :: r = s' ++ Code.quote :: r') :
    s = s' ∧ r = r' ∧ us = us' := by
  induction h generalizing s' us' with
  | nil =>
    cases h' with
    | nil => exact ⟨rfl, (List.cons.inj same).2, rfl⟩
    | cons first _ =>
      obtain ⟨c, t, rfl, other⟩ := first.first
      exact absurd (List.cons.inj same).1.symm other
  | cons first _ ih =>
    cases h' with
    | nil =>
      obtain ⟨c, t, rfl, other⟩ := first.first
      exact absurd (List.cons.inj same).1 other
    | cons first' others' =>
      rw [List.append_assoc, List.append_assoc] at same
      obtain ⟨rfl, rest, rfl⟩ := first.unique first' same
      obtain ⟨rfl, behind, rfl⟩ := ih others' rest
      exact ⟨rfl, behind, rfl⟩

theorem Quotes.unique {t t' : Text} (h : Quotes s t) (h' : Quotes s' t')
    (same : s ++ r = s' ++ r') : s = s' ∧ r = r' ∧ t = t' := by
  obtain ⟨spelling, us, all, rfl, rfl⟩ := h
  obtain ⟨spelling', us', all', rfl, rfl⟩ := h'
  rw [List.append_assoc, List.append_assoc] at same
  obtain ⟨rfl, rest, rfl⟩ := all.unique all' (List.cons.inj same).2
  exact ⟨rfl, rest, rfl⟩

end Strings

/-- The kinds of values. -/
inductive Kind where
  | word
  | number
  | string
  | array
  | object
  deriving DecidableEq

/-- The kind of a value. -/
def kind : Json → Kind
  | .word _ => .word
  | .number _ => .number
  | .string _ => .string
  | .array _ => .array
  | .object _ => .object

/-- The kind of value that a character can begin. -/
def kindOf? (c : Code) : Option Kind :=
  if c = Code.quote then some .string
  else if c = Code.openBracket then some .array
  else if c = Code.openBrace then some .object
  else if c = Code.dash ∨ isAsciiDigit c = true then some .number
  else if c = 110 ∨ c = 116 ∨ c = 102 then some .word
  else none

/-- The text begins with a character that can begin a value. -/
def Opens (t : Text) : Prop := ∃ c r, t = c :: r ∧ kindOf? c ≠ none

/-- A comma or a bracket that closes a list. -/
def isMark (c : Code) : Bool :=
  c == Code.comma || c == Code.closeBracket || c == Code.closeBrace

/-- A character that can stand in the spelling of a number. -/
def isNumberCode (c : Code) : Bool :=
  isAsciiDigit c || c == Code.plus || c == Code.dash || c == Code.dot || c == 69 || c == 101

section Follow

variable {w w' s s' t t' r r' : Text} {c d : Code}

theorem isNumberCode_of_isSpace (h : isSpace c = true) : isNumberCode c = false := by
  simp only [isSpace, Bool.or_eq_true, beq_iff_eq, or_assoc] at h
  rcases h with rfl | rfl | rfl | rfl <;> rfl

theorem kindOf?_of_isSpace (h : isSpace c = true) : kindOf? c = none := by
  simp only [isSpace, Bool.or_eq_true, beq_iff_eq, or_assoc] at h
  rcases h with rfl | rfl | rfl | rfl <;> rfl

theorem of_isMark (h : isMark c = true) :
    isSpace c = false ∧ isNumberCode c = false ∧ kindOf? c = none := by
  simp only [isMark, Bool.or_eq_true, beq_iff_eq, or_assoc] at h
  rcases h with rfl | rfl | rfl <;> exact ⟨rfl, rfl, rfl⟩

theorem stopsAt_cons {holds : Code → Bool} (fails : holds c = false) : StopsAt holds (c :: t) := by
  intro d first
  obtain rfl := Option.some.inj first
  exact fails

theorem Opens.append (h : Opens s) (t : Text) : Opens (s ++ t) := by
  obtain ⟨c, r, rfl, known⟩ := h
  exact ⟨c, r ++ t, rfl, known⟩

theorem Opens.stopsAt (h : Opens t) : StopsAt isSpace t := by
  obtain ⟨c, r, rfl, known⟩ := h
  refine stopsAt_cons ?_
  rw [Bool.eq_false_iff]
  exact fun space => known (kindOf?_of_isSpace space)

/-- Behind a number may stand spaces, also none, and then what is no character of a number. -/
theorem Spaces.stopsAt (spaces : Spaces w) (stops : StopsAt isNumberCode t) :
    StopsAt isNumberCode (w ++ t) := by
  cases w with
  | nil => exact stops
  | cons c w => exact stopsAt_cons (isNumberCode_of_isSpace (spaces c List.mem_cons_self))

/-- Spaces in front of marks end at the mark. -/
theorem Spaces.unique (spaces : Spaces w) (spaces' : Spaces w') (mark : isSpace c = false)
    (mark' : isSpace d = false) (same : w ++ c :: t = w' ++ d :: t') : w = w' ∧ c = d ∧ t = t' := by
  obtain ⟨rfl, rest⟩ := run_inj spaces spaces' (stopsAt_cons mark) (stopsAt_cons mark') same
  exact ⟨rfl, List.cons.inj rest⟩

end Follow

section Lists

variable {α : Type} {P : Text → α → Prop} {n : Nat} {close : Code} {s s' t t' r r' : Text}

/-- The texts of a relation that are shorter than a number are told from what follows them, and
have one meaning. -/
def Sharp (P : Text → α → Prop) (n : Nat) : Prop :=
  ∀ {s s' r r' : Text} {x x' : α}, s.length < n → P s x → P s' x' → StopsAt isNumberCode r →
    StopsAt isNumberCode r' → s ++ r = s' ++ r' → s = s' ∧ r = r' ∧ x = x'

/-- An item, the spaces behind it and the mark behind them. -/
theorem Sharp.item (sharp : Sharp P n) {w w' : Text} {e e' : Code} {x x' : α}
    (short : s.length < n) (h : P s x) (h' : P s' x') (spaces : Spaces w) (spaces' : Spaces w')
    (mark : isMark e = true) (mark' : isMark e' = true)
    (same : s ++ (w ++ e :: r) = s' ++ (w' ++ e' :: r')) :
    s = s' ∧ x = x' ∧ w = w' ∧ e = e' ∧ r = r' := by
  obtain ⟨outside, loose, -⟩ := of_isMark mark
  obtain ⟨outside', loose', -⟩ := of_isMark mark'
  obtain ⟨rfl, rest, rfl⟩ := sharp short h h' (spaces.stopsAt (stopsAt_cons loose))
    (spaces'.stopsAt (stopsAt_cons loose')) same
  obtain ⟨rfl, rfl, rfl⟩ := spaces.unique spaces' outside outside' rest
  exact ⟨rfl, rfl, rfl, rfl, rfl⟩

theorem Listed.opens (opens : ∀ s x, P s x → Opens s) {xs : List α} (h : Listed P t xs) :
    Opens t := by
  cases h with
  | one first _ => exact (opens _ _ first).append _
  | more first _ _ _ => exact (opens _ _ first).append _

theorem Listed.unique (sharp : Sharp P n) (opens : ∀ s x, P s x → Opens s)
    (mark : isMark close = true) (other : close ≠ Code.comma) {xs xs' : List α}
    (short : t.length < n) (h : Listed P t xs) (h' : Listed P t' xs')
    (same : t ++ close :: r = t' ++ close :: r') : t = t' ∧ r = r' ∧ xs = xs' := by
  have comma : isMark Code.comma = true := rfl
  -- Behind equal items stand equal marks, so that both lists end or both go on.
  induction h generalizing t' xs' with
  | one first spaces =>
    rw [List.length_append] at short
    cases h' with
    | one first' spaces' =>
      simp only [List.append_assoc] at same
      obtain ⟨rfl, rfl, rfl, -, rest⟩ :=
        sharp.item (by omega) first first' spaces spaces' mark mark same
      exact ⟨rfl, rest, rfl⟩
    | more first' spaces' _ _ =>
      simp only [List.append_assoc, List.cons_append] at same
      obtain ⟨-, -, -, wrong, -⟩ :=
        sharp.item (by omega) first first' spaces spaces' mark comma same
      exact absurd wrong other
  | more first spaces inner others ih =>
    simp only [List.length_append, List.length_cons] at short
    cases h' with
    | one first' spaces' =>
      simp only [List.append_assoc, List.cons_append] at same
      obtain ⟨-, -, -, wrong, -⟩ :=
        sharp.item (by omega) first first' spaces spaces' comma mark same
      exact absurd wrong.symm other
    | more first' spaces' inner' others' =>
      simp only [List.append_assoc, List.cons_append] at same
      obtain ⟨rfl, rfl, rfl, -, rest⟩ :=
        sharp.item (by omega) first first' spaces spaces' comma comma same
      obtain ⟨rfl, behind⟩ := run_inj inner inner' ((others.opens opens).append _).stopsAt
        ((others'.opens opens).append _).stopsAt rest
      obtain ⟨rfl, behind, rfl⟩ := ih (by omega) others' behind
      exact ⟨rfl, behind, rfl⟩

/-- What stands between the brackets of a list begins with no space. -/
theorem Items.stopsAt (opens : ∀ s x, P s x → Opens s) (mark : isMark close = true) {xs : List α}
    (h : Items P t xs) : StopsAt isSpace (t ++ close :: r) := by
  cases h with
  | none => exact stopsAt_cons (of_isMark mark).1
  | some listed => exact ((listed.opens opens).append _).stopsAt

theorem Items.unique (sharp : Sharp P n) (opens : ∀ s x, P s x → Opens s)
    (mark : isMark close = true) (other : close ≠ Code.comma) {xs xs' : List α}
    (short : t.length < n) (h : Items P t xs) (h' : Items P t' xs')
    (same : t ++ close :: r = t' ++ close :: r') : t = t' ∧ r = r' ∧ xs = xs' := by
  have closed := (of_isMark mark).2.2
  cases h with
  | none =>
    cases h' with
    | none => exact ⟨rfl, (List.cons.inj same).2, rfl⟩
    | some listed' =>
      obtain ⟨c, u, rfl, known⟩ := listed'.opens opens
      obtain ⟨rfl, -⟩ := List.cons.inj same
      exact absurd closed known
  | some listed =>
    cases h' with
    | none =>
      obtain ⟨c, u, rfl, known⟩ := listed.opens opens
      obtain ⟨rfl, -⟩ := List.cons.inj same
      exact absurd closed known
    | some listed' => exact listed.unique sharp opens mark other short listed' same

/-- The items of a list in its brackets, behind spaces. -/
theorem Items.unique_within (sharp : Sharp P n) (opens : ∀ s x, P s x → Opens s)
    (mark : isMark close = true) (other : close ≠ Code.comma) {w w' : Text} {xs xs' : List α}
    (short : t.length < n) (spaces : Spaces w) (spaces' : Spaces w') (h : Items P t xs)
    (h' : Items P t' xs') (same : w ++ (t ++ [close]) ++ r = w' ++ (t' ++ [close]) ++ r') :
    w = w' ∧ t = t' ∧ r = r' ∧ xs = xs' := by
  simp only [List.append_assoc, List.singleton_append] at same
  obtain ⟨rfl, rest⟩ := run_inj spaces spaces' (h.stopsAt opens mark) (h'.stopsAt opens mark) same
  exact ⟨rfl, h.unique sharp opens mark other short h' rest⟩

theorem Quotes.opens (h : Quotes s t) : Opens s := by
  obtain ⟨spelling, us, -, -, rfl⟩ := h
  exact ⟨_, _, rfl, by decide⟩

theorem Member.opens {x : Text × α} (h : Member P s x) : Opens s := by
  cases h with
  | mk key _ _ _ => exact key.opens.append _

theorem Sharp.member (sharp : Sharp P n) (opens : ∀ s x, P s x → Opens s) :
    Sharp (Member P) n := by
  intro s s' r r' x x' short h h' stops stops' same
  cases h with
  | mk key before behind value =>
    cases h' with
    | mk key' before' behind' value' =>
      simp only [List.append_assoc, List.cons_append] at same
      simp only [List.length_append, List.length_cons] at short
      obtain ⟨rfl, rest, rfl⟩ := key.unique key' same
      obtain ⟨rfl, -, rest⟩ := before.unique before' rfl rfl rest
      obtain ⟨rfl, last⟩ := run_inj behind behind' ((opens _ _ value).append _).stopsAt
        ((opens _ _ value').append _).stopsAt rest
      obtain ⟨rfl, ending, rfl⟩ := sharp (by omega) value value' stops stops' last
      exact ⟨rfl, ending, rfl⟩

end Lists

section Numbers

variable {t : Text}

theorem Digits.isNumberCode (h : Digits t) : ∀ c ∈ t, isNumberCode c = true := by
  intro c inside
  simp [Json.isNumberCode, h.2 c inside]

theorem Fraction.isNumberCode (h : Fraction t) : ∀ c ∈ t, isNumberCode c = true := by
  rcases h with rfl | ⟨digits, all, rfl⟩
  · simp
  · exact List.forall_mem_cons.2 ⟨rfl, all.isNumberCode⟩

theorem Exponent.isNumberCode (h : Exponent t) : ∀ c ∈ t, isNumberCode c = true := by
  rcases h with rfl | ⟨e, letter, sign, signed, digits, all, rfl⟩
  · simp
  · have first : Json.isNumberCode e = true := by
      revert e
      decide
    have second : ∀ c ∈ sign, Json.isNumberCode c = true := by
      revert sign
      decide
    exact List.forall_mem_cons.2 ⟨first, List.forall_mem_append.2 ⟨second, all.isNumberCode⟩⟩

theorem IsNumber.isNumberCode (h : IsNumber t) : ∀ c ∈ t, isNumberCode c = true := by
  obtain ⟨sign, signed, whole, fraction, exponent, hw, hf, he, rfl⟩ := h
  have first : ∀ c ∈ sign, Json.isNumberCode c = true := by
    revert sign
    decide
  simp only [List.forall_mem_append]
  exact ⟨⟨⟨first, hw.1.isNumberCode⟩, hf.isNumberCode⟩, he.isNumberCode⟩

theorem kindOf?_of_isAsciiDigit {c : Code} (h : isAsciiDigit c = true) :
    kindOf? c = some .number := by
  rw [kindOf?, if_neg, if_neg, if_neg, if_pos (.inr h)]
  all_goals
    rintro rfl
    exact absurd h (by decide)

theorem IsNumber.first (h : IsNumber t) : ∃ c r, t = c :: r ∧ kindOf? c = some .number := by
  obtain ⟨sign, signed, whole, fraction, exponent, hw, -, -, rfl⟩ := h
  have shape : sign = [] ∨ sign = [Code.dash] := by simpa using signed
  rcases shape with rfl | rfl
  · obtain ⟨c, r, rfl⟩ := List.exists_cons_of_ne_nil hw.1.1
    exact ⟨_, _, rfl, kindOf?_of_isAsciiDigit (hw.1.2 c List.mem_cons_self)⟩
  · exact ⟨_, _, rfl, rfl⟩

end Numbers

section Values

variable {s s' r r' : Text} {v v' : Json}

/-- The first character of a value says of which kind it is. -/
theorem Writes.first (h : Writes s v) : ∃ c r, s = c :: r ∧ kindOf? c = some v.kind := by
  cases h with
  | word w => cases w <;> exact ⟨_, _, rfl, rfl⟩
  | number spelling => exact spelling.first
  | string quoted =>
    obtain ⟨spelling, us, -, -, rfl⟩ := quoted
    exact ⟨_, _, rfl, rfl⟩
  | array _ _ => exact ⟨_, _, rfl, rfl⟩
  | object _ _ => exact ⟨_, _, rfl, rfl⟩

theorem Writes.opens (h : Writes s v) : Opens s := by
  obtain ⟨c, r, rfl, known⟩ := h.first
  exact ⟨c, r, rfl, by simp [known]⟩

theorem Writes.kind_eq (h : Writes s v) (h' : Writes s' v') (same : s ++ r = s' ++ r') :
    v.kind = v'.kind := by
  obtain ⟨c, t, rfl, known⟩ := h.first
  obtain ⟨c', t', rfl, known'⟩ := h'.first
  obtain ⟨rfl, -⟩ := List.cons.inj same
  exact Option.some.inj (known.symm.trans known')

theorem Word.eq_of_append {w w' : Word} (same : w.text ++ r = w'.text ++ r') : w = w' := by
  cases w <;> cases w' <;> first | rfl | exact absurd (List.cons.inj same).1 (by decide)

theorem sharp_writes (n : Nat) : Sharp Writes n := by
  induction n with
  | zero => exact fun short => absurd short (Nat.not_lt_zero _)
  | succ n ih =>
    intro s s' r r' v v' short h h' stops stops' same
    -- The first characters agree, which leaves values of one kind only.
    have alike := h.kind_eq h' same
    have opens : ∀ s v, Writes s v → Opens s := fun _ _ => Writes.opens
    cases h with
    | word w =>
      cases h' with
      | word w' =>
        obtain rfl := Word.eq_of_append same
        exact ⟨rfl, List.append_cancel_left same, rfl⟩
      | _ => cases alike
    | number spelling =>
      cases h' with
      | number spelling' =>
        obtain ⟨rfl, rest⟩ :=
          run_inj spelling.isNumberCode spelling'.isNumberCode stops stops' same
        exact ⟨rfl, rest, rfl⟩
      | _ => cases alike
    | string quoted =>
      cases h' with
      | string quoted' =>
        obtain ⟨rfl, rest, rfl⟩ := quoted.unique quoted' same
        exact ⟨rfl, rest, rfl⟩
      | _ => cases alike
    | array spaces items =>
      simp only [List.length_cons, List.length_append] at short
      cases h' with
      | array spaces' items' =>
        obtain ⟨rfl, rfl, rest, rfl⟩ := Items.unique_within ih opens rfl (by decide) (by omega)
          spaces spaces' items items' (List.cons.inj same).2
        exact ⟨rfl, rest, rfl⟩
      | _ => cases alike
    | object spaces members =>
      simp only [List.length_cons, List.length_append] at short
      cases h' with
      | object spaces' members' =>
        obtain ⟨rfl, rfl, rest, rfl⟩ := Items.unique_within (ih.member opens)
          (fun _ _ => Member.opens) rfl (by decide) (by omega) spaces spaces' members members'
          (List.cons.inj same).2
        exact ⟨rfl, rest, rfl⟩
      | _ => cases alike

/-- **A JSON text denotes one value.** -/
theorem Denotes.unique {t : Text} (h : Denotes t v) (h' : Denotes t v') : v = v' := by
  obtain ⟨w, s, u, before, value, behind, rfl⟩ := h
  obtain ⟨w', s', u', before', value', behind', same⟩ := h'
  obtain ⟨rfl, rest⟩ := run_inj before before' (value.opens.append _).stopsAt
    (value'.opens.append _).stopsAt same
  have stops {w : Text} (spaces : Spaces w) : StopsAt isNumberCode w := by
    simpa using spaces.stopsAt (t := []) (fun _ none => nomatch none)
  exact (sharp_writes _ (Nat.lt_succ_self _) value value' (stops behind) (stops behind') rest).2.2

end Values

end EditorText.Json
