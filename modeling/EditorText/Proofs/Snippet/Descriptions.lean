import EditorText.Proofs.Text.Hexadecimal
import EditorText.Snippet.Expectation

/-!
# Descriptions tell where they end

A character in a message is read back by `readCode?`, between quotes as between brackets. With it a
text in quotes, a member of a class and a whole class end where they say, whatever is written behind
them, and so does the description of every regular expectation (`Expectation.Regular.shown_append`).
-/

set_option autoImplicit false

namespace EditorText.Snippet

variable {c d : Code} {r r' t t' : Text}

section Codes

/-- The character that stands behind a backslash for another one, or for itself. -/
def unescaped (c : Code) : Code :=
  if c = '0'.toNat then 0
  else if c = 't'.toNat then Code.tab
  else if c = 'n'.toNat then Code.newline
  else if c = 'r'.toNat then Code.carriageReturn
  else c

/-- Reads one character of a message, and what is written behind it. -/
def readCode? : Text → Option (Code × Text)
  | [] => none
  | Code.backslash :: c :: t =>
    if c = 'x'.toNat then some (Text.natOf 16 (t.take 2), t.drop 2) else some (unescaped c, t)
  | c :: t => some (c, t)

theorem readCode?_code (plain : c ≠ Code.backslash) (r : Text) :
    readCode? (c :: r) = some (c, r) := by
  rw [readCode?]
  exact fun _ _ same => absurd same plain

theorem readCode?_numberIfControl (plain : c ≠ Code.backslash) (r : Text) :
    readCode? (numberIfControl c ++ r) = some (c, r) := by
  unfold numberIfControl
  split
  case isTrue control =>
    have small : c < 16 ^ 2 := by
      rcases control with low | ⟨-, high⟩
      · exact Nat.lt_of_le_of_lt low (by decide)
      · exact Nat.lt_of_le_of_lt high (by decide)
    have length := Text.length_hexCapital 2 c
    have value : Text.natOf 16 (Text.hexCapital 2 c) = c := by
      rw [Text.natOf_hexCapital, Nat.mod_eq_of_lt small]
    have written : Text.ofChars ['\\', 'x'] ++ Text.hexCapital 2 c ++ r =
        Code.backslash :: 'x'.toNat :: (Text.hexCapital 2 c ++ r) := rfl
    rw [written, readCode?, if_pos rfl, List.take_left' length, List.drop_left' length, value]
  case isFalse => exact readCode?_code plain r

theorem readCode?_commonEscape (plain : c ≠ Code.backslash) (r : Text) :
    readCode? (commonEscape c ++ r) = some (c, r) := by
  unfold commonEscape
  split
  case isTrue zero => rw [zero]; rfl
  split
  case isTrue tab => rw [tab]; rfl
  split
  case isTrue newline => rw [newline]; rfl
  split
  case isTrue carriageReturn => rw [carriageReturn]; rfl
  case isFalse => exact readCode?_numberIfControl plain r

/-- **A character between quotes is read back.** -/
theorem readCode?_literalCode (c : Code) (r : Text) :
    readCode? (literalCode c ++ r) = some (c, r) := by
  unfold literalCode
  split
  case isTrue special => rcases special with rfl | rfl <;> rfl
  case isFalse other => exact readCode?_commonEscape (fun same => other (.inl same)) r

/-- **A character between brackets is read back.** -/
theorem readCode?_classCode (c : Code) (r : Text) :
    readCode? (classCode c ++ r) = some (c, r) := by
  unfold classCode
  split
  case isTrue special => rcases special with rfl | rfl | rfl | rfl <;> rfl
  case isFalse other => exact readCode?_commonEscape (fun same => other (.inl same)) r

/-- What is read back tells where it ends. -/
theorem append_of_readCode? {write : Code → Text}
    (reads : ∀ c r, readCode? (write c ++ r) = some (c, r)) (same : write c ++ r = write d ++ r') :
    c = d ∧ r = r' := by
  have read := reads c r
  rw [same, reads] at read
  obtain ⟨code, rest⟩ := Prod.mk.inj (Option.some.inj read)
  exact ⟨code.symm, rest.symm⟩

theorem literalCode_append (same : literalCode c ++ r = literalCode d ++ r') : c = d ∧ r = r' :=
  append_of_readCode? readCode?_literalCode same

theorem classCode_append (same : classCode c ++ r = classCode d ++ r') : c = d ∧ r = r' :=
  append_of_readCode? readCode?_classCode same

/-- Characters that are not written as they are begin with a backslash. -/
theorem commonEscape_cases (c : Code) :
    commonEscape c = [c] ∨ ∃ t, commonEscape c = Code.backslash :: t := by
  unfold commonEscape numberIfControl
  repeat' split
  all_goals first
    | exact .inr ⟨_, rfl⟩
    | exact .inl rfl

/-- No character between quotes begins with a quote. -/
theorem literalCode_ne_quote (c : Code) (r t : Text) : literalCode c ++ r ≠ Code.quote :: t := by
  unfold literalCode
  split
  case isTrue => exact fun same => absurd (List.cons.inj same).1 (by decide)
  case isFalse other =>
    rcases commonEscape_cases c with itself | ⟨_, escape⟩
    · rw [itself]
      exact fun same => other (.inr (List.cons.inj same).1)
    · rw [escape]
      exact fun same => absurd (List.cons.inj same).1 (by decide)

/-- No character between brackets begins with a mark of the class. -/
theorem classCode_ne_mark {mark : Code}
    (marks : mark = Code.closeBracket ∨ mark = Code.caret ∨ mark = Code.dash) (c : Code)
    (r t : Text) : classCode c ++ r ≠ mark :: t := by
  have other : mark ≠ Code.backslash := by
    rcases marks with rfl | rfl | rfl <;> decide
  unfold classCode
  split
  case isTrue => exact fun same => other (List.cons.inj same).1.symm
  case isFalse free =>
    rcases commonEscape_cases c with itself | ⟨_, escape⟩
    · rw [itself]
      exact fun same => free (.inr ((List.cons.inj same).1 ▸ marks))
    · rw [escape]
      exact fun same => other (List.cons.inj same).1.symm

end Codes

section Quoted

theorem escapedInQuotes_append
    (same : escapedInQuotes t ++ Code.quote :: r = escapedInQuotes t' ++ Code.quote :: r') :
    t = t' ∧ r = r' := by
  induction t generalizing t' with
  | nil =>
    cases t' with
    | nil => exact ⟨rfl, (List.cons.inj same).2⟩
    | cons d t' =>
      rw [escapedInQuotes, escapedInQuotes, List.flatMap_cons, List.append_assoc] at same
      exact absurd same.symm (literalCode_ne_quote _ _ _)
  | cons c t ih =>
    rw [escapedInQuotes, List.flatMap_cons, List.append_assoc] at same
    cases t' with
    | nil => exact absurd same (literalCode_ne_quote _ _ _)
    | cons d t' =>
      rw [escapedInQuotes, List.flatMap_cons, List.append_assoc] at same
      obtain ⟨rfl, rest⟩ := literalCode_append same
      obtain ⟨rfl, behind⟩ := ih rest
      exact ⟨rfl, behind⟩

/-- **A text in quotes ends where it says.** -/
theorem inQuotes_append (same : inQuotes t ++ r = inQuotes t' ++ r') : t = t' ∧ r = r' := by
  have inside : escapedInQuotes t ++ [Code.quote] ++ r = escapedInQuotes t' ++ [Code.quote] ++ r' :=
    (List.cons.inj same).2
  rw [List.append_assoc, List.append_assoc] at inside
  exact escapedInQuotes_append inside

end Quoted

section Classes

/-- A member of a class that is one character or a range between two. -/
inductive ClassPart.Regular : ClassPart → Prop where
  | single (c : Code) : Regular (.single [c])
  | range (low high : Code) : Regular (.range [low] [high])

variable {p p' : ClassPart} {ps ps' : List ClassPart}

theorem shown_single (c : Code) : (ClassPart.single [c]).shown = classCode c := by
  rw [ClassPart.shown, escapedInClass, List.flatMap_singleton]

theorem shown_range (low high : Code) :
    (ClassPart.range [low] [high]).shown = classCode low ++ Code.dash :: classCode high := by
  rw [ClassPart.shown, escapedInClass, escapedInClass, List.flatMap_singleton,
    List.flatMap_singleton]

/-- A member of a class is none of the marks that stand in the class. -/
theorem ClassPart.Regular.shown_ne_mark (h : p.Regular) {mark : Code}
    (marks : mark = Code.closeBracket ∨ mark = Code.caret ∨ mark = Code.dash) (r t : Text) :
    p.shown ++ r ≠ mark :: t := by
  cases h with
  | single c =>
    rw [shown_single]
    exact classCode_ne_mark marks c r t
  | range low high =>
    rw [shown_range, List.append_assoc]
    exact classCode_ne_mark marks low _ t

/-- A member of a class ends where no range goes on. -/
theorem ClassPart.Regular.shown_append (h : p.Regular) (h' : p'.Regular)
    (ends : r.head? ≠ some Code.dash) (ends' : r'.head? ≠ some Code.dash)
    (same : p.shown ++ r = p'.shown ++ r') : p = p' ∧ r = r' := by
  cases h with
  | single c =>
    rw [shown_single] at same
    cases h' with
    | single d =>
      rw [shown_single] at same
      obtain ⟨rfl, rest⟩ := classCode_append same
      exact ⟨rfl, rest⟩
    | range low' high' =>
      rw [shown_range, List.append_assoc] at same
      obtain ⟨-, rest⟩ := classCode_append same
      exact absurd (congrArg List.head? rest) ends
  | range low high =>
    rw [shown_range, List.append_assoc] at same
    cases h' with
    | single d =>
      rw [shown_single] at same
      obtain ⟨-, rest⟩ := classCode_append same
      exact absurd (congrArg List.head? rest).symm ends'
    | range low' high' =>
      rw [shown_range, List.append_assoc] at same
      obtain ⟨rfl, rest⟩ := classCode_append same
      obtain ⟨rfl, behind⟩ := classCode_append (List.cons.inj rest).2
      exact ⟨rfl, behind⟩

/-- The members of a class behind one that went before, with the closing bracket and what is written
behind the class. -/
def furtherParts (ps : List ClassPart) (r : Text) : Text :=
  (ps.map ClassPart.shown).flatMap ([Code.comma] ++ ·) ++ Code.closeBracket :: r

theorem furtherParts_cons (p : ClassPart) (ps : List ClassPart) (r : Text) :
    furtherParts (p :: ps) r = Code.comma :: (p.shown ++ furtherParts ps r) := by
  simp [furtherParts]

/-- Behind a member of a class stands a comma or the closing bracket. -/
theorem head?_furtherParts (ps : List ClassPart) (r : Text) :
    (furtherParts ps r).head? ≠ some Code.dash := by
  cases ps with
  | nil => exact fun same => absurd (Option.some.inj same) (by decide)
  | cons p ps =>
    rw [furtherParts_cons]
    exact fun same => absurd (Option.some.inj same) (by decide)

theorem furtherParts_inj (h : ∀ p ∈ ps, p.Regular) (h' : ∀ p ∈ ps', p.Regular)
    (same : furtherParts ps r = furtherParts ps' r') : ps = ps' ∧ r = r' := by
  induction ps generalizing ps' with
  | nil =>
    cases ps' with
    | nil => exact ⟨rfl, (List.cons.inj same).2⟩
    | cons p' ps' =>
      rw [furtherParts_cons] at same
      exact absurd (List.cons.inj same).1 (by decide)
  | cons p ps ih =>
    rw [furtherParts_cons] at same
    cases ps' with
    | nil => exact absurd (List.cons.inj same).1 (by decide)
    | cons p' ps' =>
      rw [furtherParts_cons] at same
      obtain ⟨first, others⟩ := List.forall_mem_cons.1 h
      obtain ⟨first', others'⟩ := List.forall_mem_cons.1 h'
      obtain ⟨rfl, rest⟩ := first.shown_append first' (head?_furtherParts ps r)
        (head?_furtherParts ps' r') (List.cons.inj same).2
      obtain ⟨rfl, behind⟩ := ih others others' rest
      exact ⟨rfl, behind⟩

/-- The members of a class with the closing bracket and what is written behind the class. -/
def allParts (ps : List ClassPart) (r : Text) : Text :=
  Text.join [Code.comma] (ps.map ClassPart.shown) ++ Code.closeBracket :: r

theorem allParts_cons (p : ClassPart) (ps : List ClassPart) (r : Text) :
    allParts (p :: ps) r = p.shown ++ furtherParts ps r :=
  List.append_assoc _ _ _

theorem allParts_ne_caret (h : ∀ p ∈ ps, p.Regular) (r t : Text) :
    allParts ps r ≠ Code.caret :: t := by
  cases ps with
  | nil => exact fun same => absurd (List.cons.inj same).1 (by decide)
  | cons p ps =>
    rw [allParts_cons]
    exact (h p List.mem_cons_self).shown_ne_mark (.inr (.inl rfl)) _ t

theorem allParts_inj (h : ∀ p ∈ ps, p.Regular) (h' : ∀ p ∈ ps', p.Regular)
    (same : allParts ps r = allParts ps' r') : ps = ps' ∧ r = r' := by
  cases ps with
  | nil =>
    cases ps' with
    | nil => exact ⟨rfl, (List.cons.inj same).2⟩
    | cons p' ps' =>
      rw [allParts_cons] at same
      exact absurd same.symm ((h' p' List.mem_cons_self).shown_ne_mark (.inl rfl) _ _)
  | cons p ps =>
    rw [allParts_cons] at same
    cases ps' with
    | nil => exact absurd same ((h p List.mem_cons_self).shown_ne_mark (.inl rfl) _ _)
    | cons p' ps' =>
      rw [allParts_cons] at same
      obtain ⟨first, others⟩ := List.forall_mem_cons.1 h
      obtain ⟨first', others'⟩ := List.forall_mem_cons.1 h'
      obtain ⟨rfl, rest⟩ := first.shown_append first' (head?_furtherParts ps r)
        (head?_furtherParts ps' r') same
      obtain ⟨rfl, behind⟩ := furtherParts_inj others others' rest
      exact ⟨rfl, behind⟩

theorem shown_charClass_append (ps : List ClassPart) (inverted : Bool) (r : Text) :
    (Expectation.charClass ps inverted).shown ++ r =
      Code.openBracket :: ((if inverted then [Code.caret] else []) ++ allParts ps r) := by
  simp [Expectation.shown, allParts]

end Classes

section Expectations

/-- An expectation of a literal text, of a class of single characters and ranges, of any character
or of the end of the input. -/
inductive Expectation.Regular : Expectation → Prop where
  | literal (t : Text) : Regular (.literal t)
  | charClass {parts : List ClassPart} (inverted : Bool) : (∀ p ∈ parts, p.Regular) →
      Regular (.charClass parts inverted)
  | anything : Regular .anything
  | endOfInput : Regular .endOfInput

variable {e e' : Expectation}

/-- **Two classes that are described alike are the same.** -/
theorem charClass_append {ps ps' : List ClassPart} {inverted inverted' : Bool}
    (h : ∀ p ∈ ps, p.Regular) (h' : ∀ p ∈ ps', p.Regular)
    (same : (Expectation.charClass ps inverted).shown ++ r =
      (Expectation.charClass ps' inverted').shown ++ r') :
    Expectation.charClass ps inverted = .charClass ps' inverted' ∧ r = r' := by
  rw [shown_charClass_append, shown_charClass_append] at same
  have inside := (List.cons.inj same).2
  cases inverted <;> cases inverted'
  case false.false =>
    obtain ⟨rfl, rest⟩ := allParts_inj h h' inside
    exact ⟨rfl, rest⟩
  case false.true => exact absurd inside (allParts_ne_caret h r _)
  case true.false => exact absurd inside.symm (allParts_ne_caret h' r' _)
  case true.true =>
    obtain ⟨rfl, rest⟩ := allParts_inj h h' (List.cons.inj inside).2
    exact ⟨rfl, rest⟩

/-- The character that a regular description begins with: each kind has its own. -/
def Expectation.firstShown : Expectation → Code
  | literal _ => Code.quote
  | charClass _ _ => Code.openBracket
  | anything => 'a'.toNat
  | endOfInput => 'e'.toNat
  | other description => description.headD 0

theorem Expectation.Regular.shown_eq_cons (h : e.Regular) : ∃ t, e.shown = e.firstShown :: t := by
  cases h <;> exact ⟨_, rfl⟩

/-- **Descriptions of regular expectations tell where they end**, and what is expected. -/
theorem Expectation.Regular.shown_append (h : e.Regular) (h' : e'.Regular)
    (same : e.shown ++ r = e'.shown ++ r') : e = e' ∧ r = r' := by
  have first : e.firstShown = e'.firstShown := by
    obtain ⟨t, front⟩ := h.shown_eq_cons
    obtain ⟨t', front'⟩ := h'.shown_eq_cons
    rw [front, front'] at same
    exact (List.cons.inj same).1
  cases h <;> cases h'
  case literal.literal t t' =>
    obtain ⟨rfl, rest⟩ := inQuotes_append same
    exact ⟨rfl, rest⟩
  case charClass.charClass regular _ _ regular' => exact charClass_append regular regular' same
  case anything.anything => exact ⟨rfl, List.append_cancel_left same⟩
  case endOfInput.endOfInput => exact ⟨rfl, List.append_cancel_left same⟩
  -- Different kinds differ in their first character.
  all_goals simp [Expectation.firstShown] at first

/-- A regular description does not begin with the word that ends an enumeration. -/
theorem Expectation.Regular.shown_ne_word (h : e.Regular) (r t : Text) :
    e.shown ++ r ≠ 'o'.toNat :: t := by
  obtain ⟨s, front⟩ := h.shown_eq_cons
  rw [front]
  intro same
  have first : e.firstShown = 'o'.toNat := (List.cons.inj same).1
  cases h <;> exact absurd first (by simp [Expectation.firstShown])

end Expectations

end EditorText.Snippet
