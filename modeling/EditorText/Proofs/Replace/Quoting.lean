import EditorText.Proofs.Replace.Running
import EditorText.Proofs.Text.Replacing

/-!
# Replacements that stand for a text

A replacement is read twice: first its backslash escapes, then its dollar tokens. With backslashes
doubled and then dollar signs it stands for the text as it is (`unescape_quoted`, `expand_doubled`),
and the token for the whole match stands for the match (`expand_wholeMatch`). So a step can put any
text in the place of the matches of its pattern, or leave everything as it was (`apply_quoted`).
-/

set_option autoImplicit false

namespace EditorText

namespace Pattern

/-- Matches replaced by themselves leave the text. -/
theorem replaceMatches_slice (text : Text) {place : Nat} {ms : List Match}
    (inOrder : InOrder place ms) :
    replaceMatches text (fun m => text.slice m.span) place ms = text.drop place := by
  induction inOrder with
  | nil => rfl
  | @cons place m ms behind forward _ ih =>
    have front := text.slice_append_drop ⟨place, m.span.start⟩ behind
    have back := text.slice_append_drop m.span forward
    rw [replaceMatches, ih, List.append_assoc, back, front]

theorem replaceAll_slice (p : Pattern) (text : Text) :
    p.replaceAll text (fun m => text.slice m.span) = text := by
  rw [replaceAll, replaceMatches_slice text (p.findAll_inOrder text), List.drop_zero]

end Pattern

namespace Replace

/-- The text with each occurrence of a code doubled. -/
def doubled (c : Code) (t : Text) : Text :=
  Text.replaceCode c [c, c] t

/-- The replacement that stands for a text: backslashes are doubled, then dollar signs. -/
def quoted (t : Text) : Text :=
  doubled Code.dollar (doubled Code.backslash t)

/-- The replacement that stands for the match. -/
def wholeMatch : Text := [Code.dollar, Code.ampersand]

section Doubling

variable {c d : Code}

theorem doubled_cons_self (c : Code) (t : Text) : doubled c (c :: t) = c :: c :: doubled c t :=
  Text.replaceCode_cons_self c [c, c] t

theorem doubled_cons_of_ne (other : d ≠ c) (t : Text) : doubled c (d :: t) = d :: doubled c t :=
  Text.replaceCode_cons_of_ne other [c, c] t

end Doubling

section Escapes

/-- A doubled backslash is one backslash, and begins no other escape. -/
theorem unescape_backslashes (t : Text) :
    unescape (Code.backslash :: Code.backslash :: t) = Code.backslash :: unescape t := rfl

theorem unescape_cons {c : Code} (plain : c ≠ Code.backslash) (t : Text) :
    unescape (c :: t) = c :: unescape t := by
  rw [unescape, decodeFrom]
  · rfl
  · intro d r same
    exact absurd same plain

/-- The escapes of a quoted text are its backslashes. -/
theorem unescape_quoted (t : Text) : unescape (quoted t) = doubled Code.dollar t := by
  induction t with
  | nil => rfl
  | cons c t ih =>
    rw [quoted] at ih ⊢
    by_cases backslash : c = Code.backslash
    · subst backslash
      have other : Code.backslash ≠ Code.dollar := by decide
      rw [doubled_cons_self, doubled_cons_of_ne other, doubled_cons_of_ne other,
        doubled_cons_of_ne other, unescape_backslashes, ih]
    · rw [doubled_cons_of_ne backslash]
      by_cases dollar : c = Code.dollar
      · subst dollar
        rw [doubled_cons_self, doubled_cons_self, unescape_cons backslash,
          unescape_cons backslash, ih]
      · rw [doubled_cons_of_ne dollar, doubled_cons_of_ne dollar, unescape_cons backslash, ih]

end Escapes

section Tokens

variable (f : Found)

/-- A doubled dollar sign is one dollar sign, and begins no other token. -/
theorem expand_dollars (t : Text) :
    expand (Code.dollar :: Code.dollar :: t) f = Code.dollar :: expand t f := rfl

theorem expand_cons {c : Code} (plain : c ≠ Code.dollar) (t : Text) :
    expand (c :: t) f = c :: expand t f := by
  rw [expand, pieces, piecesFrom]
  · rfl
  · exact plain

/-- A text with its dollar signs doubled stands for itself, whatever the match is. -/
theorem expand_doubled (t : Text) : expand (doubled Code.dollar t) f = t := by
  induction t with
  | nil => rfl
  | cons c t ih =>
    by_cases dollar : c = Code.dollar
    · subst dollar
      rw [doubled_cons_self, expand_dollars, ih]
    · rw [doubled_cons_of_ne dollar, expand_cons f dollar, ih]

/-- The token for the match stands for it, whatever groups there are. -/
theorem expand_wholeMatch : expand wholeMatch f = f.text.slice f.hit.span := by
  have piece : expand wholeMatch f = f.group 0 ++ [] := rfl
  rw [piece, List.append_nil]
  rfl

end Tokens

section Step

variable [Pattern.Engine] {find : Text} {p : Pattern}

/-- An operation of one step replaces the matches of its pattern. -/
theorem result_apply_step (compiles : (Pattern.compile find stepFlags).result = .ok p)
    (name replacement text : Text) :
    (Operation.apply ⟨name, [⟨find, replacement⟩]⟩ text).result =
      .ok (substitute p (unescape replacement) text) := by
  have applied : Step.apply ⟨find, replacement⟩ text =
      .ok (substitute p (unescape replacement) text) := by
    rw [Pattern.result_compile] at compiles
    rw [Step.apply, compiles]
  rw [result_apply, runSteps, applied]
  rfl

/-- **A replacement can stand for any text**, whatever the engine is. A step that replaces by a quoted
text puts exactly that text in the place of each match of its pattern, and a step that replaces by the
match leaves the text as it is. -/
theorem apply_quoted (compiles : (Pattern.compile find stepFlags).result = .ok p)
    (name text : Text) :
    (∀ s, (Operation.apply ⟨name, [⟨find, quoted s⟩]⟩ text).result =
      .ok (p.replaceAll text fun _ => s)) ∧
    (Operation.apply ⟨name, [⟨find, wholeMatch⟩]⟩ text).result = .ok text := by
  constructor
  · intro s
    rw [result_apply_step compiles, unescape_quoted, substitute]
    congr 2
    funext m
    exact expand_doubled _ s
  · have plain : unescape wholeMatch = wholeMatch := by decide
    have kept : (fun m => expand wholeMatch (.ofMatch p text m)) =
        fun m => text.slice m.span := by
      funext m
      exact expand_wholeMatch _
    rw [result_apply_step compiles, plain, substitute, kept, Pattern.replaceAll_slice]

end Step

/-- A text in which backslashes, dollar signs and what follows them could be taken for escapes and
tokens. -/
def awkward : Text := Text.ofString "\\n$1$&\\$<x>$$\\\\"

/-- A pattern with a character by its name, a group, a named group and empty matches. -/
def groupsOrNothing : Text := Text.ofString "(\\N{LATIN SMALL LETTER B})|(?<x>c)?"

theorem apply_quoted_awkward :
    (∃ p, (Pattern.compile groupsOrNothing stepFlags).result = .ok p) ∧
    (Operation.apply ⟨Text.ofString "o", [⟨groupsOrNothing, quoted awkward⟩]⟩
      (Text.ofString "abc")).result =
        .ok (awkward ++ Text.ofString "a" ++ awkward ++ awkward ++ awkward) ∧
    (Operation.apply ⟨Text.ofString "o", [⟨groupsOrNothing, wholeMatch⟩]⟩
      (Text.ofString "abc")).result = .ok (Text.ofString "abc") := by
  have answers : ((Pattern.compile groupsOrNothing stepFlags).result.toOption.map fun p =>
      p.replaceAll (Text.ofString "abc") fun _ => awkward) =
        some (awkward ++ Text.ofString "a" ++ awkward ++ awkward ++ awkward) := by
    decide +kernel
  cases compiles : (Pattern.compile groupsOrNothing stepFlags).result with
  | error e =>
    rw [compiles] at answers
    cases answers
  | ok p =>
    rw [compiles] at answers
    have made := Option.some.inj answers
    obtain ⟨replaced, kept⟩ :=
      apply_quoted compiles (Text.ofString "o") (Text.ofString "abc")
    exact ⟨⟨p, rfl⟩, (replaced awkward).trans (congrArg Except.ok made), kept⟩

end Replace

end EditorText
