import EditorText.Proofs.Yaml.Lexing
import EditorText.Replace.Exchange

/-!
# The tokens of saved operations

The document of a list of operations is read into tokens as it is laid out: a sequence of mappings,
each with a name and a sequence of steps, which are mappings of two texts.
-/

set_option autoImplicit false

namespace EditorText.Replace

open Yaml Yaml.Lexer

/-- The tokens of a key with its value. -/
def entryTokens (key : Text) (value : List Token) : List Token :=
  .key :: .scalar key true :: .value :: value

/-- The tokens of a step. -/
def Step.tokens (s : Step) : List Token :=
  .blockEntry :: .blockMappingStart :: (entryTokens findField [valueToken s.find] ++
    (entryTokens replaceField [valueToken s.replacement] ++ [.blockEnd]))

/-- The tokens of the steps of an operation. -/
def stepsTokens (steps : List Step) : List Token :=
  if steps = [] then [.flowSequenceStart, .flowSequenceEnd] else steps.flatMap Step.tokens

/-- The tokens of an operation. -/
def Operation.tokens (o : Operation) : List Token :=
  .blockEntry :: .blockMappingStart :: (entryTokens nameField [valueToken o.name] ++
    (entryTokens stepsField (stepsTokens o.steps) ++ [.blockEnd]))

/-- Texts of characters, by which operations can be shared. -/
def Step.IsWritable (s : Step) : Prop :=
  (∀ x ∈ s.find, isCharacter x = true) ∧ ∀ x ∈ s.replacement, isCharacter x = true

section Lexing

variable {indent : Int} {outer : List Int} {body : Text} {ts : List Token} {n : Nat}

/-- What stands on the next lines is read into some tokens. -/
def Next (indent : Int) (outer : List Int) (body : Text) (ts : List Token) : Prop :=
  ∃ k r, body = Text.run Code.space k ++ r ∧ (k : Int) ≤ indent ∧ Follows k r ∧
    Lexes indent outer r k ts

theorem le_of_isCharacter {t : Text} (characters : ∀ x ∈ t, isCharacter x = true) :
    ∀ x ∈ t, x ≤ 0x10FFFF := by
  intro x member
  have character := characters x member
  simp only [isCharacter, Bool.and_eq_true, decide_eq_true_eq] at character
  exact character.1

theorem isKey_findField : IsKey findField :=
  ⟨by decide, by decide, by decide⟩

theorem isKey_replaceField : IsKey replaceField :=
  ⟨by decide, by decide, by decide⟩

theorem isKey_nameField : IsKey nameField :=
  ⟨by decide, by decide, by decide⟩

theorem isKey_stepsField : IsKey stepsField :=
  ⟨by decide, by decide, by decide⟩

theorem unwinds_step : Unwinds 2 1 4 [2, 0, -1] 2 [0, -1] :=
  fun _ _ => rfl

/-- A value with the lines behind it. -/
theorem behind_value {t : Text} {j : Nat} (w column : Nat)
    (characters : ∀ x ∈ t, isCharacter x = true) (wide : w < lineWidth) (deep : indent < w)
    (inside : indent ≤ j)
    (next : Next indent outer body ts) :
    Behind indent outer (Code.space :: (written w column t ++ Code.newline :: body)) j
      (valueToken t :: ts) := by
  obtain ⟨k, r, rfl, shallow, follows, rest⟩ := next
  exact behind_written (le_of_isCharacter characters) wide deep inside shallow follows rest

/-- The layout of a step, with what stands behind it. -/
theorem Step.written_append (s : Step) (body : Text) :
    s.written ++ body = Text.run Code.space 2 ++ Code.dash :: Code.space ::
      (findField ++ Code.colon :: Code.space ::
        (Yaml.written 6 (4 + findField.length + 2) s.find ++ Code.newline ::
          (Text.run Code.space 4 ++ (replaceField ++ Code.colon :: Code.space ::
            (Yaml.written 6 (4 + replaceField.length + 2) s.replacement ++
              Code.newline :: body))))) := by
  have item : Text.ofString "  - " = Text.run Code.space 2 ++ [Code.dash, Code.space] := by decide
  have line : Text.ofString "    " = Text.run Code.space 4 := by decide
  unfold Step.written writtenEntry
  rw [item, line]
  simp only [List.append_assoc, List.cons_append, List.nil_append]

theorem begins_key {key : Text} (isKey : IsKey key) (r : Text) : Begins (key ++ r) := by
  obtain ⟨x, t, split⟩ := List.exists_cons_of_ne_nil isKey.filled
  have member : x ∈ key := by
    rw [split]
    exact List.mem_cons_self
  have letter := isKey.letter member
  rw [split]
  exact begins_of_isSolid letter.1 letter.2.2.2.2.2

/-- **A step is read as an item of the list of steps.** -/
theorem next_step {s : Step} (writable : s.IsWritable) (unwinds : Unwinds 2 n indent outer 2 [0, -1])
    (few : n ≤ 4) (deep : 2 ≤ indent) (next : Next 4 [2, 0, -1] body (.blockEnd :: ts)) :
    Next indent outer (s.written ++ body) (List.replicate n .blockEnd ++ (s.tokens ++ ts)) := by
  have replacement := lexes_key isKey_replaceField (k := 4) (by decide) .same rfl
    (behind_value 6 (4 + replaceField.length + 2) writable.2 (by decide) (by decide) (by decide) next)
  have line : Next 4 [2, 0, -1] _ _ :=
    ⟨4, _, rfl, by decide, (begins_key isKey_replaceField _).follows (by decide), replacement⟩
  have find := lexes_key isKey_findField (k := 4) (by decide) (.new (by decide)) rfl
    (behind_value 6 (4 + findField.length + 2) writable.1 (by decide) (by decide) (by decide) line)
  have item := lexes_dash (k := 2) unwinds .same (begins_key isKey_findField _) few find
  refine ⟨2, _, s.written_append body, deep, ?_, ?_⟩
  · exact (begins_cons rfl (by decide) (by decide) _).follows (by decide)
  · simpa [Step.tokens, entryTokens] using item

/-- The steps of an operation behind another one. -/
theorem next_steps {steps : List Step} (writable : ∀ s ∈ steps, s.IsWritable)
    (next : Next 4 [2, 0, -1] body (.blockEnd :: ts)) :
    Next 4 [2, 0, -1] (steps.flatMap Step.written ++ body)
      (.blockEnd :: (steps.flatMap Step.tokens ++ ts)) := by
  induction steps with
  | nil => exact next
  | cons s steps ih =>
    obtain ⟨first, others⟩ := List.forall_mem_cons.1 writable
    have further := next_step first unwinds_step (by decide) (by decide) (ih others)
    simpa [List.flatMap_cons, List.append_assoc] using further

/-- What stands behind the colon of the steps: brackets if there is none, or else their lines. -/
def stepsBehind (steps : List Step) (body : Text) : Text :=
  if steps = [] then Code.space :: Code.openBracket :: Code.closeBracket :: Code.newline :: body
  else Code.newline :: (steps.flatMap Step.written ++ body)

theorem stepsBehind_eq_cons (steps : List Step) (body : Text) :
    ∃ g v, stepsBehind steps body = g :: v ∧ isGap g = true := by
  unfold stepsBehind
  split
  · exact ⟨_, _, rfl, rfl⟩
  · exact ⟨_, _, rfl, rfl⟩

/-- The list of steps is read as a sequence that is indented as its key is. -/
theorem behind_steps {steps : List Step} {j : Nat} (writable : ∀ s ∈ steps, s.IsWritable)
    (inside : (2 : Int) ≤ j) (bare : Next 2 [0, -1] body (.blockEnd :: ts))
    (next : Next 4 [2, 0, -1] body (.blockEnd :: .blockEnd :: ts)) :
    Behind 2 [0, -1] (stepsBehind steps body) j (stepsTokens steps ++ .blockEnd :: ts) := by
  unfold stepsBehind stepsTokens
  cases steps with
  | nil =>
    obtain ⟨k, r, rfl, shallow, follows, rest⟩ := bare
    exact behind_brackets inside (behind_line follows rest)
  | cons s further =>
    obtain ⟨first, others⟩ := List.forall_mem_cons.1 writable
    obtain ⟨k, r, split, -, follows, rest⟩ := next_step first (n := 0)
      (unwinds_of_le (Int.le_refl 2)) (by decide) (Int.le_refl 2) (next_steps others next)
    rw [if_neg (List.cons_ne_nil s further), if_neg (List.cons_ne_nil s further),
      List.flatMap_cons, List.append_assoc, split]
    simpa using behind_line (j := j) follows rest

/-- The layout of an operation, with what stands behind it. -/
theorem Operation.written_append (o : Operation) (body : Text) :
    o.written ++ body = Code.dash :: Code.space ::
      (nameField ++ Code.colon :: Code.space ::
        (Yaml.written 4 (2 + nameField.length + 2) o.name ++ Code.newline ::
          (Text.run Code.space 2 ++ (stepsField ++ Code.colon :: stepsBehind o.steps body)))) := by
  have item : Text.ofString "- " = [Code.dash, Code.space] := by decide
  have line : Text.ofString "  " = Text.run Code.space 2 := by decide
  have none : Text.ofString ": []\n" =
    [Code.colon, Code.space, Code.openBracket, Code.closeBracket, Code.newline] := by decide
  have some : Text.ofString ":\n" = [Code.colon, Code.newline] := by decide
  unfold Operation.written writtenEntry stepsBehind
  rw [item, line, none, some]
  split <;> simp only [List.append_assoc, List.cons_append, List.nil_append]

/-- **An operation is read as an item of the document.** -/
theorem lexes_operation {o : Operation} {start : List Token} {indent' : Int} {outer' : List Int}
    (name : ∀ x ∈ o.name, isCharacter x = true)
    (writable : ∀ s ∈ o.steps, s.IsWritable) (unwinds : Unwinds 0 n indent outer indent' outer')
    (few : n ≤ 4) (opens : Opens 0 .blockSequenceStart indent' outer' start 0 [-1])
    (bare : Next 2 [0, -1] body (.blockEnd :: ts))
    (next : Next 4 [2, 0, -1] body (.blockEnd :: .blockEnd :: ts)) :
    Lexes indent outer (o.written ++ body) 0
      (List.replicate n .blockEnd ++ (start ++ (o.tokens ++ ts))) := by
  have steps := behind_steps (j := 2 + stepsField.length + 1) writable (by decide) bare next
  obtain ⟨g, v, split, gap⟩ := stepsBehind_eq_cons o.steps body
  rw [o.written_append, split]
  rw [split] at steps
  have list := lexes_key isKey_stepsField (k := 2) (by decide) .same gap steps
  have line : Next 2 [0, -1] _ _ :=
    ⟨2, _, rfl, by decide, (begins_key isKey_stepsField _).follows (by decide), list⟩
  have name := lexes_key isKey_nameField (k := 2) (by decide) (.new (by decide)) rfl
    (behind_value 4 (2 + nameField.length + 2) name (by decide) (by decide) (by decide) line)
  have item := lexes_dash (k := 0) unwinds opens (begins_key isKey_nameField _) few name
  simpa [Operation.tokens, entryTokens] using item

/-- An operation whose texts are made of characters. -/
def Operation.IsWritable (o : Operation) : Prop :=
  (∀ x ∈ o.name, isCharacter x = true) ∧ ∀ s ∈ o.steps, s.IsWritable

theorem follows_operation (o : Operation) (body : Text) : Follows 0 (o.written ++ body) := by
  rw [o.written_append]
  refine ⟨begins_cons rfl (by decide) (by decide) _, ?_⟩
  have dash : Code.space ≠ Code.dash := by decide
  have dot : Code.dash ≠ Code.dot := by decide
  simp [Cursor.atSeparator, Text.run, dash, dot]

/-- The operations behind another one. -/
theorem next_operations {os : List Operation} (writable : ∀ o ∈ os, o.IsWritable) :
    ∀ {indent : Int} {outer : List Int} {n : Nat}, Unwinds 0 n indent outer 0 [-1] → n ≤ 4 →
      0 ≤ indent →
      Next indent outer (os.flatMap Operation.written)
        (List.replicate n .blockEnd ++ (os.flatMap Operation.tokens ++ [.blockEnd, .streamEnd])) := by
  induction os with
  | nil =>
    intro indent outer n unwinds few deep
    exact ⟨0, [], rfl, deep, ⟨⟨by decide, by decide, by decide⟩, by decide⟩, lexes_end unwinds few⟩
  | cons o os ih =>
    intro indent outer n unwinds few deep
    obtain ⟨⟨name, steps⟩, others⟩ := List.forall_mem_cons.1 writable
    have bare : Next 2 [0, -1] _ _ := ih others (n := 1) (fun _ _ => rfl) (by decide) (by decide)
    have next : Next 4 [2, 0, -1] _ _ := ih others (n := 2) (fun _ _ => rfl) (by decide) (by decide)
    have item := lexes_operation name steps unwinds few .same bare next
    refine ⟨0, o.written ++ os.flatMap Operation.written, List.flatMap_cons, deep,
      follows_operation o _, ?_⟩
    rw [List.flatMap_cons, List.append_assoc]
    exact item

/-- The tokens of a list of operations. -/
def documentTokens (os : List Operation) : List Token :=
  .blockSequenceStart :: (os.flatMap Operation.tokens ++ [.blockEnd, .streamEnd])

/-- **The document of operations is read into their tokens.** -/
theorem ofText_documentOfList {os : List Operation} (some : os ≠ [])
    (writable : ∀ o ∈ os, o.IsWritable) :
    Tokens.ofText (Operation.documentOfList os) = ⟨documentTokens os, none⟩ := by
  obtain ⟨o, os, rfl⟩ := List.exists_cons_of_ne_nil some
  obtain ⟨⟨name, steps⟩, others⟩ := List.forall_mem_cons.1 writable
  have bare : Next 2 [0, -1] _ _ :=
    next_operations others (n := 1) (fun _ _ => rfl) (by decide) (by decide)
  have next : Next 4 [2, 0, -1] _ _ :=
    next_operations others (n := 2) (fun _ _ => rfl) (by decide) (by decide)
  have first : Lexes (-1) [] _ 0 _ := lexes_operation name steps (n := 0) (fun _ _ => rfl)
    (by decide) (.new (by decide)) bare next
  have stands : Stands (-1) [] (o.written ++ os.flatMap Operation.written) 0 _ :=
    stands_of_spaces (n := 0) (follows_operation o _).toBegins 0 0 0 0
  have read := first _ _ stands (Nat.le_refl _)
  simp only [Operation.documentOfList, reduceCtorEq, if_false, documentTokens, List.flatMap_cons]
  rw [List.append_assoc]
  exact read

end Lexing

end EditorText.Replace
