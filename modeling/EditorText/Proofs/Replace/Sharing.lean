import EditorText.Proofs.Replace.Records
import EditorText.Proofs.Yaml.Printing

/-!
# Sharing operations

The document of a list of operations is always read into a list of as many operations with as many
steps, in the same order. Their texts come back as they were, except for one that holds the control
character for a next line and is written between single quotes: there the reader takes the character
for a line end.
-/

set_option autoImplicit false

namespace EditorText.Replace

open Yaml

/-- The texts of an operation. -/
def Operation.texts (o : Operation) : List Text :=
  o.name :: o.steps.flatMap fun s => [s.find, s.replacement]

/-- An operation with a name and with texts of characters. -/
structure Operation.IsShareable (o : Operation) : Prop where
  named : o.name ≠ []
  characters : ∀ t ∈ o.texts, ∀ x ∈ t, isCharacter x = true

section Documents

variable {os : List Operation}

theorem isDocumentCode_writtenEntry {key : Text} (proper : ∀ x ∈ key, isDocumentCode x = true)
    (column indent : Nat) (value : Text) :
    ∀ x ∈ writtenEntry column indent key value, isDocumentCode x = true := by
  have written := isDocumentCode_written indent (column + key.length + 2) value
  simp only [writtenEntry, List.forall_mem_append, List.forall_mem_cons]
  exact ⟨⟨proper, by decide, by decide, written⟩, by decide⟩

theorem isDocumentCode_step (s : Step) : ∀ x ∈ s.written, isDocumentCode x = true := by
  simp only [Step.written, List.forall_mem_append]
  exact ⟨⟨⟨by decide, isDocumentCode_writtenEntry (by decide) 4 6 s.find⟩, by decide⟩,
    isDocumentCode_writtenEntry (by decide) 4 6 s.replacement⟩

theorem isDocumentCode_operation (o : Operation) : ∀ x ∈ o.written, isDocumentCode x = true := by
  simp only [Operation.written, List.forall_mem_append]
  refine ⟨⟨⟨⟨by decide, isDocumentCode_writtenEntry (by decide) 2 4 o.name⟩, by decide⟩,
    by decide⟩, ?_⟩
  split
  · decide
  · rw [List.forall_mem_append, List.forall_mem_flatMap]
    exact ⟨by decide, fun s _ => isDocumentCode_step s⟩

/-- **The document of operations holds characters of documents only**, whatever their texts. -/
theorem isDocumentCode_documentOfList (os : List Operation) :
    ∀ x ∈ Operation.documentOfList os, isDocumentCode x = true := by
  unfold Operation.documentOfList
  split
  · decide
  · exact List.forall_mem_flatMap.2 fun o _ => isDocumentCode_operation o

theorem listOfDocument_brackets : Operation.listOfDocument (Text.ofString "[]\n") = .ok [] := by
  rfl

/-- **The document of operations is loaded as the list of their records.** -/
theorem load_documentOfList (some : os ≠ []) (writable : ∀ o ∈ os, o.IsWritable) :
    Yaml.load (Operation.documentOfList os) documentDepth =
      .ok (.list ((os.map Operation.reread).map Operation.toValue)) := by
  have proper : (Operation.documentOfList os).all isDocumentCode = true :=
    List.all_eq_true.2 (isDocumentCode_documentOfList os)
  have tokens := ofText_documentOfList some writable
  obtain ⟨ns, made, orderly, inside, shown⟩ := ofTokens_documentTokens os
  rw [Yaml.load, Document.ofText, if_pos proper, tokens, made, List.map_map]
  exact (value_eq_shown orderly inside documentDepth).trans (congrArg Except.ok shown)

/-- **A document of operations is read into the operations that its scalars stand for.** -/
theorem listOfDocument_eq_reread (writable : ∀ o ∈ os, o.IsWritable)
    (named : ∀ o ∈ os, o.reread.IsNamed) :
    Operation.listOfDocument (Operation.documentOfList os) = .ok (os.map Operation.reread) := by
  cases os with
  | nil => exact listOfDocument_brackets
  | cons o os =>
    rw [Operation.listOfDocument, load_documentOfList (List.cons_ne_nil o os) writable]
    exact listOfValue_toValue (List.forall_mem_map.2 named)

end Documents

section Sharing

variable {o : Operation} {os : List Operation}

theorem isCharacter_of_mem_reread {t : Text} (characters : ∀ x ∈ t, isCharacter x = true) :
    ∀ x ∈ Yaml.reread t, isCharacter x = true := by
  intro x member
  rcases mem_reread member with inside | rfl | rfl
  · exact characters x inside
  · rfl
  · rfl

theorem Operation.IsShareable.isWritable (shareable : o.IsShareable) : o.IsWritable := by
  refine ⟨shareable.characters o.name List.mem_cons_self, fun s member => ?_⟩
  have texts {t : Text} (part : t ∈ [s.find, s.replacement]) : t ∈ o.texts :=
    List.mem_cons_of_mem _ (List.mem_flatMap.2 ⟨s, member, part⟩)
  exact ⟨shareable.characters s.find (texts (by simp)),
    shareable.characters s.replacement (texts (by simp))⟩

theorem Operation.IsShareable.isNamed_reread (shareable : o.IsShareable) : o.reread.IsNamed := by
  refine ⟨reread_ne_nil shareable.named, List.any_eq_false.2 fun x member => ?_⟩
  have character := isCharacter_of_mem_reread
    (shareable.characters o.name List.mem_cons_self) x member
  simp only [isCharacter, Bool.and_eq_true, Bool.not_eq_true'] at character
  exact ne_true_of_eq_false character.2

theorem map_eq_self_iff {α : Type} {f : α → α} {xs : List α} :
    xs.map f = xs ↔ ∀ x ∈ xs, f x = x := by
  simpa only [List.map_id, id_eq] using List.map_inj_left (g := id)

theorem step_reread_eq_iff {s : Step} :
    s.reread = s ↔ ∀ t ∈ [s.find, s.replacement], Yaml.reread t = t := by
  obtain ⟨find, replacement⟩ := s
  simp [Step.reread]

/-- An operation comes back if its texts do. -/
theorem operation_reread_eq_iff : o.reread = o ↔ ∀ t ∈ o.texts, Yaml.reread t = t := by
  obtain ⟨name, steps⟩ := o
  rw [Operation.reread, Operation.mk.injEq, map_eq_self_iff, Operation.texts,
    List.forall_mem_cons, List.forall_mem_flatMap]
  simp only [step_reread_eq_iff]

theorem map_reread_eq_iff : os.map Operation.reread = os ↔
    ∀ o ∈ os, ∀ t ∈ o.texts, nextLineMark ∈ t → allowsSingle t = false := by
  simp only [map_eq_self_iff, operation_reread_eq_iff, reread_eq_iff]

/-- **Shared operations are read back as a list of as many operations with as many steps**, in the
same order and with the texts that reading makes of theirs; and it is the same list if and only if
each text that holds the mark of a next line also holds a character that cannot be seen, or a space
beside a line end. -/
theorem listOfDocument_documentOfList (shareable : ∀ o ∈ os, o.IsShareable) :
    Operation.listOfDocument (Operation.documentOfList os) = .ok (os.map Operation.reread) ∧
      (Operation.listOfDocument (Operation.documentOfList os) = .ok os ↔
        ∀ o ∈ os, ∀ t ∈ o.texts, nextLineMark ∈ t → allowsSingle t = false) := by
  have read := listOfDocument_eq_reread (fun o member => (shareable o member).isWritable)
    fun o member => (shareable o member).isNamed_reread
  refine ⟨read, ?_⟩
  rw [read, Except.ok.injEq]
  exact map_reread_eq_iff

/-- An operation whose texts need each way of writing: a name that reads as a number, a sign that
begins a comment, the mark of a next line behind a tab, and a backslash at the end. -/
def cleaning : Operation :=
  ⟨Text.ofString "12", [⟨Text.ofString "a: # b", []⟩,
    ⟨9 :: nextLineMark :: Text.ofString " c", Text.ofString "no"⟩,
    ⟨Text.ofString "- 'd'", Text.ofString "e\\"⟩]⟩

theorem listOfDocument_documentOfList_cleaning :
    (∀ o ∈ [cleaning, ⟨Text.ofString "x", []⟩], o.IsShareable) ∧
      Operation.listOfDocument
          (Operation.documentOfList [cleaning, ⟨Text.ofString "x", []⟩]) =
        .ok [cleaning, ⟨Text.ofString "x", []⟩] := by
  have shareable : ∀ o ∈ [cleaning, ⟨Text.ofString "x", []⟩], o.IsShareable :=
    List.forall_mem_cons.2 ⟨⟨by decide, by decide⟩,
      List.forall_mem_singleton.2 ⟨by decide, by decide⟩⟩
  exact ⟨shareable, (listOfDocument_documentOfList shareable).2.2 (by decide)⟩

/-- An operation that looks for the mark of a next line. -/
def joining : Operation :=
  ⟨Text.ofString "x", [⟨[97, nextLineMark, 98], []⟩]⟩

/-- The mark stands in the document as it is, and the reader folds it to a space. -/
theorem listOfDocument_documentOfList_ne :
    joining.IsShareable ∧
      Operation.listOfDocument (Operation.documentOfList [joining]) =
        .ok [⟨Text.ofString "x", [⟨Text.ofString "a b", []⟩]⟩] ∧
      Operation.listOfDocument (Operation.documentOfList [joining]) ≠ .ok [joining] := by
  have shareable : joining.IsShareable := ⟨by decide, by decide⟩
  have folded : [joining].map Operation.reread =
      [⟨Text.ofString "x", [⟨Text.ofString "a b", []⟩]⟩] := by decide
  have read := listOfDocument_eq_reread (List.forall_mem_singleton.2 shareable.isWritable)
    (List.forall_mem_singleton.2 shareable.isNamed_reread)
  rw [folded] at read
  refine ⟨shareable, read, ?_⟩
  rw [read, Ne, Except.ok.injEq]
  decide

end Sharing

end EditorText.Replace
