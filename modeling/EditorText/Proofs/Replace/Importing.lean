import EditorText.Proofs.Replace.Acceptance
import EditorText.Proofs.Replace.Sharing

/-!
# Importing operations

What the operations of a document are is said by its value: null has none, and a list has those
whose records its items are. The import takes these and fails for every other value, except that it
also takes values that count as nothing for an empty list (`listOfDocument_exactly`). Values are
looked at down to `documentDepth`; deeper ones show no more operations.
-/

set_option autoImplicit false

namespace EditorText.Replace

open Yaml (Value Made NodeId Entry)

/-- A value that counts as nothing, but is neither null nor a list. -/
inductive IsVoid : Value → Prop where
  | no : IsVoid (.bool false)
  | zero : IsVoid (.int 0)
  | realZero {x : Float} : (x == 0) = true → IsVoid (.float x)
  | text : IsVoid (.text [])
  | bytes : IsVoid (.bytes [])
  | mapping : IsVoid (.mapping [])
  | set : IsVoid (.set [])

/-- The operations of a value: none of null, and of a list those whose records it has. -/
inductive AreOperations : Value → List Operation → Prop where
  | null : AreOperations .null []
  | list {items : List Value} {os : List Operation} : List.Forall₂ Operation.IsOf items os →
      AreOperations (.list items) os

section Values

variable {v : Value} {os : List Operation}

theorem isEmpty_iff : v.isEmpty = true ↔ IsVoid v ∨ AreOperations v [] := by
  constructor
  · intro empty
    cases v with
    | null => exact .inr .null
    | bool b =>
      cases b with
      | false => exact .inl .no
      | true => cases empty
    | int n =>
      obtain rfl : n = 0 := by simpa [Value.isEmpty] using empty
      exact .inl .zero
    | float x => exact .inl (.realZero empty)
    | text t =>
      obtain rfl := List.isEmpty_iff.1 empty
      exact .inl .text
    | bytes bs =>
      obtain rfl := List.isEmpty_iff.1 empty
      exact .inl .bytes
    | list items =>
      obtain rfl := List.isEmpty_iff.1 empty
      exact .inr (.list .nil)
    | mapping es =>
      obtain rfl := List.isEmpty_iff.1 empty
      exact .inl .mapping
    | set ks =>
      obtain rfl := List.isEmpty_iff.1 empty
      exact .inl .set
    | date | time | pair => cases empty
  · rintro (void | none)
    · cases void with
      | realZero zero => exact zero
      | _ => rfl
    · cases none with
      | null => rfl
      | list none =>
        cases none
        rfl

theorem not_areOperations_of_isVoid (void : IsVoid v) : ¬ AreOperations v os := by
  cases void <;> nofun

theorem listOfValue_eq_ok_iff :
    Operation.listOfValue v = .ok os ↔ IsVoid v ∧ os = [] ∨ AreOperations v os := by
  unfold Operation.listOfValue
  by_cases empty : v.isEmpty = true
  · rw [if_pos empty, Except.ok.injEq, eq_comm]
    rcases isEmpty_iff.1 empty with void | none
    · simp [void, not_areOperations_of_isVoid void]
    · have other : ¬ IsVoid v := fun void => not_areOperations_of_isVoid void none
      rw [or_iff_right (fun h => other h.1)]
      constructor
      · rintro rfl
        exact none
      · intro some
        cases none with
        | null =>
          cases some
          rfl
        | list none =>
          cases none
          cases some with
          | list some =>
            cases some
            rfl
  · have other : ¬ IsVoid v := fun void => empty (isEmpty_iff.2 (.inl void))
    rw [if_neg empty, or_iff_right (fun h => other h.1)]
    split
    · rw [mapM_ofItem_eq_ok_iff]
      refine ⟨.list, fun listed => ?_⟩
      cases listed with
      | list each => exact each
    · next noList =>
      refine iff_of_false nofun fun some => ?_
      cases some with
      | null => exact empty rfl
      | list _ => exact noList _ rfl

end Values

section Depth

variable {made : Array (Option Made)} {i : NodeId} {j k : Nat} {t : Text} {es : List Entry}

/-- The entries of a mapping as they are shown. -/
def shownEntries (made : Array (Option Made)) (k : Nat) (es : List Entry) : List (Value × Value) :=
  es.map fun e => (Made.tree made e.1 k, Made.tree made e.2 k)

/-- A text or bytes are shown at every depth. -/
theorem tree_eq_of_gives (given : Gives (Made.tree made i j) t) (k : Nat) :
    Made.tree made i k = Made.tree made i j := by
  cases kind : (made[i]?).join with
  | none => cases j <;> (rw [Made.tree, kind] at given; cases given)
  | some m =>
    cases m with
    | scalar v => cases j <;> cases k <;> simp only [Made.tree, kind]
    | _ => cases j <;> (rw [Made.tree, kind] at given; cases given)

theorem gives_tree (given : Gives (Made.tree made i j) t) (k : Nat) :
    Gives (Made.tree made i k) t := by
  rwa [tree_eq_of_gives given k]

theorem tree_eq_text_iff (j k : Nat) :
    Made.tree made i j = .text t ↔ Made.tree made i k = .text t := by
  constructor
  · intro same
    rw [tree_eq_of_gives (j := j) (by rw [same]; exact .text) k, same]
  · intro same
    rw [tree_eq_of_gives (j := k) (by rw [same]; exact .text) j, same]

/-- What a node is shown as: a scalar at every depth, or a collection of what its parts are shown as
one level less deep. -/
theorem tree_cases (made : Array (Option Made)) (i : NodeId) :
    (∃ v, ∀ k, Made.tree made i k = v) ∨
      (∃ ids : List NodeId, ∀ k,
        Made.tree made i (k + 1) = .list (ids.map fun i => Made.tree made i k)) ∨
      (∃ es : List Entry, ∀ k, Made.tree made i (k + 1) =
        .list (es.map fun e => .pair (Made.tree made e.1 k) (Made.tree made e.2 k))) ∨
      (∃ es : List Entry, ∀ k, Made.tree made i (k + 1) = .mapping (shownEntries made k es)) ∨
      ∃ ids : List NodeId, ∀ k,
        Made.tree made i (k + 1) = .set (ids.map fun i => Made.tree made i k) := by
  cases kind : (made[i]?).join with
  | none => exact .inl ⟨.null, fun k => by cases k <;> rw [Made.tree, kind]⟩
  | some m =>
    cases m with
    | scalar v => exact .inl ⟨v, fun k => by cases k <;> rw [Made.tree, kind]⟩
    | list ids => exact .inr (.inl ⟨ids, fun k => by rw [Made.tree, kind]⟩)
    | pairs es => exact .inr (.inr (.inl ⟨es, fun k => by rw [Made.tree, kind]⟩))
    | mapping es => exact .inr (.inr (.inr (.inl ⟨es, fun k => by rw [Made.tree, kind]; rfl⟩)))
    | set ids => exact .inr (.inr (.inr (.inr ⟨ids, fun k => by rw [Made.tree, kind]⟩)))

theorem fieldValue?_cons_of_ne {n : Text} {key v : Value} {es : List (Value × Value)}
    (other : key ≠ .text n) : fieldValue? n ((key, v) :: es) = fieldValue? n es := by
  cases key with
  | text t =>
    have differ : t ≠ n := fun same => other (by rw [same])
    rw [fieldValue?, if_neg differ]
  | _ => rfl

/-- A field is one and the same node at every depth. -/
theorem fieldValue?_shownEntries (made : Array (Option Made)) (n : Text) (es : List Entry)
    (j k : Nat) :
    fieldValue? n (shownEntries made j es) = none ∧ fieldValue? n (shownEntries made k es) = none ∨
      ∃ i, fieldValue? n (shownEntries made j es) = some (Made.tree made i j) ∧
        fieldValue? n (shownEntries made k es) = some (Made.tree made i k) := by
  induction es with
  | nil => exact .inl ⟨rfl, rfl⟩
  | cons e es ih =>
    by_cases same : Made.tree made e.1 j = .text n
    · have same' := (tree_eq_text_iff j k).1 same
      refine .inr ⟨e.2, ?_, ?_⟩
      · rw [shownEntries, List.map_cons, same, fieldValue?, if_pos rfl]
      · rw [shownEntries, List.map_cons, same', fieldValue?, if_pos rfl]
    · have other' := fun same' => same ((tree_eq_text_iff j k).2 same')
      have cons {l : Nat} (other : Made.tree made e.1 l ≠ .text n) :
          fieldValue? n (shownEntries made l (e :: es)) = fieldValue? n (shownEntries made l es) :=
        fieldValue?_cons_of_ne other
      rwa [cons same, cons other']

theorem fieldValue?_ne_none {n : Text} (there : fieldValue? n (shownEntries made j es) ≠ none)
    (k : Nat) : fieldValue? n (shownEntries made k es) ≠ none := by
  rcases fieldValue?_shownEntries made n es j k with ⟨none, -⟩ | ⟨i, -, found⟩
  · exact absurd none there
  · simp [found]

theorem GivesOr.shownEntries {α : Type} {P : Value → α → Prop} {usual a : α} {n : Text}
    (h : GivesOr P usual (fieldValue? n (shownEntries made j es)) a)
    (keeps : ∀ i a, P (Made.tree made i j) a → P (Made.tree made i k) a) :
    GivesOr P usual (fieldValue? n (shownEntries made k es)) a := by
  rcases fieldValue?_shownEntries made n es j k with ⟨none, none'⟩ | ⟨i, found, found'⟩
  · rw [none] at h
    rwa [none']
  · rw [found] at h
    rw [found']
    rcases h with ⟨none, -⟩ | ⟨v, same, holds⟩
    · cases none
    · obtain rfl := Option.some.inj same
      exact .inr ⟨_, rfl, keeps i a holds⟩

theorem OnlyFields.shownEntries {names : List Text}
    (h : OnlyFields names (shownEntries made j es)) (k : Nat) :
    OnlyFields names (shownEntries made k es) := by
  refine List.forall_mem_map.2 fun e inside => ?_
  obtain ⟨t, known, given, there⟩ := List.forall_mem_map.1 h e inside
  exact ⟨t, known, gives_tree given k, fieldValue?_ne_none there k⟩

/-- The field that a text is found in. -/
theorem exists_field {n : Text} {v : Value}
    (found : fieldValue? n (shownEntries made j es) = some v) (given : Gives v t) (k : Nat) :
    ∃ w, fieldValue? n (shownEntries made k es) = some w ∧ Gives w t := by
  rcases fieldValue?_shownEntries made n es j k with ⟨none, -⟩ | ⟨i, found', there⟩
  · rw [none] at found
    cases found
  · obtain rfl := Option.some.inj (found'.symm.trans found)
    exact ⟨_, there, gives_tree given k⟩

theorem step_isOf_tree {s : Step} (h : Step.IsOf (Made.tree made i (j + 1)) s) (k : Nat) :
    Step.IsOf (Made.tree made i (k + 1)) s := by
  obtain ⟨v, shown⟩ | ⟨_, shown⟩ | ⟨_, shown⟩ | ⟨es, shown⟩ | ⟨_, shown⟩ := tree_cases made i
  all_goals rw [shown] at h ⊢
  · exact h
  · cases h
  · cases h
  · obtain ⟨found, given, replaced, fields⟩ := h
    obtain ⟨w, found', given'⟩ := exists_field found given k
    exact .mk found' given' (replaced.shownEntries fun i t given => gives_tree given k)
      (fields.shownEntries k)
  · cases h

/-- No pair is a record. -/
theorem eq_nil_of_pairs {α : Type} {P : Value → α → Prop} (none : ∀ v w a, ¬ P (.pair v w) a)
    {as : List α} (h : List.Forall₂ P (es.map fun e =>
      .pair (Made.tree made e.1 j) (Made.tree made e.2 j)) as) : es = [] ∧ as = [] := by
  cases es with
  | nil =>
    cases h
    exact ⟨rfl, rfl⟩
  | cons e es =>
    rcases h with _ | ⟨first, -⟩
    exact absurd first (none _ _ _)

theorem areSteps_tree {steps : List Step} (h : AreSteps (Made.tree made i (j + 2)) steps)
    (k : Nat) : AreSteps (Made.tree made i (k + 2)) steps := by
  have each {ids : List NodeId}
      (all : List.Forall₂ Step.IsOf (ids.map fun i => Made.tree made i (j + 1)) steps) :
      List.Forall₂ Step.IsOf (ids.map fun i => Made.tree made i (k + 1)) steps := by
    rw [List.forall₂_map_left_iff] at all ⊢
    exact all.imp fun i s shown => step_isOf_tree shown k
  obtain ⟨vs, holds, all⟩ := h
  obtain ⟨v, shown⟩ | ⟨ids, shown⟩ | ⟨es, shown⟩ | ⟨es, shown⟩ | ⟨ids, shown⟩ := tree_cases made i
  all_goals rw [shown] at holds ⊢
  · exact ⟨vs, holds, all⟩
  · cases holds
    exact ⟨_, .list, each all⟩
  · cases holds
    obtain ⟨rfl, rfl⟩ := eq_nil_of_pairs (fun _ _ _ => nofun) all
    exact ⟨_, .list, .nil⟩
  · cases holds
  · cases holds
    exact ⟨_, .set, each all⟩

theorem operation_isOf_tree {o : Operation} (h : Operation.IsOf (Made.tree made i (j + 3)) o)
    (k : Nat) : Operation.IsOf (Made.tree made i (k + 3)) o := by
  obtain ⟨v, shown⟩ | ⟨_, shown⟩ | ⟨_, shown⟩ | ⟨es, shown⟩ | ⟨_, shown⟩ := tree_cases made i
  all_goals rw [shown] at h ⊢
  · exact h
  · cases h
  · cases h
  · obtain ⟨found, given, filled, proper, stepped, fields, keys⟩ := h
    obtain ⟨w, found', given'⟩ := exists_field found given (k + 2)
    refine .mk found' given' filled proper
      (stepped.shownEntries fun i steps all => areSteps_tree all k) (fields.shownEntries (k + 2))
      (List.forall_mem_map.2 fun e inside => ?_)
    obtain ⟨t, same⟩ := List.forall_mem_map.1 keys e inside
    exact ⟨t, (tree_eq_text_iff (j + 2) (k + 2)).1 same⟩
  · cases h

/-- **Deeper down there are no more operations.** -/
theorem areOperations_tree {os : List Operation} (h : AreOperations (Made.tree made i (j + 4)) os)
    (k : Nat) : AreOperations (Made.tree made i (k + 4)) os := by
  obtain ⟨v, shown⟩ | ⟨ids, shown⟩ | ⟨es, shown⟩ | ⟨_, shown⟩ | ⟨_, shown⟩ := tree_cases made i
  all_goals rw [shown] at h ⊢
  · exact h
  · obtain _ | all := h
    rw [List.forall₂_map_left_iff] at all
    refine .list (List.forall₂_map_left_iff.2 (all.imp fun i o record => ?_))
    exact operation_isOf_tree record k
  · obtain _ | all := h
    obtain ⟨rfl, rfl⟩ := eq_nil_of_pairs (fun _ _ _ => nofun) all
    exact .list .nil
  · cases h
  · cases h

theorem isVoid_tree (h : IsVoid (Made.tree made i (j + 1))) (k : Nat) :
    IsVoid (Made.tree made i (k + 1)) := by
  obtain ⟨v, shown⟩ | ⟨_, shown⟩ | ⟨_, shown⟩ | ⟨es, shown⟩ | ⟨ids, shown⟩ := tree_cases made i
  all_goals rw [shown] at h ⊢
  · exact h
  · cases h
  · cases h
  · cases es with
    | nil => exact .mapping
    | cons e es => cases h
  · cases ids with
    | nil => exact .set
    | cons id ids => cases h

end Depth

section Documents

variable {t : Text} {d : Nat} {v : Value}

/-- A text that is loaded holds the same at every depth, only shown further. -/
theorem exists_tree (loaded : Yaml.load t d = .ok v) :
    ∃ made i, ∀ k, Yaml.load t k = .ok (Made.tree made i k) := by
  unfold Yaml.load at loaded ⊢
  cases read : Yaml.Document.ofText t with
  | error e =>
    rw [read] at loaded
    cases loaded
  | ok document =>
    cases document with
    | none => exact ⟨#[], 0, fun k => by cases k <;> rfl⟩
    | some document =>
      simp only [read, bind, Except.bind, Yaml.Document.value] at loaded ⊢
      split at loaded
      · cases loaded
      · next made _ => exact ⟨made.2.made, document.top, fun k => rfl⟩

/-- **An import takes the operations of a document.** It fails for every value that has none, but
for the values that count as nothing: these it takes for an empty list. -/
theorem listOfDocument_exactly (deep : documentDepth ≤ d) (loaded : Yaml.load t d = .ok v) :
    (∀ os, Operation.listOfDocument t = .ok os ↔ IsVoid v ∧ os = [] ∨ AreOperations v os) ∧
      ((∃ e, Operation.listOfDocument t = .error e) ↔ ¬ IsVoid v ∧ ∀ os, ¬ AreOperations v os) ∧
      ((∀ os, Operation.listOfDocument t = .ok os ↔ AreOperations v os) ↔ ¬ IsVoid v) := by
  have accepted : ∀ os, Operation.listOfDocument t = .ok os ↔
      IsVoid v ∧ os = [] ∨ AreOperations v os := by
    obtain ⟨made, i, trees⟩ := exists_tree loaded
    obtain ⟨n, rfl⟩ := Nat.exists_eq_add_of_le' deep
    obtain rfl := Except.ok.inj (loaded.symm.trans (trees _))
    have read : Operation.listOfDocument t =
        Operation.listOfValue (Made.tree made i documentDepth) := by
      rw [Operation.listOfDocument, trees]
      rfl
    intro os
    rw [read, listOfValue_eq_ok_iff]
    refine or_congr (and_congr_left fun _ => ?_) ?_
    · exact ⟨fun void => isVoid_tree (j := 3) void (n + 3),
        fun void => isVoid_tree (j := n + 3) void 3⟩
    · exact ⟨fun some => areOperations_tree (j := 0) some n,
        fun some => areOperations_tree (j := n) some 0⟩
  refine ⟨accepted, ?_, ?_⟩
  · cases answer : Operation.listOfDocument t with
    | error e =>
      refine iff_of_true ⟨e, rfl⟩ ⟨fun void => ?_, fun os some => ?_⟩
      · cases answer.symm.trans ((accepted []).2 (.inl ⟨void, rfl⟩))
      · cases answer.symm.trans ((accepted os).2 (.inr some))
    | ok os =>
      constructor
      · rintro ⟨e, wrong⟩
        cases wrong
      · rintro ⟨other, none⟩
        rcases (accepted os).1 answer with ⟨void, -⟩ | some
        · exact absurd void other
        · exact absurd some (none os)
  · constructor
    · intro claimed void
      have taken := (accepted []).2 (.inl ⟨void, rfl⟩)
      exact not_areOperations_of_isVoid void ((claimed []).1 taken)
    · intro other os
      rw [accepted, or_iff_right (fun h => other h.1)]

theorem listOfDocument_exactly_cleaning :
    documentDepth ≤ documentDepth ∧
      (∃ v, Yaml.load (Operation.documentOfList [cleaning]) documentDepth = .ok v ∧ ¬ IsVoid v) ∧
      Operation.listOfDocument (Operation.documentOfList [cleaning]) = .ok [cleaning] := by
  have shareable : cleaning.IsShareable := ⟨by decide, by decide⟩
  have same : [cleaning].map Operation.reread = [cleaning] := by decide
  have loaded := load_documentOfList (List.cons_ne_nil cleaning [])
    (List.forall_mem_singleton.2 shareable.isWritable)
  rw [same] at loaded
  have record := ofItem_eq_ok_iff.1 (ofItem_toValue ⟨shareable.named, by decide⟩)
  refine ⟨Nat.le_refl _, ⟨_, loaded, nofun⟩, ?_⟩
  exact ((listOfDocument_exactly (Nat.le_refl _) loaded).1 _).2 (.inr (.list (.cons record .nil)))

/-- An empty mapping is taken for an empty list. -/
theorem listOfDocument_nothing :
    Yaml.load (Text.ofString "\x7b\x7d") documentDepth = .ok (.mapping []) ∧
      Operation.listOfDocument (Text.ofString "\x7b\x7d") = .ok [] ∧
      ∀ os, ¬ AreOperations (.mapping []) os := by
  exact ⟨rfl, rfl, fun os => nofun⟩

end Documents

end EditorText.Replace
