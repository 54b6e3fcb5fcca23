import EditorText.Proofs.Replace.Tokens
import EditorText.Proofs.Yaml.Loading

/-!
# Operations and their records

A record with a name and steps is accepted as the operation that it is of, and the tokens of an
operation are read into such a record.
-/

set_option autoImplicit false

namespace EditorText.Replace

open Yaml Yaml.Reader

/-- A step as a value. -/
def Step.toValue (s : Step) : Value :=
  .mapping [(.text findField, .text s.find), (.text replaceField, .text s.replacement)]

/-- An operation as a value. -/
def Operation.toValue (o : Operation) : Value :=
  .mapping [(.text nameField, .text o.name), (.text stepsField, .list (o.steps.map Step.toValue))]

/-- The name of an operation can be saved. -/
def Operation.IsNamed (o : Operation) : Prop :=
  o.name ≠ [] ∧ o.name.any Code.isSurrogate = false

theorem ofValue_toValue (s : Step) : Step.ofValue s.toValue = .ok s := rfl

theorem each_toValue (steps : List Step) (index : Nat) :
    Checked.each Step.ofValue index (steps.map Step.toValue) = .ok steps := by
  induction steps generalizing index with
  | nil => rfl
  | cons s steps ih =>
    rw [List.map_cons, Checked.each, ofValue_toValue, ih]
    rfl

theorem checkName_text {name : Text} (filled : name ≠ [])
    (proper : name.any Code.isSurrogate = false) : checkName (.text name) = .ok name := by
  simp [checkName, checkText, bind, Except.bind, proper, filled]

/-- A record of an operation has no field too many and no field too few. -/
theorem ofItem_toValue {o : Operation} (named : o.IsNamed) : Operation.ofItem o.toValue = .ok o := by
  have fields : Operation.ofItem o.toValue =
      (Except.map (·.1) (Checked.both
        (Except.map (fun f : Text × List Step => (⟨f.1, f.2⟩ : Operation)) (Checked.both
          (.behind (.field nameField) (checkName (.text o.name)))
          (.behind (.field stepsField) (Checked.each Step.ofValue 0 (o.steps.map Step.toValue)))))
        (.ok ()))).mapError .invalid := rfl
  rw [fields, checkName_text named.1 named.2, each_toValue]
  rfl

/-- **The records of operations are accepted as the operations that they are of.** -/
theorem listOfValue_toValue {os : List Operation} (named : ∀ o ∈ os, o.IsNamed) :
    Operation.listOfValue (.list (os.map Operation.toValue)) = .ok os := by
  have items : (os.map Operation.toValue).mapM Operation.ofItem = .ok os := by
    induction os with
    | nil => rfl
    | cons o os ih =>
      obtain ⟨first, others⟩ := List.forall_mem_cons.1 named
      rw [List.map_cons, List.mapM_cons, ofItem_toValue first, ih others]
      rfl
  cases os with
  | nil => rfl
  | cons o os => exact items

section Reading

variable {rest : List Token} {depth fuel : Nat}

/-- What is read of a step that was written. -/
def Step.reread (s : Step) : Step :=
  ⟨Yaml.reread s.find, Yaml.reread s.replacement⟩

/-- What is read of an operation that was written. -/
def Operation.reread (o : Operation) : Operation :=
  ⟨Yaml.reread o.name, o.steps.map Step.reread⟩

theorem makes_value (t : Text) :
    Makes (node true true (fuel + 1)) [valueToken t] rest depth (.text (Yaml.reread t)) := by
  refine makes_text (fun plain => ?_) true true
  have style := of_decide_eq_true plain
  have other : styleOf t ≠ .single := by
    rw [style]
    decide
  rw [Yaml.reread, if_neg other]
  exact (styleOf_eq_plain style).2.1

theorem begun_value (t : Text) (ts : List Token) : Begun (valueToken t :: ts) :=
  ⟨valueToken t, ts, rfl, by rintro ⟨⟩, by rintro ⟨⟩, by rintro ⟨⟩⟩

/-- The tokens of a step behind those that begin an item. -/
theorem makes_step (s : Step) :
    Makes (node true false (fuel + 6))
      (.blockMappingStart :: (entryTokens findField [valueToken s.find] ++
        (entryTokens replaceField [valueToken s.replacement] ++ [.blockEnd]))) rest (depth + 1)
      s.reread.toValue := by
  have once : [findField, replaceField].Nodup := by decide
  have find : plainTag findField = .text := by decide
  have replace : plainTag replaceField = .text := by decide
  exact makes_mapping false (makesEntries_cons find (begun_value s.find _) (makes_value s.find)
    (makesEntries_cons replace (begun_value s.replacement _) (makes_value s.replacement)
      makesEntries_end)) once

/-- The steps of an operation, which end where the operation ends. -/
theorem makes_steps (steps : List Step) (enough : steps.length + 6 ≤ fuel) :
    MakesAll (dashedItems · fuel) (steps.flatMap Step.tokens) (.blockEnd :: rest) (depth + 1)
      (steps.map fun s => s.reread.toValue) := by
  induction steps generalizing fuel with
  | nil =>
    obtain ⟨fuel, rfl⟩ := Nat.exists_eq_succ_of_ne_zero (Nat.ne_zero_of_lt enough)
    exact makesAll_dashedItems_end
  | cons s steps ih =>
    rw [List.length_cons] at enough
    obtain ⟨fuel, rfl⟩ : ∃ n, fuel = n + 6 + 1 := ⟨fuel - 7, by omega⟩
    exact makesAll_dashedItems_cons (makes_step s) (ih (by omega))

/-- The list of steps, in brackets if there is none. -/
theorem makes_stepsTokens (steps : List Step) (enough : steps.length + 7 ≤ fuel) :
    Makes (node true true fuel) (stepsTokens steps) (.blockEnd :: rest) (depth + 2)
      (.list (steps.map fun s => s.reread.toValue)) := by
  obtain ⟨fuel, rfl⟩ : ∃ n, fuel = n + 2 := ⟨fuel - 2, by omega⟩
  cases steps with
  | nil => exact makes_brackets true true
  | cons s steps =>
    exact makes_dashes true (makes_steps (s :: steps) (by omega))

theorem begun_stepsTokens (steps : List Step) (ts : List Token) :
    Begun (stepsTokens steps ++ ts) := by
  cases steps with
  | nil => exact ⟨.flowSequenceStart, _, rfl, by rintro ⟨⟩, by rintro ⟨⟩, by rintro ⟨⟩⟩
  | cons s steps => exact ⟨.blockEntry, _, rfl, by rintro ⟨⟩, by rintro ⟨⟩, by rintro ⟨⟩⟩

/-- The tokens of an operation behind those that begin an item. -/
theorem makes_operation (o : Operation) (enough : o.steps.length + 12 ≤ fuel) :
    Makes (node true false fuel) (.blockMappingStart :: (entryTokens nameField [valueToken o.name] ++
      (entryTokens stepsField (stepsTokens o.steps) ++ [.blockEnd]))) rest (depth + 3)
      o.reread.toValue := by
  have once : [nameField, stepsField].Nodup := by decide
  have name : plainTag nameField = .text := by decide
  have steps : plainTag stepsField = .text := by decide
  obtain ⟨fuel, rfl⟩ : ∃ n, fuel = n + 6 := ⟨fuel - 6, by omega⟩
  have record : o.reread.toValue = .mapping ([(nameField, .text (Yaml.reread o.name)),
      (stepsField, .list (o.steps.map fun s => s.reread.toValue))].map
        fun e => (.text e.1, e.2)) := by
    simp [Operation.toValue, Operation.reread]
  rw [record]
  exact makes_mapping false (makesEntries_cons name (begun_value o.name _) (makes_value o.name)
    (makesEntries_cons steps (begun_stepsTokens o.steps _) (makes_stepsTokens o.steps (by omega))
      makesEntries_end)) once

/-- The operations of a document. -/
theorem makes_operations (os : List Operation)
    (enough : (os.map fun o => o.steps.length + 1).sum + 13 ≤ fuel) :
    MakesAll (blockItems · fuel) (os.flatMap Operation.tokens ++ [.blockEnd]) rest (depth + 3)
      (os.map fun o => o.reread.toValue) := by
  induction os generalizing fuel with
  | nil =>
    obtain ⟨fuel, rfl⟩ := Nat.exists_eq_succ_of_ne_zero (Nat.ne_zero_of_lt enough)
    exact makesAll_blockItems_end
  | cons o os ih =>
    rw [List.map_cons, List.sum_cons] at enough
    obtain ⟨fuel, rfl⟩ : ∃ n, fuel = n + 1 := ⟨fuel - 1, by omega⟩
    have first : o.steps.length + 12 ≤ fuel := by omega
    have others : (os.map fun o => o.steps.length + 1).sum + 13 ≤ fuel := by omega
    rw [List.flatMap_cons, List.append_assoc]
    exact makesAll_blockItems_cons (makes_operation o first) (ih others)

theorem sum_le_length_flatMap {α β : Type} {size : α → Nat} {f : α → List β}
    (enough : ∀ x, size x ≤ (f x).length) (xs : List α) :
    (xs.map size).sum ≤ (xs.flatMap f).length := by
  induction xs with
  | nil => exact Nat.le_refl 0
  | cons x xs ih =>
    rw [List.map_cons, List.sum_cons, List.flatMap_cons, List.length_append]
    exact Nat.add_le_add (enough x) ih

theorem length_le_tokens (o : Operation) : o.steps.length + 1 ≤ o.tokens.length := by
  have steps : o.steps.length ≤ (stepsTokens o.steps).length := by
    unfold stepsTokens
    split
    case isTrue none => simp [none]
    case isFalse =>
      have one : ∀ s : Step, 1 ≤ s.tokens.length := fun s => by simp [Step.tokens]
      have counted := sum_le_length_flatMap one o.steps
      rwa [List.map_const', List.sum_replicate_nat, Nat.mul_one] at counted
  simp only [Operation.tokens, entryTokens, List.length_cons, List.length_append]
  omega

/-- **The tokens of operations are read into their records.** -/
theorem ofTokens_documentTokens (os : List Operation) :
    ∃ ns : Nodes, Document.ofTokens ⟨documentTokens os, none⟩ = .ok (some ⟨ns, 0⟩) ∧ ns.Orderly ∧
      0 < ns.size ∧ ns.shown documentDepth 0 = .list (os.map fun o => o.reread.toValue) := by
  have long : (os.map fun o => o.steps.length + 1).sum ≤ (os.flatMap Operation.tokens).length :=
    sum_le_length_flatMap length_le_tokens os
  have items : MakesAll
      (blockItems · (4 * (os.flatMap Operation.tokens ++ [Token.blockEnd]).length + 15))
      (os.flatMap Operation.tokens ++ [.blockEnd]) [.streamEnd] 3
      (os.map fun o => o.reread.toValue) := by
    refine makes_operations os ?_
    rw [List.length_append]
    omega
  have made := ofTokens_of_makes (makes_blockSequence false items)
  rw [List.append_assoc] at made
  exact made

end Reading

end EditorText.Replace
