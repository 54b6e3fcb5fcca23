import EditorText.Replace.Exchange
import Mathlib.Data.List.Forall2

/-!
# Which values are operations

An operation is of a record if the record has its name, its steps or none, and nothing else;
`Operation.IsOf` and `Step.IsOf` say so without a check. The checks accept exactly these records, as
the operations that they are of (`ofItem_eq_ok_iff`).
-/

set_option autoImplicit false

namespace EditorText.Replace

open Yaml (Value)

/-- The text that a value gives: itself, or what its bytes stand for. -/
inductive Gives : Value → Text → Prop where
  | text {t : Text} : Gives (.text t) t
  | bytes {bs : List Nat} {t : Text} : Text.ofUtf8? bs = some t → Gives (.bytes bs) t

/-- The values in a list, a set or a pair. -/
inductive Holds : Value → List Value → Prop where
  | list {vs : List Value} : Holds (.list vs) vs
  | set {vs : List Value} : Holds (.set vs) vs
  | pair {v w : Value} : Holds (.pair v w) [v, w]

/-- What a field gives, or the usual if there is no such field. -/
def GivesOr {α : Type} (P : Value → α → Prop) (usual : α) (field : Option Value) (a : α) : Prop :=
  field = none ∧ a = usual ∨ ∃ v, field = some v ∧ P v a

/-- Every key is the name of a field that the record has, as text or (as version 2.11 lets it be) in
bytes. -/
def OnlyFields (names : List Text) (es : List (Value × Value)) : Prop :=
  ∀ e ∈ es, ∃ t ∈ names, Gives e.1 t ∧ fieldValue? t es ≠ none

/-- The record of a step: the text to find, perhaps a replacement, and nothing else. -/
inductive Step.IsOf : Value → Step → Prop where
  | mk {es : List (Value × Value)} {find replacement : Text} {v : Value} :
      fieldValue? findField es = some v → Gives v find →
      GivesOr Gives [] (fieldValue? replaceField es) replacement →
      OnlyFields [findField, replaceField] es → IsOf (.mapping es) ⟨find, replacement⟩

/-- The steps of an operation. -/
def AreSteps (v : Value) (steps : List Step) : Prop :=
  ∃ vs, Holds v vs ∧ List.Forall₂ Step.IsOf vs steps

/-- The record of an operation: a name that is not empty and has characters only, perhaps steps, and
nothing else. Its keys are texts. -/
inductive Operation.IsOf : Value → Operation → Prop where
  | mk {es : List (Value × Value)} {name : Text} {steps : List Step} {v : Value} :
      fieldValue? nameField es = some v → Gives v name → name ≠ [] →
      name.any Code.isSurrogate = false →
      GivesOr AreSteps [] (fieldValue? stepsField es) steps →
      OnlyFields [nameField, stepsField] es → (∀ e ∈ es, ∃ t, e.1 = .text t) →
      IsOf (.mapping es) ⟨name, steps⟩

namespace Checked

variable {α β γ : Type}

theorem wrong_ne_ok {flaw : Flaw} {a : α} : (wrong flaw : Checked α) ≠ .ok a := nofun

theorem behind_eq_ok_iff {turn : Turn} {x : Checked α} {a : α} :
    behind turn x = .ok a ↔ x = .ok a := by
  cases x <;> simp [behind, Except.mapError]

theorem map_both_eq_ok_iff {x : Checked α} {y : Checked β} {f : α × β → γ} {c : γ} :
    (both x y).map f = .ok c ↔ ∃ a b, x = .ok a ∧ y = .ok b ∧ f (a, b) = c := by
  cases x <;> cases y <;> simp [both, Except.map]

/-- Items pass if each of them does. -/
theorem each_eq_ok_iff {check : Value → Checked α} {index : Nat} {vs : List Value} {as : List α} :
    each check index vs = .ok as ↔ List.Forall₂ (fun v a => check v = .ok a) vs as := by
  induction vs generalizing index as with
  | nil => simp [each, eq_comm]
  | cons v vs ih =>
    rw [each, map_both_eq_ok_iff]
    constructor
    · rintro ⟨b, bs, first, others, rfl⟩
      exact .cons (behind_eq_ok_iff.1 first) (ih.1 others)
    · rintro (_ | ⟨first, others⟩)
      exact ⟨_, _, behind_eq_ok_iff.2 first, ih.2 others, rfl⟩

end Checked

section Fields

variable {α : Type} {v : Value} {t : Text} {a : α} {names : List Text}
  {check : Value → Checked α} {es : List (Value × Value)}

theorem checkText_eq_ok_iff : checkText v = .ok t ↔ Gives v t := by
  constructor
  · intro passes
    unfold checkText at passes
    split at passes
    · cases passes
      exact .text
    · split at passes
      · next decoded =>
        cases passes
        exact .bytes decoded
      · cases passes
    · cases passes
  · rintro (_ | decoded)
    · rfl
    · simp [checkText, decoded]

theorem checkName_eq_ok_iff :
    checkName v = .ok t ↔ Gives v t ∧ t ≠ [] ∧ t.any Code.isSurrogate = false := by
  rw [← checkText_eq_ok_iff]
  cases read : checkText v with
  | error issues => simp [checkName, read, bind, Except.bind]
  | ok s =>
    have answer : checkName v = if s.any Code.isSurrogate then .wrong .notUnicode
        else if s = [] then .wrong .tooShort else .ok s := by
      rw [checkName, read]
      rfl
    rw [answer, Except.ok.injEq]
    split
    · next broken =>
      refine iff_of_false Checked.wrong_ne_ok ?_
      rintro ⟨rfl, -, proper⟩
      exact absurd broken (ne_true_of_eq_false proper)
    split
    · next empty =>
      refine iff_of_false Checked.wrong_ne_ok ?_
      rintro ⟨rfl, filled, -⟩
      exact filled empty
    · next proper filled =>
      constructor
      · intro same
        obtain rfl := Except.ok.inj same
        exact ⟨rfl, filled, Bool.eq_false_iff.2 proper⟩
      · rintro ⟨rfl, -, -⟩
        rfl

theorem checkList_eq_ok_iff {vs : List Value} : checkList v = .ok vs ↔ Holds v vs := by
  constructor
  · intro passes
    unfold checkList at passes
    split at passes <;> cases passes
    · exact .list
    · exact .set
    · exact .pair
  · rintro (_ | _ | _) <;> rfl

theorem required_eq_ok_iff :
    required t check es = .ok a ↔ ∃ v, fieldValue? t es = some v ∧ check v = .ok a := by
  rw [required, Checked.behind_eq_ok_iff]
  cases fieldValue? t es <;> simp [Checked.wrong]

theorem optional_eq_ok_iff {usual : α} :
    optional t usual check es = .ok a ↔
      GivesOr (fun v a => check v = .ok a) usual (fieldValue? t es) a := by
  unfold optional GivesOr
  cases fieldValue? t es with
  | none => simp [eq_comm]
  | some v => simp [Checked.behind_eq_ok_iff]

/-- An entry is one of the fields if its key gives the name of one that is there. -/
theorem strayIssue?_eq_none_iff {present : List Text} :
    strayIssue? present v = none ↔ ∃ t ∈ present, Gives v t := by
  constructor
  · intro fine
    unfold strayIssue? at fine
    split at fine
    · split at fine
      · next known => exact ⟨_, List.contains_iff_mem.1 known, .text⟩
      · cases fine
    · split at fine
      · next decoded =>
        split at fine
        · next known => exact ⟨_, List.contains_iff_mem.1 known, .bytes decoded⟩
        · cases fine
      · cases fine
    · cases fine
  · rintro ⟨t, known, _ | decoded⟩
    · simp [strayIssue?, known]
    · simp [strayIssue?, decoded, known]

/-- No entry is left over if every key is the name of a field. -/
theorem strayIssues_eq_nil_iff :
    (es.filterMap fun e => strayIssue? (names.filter fun n => (fieldValue? n es).isSome) e.1) = [] ↔
      OnlyFields names es := by
  have present {v : Value} : (∃ t ∈ names.filter fun n => (fieldValue? n es).isSome, Gives v t) ↔
      ∃ t ∈ names, Gives v t ∧ fieldValue? t es ≠ none := by
    simp only [List.mem_filter, Option.isSome_iff_ne_none, and_assoc]
    exact exists_congr fun t => and_congr_right fun _ => and_comm
  simp only [List.filterMap_eq_nil_iff, strayIssue?_eq_none_iff, present, OnlyFields]

/-- The names of fields can be encoded. -/
theorem OnlyFields.any_isBrokenKey (proper : ∀ n ∈ names, n.any Code.isSurrogate = false)
    (fields : OnlyFields names es) : (es.any fun e => isBrokenKey e.1) = false := by
  rw [List.any_eq_false]
  rintro ⟨key, value⟩ inside
  obtain ⟨t, known, given, -⟩ := fields _ inside
  cases given with
  | text => exact ne_true_of_eq_false (proper t known)
  | bytes _ => exact Bool.false_ne_true

/-- A record passes if its fields do and it has no others. -/
theorem checkRecord_eq_ok_iff {check : List (Value × Value) → Checked α}
    (proper : ∀ n ∈ names, n.any Code.isSurrogate = false) :
    checkRecord names check es = .ok a ↔ check es = .ok a ∧ OnlyFields names es := by
  unfold checkRecord
  split
  · next broken =>
    refine iff_of_false Checked.wrong_ne_ok ?_
    rintro ⟨-, fields⟩
    exact absurd broken (ne_true_of_eq_false (fields.any_isBrokenKey proper))
  · rw [Checked.map_both_eq_ok_iff]
    constructor
    · rintro ⟨b, u, passes, clean, rfl⟩
      refine ⟨passes, strayIssues_eq_nil_iff.1 ?_⟩
      split at clean
      · assumption
      · cases clean
    · rintro ⟨passes, fields⟩
      exact ⟨a, (), passes, by rw [strayIssues_eq_nil_iff.2 fields], rfl⟩

/-- A record of a field that must be there and one that need not be. -/
theorem record_eq_ok_iff {β γ : Type} {needed free : Text} {check : Value → Checked β}
    {check' : Value → Checked γ} {usual : γ} {make : β × γ → α}
    (proper : ∀ n ∈ [needed, free], n.any Code.isSurrogate = false) :
    checkRecord [needed, free] (fun es =>
      (Checked.both (required needed check es) (optional free usual check' es)).map make) es =
        .ok a ↔
      ∃ b c, (∃ v, fieldValue? needed es = some v ∧ check v = .ok b) ∧
        GivesOr (fun v c => check' v = .ok c) usual (fieldValue? free es) c ∧
        OnlyFields [needed, free] es ∧ make (b, c) = a := by
  rw [checkRecord_eq_ok_iff proper, Checked.map_both_eq_ok_iff]
  simp only [required_eq_ok_iff, optional_eq_ok_iff]
  constructor
  · rintro ⟨⟨b, c, first, second, made⟩, fields⟩
    exact ⟨b, c, first, second, fields, made⟩
  · rintro ⟨b, c, first, second, fields, made⟩
    exact ⟨⟨b, c, first, second, made⟩, fields⟩

end Fields

section Records

variable {v : Value} {s : Step} {o : Operation} {steps : List Step}

/-- **A value is accepted as a step** exactly if it is the record of it. -/
theorem step_ofValue_eq_ok_iff : Step.ofValue v = .ok s ↔ Step.IsOf v s := by
  cases v with
  | mapping es =>
    rw [Step.ofValue, Step.ofEntries, record_eq_ok_iff (by decide)]
    simp only [checkText_eq_ok_iff]
    constructor
    · rintro ⟨find, replacement, ⟨v, found, given⟩, replaced, fields, rfl⟩
      exact .mk found given replaced fields
    · rintro ⟨found, given, replaced, fields⟩
      exact ⟨_, _, ⟨_, found, given⟩, replaced, fields, rfl⟩
  | _ => exact ⟨nofun, nofun⟩

theorem checkSteps_eq_ok_iff :
    (do let vs ← checkList v; Checked.each Step.ofValue 0 vs) = .ok steps ↔ AreSteps v steps := by
  have each {vs : List Value} : Checked.each Step.ofValue 0 vs = .ok steps ↔
      List.Forall₂ Step.IsOf vs steps := by
    rw [Checked.each_eq_ok_iff]
    simp only [step_ofValue_eq_ok_iff]
  simp only [AreSteps, ← checkList_eq_ok_iff, ← each]
  cases checkList v <;> simp [bind, Except.bind]

theorem operation_ofEntries_eq_ok_iff {es : List (Value × Value)} :
    Operation.ofEntries es = .ok o ↔
      (∃ v, fieldValue? nameField es = some v ∧ Gives v o.name) ∧ o.name ≠ [] ∧
        o.name.any Code.isSurrogate = false ∧
        GivesOr AreSteps [] (fieldValue? stepsField es) o.steps ∧
        OnlyFields [nameField, stepsField] es := by
  rw [Operation.ofEntries, record_eq_ok_iff (by decide)]
  simp only [checkName_eq_ok_iff, checkSteps_eq_ok_iff]
  constructor
  · rintro ⟨name, steps, ⟨v, found, given, filled, proper⟩, stepped, fields, rfl⟩
    exact ⟨⟨v, found, given⟩, filled, proper, stepped, fields⟩
  · rintro ⟨⟨v, found, given⟩, filled, proper, stepped, fields⟩
    exact ⟨_, _, ⟨v, found, given, filled, proper⟩, stepped, fields, rfl⟩

/-- An operation takes named values only. -/
theorem ofItem_mapping_eq_ok_iff {es : List (Value × Value)} :
    Operation.ofItem (.mapping es) = .ok o ↔
      (∀ e ∈ es, ∃ t, e.1 = .text t) ∧ Operation.ofEntries es = .ok o := by
  have mapped : (Operation.ofEntries es).mapError ImportError.invalid = .ok o ↔
      Operation.ofEntries es = .ok o := by
    cases Operation.ofEntries es <;> simp [Except.mapError]
  rw [Operation.ofItem]
  split
  · next keys =>
    refine mapped.trans (iff_and_self.2 fun _ e inside => ?_)
    have key := List.all_eq_true.1 keys e inside
    split at key
    · next t same => exact ⟨t, same⟩
    · cases key
  · next other =>
    refine iff_of_false nofun fun ⟨keys, _⟩ => other (List.all_eq_true.2 fun e inside => ?_)
    obtain ⟨t, same⟩ := keys e inside
    rw [same]

/-- **An item is accepted as an operation** exactly if it is the record of it. -/
theorem ofItem_eq_ok_iff : Operation.ofItem v = .ok o ↔ Operation.IsOf v o := by
  cases v with
  | mapping es =>
    rw [ofItem_mapping_eq_ok_iff, operation_ofEntries_eq_ok_iff]
    constructor
    · rintro ⟨keys, ⟨v, found, given⟩, filled, proper, stepped, fields⟩
      exact .mk found given filled proper stepped fields keys
    · rintro ⟨found, given, filled, proper, stepped, fields, keys⟩
      exact ⟨keys, ⟨_, found, given⟩, filled, proper, stepped, fields⟩
  | _ => exact ⟨nofun, nofun⟩

end Records

section Lists

variable {items : List Value} {os : List Operation}

/-- The items of a list are accepted if each of them is. -/
theorem mapM_ofItem_eq_ok_iff :
    items.mapM Operation.ofItem = .ok os ↔ List.Forall₂ Operation.IsOf items os := by
  induction items generalizing os with
  | nil => cases os <;> simp [pure, Except.pure]
  | cons v items ih =>
    rw [List.mapM_cons]
    constructor
    · intro accepted
      cases first : Operation.ofItem v with
      | error e =>
        rw [first] at accepted
        cases accepted
      | ok o =>
        cases others : items.mapM Operation.ofItem with
        | error e =>
          rw [first, others] at accepted
          cases accepted
        | ok os' =>
          rw [first, others] at accepted
          cases accepted
          exact .cons (ofItem_eq_ok_iff.1 first) (ih.1 others)
    · rintro (_ | ⟨first, others⟩)
      rw [ofItem_eq_ok_iff.2 first, ih.2 others]
      rfl

end Lists

end EditorText.Replace
