import EditorText.Replace.Store
import Mathlib.Data.List.Nodup
import Mathlib.Logic.Function.Basic

/-!
# Operations by name

A catalog is what a store of operations is to its users: an operation for each of some names, and
an order of the names. Its operations as a list are what a store holds: searching the list is looking
a name up (`Catalog.find?_operations`), and putting into it and filtering it are setting and erasing
a name (`Catalog.put_operations`, `Catalog.filter_operations`).
-/

set_option autoImplicit false

namespace EditorText.Replace

/-- Operations under distinct names, in an order. -/
structure Catalog where
  names : List Text
  operation? : Text → Option Operation
  nodup : names.Nodup
  mem_iff : ∀ name, name ∈ names ↔ (operation? name).isSome
  named : ∀ name o, operation? name = some o → o.name = name

namespace Catalog

/-- No operations. -/
def empty : Catalog where
  names := []
  operation? _ := none
  nodup := List.nodup_nil
  mem_iff _ := by simp
  named _ _ h := nomatch h

/-- The operation under its name. A name that is there keeps its place, a new one comes last. -/
def set (m : Catalog) (o : Operation) : Catalog where
  names := if o.name ∈ m.names then m.names else m.names ++ [o.name]
  operation? := Function.update m.operation? o.name (some o)
  nodup := by
    split
    · exact m.nodup
    case isFalse new =>
      exact m.nodup.append (List.nodup_singleton _) (List.disjoint_singleton.2 new)
  mem_iff name := by
    by_cases same : name = o.name
    · subst same
      split <;> simp [*]
    · rw [Function.update_of_ne same, ← m.mem_iff]
      split <;> simp [same]
  named name p h := by
    by_cases same : name = o.name
    · subst same
      rw [Function.update_self, Option.some.injEq] at h
      rw [h]
    · rw [Function.update_of_ne same] at h
      exact m.named name p h

/-- The catalog without a name. -/
def erase (m : Catalog) (name : Text) : Catalog where
  names := m.names.filter (· ≠ name)
  operation? := Function.update m.operation? name none
  nodup := m.nodup.filter _
  mem_iff other := by
    by_cases same : other = name
    · simp [same]
    · rw [Function.update_of_ne same, ← m.mem_iff]
      simp [same]
  named other o h := by
    by_cases same : other = name
    · rw [same, Function.update_self] at h
      exact nomatch h
    · rw [Function.update_of_ne same] at h
      exact m.named other o h

/-- Operations one after another. Of two under one name the later counts, in the place of the
earlier. -/
def ofList (os : List Operation) : Catalog :=
  os.foldl set empty

/-- The operations in the order of their names. -/
def operations (m : Catalog) : List Operation :=
  m.names.filterMap m.operation?

/-- What a call answers on a catalog, and the catalog behind it. -/
def call (m : Catalog) : Call → Except StoreError Answer × Catalog
  | .get name =>
    match m.operation? name with
    | some o => (.ok (.operation o), m)
    | none => (.error (.noOperation name), m)
  | .list => (.ok (.names m.names), m)
  | .save o => (.ok .done, m.set o)
  | .remove name =>
    if name ∈ m.names then (.ok .done, m.erase name) else (.error (.noOperation name), m)
  | .appendStep name step =>
    match m.operation? name with
    | some o =>
      let longer : Operation := ⟨name, o.steps ++ [step]⟩
      (.ok (.operation longer), m.set longer)
    | none => (.error (.noOperation name), m)
  | .dropStep name index =>
    match m.operation? name with
    | some o =>
      if 0 ≤ index ∧ index < o.steps.length then
        let shorter : Operation :=
          ⟨name, o.steps.take index.toNat ++ o.steps.drop (index.toNat + 1)⟩
        (.ok (.operation shorter), m.set shorter)
      else (.error (.noStep name index), m)
    | none => (.error (.noOperation name), m)

/-- Calls one after another on a catalog, whether they fail or not. -/
def calls (m : Catalog) : List Call → List (Except StoreError Answer) × Catalog
  | [] => ([], m)
  | c :: rest =>
    let (answers, last) := (m.call c).2.calls rest
    ((m.call c).1 :: answers, last)

end Catalog

section Operations

variable {m : Catalog} {o : Operation} {name : Text}

/-- A list of operations that is drawn from a table by distinct names finds each under its name. -/
theorem find?_filterMap {table : Text → Option Operation}
    (named : ∀ n p, table n = some p → p.name = n) (names : List Text) :
    (names.filterMap table).find? (·.name == name) = if name ∈ names then table name else none := by
  induction names with
  | nil => rfl
  | cons n names ih =>
    cases found : table n with
    | none =>
      rw [List.filterMap_cons_none found, ih]
      by_cases same : name = n
      · subst same
        simp [found]
      · simp [same]
    | some p =>
      rw [List.filterMap_cons_some found, List.find?_cons, named n p found, ih]
      by_cases same : n = name
      · subst same
        simp [found]
      · simp [beq_false_of_ne same, Ne.symm same]

theorem Catalog.find?_operations (m : Catalog) (name : Text) :
    m.operations.find? (·.name == name) = m.operation? name := by
  rw [Catalog.operations, find?_filterMap m.named]
  split
  · rfl
  case isFalse absent =>
    rw [m.mem_iff, Bool.not_eq_true, Option.isSome_eq_false_iff, Option.isNone_iff_eq_none] at absent
    rw [absent]

/-- A table that has an operation for each of some names lists them in order. -/
theorem map_name_filterMap {table : Text → Option Operation}
    (named : ∀ n p, table n = some p → p.name = n) {names : List Text}
    (full : ∀ n ∈ names, (table n).isSome) : (names.filterMap table).map (·.name) = names := by
  induction names with
  | nil => rfl
  | cons n names ih =>
    obtain ⟨here, there⟩ := List.forall_mem_cons.1 full
    obtain ⟨p, found⟩ := Option.isSome_iff_exists.1 here
    rw [List.filterMap_cons_some found, List.map_cons, named n p found, ih there]

theorem Catalog.map_name_operations (m : Catalog) : m.operations.map (·.name) = m.names :=
  map_name_filterMap m.named fun n member => (m.mem_iff n).1 member

/-- Putting an operation into a list that is drawn from a table draws it from the table with the
operation. -/
theorem put_filterMap {table : Text → Option Operation}
    (named : ∀ n p, table n = some p → p.name = n) {names : List Text} (nodup : names.Nodup)
    (full : ∀ n ∈ names, (table n).isSome) :
    put o (names.filterMap table) =
      (if o.name ∈ names then names else names ++ [o.name]).filterMap
        (Function.update table o.name (some o)) := by
  induction names with
  | nil => simp [put]
  | cons n names ih =>
    obtain ⟨here, there⟩ := List.forall_mem_cons.1 full
    obtain ⟨absent, rest⟩ := List.nodup_cons.1 nodup
    obtain ⟨p, found⟩ := Option.isSome_iff_exists.1 here
    rw [List.filterMap_cons_some found, put, named n p found]
    by_cases same : n = o.name
    · subst same
      -- No other name is changed in the table.
      have others : names.filterMap (Function.update table o.name (some o)) =
          names.filterMap table := by
        refine List.filterMap_congr fun k member => Function.update_of_ne ?_ _ _
        rintro rfl
        exact absent member
      simp [others]
    · have kept : Function.update table o.name (some o) n = some p := by
        rw [Function.update_of_ne same, found]
      rw [if_neg same, ih rest there]
      by_cases member : o.name ∈ names
      · simp [member, kept]
      · simp [member, kept, Ne.symm same]

theorem Catalog.put_operations (m : Catalog) (o : Operation) :
    put o m.operations = (m.set o).operations :=
  put_filterMap m.named m.nodup fun n member => (m.mem_iff n).1 member

theorem Catalog.filter_operations (m : Catalog) (name : Text) :
    m.operations.filter (fun o => o.name ≠ name) = (m.erase name).operations := by
  rw [operations, operations, List.filter_filterMap, erase, List.filterMap_filter]
  refine List.filterMap_congr fun n _ => ?_
  cases found : m.operation? n with
  | none => by_cases same : n = name <;> simp [same, Function.update_of_ne, found]
  | some p =>
    have named := m.named n p found
    by_cases same : n = name
    · simp [same, named]
    · simp [same, named, Function.update_of_ne, found]

/-- What a store makes of a list of operations is the catalog of the list. -/
theorem foldl_put_operations (os : List Operation) (m : Catalog) :
    os.foldl (fun kept o => put o kept) m.operations = (os.foldl Catalog.set m).operations := by
  induction os generalizing m with
  | nil => rfl
  | cons o os ih => rw [List.foldl_cons, List.foldl_cons, m.put_operations, ih]

end Operations

/-- The call asks and changes nothing. -/
def Call.isReading : Call → Bool
  | get .. | list => true
  | save .. | remove .. | appendStep .. | dropStep .. => false

/-- The name that a call is about. -/
def Call.name? : Call → Option Text
  | get name | remove name | appendStep name _ | dropStep name _ => some name
  | save o => some o.name
  | list => none

/-- The operations that a call is not about, in order. -/
def Call.others (c : Call) (os : List Operation) : List Operation :=
  os.filter fun o => c.name? ≠ some o.name

section Frame

variable {m : Catalog} {o : Operation} {c : Call}

/-- Setting an operation leaves the others as they are, in their order. -/
theorem Catalog.others_set (m : Catalog) (about : c.name? = some o.name) :
    c.others (m.set o).operations = c.others m.operations := by
  have same : (m.set o).erase o.name = m.erase o.name := by
    unfold erase set
    congr 1
    · dsimp only
      split <;> simp
    · exact Function.update_idem _ _ _
  have unnamed : c.others = List.filter fun p => p.name ≠ o.name := by
    funext os
    simp only [Call.others, about, ne_eq, Option.some.injEq, eq_comm]
  rw [unnamed, filter_operations, filter_operations, same]

/-- So does erasing one. -/
theorem Catalog.others_erase (m : Catalog) {name : Text} (about : c.name? = some name) :
    c.others (m.erase name).operations = c.others m.operations := by
  rw [← filter_operations, Call.others, Call.others, List.filter_filter]
  refine List.filter_congr fun p _ => ?_
  by_cases same : p.name = name <;> simp [about, same]

end Frame

end EditorText.Replace
