import EditorText.Proofs.Replace.Catalog

/-!
# Stores as catalogs

A store is a list of operations that is searched and rebuilt, and a copy of it that the host holds.
Every call answers as on the catalog that the store shows and carries the store along with it
(`Mirrors.call_cases`), so that calls one after another do, refused ones included
(`calls_refine_catalog`).
-/

set_option autoImplicit false

namespace EditorText.Replace

section Refinement

variable {s : Store} {m : Catalog} {name : Text}

/-- The store shows a catalog, and a store on what the host holds shows it too. -/
structure Mirrors (s : Store) (m : Catalog) : Prop where
  operations : s.operations = m.operations
  reloads : (Store.onto s.persisted).operations = s.operations

theorem Mirrors.names (h : Mirrors s m) : s.names = m.names := by
  rw [Store.names, h.operations, m.map_name_operations]

theorem Mirrors.find? (h : Mirrors s m) (name : Text) : s.find? name = m.operation? name := by
  rw [Store.find?, h.operations, m.find?_operations]

/-- The store behind a change that was written to the host. -/
def Store.written (s : Store) (os : List Operation) : Store := (s.keep os).flush

/-- An operation whose name is not there comes last. -/
theorem put_eq_append {o : Operation} {os : List Operation} (new : ∀ p ∈ os, p.name ≠ o.name) :
    put o os = os ++ [o] := by
  induction os with
  | nil => rfl
  | cons p os ih =>
    obtain ⟨here, there⟩ := List.forall_mem_cons.1 new
    rw [put, if_neg here, ih there, List.cons_append]

/-- Operations with distinct names are kept as they come. -/
theorem foldl_put_eq_append {kept os : List Operation}
    (nodup : ((kept ++ os).map (·.name)).Nodup) :
    os.foldl (fun kept o => put o kept) kept = kept ++ os := by
  induction os generalizing kept with
  | nil => simp
  | cons o os ih =>
    have new : ∀ p ∈ kept, p.name ≠ o.name := by
      intro p member same
      rw [List.map_append, List.nodup_append] at nodup
      exact nodup.2.2 p.name (List.mem_map_of_mem member) o.name (by simp) same
    rw [List.foldl_cons, put_eq_append new, ih (by simpa using nodup)]
    simp

/-- What was written to the host shows the catalog that was written. -/
theorem mirrors_written (s : Store) (m : Catalog) : Mirrors (s.written m.operations) m where
  operations := rfl
  reloads := by
    have distinct : ((([] : List Operation) ++ m.operations).map (·.name)).Nodup := by
      rw [List.nil_append, m.map_name_operations]
      exact m.nodup
    exact foldl_put_eq_append distinct

/-- A store on what a host holds shows the catalog of it. -/
theorem mirrors_onto (persisted : List Operation) :
    Mirrors (Store.onto persisted) (Catalog.ofList persisted) where
  operations := foldl_put_operations persisted Catalog.empty
  reloads := rfl

section Calls

variable {o : Operation}

theorem call_get_of_some (found : s.find? name = some o) :
    s.call (.get name) = (.ok (.operation o), s) :=
  Action.run_bind_ok (Action.run_get_of_some found)

theorem call_remove_of_some (found : s.find? name = some o) :
    s.call (.remove name) =
      (.ok .done, s.written (s.operations.filter fun o => o.name ≠ name)) := by
  refine Action.run_bind_ok (a := ()) ((Action.run_bind_ok (a := some o) (t := s) ?_).trans rfl)
  rw [← found]
  rfl

theorem call_appendStep_of_some (found : s.find? name = some o) (step : Step) :
    s.call (.appendStep name step) =
      (.ok (.operation ⟨o.name, o.steps ++ [step]⟩),
        s.written (put ⟨o.name, o.steps ++ [step]⟩ s.operations)) :=
  Action.run_bind_ok ((Action.run_bind_ok (Action.run_get_of_some found)).trans rfl)

theorem call_dropStep_of_some (found : s.find? name = some o) {index : Int}
    (inside : 0 ≤ index ∧ index < o.steps.length) :
    s.call (.dropStep name index) =
      (.ok (.operation ⟨o.name, o.steps.eraseIdx index.toNat⟩),
        s.written (put ⟨o.name, o.steps.eraseIdx index.toNat⟩ s.operations)) := by
  refine Action.run_bind_ok ((Action.run_bind_ok (Action.run_get_of_some found)).trans ?_)
  rw [if_pos inside]
  rfl

/-- An index beside the steps is refused. -/
theorem call_dropStep_of_beside (found : s.find? name = some o) {index : Int}
    (beside : ¬ (0 ≤ index ∧ index < o.steps.length)) :
    s.call (.dropStep name index) = (.error (.noStep name index), s) := by
  refine Action.run_bind_error ((Action.run_bind_ok (Action.run_get_of_some found)).trans ?_)
  rw [if_neg beside]
  rfl

/-- A call about an operation that is not there is refused, unless it saves one. -/
theorem call_of_none (missing : s.find? name = none) {c : Call} (about : c.name? = some name)
    (unsaved : ∀ o, c ≠ .save o) : s.call c = (.error (.noOperation name), s) := by
  have refused := Action.run_get_of_none missing
  cases c with
  | get => cases about; exact Action.run_bind_error refused
  | list => nomatch about
  | save o => exact absurd rfl (unsaved o)
  | remove =>
    cases about
    refine Action.run_bind_error ((Action.run_bind_ok (a := none) (t := s) ?_).trans rfl)
    rw [← missing]
    rfl
  | appendStep => cases about; exact Action.run_bind_error (Action.run_bind_error refused)
  | dropStep => cases about; exact Action.run_bind_error (Action.run_bind_error refused)

end Calls

/-- So it is on a catalog. -/
theorem Catalog.call_of_none (missing : m.operation? name = none) {c : Call}
    (about : c.name? = some name) (unsaved : ∀ o, c ≠ .save o) :
    m.call c = (.error (.noOperation name), m) := by
  cases c with
  | list => nomatch about
  | save o => exact absurd rfl (unsaved o)
  | remove =>
    cases about
    rw [call, if_neg (by simp [m.mem_iff, missing])]
  | get | appendStep | dropStep =>
    cases about
    simp only [call, missing]

/-- **What one call does** to a store and to the catalog that it shows. Either it answers alike on
both and leaves both as they are, since it only asks or since it is refused; or it succeeds on both
and the host gets the operations of the catalog behind it. -/
theorem Mirrors.call_cases (h : Mirrors s m) (c : Call) :
    (∃ answer, s.call c = (answer, s) ∧ m.call c = (answer, m) ∧
      (c.isReading = true ∨ ∃ e, answer = .error e)) ∨
    ∃ answer next, s.call c = (.ok answer, s.written next.operations) ∧
      m.call c = (.ok answer, next) ∧ c.isReading = false ∧
      c.others next.operations = c.others m.operations := by
  -- Only a call that saves is about a name that need not be there.
  by_cases refused : ∃ name, c.name? = some name ∧ m.operation? name = none ∧ ∀ o, c ≠ .save o
  · obtain ⟨name, about, missing, unsaved⟩ := refused
    exact .inl ⟨_, call_of_none ((h.find? name).trans missing) about unsaved,
      m.call_of_none missing about unsaved, .inr ⟨_, rfl⟩⟩
  have there : ∀ name, c.name? = some name → (∀ o, c ≠ .save o) →
      ∃ o, m.operation? name = some o ∧ s.find? name = some o := by
    intro name about unsaved
    cases found : m.operation? name with
    | none => exact absurd ⟨name, about, found, unsaved⟩ refused
    | some o => exact ⟨o, rfl, (h.find? name).trans found⟩
  cases c with
  | list => exact .inl ⟨.ok (.names s.names), rfl, by rw [h.names]; rfl, .inl rfl⟩
  | get name =>
    obtain ⟨o, listed, found⟩ := there name rfl (by simp)
    refine .inl ⟨_, call_get_of_some found, ?_, .inl rfl⟩
    simp only [Catalog.call, listed]
  | save o =>
    refine .inr ⟨.done, m.set o, ?_, rfl, rfl, m.others_set rfl⟩
    rw [← m.put_operations, ← h.operations]
    rfl
  | remove name =>
    obtain ⟨o, listed, found⟩ := there name rfl (by simp)
    refine .inr ⟨.done, m.erase name, ?_, ?_, rfl, m.others_erase rfl⟩
    · rw [← m.filter_operations, ← h.operations]
      exact call_remove_of_some found
    · rw [Catalog.call, if_pos (by simp [m.mem_iff, listed])]
  | appendStep name step =>
    obtain ⟨o, listed, found⟩ := there name rfl (by simp)
    obtain rfl := m.named name o listed
    refine .inr ⟨.operation ⟨o.name, o.steps ++ [step]⟩, m.set ⟨o.name, o.steps ++ [step]⟩, ?_, ?_,
      rfl, m.others_set rfl⟩
    · rw [← m.put_operations, ← h.operations]
      exact call_appendStep_of_some found step
    · simp only [Catalog.call, listed]
  | dropStep name index =>
    obtain ⟨o, listed, found⟩ := there name rfl (by simp)
    obtain rfl := m.named name o listed
    by_cases inside : 0 ≤ index ∧ index < o.steps.length
    · refine .inr ⟨.operation ⟨o.name, o.steps.eraseIdx index.toNat⟩,
        m.set ⟨o.name, o.steps.eraseIdx index.toNat⟩, ?_, ?_, rfl, m.others_set rfl⟩
      · rw [← m.put_operations, ← h.operations]
        exact call_dropStep_of_some found inside
      · simp only [Catalog.call, listed, if_pos inside, List.eraseIdx_eq_take_drop_succ]
    · refine .inl ⟨_, call_dropStep_of_beside found inside, ?_, .inr ⟨_, rfl⟩⟩
      simp only [Catalog.call, listed, if_neg inside]

/-- A call answers as on the catalog and leaves behind a store that shows the catalog behind it. -/
theorem Mirrors.call (h : Mirrors s m) (c : Call) :
    (s.call c).1 = (m.call c).1 ∧ Mirrors (s.call c).2 (m.call c).2 := by
  rcases h.call_cases c with ⟨answer, onStore, onCatalog, -⟩ | ⟨answer, next, onStore, onCatalog, -⟩
  · rw [onStore, onCatalog]
    exact ⟨rfl, h⟩
  · rw [onStore, onCatalog]
    exact ⟨rfl, mirrors_written s next⟩

/-- So do calls one after another. -/
theorem Mirrors.calls (h : Mirrors s m) (cs : List Call) :
    (s.calls cs).1 = (m.calls cs).1 ∧ Mirrors (s.calls cs).2 (m.calls cs).2 := by
  induction cs generalizing s m with
  | nil => exact ⟨rfl, h⟩
  | cons c cs ih =>
    obtain ⟨answer, kept⟩ := h.call c
    obtain ⟨answers, last⟩ := ih kept
    exact ⟨congrArg₂ List.cons answer answers, last⟩

/-- Stores that show one catalog are not told apart by calls that ask. -/
theorem Mirrors.reading (h : Mirrors s m) {s' : Store} (h' : Mirrors s' m) (c : Call) :
    (s'.call c).1 = (s.call c).1 :=
  (h'.call c).1.trans (h.call c).1.symm

/-- **Calls on a store answer as on a catalog**, whatever the host held and whether they fail or not.
Wherever they lead, the store shows the catalog, and so does a store that is opened on what the host
holds then. A further call that only asks or is refused changes nothing. One that succeeds in a
change hands the host all operations of the catalog in order, once. The operations that a call is
not about stay as they are. -/
theorem calls_refine_catalog {ε : Type} (persisted : List Operation) (cs : List Call) :
    ∃ opened s m, (Store.load persisted : Outcome ε Store).result = .ok opened ∧
      opened.calls cs = (((Catalog.ofList persisted).calls cs).1, s) ∧
      ((Catalog.ofList persisted).calls cs).2 = m ∧
      s.names = m.names ∧ s.operations = m.operations ∧ (∀ name, s.find? name = m.operation? name) ∧
      (∃ fresh, (Store.load s.persisted : Outcome ε Store).result = .ok fresh ∧
        ∀ c : Call, c.isReading = true → (fresh.call c).1 = (s.call c).1) ∧
      ∀ (c : Call) answer next, s.call c = (answer, next) →
        (c.isReading = true ∨ (∃ e, answer = .error e) → next = s) ∧
        (c.isReading = false → (∃ a, answer = .ok a) →
          next.persisted = (m.call c).2.operations ∧ (next.persisted.map (·.name)).Nodup ∧
            next.writes = s.writes + 1) ∧
        c.others next.operations = c.others s.operations := by
  obtain ⟨answers, h⟩ := (mirrors_onto persisted).calls cs
  refine ⟨Store.onto persisted, _, _, rfl, Prod.ext answers rfl, rfl, h.names, h.operations, h.find?,
    ⟨Store.onto _, rfl, fun c _ => h.reading ⟨h.reloads.trans h.operations, rfl⟩ c⟩, ?_⟩
  intro c answer next called
  rcases h.call_cases c with ⟨a, onStore, -, idle⟩ | ⟨a, m', onStore, onCatalog, changing, kept⟩
  · obtain ⟨rfl, rfl⟩ := Prod.mk.inj (called.symm.trans onStore)
    refine ⟨fun _ => rfl, fun changing => ?_, rfl⟩
    -- A call that changes and left the store as it is was refused.
    rintro ⟨a, rfl⟩
    rcases idle with reading | ⟨e, refused⟩
    · exact absurd (reading.symm.trans changing) (by decide)
    · cases refused
  · obtain ⟨rfl, rfl⟩ := Prod.mk.inj (called.symm.trans onStore)
    refine ⟨?_, fun _ _ => ⟨?_, ?_, rfl⟩, ?_⟩
    · rintro (reading | ⟨e, refused⟩)
      · exact absurd (reading.symm.trans changing) (by decide)
      · cases refused
    · rw [onCatalog]
      rfl
    · exact m'.map_name_operations ▸ m'.nodup
    · rw [h.operations]
      exact kept

end Refinement

end EditorText.Replace
