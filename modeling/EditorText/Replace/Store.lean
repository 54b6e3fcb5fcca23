import EditorText.Replace.Operation

/-!
# Saved operations

The operations that a user keeps, by name and in the order in which the names came. Every change is
written to the host's storage at once and as a whole. The storage may hold a name twice until the
first write; then the later operation counts, in the place of the earlier. A call on a store is an
`Action`, which leaves a store behind also where it fails; `Call` lists the calls that a host makes.
-/

set_option autoImplicit false

namespace EditorText.Replace

/-- The operation in place of the one of the same name, or at the end. -/
def put (o : Operation) : List Operation → List Operation
  | [] => [o]
  | p :: rest => if p.name = o.name then o :: rest else p :: put o rest

/-- The saved operations, with what the host's storage holds and how often it was written. -/
structure Store where
  operations : List Operation
  persisted : List Operation
  writes : Nat := 0
  deriving DecidableEq, Repr

/-- Why a store refuses a call. -/
inductive StoreError where
  | noOperation (name : Text)
  | noStep (name : Text) (index : Int)
  deriving DecidableEq, Repr

/-- The refusal in words. Steps are counted from one. -/
def StoreError.message : StoreError → Text
  | noOperation name =>
    Text.ofString "Operation '" ++ name ++ Text.ofString "' not found"
  | noStep name index =>
    Text.ofString "Operation '" ++ name ++ Text.ofString "' has no step " ++ Text.ofInt (index + 1)

namespace Store

/-- The store on what the host holds. -/
def onto (persisted : List Operation) : Store :=
  ⟨persisted.foldl (fun kept o => put o kept) [], persisted, 0⟩

/-- Opens the store on what the host holds. -/
def load {ε : Type} (persisted : List Operation) : Outcome ε Store :=
  ⟨[.notice (.operationsLoaded (onto persisted).operations.length)], .ok (onto persisted)⟩

/-- The names of the operations in order. -/
def names (s : Store) : List Text :=
  s.operations.map (·.name)

/-- The operation of a name. -/
def find? (s : Store) (name : Text) : Option Operation :=
  s.operations.find? (·.name == name)

/-- The store with other operations, which the host does not hold yet. -/
def keep (s : Store) (operations : List Operation) : Store :=
  { s with operations := operations }

/-- The store with its operations written to the host. -/
def flush (s : Store) : Store :=
  { s with persisted := s.operations, writes := s.writes + 1 }

end Store

/-- A call on a store: what it reports and answers, and the store that it leaves behind, also where
it fails. -/
def Action (α : Type) : Type := Store → Outcome StoreError α × Store

namespace Action

variable {α β : Type}

/-- An answer that leaves the store as it is. -/
def answer (a : α) : Action α := fun s => (.ok a, s)

/-- A refusal. What was done to the store before it stays done. -/
def refuse (e : StoreError) : Action α := fun s => (.fail e, s)

/-- Reports a notice. -/
def log (fact : Notice) : Action Unit := fun s => (.log fact, s)

/-- An answer that is read off the store. -/
def read (f : Store → α) : Action α := fun s => (.ok (f s), s)

/-- Changes the store. -/
def change (f : Store → Store) : Action Unit := fun s => (.ok (), f s)

/-- One action and, if it answers, another one on the store that it leaves behind. -/
def bind (x : Action α) (f : α → Action β) : Action β := fun s =>
  match x s with
  | (⟨events, .ok a⟩, next) =>
    let (further, last) := f a next
    (⟨events ++ further.events, further.result⟩, last)
  | (⟨events, .error e⟩, next) => (⟨events, .error e⟩, next)

/-- Actions are sequenced by `bind`. -/
instance : Monad Action where
  pure := answer
  bind := bind

/-- What an action answers on a store, and the store that it leaves behind. -/
def run (x : Action α) (s : Store) : Except StoreError α × Store :=
  ((x s).1.result, (x s).2)

theorem run_pure (a : α) (s : Store) : (pure a : Action α).run s = (.ok a, s) := rfl

theorem run_bind_ok {x : Action α} {f : α → Action β} {s t : Store} {a : α}
    (h : x.run s = (.ok a, t)) : (x >>= f).run s = (f a).run t := by
  obtain ⟨answered, left⟩ := Prod.mk.inj h
  cases made : x s with
  | mk outcome last =>
    obtain ⟨events, result⟩ := outcome
    rw [made] at answered left
    subst answered left
    simp only [run, Bind.bind, bind, made]

theorem run_bind_error {x : Action α} {f : α → Action β} {s t : Store} {e : StoreError}
    (h : x.run s = (.error e, t)) : (x >>= f).run s = (.error e, t) := by
  obtain ⟨answered, left⟩ := Prod.mk.inj h
  cases made : x s with
  | mk outcome last =>
    obtain ⟨events, result⟩ := outcome
    rw [made] at answered left
    subst answered left
    simp only [run, Bind.bind, bind, made]

/-- Looks an operation up. -/
def get (name : Text) : Action Operation := do
  match ← read fun s => s.find? name with
  | some o => return o
  | none =>
    log (.operationMissing name)
    refuse (.noOperation name)

/-- Saves an operation in place of the one of the same name, or as the last one. -/
def save (o : Operation) : Action Unit := do
  change fun s => s.keep (put o s.operations)
  log (.operationSaved o.name)
  change Store.flush

/-- Removes an operation. -/
def remove (name : Text) : Action Unit := do
  match ← read fun s => s.find? name with
  | some _ =>
    change fun s => s.keep (s.operations.filter fun o => o.name ≠ name)
    log (.operationRemoved name)
    change Store.flush
  | none =>
    log (.removalMissing name)
    refuse (.noOperation name)

/-- Adds a step at the end of an operation. -/
def appendStep (name : Text) (step : Step) : Action Operation := do
  let o ← get name
  let updated : Operation := ⟨o.name, o.steps ++ [step]⟩
  save updated
  return updated

/-- Removes the step at an index, counted from zero. -/
def dropStep (name : Text) (index : Int) : Action Operation := do
  let o ← get name
  if 0 ≤ index ∧ index < o.steps.length then
    let updated : Operation := ⟨o.name, o.steps.eraseIdx index.toNat⟩
    save updated
    return updated
  else refuse (.noStep name index)

/-- Saves operations one after another. -/
def saveAll : List Operation → Action Unit
  | [] => answer ()
  | o :: rest => do
    save o
    saveAll rest

section Run

variable {s : Store} {name : Text} {o : Operation}

theorem run_get_of_some (found : s.find? name = some o) : (get name).run s = (.ok o, s) := by
  refine (run_bind_ok (a := some o) (t := s) ?_).trans rfl
  rw [← found]
  rfl

theorem run_get_of_none (missing : s.find? name = none) :
    (get name).run s = (.error (.noOperation name), s) := by
  refine (run_bind_ok (a := none) (t := s) ?_).trans rfl
  rw [← missing]
  rfl

end Run

end Action

/-- The calls that a host makes on a store. -/
inductive Call where
  | get (name : Text)
  | list
  | save (o : Operation)
  | remove (name : Text)
  | appendStep (name : Text) (step : Step)
  | dropStep (name : Text) (index : Int)
  deriving DecidableEq, Repr

/-- What a call answers. -/
inductive Answer where
  | operation (o : Operation)
  | names (ns : List Text)
  | done
  deriving DecidableEq, Repr

/-- Carries a call out. -/
def Call.action : Call → Action Answer
  | get name => return .operation (← Action.get name)
  | list => Action.read fun s => .names s.names
  | save o => do
    Action.save o
    return .done
  | remove name => do
    Action.remove name
    return .done
  | appendStep name step => return .operation (← Action.appendStep name step)
  | dropStep name index => return .operation (← Action.dropStep name index)

namespace Store

/-- What a call answers, and the store behind it. -/
def call (s : Store) (c : Call) : Except StoreError Answer × Store :=
  c.action.run s

/-- Calls one after another, whether they fail or not: what each answers, and the store behind all of
them. -/
def calls (s : Store) : List Call → List (Except StoreError Answer) × Store
  | [] => ([], s)
  | c :: rest =>
    let (answers, last) := (s.call c).2.calls rest
    ((s.call c).1 :: answers, last)

end Store

end EditorText.Replace
