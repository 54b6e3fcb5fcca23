import EditorText.Report.Outcome

/-!
# Numbers of tab stops

Generated tab stops take multiples of ten, so that they can be renumbered by hand without
collisions. The counter lives in a store of the host under a key of its own.
-/

set_option autoImplicit false

namespace EditorText.Choice

/-- The last number that was given out. -/
structure Counter where
  value : Int
  deriving DecidableEq, Repr

/-- The distance between numbers. -/
def numberGap : Int := 10

/-- The counter of a host that has stored none. -/
def Counter.initial : Counter := ⟨10⟩

/-- The counter whose next number is the first tab stop. -/
def Counter.zero : Counter := ⟨0⟩

/-- The next number, and the counter after it is given out. -/
def Counter.next (c : Counter) : Int × Counter :=
  (c.value + numberGap, ⟨c.value + numberGap⟩)

/-- The host's stored numbers by key, in the order of their first storing. -/
abbrev NumberStore := List (Text × Int)

/-- Stores a number under a key, in place of the one that is there. -/
def NumberStore.put (key : Text) (value : Int) : NumberStore → NumberStore
  | [] => [(key, value)]
  | (k, v) :: rest => if k = key then (k, value) :: rest else (k, v) :: put key value rest

/-- The key of the counter. -/
def numberKey : Text := Text.ofString "counter"

/-- Gives out the next number and stores the counter. -/
def giveOut {ε : Type} (store : NumberStore) : Outcome ε (Int × NumberStore) :=
  let current : Counter := ((store.lookup numberKey).map Counter.mk).getD .initial
  let (value, after) := current.next
  ⟨[.notice (.counterAdvanced value)], .ok (value, store.put numberKey after.value)⟩

/-- Starts the stored counter again. -/
def restart {ε : Type} (store : NumberStore) : Outcome ε NumberStore :=
  ⟨[.notice (.counterReset numberGap)], .ok (store.put numberKey Counter.zero.value)⟩

end EditorText.Choice
