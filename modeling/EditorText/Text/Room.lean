import EditorText.Text.Basic

/-!
# Runs of a computed length

The length of a run may be computed, from widths or columns, and come out as an integer of any size.
A run can be written if its length is a number of 64 bits and there is room for it. Room there is
for four gibicodes, and for as many codes as the text has that the run goes with. `Excess.of?` says
what is wrong with a length, and `checkedRun` writes the run where nothing is.
-/

set_option autoImplicit false

namespace EditorText.Text

/-- The least number of 64 bits. -/
def leastLength : Int := -9223372036854775808

/-- The greatest number of 64 bits. -/
def greatestLength : Int := 9223372036854775807

/-- The length of a run for which there is always room. -/
def freeRoom : Int := 4294967296

/-- Why a run of a computed length cannot be written. -/
inductive Excess where
  | width
  | room
  deriving DecidableEq, Repr

/-- What is wrong with a length, for a run that goes with a text of `held` codes. A negative length
within 64 bits stands for no code at all. -/
def Excess.of? (held : Nat) (length : Int) : Option Excess :=
  if length < leastLength then some .width
  else if length ≤ max freeRoom held then none
  else if length ≤ greatestLength then some .room
  else some .width

/-- A run of one code, of a computed length. -/
def checkedRun (held : Nat) (c : Code) (length : Int) : Except Excess Text :=
  match Excess.of? held length with
  | some e => .error e
  | none => .ok (run c length.toNat)

/-- A run of some length can be written if there is room for it. -/
theorem Excess.of?_eq_none_iff {held : Nat} {length : Int} (low : 0 ≤ length) :
    Excess.of? held length = none ↔ length ≤ max freeRoom held := by
  have least : ¬ length < leastLength := by
    rw [leastLength]
    omega
  rw [Excess.of?, if_neg least]
  split
  · simp [*]
  · split <;> simp [*]

/-- A run that is no longer than the text it goes with can be written. -/
theorem Excess.of?_eq_none_of_le {held : Nat} {length : Int} (low : 0 ≤ length)
    (high : length ≤ held) : Excess.of? held length = none := by
  rw [of?_eq_none_iff low]
  omega

/-- A run that is no longer than the text it goes with is written. -/
theorem checkedRun_of_le {held n : Nat} (c : Code) (high : n ≤ held) :
    checkedRun held c n = .ok (run c n) := by
  have fits : Excess.of? held n = none :=
    Excess.of?_eq_none_of_le (Int.natCast_nonneg n) (by omega)
  rw [checkedRun, fits]
  rfl

end EditorText.Text
