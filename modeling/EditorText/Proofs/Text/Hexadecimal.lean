import EditorText.Text.Numeral
import Mathlib.Algebra.Ring.Nat

/-!
# Hexadecimal digits

A number written with capital digits is read off them again, as far as they go.
-/

set_option autoImplicit false

namespace EditorText.Text

/-- The digits in capitals. -/
def capital (c : Code) : Code := if 97 ≤ c then c - 32 else c

theorem hexCapital_succ (width n : Nat) :
    hexCapital (width + 1) n = hexCapital width (n / 16) ++ [capital (hexDigit (n % 16))] := by
  rw [hexCapital, hex, List.map_append]
  rfl

theorem length_hexCapital (width n : Nat) : (hexCapital width n).length = width := by
  induction width generalizing n with
  | zero => rfl
  | succ width ih => rw [hexCapital_succ, List.length_append, ih, List.length_singleton]

theorem hexValue?_capital_hexDigit {d : Nat} (small : d < 16) :
    hexValue? (capital (hexDigit d)) = some d := by
  revert d
  decide

theorem isHexDigit_of_mem_hexCapital (width n : Nat) :
    ∀ d ∈ hexCapital width n, isHexDigit d = true := by
  induction width generalizing n with
  | zero => simp [hexCapital, hex]
  | succ width ih =>
    intro d member
    rw [hexCapital_succ] at member
    rcases List.mem_append.1 member with before | last
    · exact ih _ d before
    · rw [List.mem_singleton.1 last, isHexDigit,
        hexValue?_capital_hexDigit (Nat.mod_lt _ (by decide))]
      rfl

/-- The number is read off its digits, as far as they go. -/
theorem natOf_hexCapital (width n : Nat) : natOf 16 (hexCapital width n) = n % 16 ^ width := by
  induction width generalizing n with
  | zero => rw [Nat.pow_zero, Nat.mod_one]; rfl
  | succ width ih =>
    have digit := hexValue?_capital_hexDigit (Nat.mod_lt n (by decide : 0 < 16))
    rw [hexCapital_succ, natOf, List.foldl_append, ← natOf, ih]
    simp only [List.foldl_cons, List.foldl_nil, digit, Option.getD_some]
    rw [Nat.pow_succ', Nat.mod_mul]
    omega

end EditorText.Text
