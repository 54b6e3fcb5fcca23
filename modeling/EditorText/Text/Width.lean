import EditorText.Text.Room

/-!
# Width on screen

A tab is as wide as the tab size and every other code is one column wide, whatever its script. The
tab size may be any integer here; a positive one is made where the editor reports it.
-/

set_option autoImplicit false

namespace EditorText.Text

/-- The columns that one code takes. -/
def codeWidth (tabSize : Int) (c : Code) : Int :=
  if c = Code.tab then tabSize else 1

/-- The columns that a text takes. -/
def width (tabSize : Int) : Text → Int
  | [] => 0
  | c :: t => codeWidth tabSize c + width tabSize t

/-- The columns that a text lacks to a width; none if it is wide enough. -/
def lack (t : Text) (target tabSize : Int) : Int :=
  max 0 (target - width tabSize t)

/-- Adds spaces at the end up to a width; a text that is wide enough stays. -/
def pad (t : Text) (target tabSize : Int) : Text :=
  t ++ run Code.space (lack t target tabSize).toNat

/-- Adds spaces at the end up to a width, if so many can be written. -/
def checkedPad (t : Text) (target tabSize : Int) : Except Excess Text :=
  (checkedRun t.length Code.space (lack t target tabSize)).map (t ++ ·)

@[simp] theorem width_nil (tabSize : Int) : width tabSize [] = 0 := rfl

theorem width_append (tabSize : Int) (s t : Text) :
    width tabSize (s ++ t) = width tabSize s + width tabSize t := by
  induction s with
  | nil => simp [width]
  | cons c s ih => simp only [List.cons_append, width, ih]; omega

theorem width_run_space (tabSize : Int) (n : Nat) : width tabSize (run Code.space n) = n := by
  induction n with
  | zero => rfl
  | succ n ih =>
    have step : width tabSize (run Code.space (n + 1)) = 1 + width tabSize (run Code.space n) := rfl
    rw [step, ih]
    omega

theorem width_space (tabSize : Int) : width tabSize [Code.space] = 1 := rfl

theorem codeWidth_pos {tabSize : Int} (positive : 1 ≤ tabSize) (c : Code) :
    1 ≤ codeWidth tabSize c := by
  rw [codeWidth]
  split <;> omega

theorem width_nonneg {tabSize : Int} (positive : 1 ≤ tabSize) (t : Text) : 0 ≤ width tabSize t := by
  induction t with
  | nil => exact Int.le_refl 0
  | cons c t ih =>
    have wide := codeWidth_pos positive c
    rw [width]
    omega

theorem width_pos {tabSize : Int} (positive : 1 ≤ tabSize) {t : Text} (filled : t ≠ []) :
    1 ≤ width tabSize t := by
  obtain ⟨c, t, rfl⟩ := List.exists_cons_of_ne_nil filled
  have wide := codeWidth_pos positive c
  have rest := width_nonneg positive t
  rw [width]
  omega

theorem width_eq_length {t : Text} (plain : Code.tab ∉ t) (tabSize : Int) :
    width tabSize t = t.length := by
  induction t with
  | nil => rfl
  | cons c t ih =>
    rw [List.mem_cons, not_or] at plain
    rw [width, codeWidth, if_neg (Ne.symm plain.1), ih plain.2, List.length_cons]
    omega

theorem lack_pos_iff (t : Text) (w tabSize : Int) :
    0 < (lack t w tabSize).toNat ↔ width tabSize t < w := by
  rw [lack]
  omega

theorem lack_eq_zero_iff (t : Text) (w tabSize : Int) :
    (lack t w tabSize).toNat = 0 ↔ w ≤ width tabSize t := by
  rw [lack]
  omega

/-- A padded text has the target width, or its own where that is larger. -/
theorem width_pad (t : Text) (target tabSize : Int) :
    width tabSize (pad t target tabSize) = max target (width tabSize t) := by
  rw [pad, width_append, width_run_space, lack]
  omega

/-- A text that is wide enough stays. -/
theorem pad_eq_self {t : Text} {target tabSize : Int} (wide : target ≤ width tabSize t) :
    pad t target tabSize = t := by
  rw [pad, (lack_eq_zero_iff t target tabSize).2 wide, run, List.replicate_zero, List.append_nil]

end EditorText.Text
