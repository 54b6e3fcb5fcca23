import EditorText.Pattern.Dialect

/-!
# Rejected patterns

A pattern that cannot be used is reported as malformed, under the name it was given, or it meets a
limit of the engine.
-/

set_option autoImplicit false

namespace EditorText.Pattern

variable [Engine] {p q reason : Text} {flags : Flags}

/-- Compiling a pattern is reading it. -/
theorem result_compile (p : Text) (flags : Flags) : (compile p flags).result = read p flags := by
  unfold compile
  rcases read p flags with (_ | _) | _ <;> rfl

/-- The pattern that a rejection names is the one that was given. -/
theorem eq_of_compile_invalid (h : (compile p flags).result = .error (.invalid q reason)) :
    q = p := by
  rw [result_compile, read] at h
  cases answer : Engine.read (convert p) flags with
  | ok r =>
    rw [answer] at h
    cases h
  | error refusal =>
    rw [answer] at h
    cases refusal <;> cases h
    rfl

end EditorText.Pattern
