import EditorText.Text.Basic

/-!
# What follows a character

`EachBehind c P t` says that a property holds of what stands behind every `c` of a text. It can be
told character by character (`eachBehind_cons_iff`), and for a property of how a text begins also
part by part (`EachBehind.append`).
-/

set_option autoImplicit false

namespace EditorText.Text

/-- A property holds of what stands behind every occurrence of a code. -/
def EachBehind (c : Code) (P : Text → Prop) (t : Text) : Prop :=
  ∀ x y, t = x ++ c :: y → P y

variable {c d : Code} {P Q : Text → Prop} {s t : Text}

theorem eachBehind_nil : EachBehind c P [] := by
  intro x y split
  simp at split

theorem eachBehind_cons_iff : EachBehind c P (d :: t) ↔ (d = c → P t) ∧ EachBehind c P t := by
  constructor
  · intro h
    constructor
    · rintro rfl
      exact h [] t rfl
    · rintro x y rfl
      exact h (d :: x) y rfl
  · rintro ⟨first, others⟩ x y split
    cases x with
    | nil =>
      obtain ⟨rfl, rfl⟩ := List.cons.inj split
      exact first rfl
    | cons e x =>
      obtain ⟨-, rfl⟩ := List.cons.inj split
      exact others x y rfl

instance decidableEachBehind (c : Code) (P : Text → Prop) [DecidablePred P] :
    (t : Text) → Decidable (EachBehind c P t)
  | [] => .isTrue eachBehind_nil
  | _ :: t =>
    have := decidableEachBehind c P t
    decidable_of_iff _ eachBehind_cons_iff.symm

theorem eachBehind_of_not_mem (absent : c ∉ t) : EachBehind c P t := by
  rintro x y rfl
  simp at absent

theorem EachBehind.mono (weaker : ∀ y, P y → Q y) (h : EachBehind c P t) : EachBehind c Q t :=
  fun x y split => weaker y (h x y split)

/-- What stands behind every code of a text stands behind every code of its end. -/
theorem EachBehind.suffix (h : EachBehind c P (s ++ t)) : EachBehind c P t := by
  rintro x y rfl
  exact h (s ++ x) y (List.append_assoc s x (c :: y)).symm

/-- A property that says how a text begins holds in a text if it holds in its parts. -/
theorem EachBehind.append (longer : ∀ y z, P y → P (y ++ z)) (hs : EachBehind c P s)
    (ht : EachBehind c P t) : EachBehind c P (s ++ t) := by
  intro x y split
  rcases List.append_eq_append_iff.1 split with ⟨z, -, back⟩ | ⟨z, front, back⟩
  · exact ht z y back
  · cases z with
    | nil => exact ht [] y back.symm
    | cons e z =>
      obtain ⟨rfl, rfl⟩ := List.cons.inj back
      exact longer z t (hs x z front)

end EditorText.Text
