import EditorText.Text.Basic

/-!
# Splitting and joining

Splitting a text at a separator leaves pieces without it (`not_infix_of_mem_split`). Joining such
pieces and splitting again gives them back, if the separator does not begin the way it ends
(`split_join`).
-/

set_option autoImplicit false

namespace EditorText.Text

variable {sep t : Text}

theorem consFirst_eq_cons {c : Code} {ps : List Text} (h : ps ≠ []) :
    ∃ p rest, ps = p :: rest ∧ consFirst c ps = (c :: p) :: rest := by
  cases ps with
  | nil => exact absurd rfl h
  | cons p rest => exact ⟨p, rest, rfl, rfl⟩

/-- The first piece of a text begins it. -/
theorem prefix_of_splitFrom {p : Text} {ps : List Text} (h : splitFrom sep 0 t = p :: ps) :
    p <+: t := by
  induction t generalizing p ps with
  | nil =>
    obtain ⟨rfl, -⟩ := List.cons.inj h
    exact List.prefix_refl _
  | cons c t ih =>
    rw [splitFrom] at h
    split at h
    · obtain ⟨rfl, -⟩ := List.cons.inj h
      exact List.nil_prefix
    · obtain ⟨q, qs, pieces, first⟩ := consFirst_eq_cons (splitFrom_ne_nil sep 0 t)
      rw [first] at h
      obtain ⟨rfl, -⟩ := List.cons.inj h
      exact List.cons_prefix_cons.2 ⟨rfl, ih pieces⟩

theorem not_infix_nil (filled : sep ≠ []) : ¬ sep <:+: [] := by
  rw [List.infix_nil]
  exact filled

/-- No piece of a text has the separator in it. -/
theorem not_infix_of_mem_splitFrom (filled : sep ≠ []) (skip : Nat) (t : Text) :
    ∀ p ∈ splitFrom sep skip t, ¬ sep <:+: p := by
  fun_induction splitFrom sep skip t with
  | case1 => simpa using not_infix_nil filled
  | case2 _ _ _ ih => exact ih
  | case3 c t _ ih => exact List.forall_mem_cons.2 ⟨not_infix_nil filled, ih⟩
  | case4 c t absent ih =>
    obtain ⟨q, qs, pieces, first⟩ := consFirst_eq_cons (c := c) (splitFrom_ne_nil sep 0 t)
    rw [pieces] at ih
    rw [first]
    obtain ⟨freeFirst, freeRest⟩ := List.forall_mem_cons.1 ih
    refine List.forall_mem_cons.2 ⟨fun inside => ?_, freeRest⟩
    rcases List.infix_cons_iff.1 inside with front | behind
    · refine absent (startsWith_iff.2 ?_)
      obtain ⟨r, whole⟩ :=
        front.trans (List.cons_prefix_cons.2 ⟨rfl, prefix_of_splitFrom pieces⟩)
      exact ⟨r, whole.symm⟩
    · exact freeFirst behind

/-- No piece of a text has the separator in it. -/
theorem not_infix_of_mem_split (filled : sep ≠ []) {p : Text} (h : p ∈ split sep t) :
    ¬ sep <:+: p :=
  not_infix_of_mem_splitFrom filled 0 t p h

/-- Nothing comes of joining no pieces, or an empty one. -/
theorem join_eq_nil (filled : sep ≠ []) {pieces : List Text} (h : join sep pieces = []) :
    pieces = [] ∨ pieces = [[]] := by
  rcases pieces with _ | ⟨p, _ | ⟨q, pieces⟩⟩
  · exact .inl rfl
  · right
    simpa [join] using h
  · rw [join_cons_cons] at h
    simp [filled] at h

/-- A joined text has the codes of its pieces and of the separator. -/
theorem not_mem_join {c : Code} {pieces : List Text} (outside : c ∉ sep)
    (free : ∀ p ∈ pieces, c ∉ p) : c ∉ join sep pieces := by
  cases pieces with
  | nil => simp [join]
  | cons p pieces =>
    obtain ⟨first, others⟩ := List.forall_mem_cons.1 free
    simp only [join, List.mem_append, List.mem_flatMap, not_or, not_exists, not_and]
    exact ⟨first, fun q inside => ⟨outside, others q inside⟩⟩

/-- No end of the separator but the whole of it is one of its beginnings. -/
def Unbordered (sep : Text) : Prop :=
  ∀ a b, a ≠ [] → b ≠ [] → sep = a ++ b → ¬ b <+: sep

theorem unbordered_single (c : Code) : Unbordered [c] := by
  intro a b ha hb split
  have long := congrArg List.length split
  have := List.length_pos_iff.2 ha
  have := List.length_pos_iff.2 hb
  rw [List.length_append, List.length_singleton] at long
  omega

theorem unbordered_pair {c d : Code} (differ : c ≠ d) : Unbordered [c, d] := by
  rintro (_ | ⟨e, a⟩) b ha hb split begins
  · exact ha rfl
  · obtain ⟨rfl, rest⟩ := List.cons.inj split
    rcases List.singleton_eq_append_iff.1 rest with ⟨-, rfl⟩ | ⟨-, rfl⟩
    · exact differ (List.cons_prefix_cons.1 begins).1.symm
    · exact hb rfl

/-- A text without a separator in front of one does not begin with it. -/
theorem not_prefix_of_not_infix (unbordered : Unbordered sep) {p rest : Text} (filled : p ≠ [])
    (free : ¬ sep <:+: p) : ¬ sep <+: p ++ (sep ++ rest) := by
  rintro ⟨r, whole⟩
  rcases List.append_eq_append_iff.1 whole with ⟨a, rfl, -⟩ | ⟨b, split, back⟩
  · exact free ⟨[], a, by simp⟩
  · by_cases empty : b = []
    · refine free ⟨[], [], ?_⟩
      simp [split, empty]
    · have shorter : b.length ≤ sep.length := by
        rw [split, List.length_append]
        omega
      have begins : b <+: sep ++ rest := ⟨r, back.symm⟩
      have border : b <+: sep :=
        List.prefix_of_prefix_length_le begins (List.prefix_append sep rest) shorter
      exact unbordered p b filled empty split border

/-- Codes that are still to be passed over are passed over. -/
theorem splitFrom_append_length (sep a t : Text) :
    splitFrom sep a.length (a ++ t) = splitFrom sep 0 t := by
  induction a with
  | nil => rfl
  | cons c a ih => exact ih

/-- A text without the separator is one piece. -/
theorem splitFrom_of_not_infix (free : ¬ sep <:+: t) : splitFrom sep 0 t = [t] := by
  induction t with
  | nil => rfl
  | cons c t ih =>
    have absent : ¬ startsWith (c :: t) sep = true := by
      rw [startsWith_iff]
      rintro ⟨r, whole⟩
      exact free ⟨[], r, by simp [whole]⟩
    have behind : ¬ sep <:+: t := fun inside => free (List.infix_cons inside)
    rw [splitFrom, if_neg absent, ih behind]
    rfl

/-- A text without the separator in front of one is the first piece. -/
theorem splitFrom_append (filled : sep ≠ []) (unbordered : Unbordered sep) {p : Text}
    (free : ¬ sep <:+: p) (rest : Text) :
    splitFrom sep 0 (p ++ (sep ++ rest)) = p :: splitFrom sep 0 rest := by
  induction p with
  | nil =>
    obtain ⟨d, tail, rfl⟩ := List.exists_cons_of_ne_nil filled
    have present : startsWith (d :: (tail ++ rest)) (d :: tail) = true :=
      startsWith_iff.2 ⟨rest, rfl⟩
    have passed := splitFrom_append_length (d :: tail) tail rest
    rw [List.nil_append, List.cons_append, splitFrom, if_pos present, List.length_cons,
      Nat.add_sub_cancel, passed]
  | cons c p ih =>
    have absent : ¬ startsWith (c :: (p ++ (sep ++ rest))) sep = true := by
      rw [startsWith_iff]
      rintro ⟨r, whole⟩
      exact not_prefix_of_not_infix unbordered (List.cons_ne_nil c p) free ⟨r, whole.symm⟩
    have behind : ¬ sep <:+: p := fun inside => free (List.infix_cons inside)
    rw [List.cons_append, splitFrom, if_neg absent, ih behind]
    rfl

/-- **Joining and splitting again** gives pieces back that are free of the separator. -/
theorem split_join (filled : sep ≠ []) (unbordered : Unbordered sep) {pieces : List Text}
    (some : pieces ≠ []) (free : ∀ p ∈ pieces, ¬ sep <:+: p) :
    split sep (join sep pieces) = pieces := by
  induction pieces with
  | nil => exact absurd rfl some
  | cons p ps ih =>
    obtain ⟨freeFirst, freeRest⟩ := List.forall_mem_cons.1 free
    cases ps with
    | nil =>
      rw [join, List.flatMap_nil, List.append_nil]
      exact splitFrom_of_not_infix freeFirst
    | cons q ps =>
      have rest := ih (List.cons_ne_nil q ps) freeRest
      rw [split] at rest
      rw [join_cons_cons, List.append_assoc, split,
        splitFrom_append filled unbordered freeFirst, rest]

end EditorText.Text
