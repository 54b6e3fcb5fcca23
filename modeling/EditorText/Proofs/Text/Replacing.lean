import EditorText.Proofs.Text.Splitting

/-!
# Replacing a part

`replace` goes through a text from the left: where the part begins it is replaced and passed over
(`replace_part`), elsewhere a code is copied (`replace_cons`). A mark that was put behind every
occurrence of a code is taken out again in this way (`replace_replaceCode`).
-/

set_option autoImplicit false

namespace EditorText.Text

variable {part new t : Text}

/-- Where the part does not begin the code stays. -/
theorem replace_cons {c : Code} (absent : ¬ part <+: c :: t) :
    replace part new (c :: t) = c :: replace part new t := by
  have no : ¬ startsWith (c :: t) part = true := by
    rw [startsWith_iff]
    rintro ⟨r, whole⟩
    exact absent ⟨r, whole.symm⟩
  rw [replace, split, splitFrom, if_neg no, join_consFirst new c (splitFrom_ne_nil part 0 t)]
  rfl

/-- Where the part begins it is replaced. -/
theorem replace_part (filled : part ≠ []) (new t : Text) :
    replace part new (part ++ t) = new ++ replace part new t := by
  obtain ⟨d, tail, rfl⟩ := List.exists_cons_of_ne_nil filled
  have yes : startsWith (d :: (tail ++ t)) (d :: tail) = true := startsWith_iff.2 ⟨t, rfl⟩
  have passed := splitFrom_append_length (d :: tail) tail t
  rw [replace, split, List.cons_append, splitFrom, if_pos yes, List.length_cons,
    Nat.add_sub_cancel, passed, join_nil_cons new (splitFrom_ne_nil (d :: tail) 0 t)]
  rfl

theorem replaceCode_cons_self (c : Code) (new t : Text) :
    replaceCode c new (c :: t) = new ++ replaceCode c new t := by
  simp [replaceCode]

theorem replaceCode_cons_of_ne {c d : Code} (other : d ≠ c) (new t : Text) :
    replaceCode c new (d :: t) = d :: replaceCode c new t := by
  simp [replaceCode, other]

/-- A mark put behind every occurrence of a code and deleted there leaves the text. -/
theorem replace_replaceCode (c : Code) (mark t : Text) :
    replace (c :: mark) [c] (replaceCode c (c :: mark) t) = t := by
  induction t with
  | nil => rfl
  | cons d t ih =>
    by_cases same : d = c
    · subst same
      rw [replaceCode_cons_self, replace_part (List.cons_ne_nil d mark), ih]
      rfl
    · have absent : ¬ c :: mark <+: d :: replaceCode c (c :: mark) t := by
        intro begins
        exact same (List.cons_prefix_cons.1 begins).1.symm
      rw [replaceCode_cons_of_ne same, replace_cons absent, ih]

end EditorText.Text
