import EditorText.Proofs.Choice.Protection
import EditorText.Proofs.Text.Splitting

/-!
# Cutting an interior at its commas

An interior is cut at each comma that no backslash goes with (`pieces`). Joined with commas the
pieces are the interior again (`join_pieces`), and every piece is whole if no backslash is left over
at the end (`whole_of_mem_pieces`), so that the items are the pieces but for an empty one at the end
(`items_eq`).
-/

set_option autoImplicit false

namespace EditorText.Choice

open Text

/-- Cuts a text at its commas from left to right; `waiting` tells that a backslash goes with the
first code. -/
def cut : Bool → Text → List Text
  | _, [] => [[]]
  | waiting, c :: t =>
    if c = Code.comma ∧ waiting = false then [] :: cut false t
    else consFirst c (cut (!waiting && c == Code.backslash) t)

/-- The pieces of a text between its commas, those that a backslash goes with excepted. -/
def pieces (t : Text) : List Text := cut false t

/-- Pieces without an empty one at the end. -/
def withoutEmptyEnd (ps : List Text) : List Text :=
  if ps.getLast? = some [] then ps.dropLast else ps

/-- The backslash that waits in front of a text. -/
def owed (waiting : Bool) : Text := if waiting then [Code.backslash] else []

variable {t : Text} {waiting : Bool}

theorem withoutEmptyEnd_cons_cons (p q : Text) (ps : List Text) :
    withoutEmptyEnd (p :: q :: ps) = p :: withoutEmptyEnd (q :: ps) := by
  rw [withoutEmptyEnd, withoutEmptyEnd, List.getLast?_cons_cons, List.dropLast_cons_cons]
  split <;> rfl

theorem cut_ne_nil (waiting : Bool) (t : Text) : cut waiting t ≠ [] := by
  cases t with
  | nil => simp [cut]
  | cons c t =>
    rw [cut]
    split
    · simp
    · obtain ⟨p, rest, -, first⟩ :=
        consFirst_eq_cons (c := c) (cut_ne_nil (!waiting && c == Code.backslash) t)
      simp [first]

theorem join_cut (waiting : Bool) (t : Text) : join [Code.comma] (cut waiting t) = t := by
  fun_induction cut waiting t with
  | case1 => rfl
  | case2 waiting c t comma ih =>
    obtain ⟨p, ps, pieces⟩ := List.exists_cons_of_ne_nil (cut_ne_nil false t)
    rw [pieces] at ih ⊢
    rw [join_cons_cons, ih, comma.1]
    rfl
  | case3 waiting c t inside ih => rw [join_consFirst _ _ (cut_ne_nil _ t), ih]

/-- **The pieces are the whole text.** -/
theorem join_pieces (t : Text) : join [Code.comma] (pieces t) = t :=
  join_cut false t

theorem waits_owed (waiting : Bool) (t : Text) : waits (owed waiting ++ t) =
    t.foldl (fun waiting c => !waiting && c == Code.backslash) waiting := by
  cases waiting <;> rfl

theorem waits_owed_cons (waiting : Bool) (c : Code) (t : Text) :
    waits (owed waiting ++ c :: t) = waits (owed (!waiting && c == Code.backslash) ++ t) := by
  rw [waits_owed, waits_owed]
  rfl

/-- With the backslash that waits, each piece of a text is whole. -/
theorem whole_cut (paired : waits (owed waiting ++ t) = false) :
    ∃ p ps, cut waiting t = p :: ps ∧ Whole (owed waiting ++ p) ∧ ∀ q ∈ ps, Whole q := by
  fun_induction cut waiting t with
  | case1 waiting =>
    cases waiting with
    | true => cases paired
    | false => exact ⟨[], [], rfl, .nil, nofun⟩
  | case2 waiting c t comma ih =>
    obtain ⟨rfl, rfl⟩ := comma
    obtain ⟨p, ps, pieces, first, others⟩ := ih paired
    rw [pieces]
    exact ⟨[], p :: ps, rfl, .nil, List.forall_mem_cons.2 ⟨first, others⟩⟩
  | case3 waiting c t inside ih =>
    rw [waits_owed_cons] at paired
    obtain ⟨p, ps, pieces, first, others⟩ := ih paired
    rw [pieces]
    refine ⟨c :: p, ps, rfl, ?_, others⟩
    cases waiting with
    | true => exact .pair c first
    | false =>
      by_cases backslash : c = Code.backslash
      · subst backslash
        exact first
      · have plain : (c == Code.backslash) = false := beq_false_of_ne backslash
        rw [plain] at first
        exact .plain (fun comma => inside ⟨comma, rfl⟩) backslash first

/-- **Every piece is whole** if no backslash is left over. -/
theorem whole_of_mem_pieces (paired : waits t = false) : ∀ p ∈ pieces t, Whole p := by
  have nothingWaits : waits (owed false ++ t) = false := paired
  obtain ⟨p, ps, cutAt, first, others⟩ := whole_cut nothingWaits
  rw [pieces, cutAt]
  exact List.forall_mem_cons.2 ⟨first, others⟩

/-- **The items are the pieces**, but for an empty one at the end. -/
theorem items_eq (paired : waits t = false) : items t = withoutEmptyEnd (pieces t) := by
  have found := items_join (whole_of_mem_pieces paired)
  rwa [join_pieces] at found

end EditorText.Choice
