import EditorText.Proofs.Align.Columns
import EditorText.Proofs.Align.Gaps

/-!
# Pieces that grow

The pieces of a line beside those of another, piece by piece (`Pairs`). A piece that grows by a
space out of its padding is padded to the same text (`Pairs.padPieces_eq`). One that outgrows its
column makes the line longer (`Pairs.width_padPieces`), though never by so much that it could not be
written (`Pairs.writable`).
-/

set_option autoImplicit false

namespace EditorText.Align

open Text

/-- Pieces of a line, side by side with those of another; the last one is the same. -/
inductive Pairs (R : Int → Text → Text → Prop) : List Text → List Int → List Text → Prop where
  | last (p : Text) (ws : List Int) : Pairs R [p] ws [p]
  | cons {w : Int} {p q : Text} {ps qs : List Text} {ws : List Int} :
      R w p q → Pairs R ps ws qs → Pairs R (p :: ps) (w :: ws) (q :: qs)

/-- The piece is the same, or has a space more out of its padding. -/
def Grown (tabSize w : Int) (p q : Text) : Prop :=
  Longer (width tabSize p < w) p q

/-- The piece is the same, or has a space more out of its padding, or was empty. -/
def Again (tabSize w : Int) (p q : Text) : Prop :=
  Longer (width tabSize p < w ∨ p = []) p q

section Pairs

variable {tabSize w : Int} {p q : Text} {ps qs : List Text} {ws ws' : List Int}

theorem Longer.imp {room room' : Prop} (h : Longer room p q) (wide : room → room') :
    Longer room' p q := by
  rcases h with same | ⟨more, some⟩
  · exact .inl same
  · exact .inr ⟨more, wide some⟩

theorem Longer.append {room : Prop} (h : Longer room p q) (s : Text) :
    Longer room (s ++ p) (s ++ q) := by
  rcases h with rfl | ⟨rfl, some⟩
  · exact .inl rfl
  · exact .inr ⟨(List.append_assoc ..).symm, some⟩

theorem Longer.width_le {room : Prop} (h : Longer room p q) :
    width tabSize p ≤ width tabSize q := by
  rcases h with rfl | ⟨rfl, -⟩
  · exact Int.le_refl _
  · rw [width_append, width_space]
    omega

/-- A space out of the padding makes no difference once the piece is padded. -/
theorem Grown.pad_eq (h : Grown tabSize w p q) : q.pad w tabSize = p.pad w tabSize := by
  rcases h with rfl | ⟨rfl, room⟩
  · rfl
  · have some : (lack p w tabSize).toNat = (lack (p ++ [Code.space]) w tabSize).toNat + 1 := by
      simp only [lack, width_append, width_space]
      omega
    rw [pad, pad, some, run, run, List.replicate_succ, List.append_assoc, List.singleton_append]

theorem Grown.width_le (h : Grown tabSize w p q) (fits : width tabSize p ≤ w) :
    width tabSize q ≤ w := by
  rcases h with rfl | ⟨rfl, room⟩
  · exact fits
  · rw [width_append, width_space]
    omega

theorem Again.of_grown (h : Grown tabSize w p q) : Again tabSize w p q :=
  Longer.imp h .inl

/-- A piece that outgrows its column was empty and is a space now. -/
theorem Again.of_not_grown (h : Again tabSize w p q) (outgrows : ¬ Grown tabSize w p q) :
    p = [] ∧ q = [Code.space] ∧ w ≤ 0 := by
  rcases h with rfl | ⟨rfl, room⟩
  · exact absurd (.inl rfl) outgrows
  · have tight : ¬ width tabSize p < w := fun room => outgrows (.inr ⟨rfl, room⟩)
    obtain rfl := room.resolve_left tight
    exact ⟨rfl, rfl, by simpa using tight⟩

theorem Pairs.ne_nil {R : Int → Text → Text → Prop} (h : Pairs R ps ws qs) :
    ps ≠ [] ∧ qs ≠ [] := by
  cases h <;> simp

theorem pairs_cons_iff {R : Int → Text → Text → Prop} (filled : ps ≠ []) :
    Pairs R (p :: ps) (w :: ws) (q :: qs) ↔ R w p q ∧ Pairs R ps ws qs := by
  constructor
  · intro h
    cases h with
    | last => exact absurd rfl filled
    | cons r pairs => exact ⟨r, pairs⟩
  · rintro ⟨r, pairs⟩
    exact .cons r pairs

theorem padPieces_singleton (tabSize : Int) (p : Text) (ws : List Int) :
    padPieces tabSize [p] ws = p := by
  simp [padPieces]

theorem padPieces_cons (tabSize w : Int) (p : Text) (ws : List Int) (filled : ps ≠ []) :
    padPieces tabSize (p :: ps) (w :: ws) = p.pad w tabSize ++ padPieces tabSize ps ws := by
  obtain ⟨q, ps, rfl⟩ := List.exists_cons_of_ne_nil filled
  rfl

/-- Where no piece outgrows its column the padded lines are the same. -/
theorem Pairs.padPieces_eq (h : Pairs (Grown tabSize) ps ws qs) :
    padPieces tabSize qs ws = padPieces tabSize ps ws := by
  induction h with
  | last => rfl
  | cons grown rest ih =>
    rw [padPieces_cons _ _ _ _ rest.ne_nil.1, padPieces_cons _ _ _ _ rest.ne_nil.2, ih,
      grown.pad_eq]

theorem Pairs.fits_right (h : Pairs (Grown tabSize) ps ws qs)
    (fits : Fits (ps.map (width tabSize)) ws) : Fits (qs.map (width tabSize)) ws := by
  induction h with
  | last => exact fits
  | cons grown _ ih =>
    cases fits with
    | cons le rest => exact .cons (grown.width_le le) (ih rest)

theorem Pairs.fits_left (h : Pairs (Again tabSize) ps ws qs) :
    Fits (ps.map (width tabSize)) (qs.map (width tabSize)) := by
  induction h with
  | last => exact .refl _
  | cons again _ ih => exact .cons (Longer.width_le again) ih

/-- **In wider columns a line gets no shorter, and longer if a piece outgrows its column.** -/
theorem Pairs.width_padPieces (h : Pairs (Again tabSize) ps ws qs)
    (fits : Fits (ps.map (width tabSize)) ws) (fits' : Fits (qs.map (width tabSize)) ws')
    (wider : Fits ws ws') :
    width tabSize (padPieces tabSize ps ws) ≤ width tabSize (padPieces tabSize qs ws') ∧
      (¬ Pairs (Grown tabSize) ps ws qs →
        width tabSize (padPieces tabSize ps ws) < width tabSize (padPieces tabSize qs ws')) := by
  induction h generalizing ws' with
  | last p ws =>
    rw [padPieces_singleton, padPieces_singleton]
    exact ⟨Int.le_refl _, fun outgrows => absurd (.last p ws) outgrows⟩
  | @cons w p q ps qs ws again rest ih =>
    cases fits with
    | cons le fits =>
    cases wider with
    | @cons _ w' _ ws' more wider =>
    cases fits' with
    | cons le' fits' =>
    obtain ⟨most, strict⟩ := ih fits fits' wider
    rw [padPieces_cons _ _ _ _ rest.ne_nil.1, padPieces_cons _ _ _ _ rest.ne_nil.2, width_append,
      width_append, width_pad, width_pad]
    -- Padded, a piece is as wide as its column, and no column gets narrower.
    refine ⟨by omega, fun outgrows => ?_⟩
    by_cases grown : Grown tabSize w p q
    · have tail := strict fun pairs => outgrows (.cons grown pairs)
      omega
    · obtain ⟨rfl, rfl, none⟩ := again.of_not_grown grown
      rw [width_space] at le'
      rw [width_nil] at le
      rw [width_nil, width_space]
      omega

/-- A line that fits its columns fits them again but for columns without width. -/
theorem Pairs.fits_max (h : Pairs (Again tabSize) ps ws qs)
    (fits : Fits (ps.map (width tabSize)) ws) :
    Fits (qs.map (width tabSize)) (ws.map (max · 1)) := by
  induction h with
  | last p ws =>
    cases fits with
    | cons le _ => exact .cons (Int.le_trans le (Int.le_max_left _ _)) .nil
  | @cons w p q ps qs ws again _ ih =>
    cases fits with
    | cons le rest =>
      have most : width tabSize q ≤ max w 1 := by
        by_cases grown : Grown tabSize w p q
        · exact Int.le_trans (grown.width_le le) (Int.le_max_left _ _)
        · obtain ⟨-, rfl, -⟩ := again.of_not_grown grown
          exact Int.le_max_right _ _
      exact .cons most (ih rest)

/-- A padding that is smaller, or one space, can be written with a longer text. -/
theorem Excess.of?_eq_none_of_again {v : Int} (positive : 1 ≤ tabSize) (again : Again tabSize w p q)
    (most : v ≤ max w 1) (fine : Excess.of? p.length (p.lack w tabSize) = none) :
    Excess.of? q.length (q.lack v tabSize) = none := by
  have wider : width tabSize p ≤ width tabSize q := Longer.width_le again
  have longer : p.length ≤ q.length := by
    rcases again with rfl | ⟨rfl, -⟩ <;> simp
  have narrow := width_nonneg positive q
  have free : (1 : Int) ≤ freeRoom := by decide
  have low (t : Text) (u : Int) : 0 ≤ lack t u tabSize := Int.le_max_left _ _
  rw [Excess.of?_eq_none_iff (low p w), lack] at fine
  rw [Excess.of?_eq_none_iff (low q v), lack]
  omega

/-- Paddings can be written again. -/
theorem Pairs.writable (positive : 1 ≤ tabSize) (h : Pairs (Again tabSize) ps ws qs)
    (most : Fits ws' (ws.map (max · 1))) (fine : Writable tabSize ps ws) :
    Writable tabSize qs ws' := by
  induction h generalizing ws' with
  | last p ws => simp [Writable]
  | @cons w p q ps qs ws again rest ih =>
    obtain ⟨r, ps, rfl⟩ := List.exists_cons_of_ne_nil rest.ne_nil.1
    obtain ⟨s, qs, rfl⟩ := List.exists_cons_of_ne_nil rest.ne_nil.2
    obtain ⟨first, others⟩ := fine
    cases most with
    | nil => simp [Writable]
    | cons le further =>
      exact ⟨Excess.of?_eq_none_of_again positive again le first, ih further others⟩

end Pairs

end EditorText.Align
