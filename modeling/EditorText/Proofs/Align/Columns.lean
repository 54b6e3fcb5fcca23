import EditorText.Proofs.Align.Rewriting

/-!
# Columns

The columns of a block are the least widths that the lines with separators fit (`fits_columns`,
`columns_fits`). A line is its pieces, text and separator in turn; padding it pads every piece but
the last (`Line.text_pad`).
-/

set_option autoImplicit false

namespace EditorText.Align

open Text

/-- There are columns for all widths, and each is at least as wide. -/
inductive Fits : List Int → List Int → Prop where
  | nil {ws : List Int} : Fits [] ws
  | cons {v w : Int} {vs ws : List Int} : v ≤ w → Fits vs ws → Fits (v :: vs) (w :: ws)

namespace Fits

variable {us vs ws : List Int}

theorem refl (ws : List Int) : Fits ws ws := by
  induction ws with
  | nil => exact .nil
  | cons w ws ih => exact .cons (Int.le_refl w) ih

theorem trans (h : Fits us vs) (h' : Fits vs ws) : Fits us ws := by
  induction h generalizing ws with
  | nil => exact .nil
  | cons le _ ih =>
    cases h' with
    | cons le' rest => exact .cons (Int.le_trans le le') (ih rest)

theorem antisymm (h : Fits vs ws) (h' : Fits ws vs) : vs = ws := by
  induction h with
  | nil => cases h'; rfl
  | cons le _ ih =>
    cases h' with
    | cons le' rest => rw [Int.le_antisymm le le', ih rest]

theorem length_le (h : Fits vs ws) : vs.length ≤ ws.length := by
  induction h with
  | nil => exact Nat.zero_le _
  | cons _ _ ih => exact Nat.succ_le_succ ih

theorem wider_left (vs ws : List Int) : Fits vs (wider vs ws) := by
  fun_induction wider vs ws with
  | case1 => exact .nil
  | case2 => exact .refl _
  | case3 v vs w ws ih => exact .cons (Int.le_max_left v w) ih

theorem wider_right (vs ws : List Int) : Fits ws (wider vs ws) := by
  fun_induction wider vs ws with
  | case1 => exact .refl _
  | case2 => exact .nil
  | case3 v vs w ws ih => exact .cons (Int.le_max_right v w) ih

theorem wider (h : Fits us ws) (h' : Fits vs ws) : Fits (wider us vs) ws := by
  induction h generalizing vs with
  | nil => simpa [Align.wider] using h'
  | cons le rest ih =>
    cases h' with
    | nil => exact .cons le rest
    | cons le' rest' => exact .cons (Int.max_le.2 ⟨le, le'⟩) (ih rest')

/-- Rows of widths fit what is the widest of each column. -/
theorem foldl_wider (rows : List (List Int)) (start : List Int) :
    Fits start (rows.foldl Align.wider start) ∧
      ∀ r ∈ rows, Fits r (rows.foldl Align.wider start) := by
  induction rows generalizing start with
  | nil => exact ⟨.refl start, by simp⟩
  | cons r rows ih =>
    obtain ⟨first, others⟩ := ih (Align.wider start r)
    exact ⟨(wider_left start r).trans first,
      List.forall_mem_cons.2 ⟨(wider_right start r).trans first, others⟩⟩

theorem foldl_wider_of_forall (rows : List (List Int)) (start : List Int) (h : Fits start ws)
    (each : ∀ r ∈ rows, Fits r ws) : Fits (rows.foldl Align.wider start) ws := by
  induction rows generalizing start with
  | nil => exact h
  | cons r rows ih =>
    obtain ⟨first, others⟩ := List.forall_mem_cons.1 each
    exact ih _ (h.wider first) others

end Fits

section Block

variable {tabSize : Int} {lines : List Line} {ws : List Int}

/-- A line with separators fits the columns. -/
theorem fits_columns {l : Line} (hl : l ∈ lines) (cut : l.isCut = true) :
    Fits (l.widths tabSize) (Block.columns tabSize lines) :=
  (Fits.foldl_wider _ []).2 _ (List.mem_map_of_mem (List.mem_filter.2 ⟨hl, cut⟩))

/-- The columns are no wider than need be. -/
theorem columns_fits (each : ∀ l ∈ lines, l.isCut = true → Fits (l.widths tabSize) ws) :
    Fits (Block.columns tabSize lines) ws := by
  refine Fits.foldl_wider_of_forall _ [] .nil fun r hr => ?_
  obtain ⟨l, counted, rfl⟩ := List.mem_map.1 hr
  obtain ⟨hl, cut⟩ := List.mem_filter.1 counted
  exact each l hl cut

end Block

/-- Separators and texts of cells, in turn. -/
def pieces (cs : List Cell) : List Text :=
  cs.flatMap fun c => [c.separator, c.text]

@[simp] theorem pieces_nil : pieces [] = [] := rfl

@[simp] theorem pieces_cons (c : Cell) (cs : List Cell) :
    pieces (c :: cs) = c.separator :: c.text :: pieces cs := rfl

/-- All pieces but the last padded to the widths of their columns, and put together. -/
def padPieces (tabSize : Int) : List Text → List Int → Text
  | p :: q :: ps, w :: ws => p.pad w tabSize ++ padPieces tabSize (q :: ps) ws
  | ps, _ => ps.flatten

theorem Line.values_parts (l : Line) : l.parts.map Part.value = l.head :: pieces l.cells := by
  obtain ⟨number, head, cells⟩ := l
  simp only [parts, List.map_cons, Part.value, List.cons.injEq, true_and]
  induction cells with
  | nil => rfl
  | cons c cs ih => simp [ih, Part.value]

theorem Line.widths_eq (tabSize : Int) (l : Line) :
    l.widths tabSize = (l.head :: pieces l.cells).map (Text.width tabSize) := by
  rw [← values_parts, List.map_map]
  rfl

/-- Padding cells pads their pieces. -/
theorem padCells_eq (tabSize : Int) (text : Text) (cs : List Cell) (ws : List Int)
    (enough : (pieces cs).length ≤ ws.length) :
    (padCells tabSize text cs ws).1 ++
      (padCells tabSize text cs ws).2.flatMap (fun c => c.separator ++ c.text) =
        padPieces tabSize (text :: pieces cs) ws := by
  fun_induction padCells tabSize text cs ws with
  | case1 text c cs w v ws rest ih =>
    have fewer : (pieces cs).length ≤ ws.length := by simpa using enough
    simp [padPieces, ← ih fewer, rest]
  | case2 text cs ws short =>
    cases cs with
    | nil => simp [padPieces]
    | cons c cs =>
      rcases ws with _ | ⟨w, _ | ⟨v, ws⟩⟩
      · simp at enough
      · simp at enough
      · exact absurd rfl (short c cs w v ws rfl)

/-- Every padding can be written: that of each piece but the last. -/
def Writable (tabSize : Int) : List Text → List Int → Prop
  | p :: q :: ps, w :: ws =>
      Excess.of? p.length (p.lack w tabSize) = none ∧ Writable tabSize (q :: ps) ws
  | _, _ => True

theorem writable_iff (tabSize : Int) (ps : List Text) (ws : List Int) :
    Writable tabSize ps ws ↔ (ps.dropLast.zip ws).findSome? (fun x =>
      Excess.of? x.1.length (x.1.lack x.2 tabSize)) = none := by
  fun_induction Writable tabSize ps ws with
  | case1 p q ps w ws ih => simp [ih]
  | case2 ps ws short =>
    rcases ps with _ | ⟨p, _ | ⟨q, ps⟩⟩
    · simp
    · simp
    · cases ws with
      | nil => simp
      | cons w ws => exact absurd rfl (short p q ps w ws rfl)

/-- A line stays within what can be written if its paddings do. -/
theorem Line.excess?_eq_none_iff (tabSize : Int) (ws : List Int) (l : Line) :
    l.excess? tabSize ws = none ↔ Writable tabSize (l.head :: pieces l.cells) ws := by
  rw [writable_iff, ← values_parts, ← List.map_dropLast, List.zip_map_left, List.findSome?_map]
  rfl

/-- **Padding a line** pads every piece but the last. -/
theorem Line.text_pad (tabSize : Int) (l : Line) {ws : List Int}
    (enough : (pieces l.cells).length ≤ ws.length) :
    (l.pad tabSize ws).text = padPieces tabSize (l.head :: pieces l.cells) ws :=
  padCells_eq tabSize l.head l.cells ws enough

end EditorText.Align
