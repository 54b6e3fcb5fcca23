import EditorText.Proofs.Align.Blocks
import Mathlib.Order.Bounds.Basic

/-!
# The pieces of an aligned block

A column is as wide as the widest of its pieces (`isGreatest_columns`). In an aligned line every
piece but the last is as wide as its column, and the last is no wider (`Filled`), so that pieces of
one column begin at the same place. Such a line stays as it is when it is padded again
(`padCells_of_filled`), and its gaps are where they belong (`lead_padCells`), so that aligning a
block again changes nothing (`align_align`).
-/

set_option autoImplicit false

namespace EditorText.Align

open Text

section Columns

variable {tabSize v w : Int} {us vs ws : List Int} {i : Nat}

theorem Fits.le_of_getElem? (h : Fits vs ws) (left : vs[i]? = some v) (right : ws[i]? = some w) :
    v ≤ w := by
  induction h generalizing i with
  | nil => simp at left
  | cons le _ ih =>
    cases i with
    | zero =>
      obtain rfl := Option.some.inj left
      obtain rfl := Option.some.inj right
      exact le
    | succ i => exact ih left right

/-- The greater of two widths is one of them. -/
theorem getElem?_wider (h : (wider vs ws)[i]? = some w) : vs[i]? = some w ∨ ws[i]? = some w := by
  fun_induction wider vs ws generalizing i with
  | case1 => exact .inr h
  | case2 => exact .inl h
  | case3 a vs b ws ih =>
    cases i with
    | zero =>
      have greater : max a b = w := Option.some.inj h
      rcases Int.le_total a b with le | le
      · right
        rw [← greater, Int.max_eq_right le]
        rfl
      · left
        rw [← greater, Int.max_eq_left le]
        rfl
    | succ i => exact ih h

theorem getElem?_foldl_wider (rows : List (List Int)) (start : List Int)
    (h : (rows.foldl wider start)[i]? = some w) :
    start[i]? = some w ∨ ∃ r ∈ rows, r[i]? = some w := by
  induction rows generalizing start with
  | nil => exact .inl h
  | cons r rows ih =>
    rcases ih (wider start r) h with first | ⟨s, member, there⟩
    · rcases getElem?_wider first with early | here
      · exact .inl early
      · exact .inr ⟨r, List.mem_cons_self, here⟩
    · exact .inr ⟨s, List.mem_cons_of_mem r member, there⟩

/-- **A column is as wide as the widest of its pieces** on lines with separators. -/
theorem isGreatest_columns {lines : List Line} (h : (Block.columns tabSize lines)[i]? = some w) :
    IsGreatest {v | ∃ l ∈ lines, l.isCut = true ∧ (l.widths tabSize)[i]? = some v} w := by
  constructor
  · rcases getElem?_foldl_wider _ [] h with none | ⟨r, member, there⟩
    · simp at none
    · obtain ⟨l, counted, rfl⟩ := List.mem_map.1 member
      obtain ⟨inside, cut⟩ := List.mem_filter.1 counted
      exact ⟨l, inside, cut, there⟩
  · rintro v ⟨l, inside, cut, there⟩
    exact (fits_columns inside cut).le_of_getElem? there h

end Columns

/-- All pieces but the last are as wide as their columns, and the last is no wider. -/
inductive Filled (tabSize : Int) : List Text → List Int → Prop where
  | last {p : Text} {w : Int} {ws : List Int} : width tabSize p ≤ w → Filled tabSize [p] (w :: ws)
  | cons {p : Text} {w : Int} {ps : List Text} {ws : List Int} :
      width tabSize p = w → Filled tabSize ps ws → Filled tabSize (p :: ps) (w :: ws)

section Filled

variable {tabSize w : Int} {ps : List Text} {ws : List Int} {i : Nat}

theorem Filled.ne_nil (h : Filled tabSize ps ws) : ps ≠ [] := by
  cases h <;> simp

theorem Filled.fits (h : Filled tabSize ps ws) : Fits (ps.map (width tabSize)) ws := by
  induction h with
  | last le => exact .cons le .nil
  | cons same _ ih => exact .cons (Int.le_of_eq same) ih

/-- Before the last piece and any piece before that, the widths are those of the columns. -/
theorem Filled.take_eq (h : Filled tabSize ps ws) (inside : i < ps.length) :
    (ps.map (width tabSize)).take i = ws.take i := by
  induction h generalizing i with
  | last =>
    obtain rfl : i = 0 := by simpa using inside
    rfl
  | cons same _ ih =>
    cases i with
    | zero => rfl
    | succ i =>
      have behind := ih (Nat.lt_of_succ_lt_succ inside)
      rw [List.map_cons, List.take_succ_cons, List.take_succ_cons, same, behind]

/-- A piece before the last is as wide as its column. -/
theorem Filled.getElem?_eq (h : Filled tabSize ps ws) (inside : i + 1 < ps.length) :
    (ps.map (width tabSize))[i]? = ws[i]? := by
  have front := congrArg (·[i]?) (h.take_eq inside)
  simpa [List.getElem?_take] using front

/-- Nothing is missing that would have to be written. -/
theorem Filled.writable (h : Filled tabSize ps ws) : Writable tabSize ps ws := by
  induction h with
  | last => trivial
  | @cons p w ps ws same rest ih =>
    obtain ⟨q, ps, rfl⟩ := List.exists_cons_of_ne_nil rest.ne_nil
    have none : lack p w tabSize = 0 := by
      rw [lack, same]
      omega
    refine ⟨?_, ih⟩
    rw [none]
    exact Excess.of?_eq_none_of_le (Int.le_refl 0) (Int.natCast_nonneg _)

/-- Padding pieces that fit their columns fills these. -/
theorem filled_padCells {text : Text} {cs : List Cell}
    (fits : Fits ((text :: pieces cs).map (width tabSize)) ws) :
    Filled tabSize ((padCells tabSize text cs ws).1 :: pieces (padCells tabSize text cs ws).2)
      ws := by
  fun_induction padCells tabSize text cs ws with
  | case1 text c cs w v ws rest ih =>
    obtain _ | ⟨le, _ | ⟨le', further⟩⟩ := fits
    refine .cons ?_ (.cons ?_ (ih further))
    · rw [width_pad, Int.max_eq_left le]
    · rw [width_pad, Int.max_eq_left le']
  | case2 text cs ws short =>
    cases cs with
    | nil =>
      obtain _ | ⟨le, -⟩ := fits
      exact .last le
    | cons c cs =>
      obtain _ | ⟨-, _ | ⟨-, -⟩⟩ := fits
      exact absurd rfl (short _ _ _ _ _ rfl)

/-- Padding makes no piece narrower. -/
theorem fits_padCells (tabSize : Int) (text : Text) (cs : List Cell) (ws : List Int) :
    Fits ((text :: pieces cs).map (width tabSize))
      (((padCells tabSize text cs ws).1 :: pieces (padCells tabSize text cs ws).2).map
        (width tabSize)) := by
  fun_induction padCells tabSize text cs ws with
  | case1 text c cs w v ws rest ih =>
    refine .cons ?_ (.cons ?_ ih)
    · rw [width_pad]
      exact Int.le_max_right _ _
    · rw [width_pad]
      exact Int.le_max_right _ _
  | case2 => exact .refl _

/-- Pieces that fill their columns stay as they are. -/
theorem padCells_of_filled {text : Text} {cs : List Cell}
    (filled : Filled tabSize (text :: pieces cs) ws) :
    padCells tabSize text cs ws = (text, cs) := by
  fun_induction padCells tabSize text cs ws with
  | case1 text c cs w v ws rest ih =>
    obtain _ | ⟨same, _ | ⟨same', further⟩⟩ := filled
    have behind : rest = (c.text, cs) := ih further
    rw [behind, pad_eq_self (Int.le_of_eq same.symm), pad_eq_self (Int.le_of_eq same'.symm)]
  | case2 => rfl

theorem length_padCells (tabSize : Int) (text : Text) (cs : List Cell) (ws : List Int) :
    (padCells tabSize text cs ws).2.length = cs.length := by
  fun_induction padCells tabSize text cs ws with
  | case1 text c cs w v ws rest ih => simpa using ih
  | case2 => rfl

end Filled

section Gaps

variable {tabSize w : Int} {t : Text}

theorem lead_body (t : Text) : lead (body t) = [] := by
  by_cases blank : AllBlank t
  · rw [body_of_allBlank blank, lead_of_allBlank blank]
  · obtain ⟨b, y, e, hb, firm, -, rfl⟩ := exists_firm blank
    rw [body_firm hb firm]
    exact lead_firm allBlank_nil firm e

/-- Spaces behind a text make no gap before it. -/
theorem lead_pad (none : lead t = []) (w tabSize : Int) : lead (t.pad w tabSize) = [] := by
  rw [pad]
  by_cases blank : AllBlank t
  · exact lead_of_allBlank (allBlank_append.2 ⟨blank, allBlank_run_space _⟩)
  · obtain ⟨b, y, e, hb, firm, -, rfl⟩ := exists_firm blank
    rw [lead_firm hb firm] at none
    rw [none, List.nil_append, List.append_assoc]
    exact lead_firm allBlank_nil firm _

theorem Cell.claimGap_eq_self {c : Cell} (none : lead c.text = []) : c.claimGap = c := by
  have kept := lead_append_body c.text
  rw [none, List.nil_append] at kept
  rw [claimGap_eq, none, List.append_nil, kept]

/-- Padding cells leaves their gaps where they belong. -/
theorem lead_padCells (tabSize : Int) (text : Text) {cs : List Cell} (ws : List Int)
    (none : ∀ c ∈ cs, lead c.text = []) :
    (lead text = [] → lead (padCells tabSize text cs ws).1 = []) ∧
      ∀ c ∈ (padCells tabSize text cs ws).2, lead c.text = [] := by
  fun_induction padCells tabSize text cs ws with
  | case1 text c cs w v ws rest ih =>
    obtain ⟨here, others⟩ := List.forall_mem_cons.1 none
    obtain ⟨first, behind⟩ := ih others
    exact ⟨fun front => lead_pad front w tabSize, List.forall_mem_cons.2 ⟨first here, behind⟩⟩
  | case2 => exact ⟨id, none⟩

end Gaps

namespace Line

variable {tabSize : Int} {ws : List Int} {l : Line} {i : Nat}

/-- The width of the pieces of a line before one of them. -/
def offset (tabSize : Int) (l : Line) (i : Nat) : Int :=
  ((l.widths tabSize).take i).foldr (· + ·) 0

theorem length_parts (l : Line) : l.parts.length = (l.head :: pieces l.cells).length := by
  rw [← values_parts, List.length_map]

theorem length_pieces (cs : List Cell) : (pieces cs).length = 2 * cs.length := by
  induction cs with
  | nil => rfl
  | cons c cs ih =>
    simp only [pieces_cons, List.length_cons, ih]
    omega

theorem isCut_iff_length : l.isCut = true ↔ 1 < l.parts.length := by
  rw [isCut_iff, length_parts, List.length_cons, length_pieces, ← List.length_pos_iff]
  omega

theorem isCut_claimGaps (l : Line) : l.claimGaps.isCut = l.isCut := by
  simp [isCut, claimGaps]

theorem length_parts_claimGaps (l : Line) : l.claimGaps.parts.length = l.parts.length := by
  simp [length_parts, length_pieces, claimGaps]

theorem length_parts_pad (tabSize : Int) (ws : List Int) (l : Line) :
    (l.pad tabSize ws).parts.length = l.parts.length := by
  simp [length_parts, length_pieces, Line.pad, length_padCells]

theorem isCut_pad (tabSize : Int) (ws : List Int) (l : Line) :
    (l.pad tabSize ws).isCut = l.isCut := by
  rw [Bool.eq_iff_iff, isCut_iff_length, isCut_iff_length, length_parts_pad]

/-- The line has gaps where they belong. -/
theorem claimGaps_eq_self (none : ∀ c ∈ l.cells, lead c.text = []) : l.claimGaps = l := by
  have each : l.cells.map Cell.claimGap = l.cells.map id :=
    List.map_congr_left fun c inside => Cell.claimGap_eq_self (none c inside)
  rw [claimGaps, each, List.map_id]

theorem claimGaps_pad_claimGaps (tabSize : Int) (ws : List Int) (l : Line) :
    (l.claimGaps.pad tabSize ws).claimGaps = l.claimGaps.pad tabSize ws := by
  apply claimGaps_eq_self
  apply (lead_padCells tabSize l.claimGaps.head ws _).2
  intro c inside
  obtain ⟨d, -, rfl⟩ := List.mem_map.1 inside
  rw [Cell.claimGap_eq]
  exact lead_body d.text

theorem filled_pad (fits : Fits (l.widths tabSize) ws) :
    Filled tabSize ((l.pad tabSize ws).head :: pieces (l.pad tabSize ws).cells) ws := by
  rw [widths_eq] at fits
  exact filled_padCells fits

theorem fits_pad (tabSize : Int) (ws : List Int) (l : Line) :
    Fits (l.widths tabSize) ((l.pad tabSize ws).widths tabSize) := by
  rw [widths_eq, widths_eq]
  exact fits_padCells tabSize l.head l.cells ws

theorem pad_of_filled (filled : Filled tabSize (l.head :: pieces l.cells) ws) :
    l.pad tabSize ws = l := by
  rw [Line.pad, padCells_of_filled filled]

theorem pad_of_not_isCut (uncut : l.isCut = false) (tabSize : Int) (ws : List Int) :
    l.pad tabSize ws = l := by
  have none : l.cells = [] := by simpa [isCut] using uncut
  obtain ⟨number, head, cells⟩ := l
  obtain rfl : cells = [] := none
  rfl

theorem claimGaps_of_not_isCut (uncut : l.isCut = false) : l.claimGaps = l := by
  have none : l.cells = [] := by simpa [isCut] using uncut
  apply claimGaps_eq_self
  simp [none]

end Line

namespace Block

variable {b : Block} {tabSize : Int}

/-- The widths that the lines of a block are padded to. -/
def targets (tabSize : Int) (b : Block) : List Int :=
  columns tabSize (b.lines.map Line.claimGaps)

theorem lines_align (tabSize : Int) (b : Block) :
    (b.align tabSize).lines =
      (b.lines.map Line.claimGaps).map (Line.pad tabSize (b.targets tabSize)) := rfl

/-- A line that counts fits the columns. -/
theorem fits_targets (tabSize : Int) {l : Line} (member : l ∈ b.lines) (cut : l.isCut = true) :
    Fits (l.claimGaps.widths tabSize) (b.targets tabSize) :=
  fits_columns (List.mem_map_of_mem member) (by rwa [Line.isCut_claimGaps])

/-- A line of the aligned block is filled, or has no separator. -/
theorem filled_of_mem_align {l : Line} (member : l ∈ (b.align tabSize).lines)
    (cut : l.isCut = true) : Filled tabSize (l.head :: pieces l.cells) (b.targets tabSize) := by
  rw [lines_align, List.map_map] at member
  obtain ⟨k, inside, rfl⟩ := List.mem_map.1 member
  rw [Function.comp_apply, Line.isCut_pad, Line.isCut_claimGaps] at cut
  exact Line.filled_pad (fits_targets tabSize inside cut)

theorem map_claimGaps_align (tabSize : Int) (b : Block) :
    (b.align tabSize).lines.map Line.claimGaps = (b.align tabSize).lines := by
  rw [lines_align, List.map_map, List.map_map, List.map_map]
  apply List.map_congr_left
  intro l _
  exact Line.claimGaps_pad_claimGaps tabSize _ l

/-- The columns of an aligned block are those it was aligned to. -/
theorem targets_align (tabSize : Int) (b : Block) :
    (b.align tabSize).targets tabSize = b.targets tabSize := by
  apply Fits.antisymm
  · rw [targets, map_claimGaps_align]
    apply columns_fits
    intro l member cut
    rw [Line.widths_eq]
    exact (filled_of_mem_align member cut).fits
  · apply columns_fits
    intro l member cut
    have wider := Line.fits_pad tabSize (b.targets tabSize) l
    have counted : l.pad tabSize (b.targets tabSize) ∈ (b.align tabSize).lines :=
      List.mem_map_of_mem member
    rw [← Line.isCut_pad tabSize (b.targets tabSize)] at cut
    rw [targets, map_claimGaps_align]
    exact wider.trans (fits_columns counted cut)

theorem pad_of_mem_align {l : Line} (member : l ∈ (b.align tabSize).lines) :
    l.pad tabSize (b.targets tabSize) = l := by
  cases cut : l.isCut with
  | true => exact Line.pad_of_filled (filled_of_mem_align member cut)
  | false => exact Line.pad_of_not_isCut cut tabSize _

/-- **Aligning a block again changes nothing.** -/
theorem align_align (tabSize : Int) (b : Block) :
    (b.align tabSize).align tabSize = b.align tabSize := by
  have each : (b.align tabSize).lines.map (Line.pad tabSize (b.targets tabSize)) =
      (b.align tabSize).lines.map id :=
    List.map_congr_left fun l member => pad_of_mem_align member
  have lines : ((b.align tabSize).align tabSize).lines = (b.align tabSize).lines := by
    rw [lines_align tabSize (b.align tabSize), targets_align, map_claimGaps_align, each,
      List.map_id]
  exact congrArg (fun ls => (⟨b.eol, b.startLine, ls⟩ : Block)) lines

/-- There is nothing left to write. -/
theorem excess?_align (tabSize : Int) (b : Block) : (b.align tabSize).excess? tabSize = none := by
  have each : ∀ l ∈ (b.align tabSize).lines, l.excess? tabSize (b.targets tabSize) = none := by
    intro l member
    rw [Line.excess?_eq_none_iff]
    cases cut : l.isCut with
    | true => exact (filled_of_mem_align member cut).writable
    | false =>
      have none : l.cells = [] := by simpa [Line.isCut] using cut
      rw [none, pieces_nil]
      trivial
  rw [excess?, map_claimGaps_align, List.findSome?_eq_none_iff]
  have same : columns tabSize (b.align tabSize).lines = b.targets tabSize := by
    rw [← targets_align, targets, map_claimGaps_align]
  rwa [same]

theorem checkedAlign_of_excess?_eq_none (fine : b.excess? tabSize = none) :
    b.checkedAlign tabSize = .ok (b.align tabSize) := by
  rw [checkedAlign, fine]

/-- Two pieces of a column differ in width by more than there is always room for. -/
def Overwide (tabSize : Int) (b : Block) : Prop :=
  ∃ k ∈ b.lines, ∃ l ∈ b.lines, k.isCut = true ∧ l.isCut = true ∧ ∃ (i : Nat) (v w : Int),
    (k.claimGaps.widths tabSize)[i]? = some v ∧ (l.claimGaps.widths tabSize)[i]? = some w ∧
      w + freeRoom < v

/-- A padding that cannot be written is longer than there is always room for. -/
theorem exists_of_not_writable {ps : List Text} {ws : List Int} (h : ¬ Writable tabSize ps ws) :
    ∃ (i : Nat) (p : Text) (w : Int), i + 1 < ps.length ∧ ps[i]? = some p ∧ ws[i]? = some w ∧
      width tabSize p + freeRoom < w := by
  fun_induction Writable tabSize ps ws with
  | case1 p q ps w ws ih =>
    by_cases here : Excess.of? p.length (p.lack w tabSize) = none
    · obtain ⟨i, p', w', inside, piece, column, long⟩ := ih fun rest => h ⟨here, rest⟩
      exact ⟨i + 1, p', w', Nat.succ_lt_succ inside, piece, column, long⟩
    · refine ⟨0, p, w, by simp, rfl, rfl, ?_⟩
      have positive : 0 ≤ p.lack w tabSize := Int.le_max_left _ _
      rw [Excess.of?_eq_none_iff positive] at here
      simp only [lack, freeRoom] at here ⊢
      omega
  | case2 => exact absurd trivial h

/-- **A block can be aligned** unless two pieces of a column differ by too much. -/
theorem checkedAlign_cases (tabSize : Int) (b : Block) :
    b.Overwide tabSize ∧ (∃ e, b.checkedAlign tabSize = .error e) ∨
      b.checkedAlign tabSize = .ok (b.align tabSize) := by
  cases excess : b.excess? tabSize with
  | none => exact .inr (checkedAlign_of_excess?_eq_none excess)
  | some e =>
    refine .inl ⟨?_, e, by rw [checkedAlign, excess]⟩
    obtain ⟨_, member, long⟩ := List.exists_of_findSome?_eq_some excess
    obtain ⟨l, inside, rfl⟩ := List.mem_map.1 member
    have unwritable : ¬ Writable tabSize (l.claimGaps.head :: pieces l.claimGaps.cells)
        (b.targets tabSize) := by
      rw [← Line.excess?_eq_none_iff]
      intro none
      have nothing : l.claimGaps.excess? tabSize (b.targets tabSize) = some e := long
      rw [none] at nothing
      cases nothing
    obtain ⟨i, p, w, before, piece, column, wide⟩ := exists_of_not_writable unwritable
    have cut : l.isCut = true := by
      rw [← Line.isCut_claimGaps, Line.isCut_iff_length, Line.length_parts]
      omega
    obtain ⟨⟨_, member', cut', there⟩, -⟩ := isGreatest_columns column
    obtain ⟨k, inside', rfl⟩ := List.mem_map.1 member'
    rw [Line.isCut_claimGaps] at cut'
    refine ⟨k, inside', l, inside, cut', cut, i, w, width tabSize p, there, ?_, wide⟩
    rw [Line.widths_eq, List.getElem?_map, piece, Option.map_some]

end Block

/-- A block as it stands in columns once another is aligned: as many pieces, all of one column at
the same place, every piece but the last as wide as the widest of its column once the gaps are where
they belong, and lines without separators as they were. -/
structure InColumns (tabSize : Int) (b c : Block) : Prop where
  lengths_eq : c.lines.map (·.parts.length) = b.lines.map (·.parts.length)
  offset_eq : ∀ l ∈ c.lines, ∀ l' ∈ c.lines, l.isCut = true → l'.isCut = true →
    ∀ i, i < l.parts.length → i < l'.parts.length → l.offset tabSize i = l'.offset tabSize i
  isGreatest : ∀ l ∈ c.lines, ∀ (i : Nat) (p : Part), i + 1 < l.parts.length →
    l.parts[i]? = some p →
    IsGreatest {w | ∃ k ∈ b.lines, k.isCut = true ∧ (k.claimGaps.widths tabSize)[i]? = some w}
      (p.value.width tabSize)
  uncut : ∀ (n : Nat) (l : Line), b.lines[n]? = some l → l.isCut = false → c.lines[n]? = some l

section Aligned

variable {b : Block} {tabSize : Int} {l : Line} {i : Nat}

theorem offset_of_mem_align (member : l ∈ (b.align tabSize).lines) (cut : l.isCut = true)
    (inside : i < l.parts.length) :
    l.offset tabSize i = ((b.targets tabSize).take i).foldr (· + ·) 0 := by
  rw [Line.length_parts] at inside
  rw [Line.offset, Line.widths_eq, (Block.filled_of_mem_align member cut).take_eq inside]

theorem isGreatest_of_mem_align (member : l ∈ (b.align tabSize).lines) {p : Part}
    (inside : i + 1 < l.parts.length) (piece : l.parts[i]? = some p) :
    IsGreatest {w | ∃ k ∈ b.lines, k.isCut = true ∧ (k.claimGaps.widths tabSize)[i]? = some w}
      (p.value.width tabSize) := by
  have cut : l.isCut = true := Line.isCut_iff_length.2 (by omega)
  have width_eq : (l.widths tabSize)[i]? = some (p.value.width tabSize) := by
    rw [Line.widths, List.getElem?_map, piece]
    rfl
  rw [Line.length_parts] at inside
  rw [Line.widths_eq, (Block.filled_of_mem_align member cut).getElem?_eq inside] at width_eq
  have greatest := isGreatest_columns width_eq
  simpa [Line.isCut_claimGaps] using greatest

theorem inColumns_align (tabSize : Int) (b : Block) : InColumns tabSize b (b.align tabSize) where
  lengths_eq := by
    rw [Block.lines_align, List.map_map, List.map_map]
    apply List.map_congr_left
    intro l _
    rw [Function.comp_apply, Function.comp_apply, Line.length_parts_pad,
      Line.length_parts_claimGaps]
  offset_eq := by
    intro l member l' member' cut cut' i inside inside'
    rw [offset_of_mem_align member cut inside, offset_of_mem_align member' cut' inside']
  isGreatest := fun l member i p inside piece => isGreatest_of_mem_align member inside piece
  uncut := by
    intro n l there uncut
    rw [Block.lines_align, List.getElem?_map, List.getElem?_map, there, Option.map_some,
      Option.map_some, Line.claimGaps_of_not_isCut uncut, Line.pad_of_not_isCut uncut]

example : (Block.align 4 ⟨[Code.newline], 0,
    [⟨0, ofString "a", [⟨ofString "=", ofString " 1"⟩]⟩,
      ⟨1, ofString "\tb", [⟨ofString "==", []⟩]⟩]⟩).text = ofString "a    = 1\n\tb==" := by
  decide

end Aligned

/-- **An aligned block stands in columns**, and aligning it again changes nothing. A block can be
aligned unless two pieces of a column differ in width by more than there is always room for, and
then it can be aligned again. -/
theorem align_inColumns (b : Block) (tabSize : Int) :
    InColumns tabSize b (b.align tabSize) ∧
      (b.align tabSize).align tabSize = b.align tabSize ∧
      (b.Overwide tabSize ∧ (∃ e, b.checkedAlign tabSize = .error e) ∨
        b.checkedAlign tabSize = .ok (b.align tabSize) ∧
          (b.align tabSize).checkedAlign tabSize = .ok (b.align tabSize)) := by
  refine ⟨inColumns_align tabSize b, Block.align_align tabSize b, ?_⟩
  rcases b.checkedAlign_cases tabSize with overwide | aligned
  · exact .inl overwide
  · have again := Block.checkedAlign_of_excess?_eq_none (Block.excess?_align tabSize b)
    rw [Block.align_align] at again
    exact .inr ⟨aligned, again⟩

end EditorText.Align
