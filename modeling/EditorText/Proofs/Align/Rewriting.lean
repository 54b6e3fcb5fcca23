import EditorText.Align.Block
import EditorText.Proofs.Align.Gaps
import EditorText.Proofs.Text.Respacing

/-!
# What a pass does to a line

A pass cuts a line at its separators, trims it, moves the gaps and pads it. Whatever the separators
are, that rewrites the line (`Line.rewritten`), and a line without any stays as it is.
-/

set_option autoImplicit false

namespace EditorText

open Text

namespace Align

/-- A finder that shows parts of the line at or after the place asked for. -/
def Lawful (find : Finder) : Prop :=
  ∀ raw place s, find raw place = some s →
    place ≤ s.start ∧ s.start ≤ s.stop ∧ s.stop ≤ raw.length

/-- Patterns find parts of the line. -/
theorem lawful_finder (p : Pattern) : Lawful (finder p) := by
  intro raw place s h
  obtain ⟨m, found, rfl⟩ := Option.map_eq_some_iff.1 h
  exact p.search_span found

/-- Cells as text. -/
def cellsText (cs : List Cell) : Text :=
  cs.flatMap fun c => c.separator ++ c.text

@[simp] theorem cellsText_nil : cellsText [] = [] := rfl

@[simp] theorem cellsText_cons (c : Cell) (cs : List Cell) :
    cellsText (c :: cs) = c.separator ++ c.text ++ cellsText cs := rfl

/-- Cutting a line loses nothing. -/
theorem cutFrom_text {find : Finder} (lawful : Lawful find) (raw : Text) (fuel place : Nat) :
    (cutFrom find raw fuel place).1 ++ cellsText (cutFrom find raw fuel place).2 =
      raw.drop place := by
  induction fuel generalizing place with
  | zero => simp [cutFrom]
  | succ fuel ih =>
    rw [cutFrom]
    split
    · simp
    next s found =>
      obtain ⟨behind, forward, -⟩ := lawful raw place s found
      split
      · simp
      · have front := slice_append_drop raw ⟨place, s.start⟩ behind
        have back := slice_append_drop raw s forward
        rw [cellsText_cons, List.append_assoc, ih, back, front]

namespace Line

theorem text_eq (l : Line) : l.text = l.head ++ cellsText l.cells := rfl

/-- Cutting a line loses nothing. -/
theorem text_cut {find : Finder} (lawful : Lawful find) (number : Int) (raw : Text) :
    (cut find number raw).text = raw := by
  rw [text_eq, cut, cutFrom_text lawful, List.drop_zero]

end Line

/-- Blanks at the start are reduced to a space. -/
theorem respaced_narrowStart (t : Text) : Respaced t (narrowStart t) := by
  obtain ⟨b, hb, split⟩ := exists_blanks_trimStart t
  rw [narrowStart]
  split
  · exact .refl t
  · have narrowed := (Respaced.of_blanks hb).append (.refl (trimStart t))
    rwa [← split] at narrowed

/-- Blanks at the end are reduced to a space. -/
theorem respaced_narrowEnd (t : Text) : Respaced t (narrowEnd t) := by
  obtain ⟨b, hb, split⟩ := exists_blanks_trimEnd t
  rw [narrowEnd]
  split
  · exact .refl t
  · have narrowed := (Respaced.refl (trimEnd t)).append (.of_blanks hb)
    rwa [← split] at narrowed

theorem respaced_narrow (t : Text) : Respaced t (narrow t) :=
  (respaced_narrowStart t).trans (respaced_narrowEnd _)

theorem rewritten_narrowLast (t : Text) : Rewritten t (narrowLast t) :=
  (Rewritten.of_respaced (respaced_narrowStart t)).trans (.of_trimEnd _)

theorem respaced_pad (t : Text) (target tabSize : Int) : Respaced t (t.pad target tabSize) := by
  have padded := (Respaced.refl t).append (.of_run (lack t target tabSize).toNat)
  rwa [List.append_nil] at padded

/-- Trimming cells rewrites them. -/
theorem rewritten_trimCells (cs : List Cell) :
    Rewritten (cellsText cs) (cellsText (trimCells cs)) := by
  fun_induction trimCells cs with
  | case1 => exact .refl _
  | case2 c =>
    have separator := respaced_narrow c.separator
    have text := rewritten_narrowLast c.text
    simpa [narrow, narrowLast] using Rewritten.append separator text
  | case3 c cs _ ih =>
    have separator := respaced_narrow c.separator
    have text := respaced_narrow c.text
    simpa [narrow] using Rewritten.append (separator.append text) ih

/-- A gap that is moved stays in its place. -/
theorem claimGap_text (c : Cell) :
    c.claimGap.separator ++ c.claimGap.text = c.separator ++ c.text := by
  rw [Cell.claimGap_eq, List.append_assoc, lead_append_body]

theorem cellsText_claimGap (cs : List Cell) : cellsText (cs.map Cell.claimGap) = cellsText cs := by
  induction cs with
  | nil => rfl
  | cons c cs ih => rw [List.map_cons, cellsText_cons, cellsText_cons, ih, claimGap_text]

/-- Padding a text and its cells puts spaces in. -/
theorem respaced_padCells (tabSize : Int) (text : Text) (cs : List Cell) (ws : List Int) :
    Respaced (text ++ cellsText cs) ((padCells tabSize text cs ws).1 ++
      cellsText (padCells tabSize text cs ws).2) := by
  fun_induction padCells tabSize text cs ws with
  | case1 text c cs w v ws rest ih =>
    have front := (respaced_pad text w tabSize).append (respaced_pad c.separator v tabSize)
    simpa using front.append ih
  | case2 => exact .refl _

namespace Line

variable {find : Finder} {raw : Text} {l : Line}

theorem rewritten_trim (l : Line) : Rewritten l.text l.trim.text := by
  rw [trim]
  split
  · exact .refl _
  · exact Rewritten.append (respaced_narrowEnd l.head) (rewritten_trimCells l.cells)

theorem text_claimGaps (l : Line) : l.claimGaps.text = l.text := by
  rw [text_eq, text_eq, claimGaps, cellsText_claimGap]

theorem respaced_pad (l : Line) (tabSize : Int) (columns : List Int) :
    Respaced l.text (l.pad tabSize columns).text :=
  respaced_padCells tabSize l.head l.cells columns

/-- A line without separators stays as it is. -/
theorem text_of_cells_eq_nil (none : l.cells = []) (tabSize : Int) (columns : List Int) :
    (l.trim.claimGaps.pad tabSize columns).text = l.text := by
  simp [trim, claimGaps, Line.pad, padCells, text, none]

/-- Where nothing is found but an empty separator the line is not cut. -/
theorem cells_cut_eq_nil (none : ∀ s, find raw 0 = some s → s.stop = s.start) (number : Int) :
    (cut find number raw).cells = [] := by
  simp only [cut, cutFrom]
  split
  · rfl
  next s found => rw [if_pos (none s found)]

end Line

/-- The line that a pass pads: cut, trimmed, the gaps at the separators. -/
def gathered (find : Finder) (raw : Text) : Line :=
  (Line.cut find 0 raw).trim.claimGaps

/-- A line that has a separator, trimmed, is not empty. -/
theorem Line.text_trim_ne_nil {l : Line} {c : Cell} {cs : List Cell} (cells : l.cells = c :: cs)
    (filled : c.separator ≠ []) : l.trim.text ≠ [] := by
  have narrowed : narrow c.separator ≠ [] := (respaced_narrow c.separator).ne_nil filled
  have first : ∃ t ds, trimCells (c :: cs) = ⟨narrow c.separator, t⟩ :: ds := by
    cases cs with
    | nil => exact ⟨_, _, rfl⟩
    | cons d ds => exact ⟨_, _, rfl⟩
  obtain ⟨t, ds, trimmed⟩ := first
  rw [trim, cells, text_eq]
  simp [trimmed, narrowed]

/-- The separators that a line is cut at are not empty. -/
theorem separator_ne_nil_of_mem_cutFrom {find : Finder} (lawful : Lawful find) {raw : Text}
    {fuel place : Nat} {c : Cell} (member : c ∈ (cutFrom find raw fuel place).2) :
    c.separator ≠ [] := by
  induction fuel generalizing place with
  | zero => cases member
  | succ fuel ih =>
    rw [cutFrom] at member
    split at member
    · cases member
    next s found =>
      obtain ⟨-, forward, inside⟩ := lawful raw place s found
      split at member
      · cases member
      next some =>
        rcases List.mem_cons.1 member with rfl | further
        · apply List.ne_nil_of_length_pos
          simp only [Text.slice, List.length_take, List.length_drop]
          omega
        · exact ih further

theorem separator_ne_nil_of_mem_cut {find : Finder} (lawful : Lawful find) {number : Int}
    {raw : Text} {c : Cell} (member : c ∈ (Line.cut find number raw).cells) :
    c.separator ≠ [] :=
  separator_ne_nil_of_mem_cutFrom lawful member

/-- What a pass makes of a line, given the widths of the columns. -/
def passLine (find : Finder) (tabSize : Int) (columns : List Int) (raw : Text) : Text :=
  ((gathered find raw).pad tabSize columns).text

/-- **A pass rewrites every line.** -/
theorem rewritten_passLine {find : Finder} (lawful : Lawful find) (tabSize : Int)
    (columns : List Int) (raw : Text) : Rewritten raw (passLine find tabSize columns raw) := by
  have cut := Line.text_cut lawful 0 raw
  have trimmed := Line.rewritten_trim (Line.cut find 0 raw)
  have padded := Line.respaced_pad (gathered find raw) tabSize columns
  rw [cut] at trimmed
  rw [gathered, Line.text_claimGaps] at padded
  exact trimmed.trans (.of_respaced padded)

/-- **A line without separators stays as it is.** -/
theorem passLine_eq_self {find : Finder} {raw : Text} (lawful : Lawful find)
    (none : ∀ s, find raw 0 = some s → s.stop = s.start) (tabSize : Int) (columns : List Int) :
    passLine find tabSize columns raw = raw := by
  rw [passLine, gathered, Line.text_of_cells_eq_nil (Line.cells_cut_eq_nil none 0),
    Line.text_cut lawful]

/-- A pass leaves something of a line. -/
theorem passLine_ne_nil {find : Finder} {raw : Text} (lawful : Lawful find) (filled : raw ≠ [])
    (tabSize : Int) (columns : List Int) : passLine find tabSize columns raw ≠ [] := by
  cases cells : (Line.cut find 0 raw).cells with
  | nil =>
    rw [passLine, gathered, Line.text_of_cells_eq_nil cells, Line.text_cut lawful]
    exact filled
  | cons c cs =>
    have first : c ∈ (Line.cut find 0 raw).cells := by
      rw [cells]
      exact List.mem_cons_self
    have trimmed := Line.text_trim_ne_nil cells (separator_ne_nil_of_mem_cut lawful first)
    have padded := Line.respaced_pad (gathered find raw) tabSize columns
    rw [gathered, Line.text_claimGaps] at padded
    exact padded.ne_nil trimmed

end Align

end EditorText
