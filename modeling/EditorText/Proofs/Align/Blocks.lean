import EditorText.Proofs.Align.Columns
import EditorText.Proofs.Align.Passes

/-!
# Blocks and their lines

The lines that count in a pass are those that are cut. The columns of a pass are the least widths
that these fit (`fits_passColumns`, `passColumns_fits`), and the pass can be written if each of its
lines can (`excess?_eq_none_iff`).
-/

set_option autoImplicit false

namespace EditorText.Align

open Text

section Lines

variable {find : Finder} {tabSize : Int} {ws : List Int} {raws : List Text} {raw : Text}

theorem Line.isCut_iff (l : Line) : l.isCut = true ↔ l.cells ≠ [] := by
  simp [isCut]

theorem Line.isCut_gathered (l : Line) : l.trim.claimGaps.isCut = l.isCut := by
  obtain ⟨number, head, _ | ⟨c, _ | ⟨d, cs⟩⟩⟩ := l <;> rfl

/-- A line without separators is what it was. -/
theorem passLine_of_not_isCut (lawful : Lawful find) (uncut : (gathered find raw).isCut ≠ true)
    (tabSize : Int) (ws : List Int) : passLine find tabSize ws raw = raw := by
  rw [gathered, Line.isCut_gathered, Ne, Line.isCut_iff, Classical.not_not] at uncut
  rw [passLine, gathered, Line.text_of_cells_eq_nil uncut, Line.text_cut lawful]

theorem fits_passColumns (tabSize : Int) (member : raw ∈ raws)
    (cut : (gathered find raw).isCut = true) :
    Fits ((gathered find raw).widths tabSize) (passColumns find tabSize raws) :=
  fits_columns (List.mem_map_of_mem member) cut

theorem passColumns_fits (each : ∀ raw ∈ raws, (gathered find raw).isCut = true →
    Fits ((gathered find raw).widths tabSize) ws) : Fits (passColumns find tabSize raws) ws := by
  refine columns_fits fun l hl cut => ?_
  obtain ⟨raw, member, rfl⟩ := List.mem_map.1 hl
  exact each raw member cut

/-- The lines that a pass makes of lines. -/
def passLines (find : Finder) (tabSize : Int) (raws : List Text) : List Text :=
  raws.map (passLine find tabSize (passColumns find tabSize raws))

end Lines

section Block

variable {find : Finder} {eol : Text} {tabSize startLine : Int} {text : Text}

/-- The lines of a block that is cut and trimmed are those of its text. -/
theorem forall_mem_claimGaps_iff (P : Line → Prop)
    (numberless : ∀ n h cs, P ⟨n, h, cs⟩ ↔ P ⟨0, h, cs⟩) :
    (∀ l ∈ (Block.ofText find eol startLine text).trim.lines.map Line.claimGaps, P l) ↔
      ∀ raw ∈ split eol text, P (gathered find raw) := by
  have same := map_cutLines find (fun l => P l.trim.claimGaps) (fun n h cs => by
    rcases cs with _ | ⟨c, _ | ⟨d, cs⟩⟩ <;> exact propext (numberless _ _ _)) startLine
    (split eol text)
  have each : (∀ p ∈ (cutLines find startLine (split eol text)).map (fun l => P l.trim.claimGaps),
      p) ↔ ∀ raw ∈ split eol text, P (gathered find raw) := by
    rw [same, List.forall_mem_map]
    rfl
  rw [← each, List.forall_mem_map, List.forall_mem_map, Block.trim, List.forall_mem_map]
  rfl

/-- The columns of a block are those of its lines. -/
theorem columns_claimGaps : Block.columns tabSize
    ((Block.ofText find eol startLine text).trim.lines.map Line.claimGaps) =
      passColumns find tabSize (split eol text) :=
  columns_cutLines find tabSize startLine (split eol text)

/-- A block stays within what can be written if its lines do. -/
theorem excess?_eq_none_iff : (Block.ofText find eol startLine text).trim.excess? tabSize = none ↔
    ∀ raw ∈ split eol text,
      (gathered find raw).excess? tabSize (passColumns find tabSize (split eol text)) = none := by
  rw [Block.excess?, columns_claimGaps, List.findSome?_eq_none_iff]
  exact forall_mem_claimGaps_iff _ fun _ _ _ => Iff.rfl

end Block

end EditorText.Align
