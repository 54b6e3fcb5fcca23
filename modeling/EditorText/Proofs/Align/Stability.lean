import EditorText.Proofs.Align.Blocks
import EditorText.Proofs.Align.Recutting

/-!
# Lines aligned twice

Lines aligned at literals are cut at the same literals when they are aligned again (`realigned`),
and no column gets narrower. The second time changes nothing exactly where no empty text between
separators outgrows its column (`passLines_passLines_iff`). None does where the literals are equally
long (`settled_of_equal_lengths`).
-/

set_option autoImplicit false

namespace EditorText.Align

open Text Pattern

/-- A line that a pass pads, and the line that the next pass pads in its place. -/
structure Realigned (tabSize : Int) (ws : List Int) (l l' : Line) : Prop where
  isCut : l'.isCut = true
  again : Pairs (Again tabSize) (l.head :: pieces l.cells) ws (l'.head :: pieces l'.cells)
  grown_iff : Pairs (Grown tabSize) (l.head :: pieces l.cells) ws (l'.head :: pieces l'.cells) ↔
    Settled tabSize l.cells (ws.drop 1)

section Line

variable {ls : List Text} {find : Finder} {tabSize : Int} {ws : List Int} {raw h : Text}
  {cs : List Cell}

/-- The separators of a line are literals. -/
theorem Cuts.separator_mem (cuts : Cuts ls raw h cs) : ∀ c ∈ cs, c.separator ∈ ls := by
  induction cuts with
  | rest _ => simp
  | cell _ stands _ ih => exact List.forall_mem_cons.2 ⟨(standing?_eq_some stands).1, ih⟩

/-- A line that is cut, as a pass pads it. -/
theorem gathered_of_cuts (solid : Solid ls)
    (search : ∀ raw place, find raw place = literalSpan? ls raw place) (cuts : Cuts ls raw h cs)
    (some : cs ≠ []) : gathered find raw = ⟨0, narrowEnd h, claimed cs⟩ := by
  obtain ⟨head, cells⟩ := (cuts_cut solid search 0 raw).unique cuts
  have whole : Line.cut find 0 raw = ⟨0, h, cs⟩ := by
    rw [← head, ← cells]
    rfl
  obtain ⟨c, cs, rfl⟩ := List.exists_cons_of_ne_nil some
  rw [gathered, whole, ← claimed_eq fun c hc => (solid _ (cuts.separator_mem c hc)).2]
  rfl

/-- A cell that a pass pads is a literal with a gap, and a text. -/
theorem exists_of_mem_gathered (solid : Solid ls)
    (search : ∀ raw place, find raw place = literalSpan? ls raw place) {c : Cell}
    (h : c ∈ (gathered find raw).cells) : ∃ l ∈ ls, ∃ t, c = ⟨l ++ lead t, body t⟩ := by
  have cut : (gathered find raw).isCut = true := by
    rw [Line.isCut_iff]
    exact List.ne_nil_of_mem h
  rw [gathered, Line.isCut_gathered, Line.isCut_iff] at cut
  have cuts := cuts_cut solid search 0 raw
  rw [gathered_of_cuts solid search cuts cut] at h
  obtain ⟨d, hd, t, same⟩ := exists_of_mem_claimed h
  exact ⟨d.separator, cuts.separator_mem d hd, t, same⟩

/-- A pass pads the pieces of a line that fits its columns. -/
theorem passLine_eq_padPieces (fits : Fits ((gathered find raw).widths tabSize) ws) :
    passLine find tabSize ws raw =
      padPieces tabSize ((gathered find raw).head :: pieces (gathered find raw).cells) ws := by
  have long := fits.length_le
  rw [Line.widths_eq, List.length_map, List.length_cons] at long
  exact Line.text_pad tabSize (gathered find raw) (by omega)

/-- **An aligned line is cut at the same separators when it is aligned again.** Its pieces have at
most a gap more. -/
theorem realigned (solid : Solid ls)
    (search : ∀ raw place, find raw place = literalSpan? ls raw place)
    (cut : (gathered find raw).isCut = true)
    (fits : Fits ((gathered find raw).widths tabSize) ws) :
    Realigned tabSize ws (gathered find raw) (gathered find (passLine find tabSize ws raw)) := by
  have cuts := cuts_cut solid search 0 raw
  have padded := passLine_eq_padPieces fits
  rw [gathered, Line.isCut_gathered, Line.isCut_iff] at cut
  generalize (Line.cut find 0 raw).head = h at cuts
  generalize (Line.cut find 0 raw).cells = cs at cuts cut
  rw [Line.widths_eq] at fits
  rw [gathered_of_cuts solid search cuts cut] at fits padded ⊢
  have long := fits.length_le
  simp only [List.map_cons, List.length_cons, List.length_map, length_pieces_claimed] at long
  obtain ⟨w, ws, rfl⟩ := List.exists_cons_of_length_pos (show 0 < ws.length by omega)
  rw [List.length_cons] at long
  have enough : 2 * cs.length ≤ ws.length + 1 := by omega
  obtain ⟨cs', again⟩ := exists_recut tabSize cut enough
  -- The line is what the cells found again say, so that it is cut into these and no others.
  have front : Respaced h ((narrowEnd h).pad w tabSize) :=
    (respaced_narrowEnd h).trans (respaced_pad _ w tabSize)
  have cuts' := cuts.respaced solid (again.respaced front)
  rw [padPieces_cons _ _ _ _ (pieces_claimed_ne_nil cut), again.padPieces_eq] at padded
  rw [← padded] at cuts'
  have head := narrowEnd_again h (lack (narrowEnd h) w tabSize).toNat
  rw [lack_pos_iff] at head
  rw [gathered_of_cuts solid search cuts' again.ne_nil.2]
  refine ⟨(Line.isCut_iff _).2 (claimed_ne_nil again.ne_nil.2), .cons (head.imp .inl) again.again,
    ?_⟩
  rw [pairs_cons_iff (pieces_claimed_ne_nil cut), List.drop_succ_cons, List.drop_zero,
    ← again.grown_iff]
  constructor
  · exact And.right
  · exact fun pairs => ⟨head, pairs⟩

end Line

section Twice

variable {ls : List Text} {find : Finder} {tabSize : Int} {raws : List Text} {raw : Text}

/-- A line among others is cut at the same separators when it is aligned again. -/
theorem realigned_of_mem (tabSize : Int) (solid : Solid ls)
    (search : ∀ raw place, find raw place = literalSpan? ls raw place) (member : raw ∈ raws)
    (cut : (gathered find raw).isCut = true) :
    Realigned tabSize (passColumns find tabSize raws) (gathered find raw)
      (gathered find (passLine find tabSize (passColumns find tabSize raws) raw)) :=
  realigned solid search cut (fits_passColumns tabSize member cut)

/-- The lines that count in the second pass come from those that count in the first. -/
theorem exists_of_mem_passLines (lawful : Lawful find) {new : Text}
    (member : new ∈ passLines find tabSize raws) (cut : (gathered find new).isCut = true) :
    ∃ raw ∈ raws, (gathered find raw).isCut = true ∧
      passLine find tabSize (passColumns find tabSize raws) raw = new := by
  obtain ⟨raw, old, rfl⟩ := List.mem_map.1 member
  refine ⟨raw, old, Classical.byContradiction fun uncut => ?_, rfl⟩
  rw [passLine_of_not_isCut lawful uncut] at cut
  exact uncut cut

/-- **No column gets narrower.** -/
theorem fits_passColumns_passLines (tabSize : Int) (raws : List Text) (solid : Solid ls)
    (search : ∀ raw place, find raw place = literalSpan? ls raw place) :
    Fits (passColumns find tabSize raws)
      (passColumns find tabSize (passLines find tabSize raws)) := by
  refine passColumns_fits fun raw member cut => ?_
  have again := realigned_of_mem tabSize solid search member cut
  have wider := again.again.fits_left
  rw [← Line.widths_eq, ← Line.widths_eq] at wider
  exact wider.trans (fits_passColumns tabSize (List.mem_map_of_mem member) again.isCut)

/-- No column gets wider where no piece outgrows its own. -/
theorem passColumns_passLines_fits (lawful : Lawful find) (solid : Solid ls)
    (search : ∀ raw place, find raw place = literalSpan? ls raw place)
    (settled : ∀ raw ∈ raws,
      Settled tabSize (gathered find raw).cells ((passColumns find tabSize raws).drop 1)) :
    Fits (passColumns find tabSize (passLines find tabSize raws))
      (passColumns find tabSize raws) := by
  refine passColumns_fits fun new member cut => ?_
  obtain ⟨raw, old, counts, rfl⟩ := exists_of_mem_passLines lawful member cut
  have again := realigned_of_mem tabSize solid search old counts
  have fits := fits_passColumns tabSize old counts
  rw [Line.widths_eq] at fits ⊢
  exact (again.grown_iff.2 (settled raw old)).fits_right fits

/-- In the same columns a line stays as it is if no piece of it outgrows its own. -/
theorem passLine_passLine_of_settled (lawful : Lawful find) (solid : Solid ls)
    (search : ∀ raw place, find raw place = literalSpan? ls raw place) {ws : List Int}
    (fits : (gathered find raw).isCut = true → Fits ((gathered find raw).widths tabSize) ws)
    (settled : Settled tabSize (gathered find raw).cells (ws.drop 1)) :
    passLine find tabSize ws (passLine find tabSize ws raw) = passLine find tabSize ws raw := by
  by_cases cut : (gathered find raw).isCut = true
  · have within := fits cut
    have pairs := (realigned solid search cut within).grown_iff.2 settled
    have padded := passLine_eq_padPieces within
    rw [Line.widths_eq] at within
    have within' := pairs.fits_right within
    rw [← Line.widths_eq] at within'
    rw [passLine_eq_padPieces within', pairs.padPieces_eq, padded]
  · rw [passLine_of_not_isCut lawful cut, passLine_of_not_isCut lawful cut]

/-- A line stays as it is only if no piece of it outgrows its column. -/
theorem settled_of_passLine_eq (solid : Solid ls)
    (search : ∀ raw place, find raw place = literalSpan? ls raw place) (member : raw ∈ raws)
    (same : passLine find tabSize (passColumns find tabSize (passLines find tabSize raws))
      (passLine find tabSize (passColumns find tabSize raws) raw) =
        passLine find tabSize (passColumns find tabSize raws) raw) :
    Settled tabSize (gathered find raw).cells ((passColumns find tabSize raws).drop 1) := by
  by_cases cut : (gathered find raw).isCut = true
  · have again := realigned_of_mem tabSize solid search member cut
    have fits := fits_passColumns tabSize member cut
    have fits' : Fits _ (passColumns find tabSize (passLines find tabSize raws)) :=
      fits_passColumns tabSize (List.mem_map_of_mem member) again.isCut
    have padded := passLine_eq_padPieces fits
    have padded' := passLine_eq_padPieces fits'
    rw [Line.widths_eq] at fits fits'
    have widen := fits_passColumns_passLines tabSize raws solid search
    refine Classical.byContradiction fun unsettled => ?_
    have longer := (again.again.width_padPieces fits fits' widen).2
      fun grown => unsettled (again.grown_iff.1 grown)
    rw [← padded', ← padded, same] at longer
    exact Int.lt_irrefl _ longer
  · rw [Line.isCut_iff, Classical.not_not] at cut
    rw [cut]
    trivial

/-- **Lines aligned twice are the lines aligned once exactly where no empty text outgrows its
column.** -/
theorem passLines_passLines_iff (lawful : Lawful find) (solid : Solid ls)
    (search : ∀ raw place, find raw place = literalSpan? ls raw place) :
    passLines find tabSize (passLines find tabSize raws) = passLines find tabSize raws ↔
      ∀ raw ∈ raws,
        Settled tabSize (gathered find raw).cells ((passColumns find tabSize raws).drop 1) := by
  have twice : passLines find tabSize (passLines find tabSize raws) = raws.map fun raw =>
      passLine find tabSize (passColumns find tabSize (passLines find tabSize raws))
        (passLine find tabSize (passColumns find tabSize raws) raw) := List.map_map
  constructor
  · intro same raw member
    rw [twice] at same
    exact settled_of_passLine_eq solid search member (List.map_inj_left.1 same raw member)
  · intro settled
    have columns := (passColumns_passLines_fits lawful solid search settled).antisymm
      (fits_passColumns_passLines tabSize raws solid search)
    rw [twice, columns]
    refine List.map_inj_left.2 fun raw member => ?_
    exact passLine_passLine_of_settled lawful solid search (fits_passColumns tabSize member)
      (settled raw member)

/-- A column gets wider only if it is without width, and then as wide as a space. -/
theorem passColumns_passLines_fits_max (tabSize : Int) (raws : List Text) (lawful : Lawful find)
    (solid : Solid ls) (search : ∀ raw place, find raw place = literalSpan? ls raw place) :
    Fits (passColumns find tabSize (passLines find tabSize raws))
      ((passColumns find tabSize raws).map (max · 1)) := by
  refine passColumns_fits fun new member cut => ?_
  obtain ⟨raw, old, counts, rfl⟩ := exists_of_mem_passLines lawful member cut
  have again := realigned_of_mem tabSize solid search old counts
  have fits := fits_passColumns tabSize old counts
  rw [Line.widths_eq] at fits ⊢
  exact again.again.fits_max fits

/-- The paddings of a line that can be written can be written again. -/
theorem excess?_passLine_eq_none (positive : 1 ≤ tabSize) (lawful : Lawful find) (solid : Solid ls)
    (search : ∀ raw place, find raw place = literalSpan? ls raw place) (member : raw ∈ raws)
    (fine : (gathered find raw).excess? tabSize (passColumns find tabSize raws) = none) :
    (gathered find (passLine find tabSize (passColumns find tabSize raws) raw)).excess? tabSize
      (passColumns find tabSize (passLines find tabSize raws)) = none := by
  rw [Line.excess?_eq_none_iff] at fine ⊢
  by_cases cut : (gathered find raw).isCut = true
  · have again := realigned_of_mem tabSize solid search member cut
    have most := passColumns_passLines_fits_max tabSize raws lawful solid search
    exact again.again.writable positive most fine
  · rw [passLine_of_not_isCut lawful cut]
    rw [Line.isCut_iff, Classical.not_not] at cut
    rw [cut, pieces_nil]
    trivial

end Twice

section Equal

variable {tabSize k : Int} {cs : List Cell} {ws : List Int}

/-- The columns, those of separators no wider than a width where the text behind has none. -/
def narrowed (k : Int) : List Int → List Int
  | v :: w :: ws => (if 0 < w then v else min v k) :: w :: narrowed k ws
  | ws => ws

/-- Cells fit the narrowed columns if a separator is wider only before a text. -/
theorem fits_narrowed (each : ∀ c ∈ cs, width tabSize c.separator ≤ k ∨ 1 ≤ width tabSize c.text)
    (fits : Fits ((pieces cs).map (width tabSize)) ws) :
    Fits ((pieces cs).map (width tabSize)) (narrowed k ws) := by
  induction cs generalizing ws with
  | nil => exact .nil
  | cons c cs ih =>
    obtain ⟨first, others⟩ := List.forall_mem_cons.1 each
    rw [pieces_cons, List.map_cons, List.map_cons] at fits ⊢
    obtain _ | ⟨separator, _ | ⟨text, rest⟩⟩ := fits
    rw [narrowed]
    refine .cons ?_ (.cons text (ih others rest))
    split <;> omega

/-- Columns that are narrow already settle cells whose separators are as wide. -/
theorem settled_of_fits_narrowed (each : ∀ c ∈ cs, k ≤ width tabSize c.separator)
    (narrow : Fits ws (narrowed k ws)) : Settled tabSize cs ws := by
  fun_induction Settled tabSize cs ws with
  | case1 c d cs v w ws ih =>
    rw [narrowed] at narrow
    obtain _ | ⟨separator, _ | ⟨-, rest⟩⟩ := narrow
    obtain ⟨first, others⟩ := List.forall_mem_cons.1 each
    refine ⟨fun _ => ?_, ih others rest⟩
    split at separator <;> omega
  | case2 => trivial

section Columns

variable {ls : List Text} {find : Finder} {n : Nat} {raws : List Text}

/-- A separator that a pass pads is as wide as the literals, and wider only before a text. -/
theorem width_separator_gathered (solid : Solid ls) (equal : ∀ l ∈ ls, l.length = n)
    (search : ∀ raw place, find raw place = literalSpan? ls raw place) (positive : 1 ≤ tabSize)
    (raw : Text) : ∀ c ∈ (gathered find raw).cells, n ≤ width tabSize c.separator ∧
      (width tabSize c.separator ≤ n ∨ 1 ≤ width tabSize c.text) := by
  intro c hc
  obtain ⟨l, hl, t, rfl⟩ := exists_of_mem_gathered solid search hc
  have plain : Code.tab ∉ l := fun tab => by
    have filled := (solid l hl).2 _ tab
    cases filled
  have gap := width_nonneg positive (lead t)
  rw [width_append, width_eq_length plain, equal l hl]
  refine ⟨by omega, ?_⟩
  rcases lead_eq_nil_or_body_ne_nil t with none | some
  · left
    rw [none, width_nil]
    omega
  · exact .inr (width_pos positive some)

/-- Literals of one length make columns that are narrow already. -/
theorem fits_narrowed_passColumns (solid : Solid ls) (equal : ∀ l ∈ ls, l.length = n)
    (search : ∀ raw place, find raw place = literalSpan? ls raw place) (positive : 1 ≤ tabSize) :
    Fits ((passColumns find tabSize raws).drop 1)
      (narrowed n ((passColumns find tabSize raws).drop 1)) := by
  cases columns : passColumns find tabSize raws with
  | nil => exact .nil
  | cons w ws =>
    -- The columns are the least that the lines fit, and the lines fit the narrowed ones.
    have narrow : Fits (passColumns find tabSize raws) (w :: narrowed n ws) := by
      refine passColumns_fits fun raw member cut => ?_
      have widths := width_separator_gathered solid equal search positive raw
      have fits := fits_passColumns tabSize member cut
      rw [columns, Line.widths_eq, List.map_cons] at fits
      rw [Line.widths_eq, List.map_cons]
      obtain _ | ⟨head, rest⟩ := fits
      exact .cons head (fits_narrowed (fun c hc => (widths c hc).2) rest)
    rw [columns] at narrow
    obtain _ | ⟨-, rest⟩ := narrow
    exact rest

/-- Where all literals are equally long no empty text outgrows its column. -/
theorem settled_of_equal_lengths (solid : Solid ls) (equal : ∀ l ∈ ls, l.length = n)
    (search : ∀ raw place, find raw place = literalSpan? ls raw place) (positive : 1 ≤ tabSize)
    (raw : Text) :
    Settled tabSize (gathered find raw).cells ((passColumns find tabSize raws).drop 1) := by
  have widths := width_separator_gathered solid equal search positive raw
  exact settled_of_fits_narrowed (fun c hc => (widths c hc).1)
    (fits_narrowed_passColumns solid equal search positive)

end Columns

end Equal

end EditorText.Align
