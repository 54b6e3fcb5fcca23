import EditorText.Proofs.Align.Growth
import EditorText.Proofs.Align.Separators

/-!
# Cells cut again

An aligned line is cut again at its separators (`Recut`): behind each stand its gap, its padding,
the text and the padding of the text. Trimmed a second time a piece is what it was, or has a gap
more (`Recut.again`). Only an empty text can get a gap that its column has no room for, and
`Settled` says that none does (`Recut.grown_iff`).
-/

set_option autoImplicit false

namespace EditorText.Align

open Text

/-- Cells trimmed, with the gaps at the separators, where these hold no blanks. -/
def claimed : List Cell → List Cell
  | [] => []
  | [c] => [⟨c.separator ++ lead (narrowLast c.text), body (narrowLast c.text)⟩]
  | c :: cs => ⟨c.separator ++ lead (narrow c.text), body (narrow c.text)⟩ :: claimed cs

/-- What stands behind a separator once it and its text are padded. -/
def paddedText (tabSize : Int) (c : Cell) (v w : Int) : Text :=
  let front := lead (narrow c.text)
  front ++ run Code.space (lack (c.separator ++ front) v tabSize).toNat ++
    (body (narrow c.text)).pad w tabSize

/-- What stands behind the last separator once it is padded. -/
def paddedLast (tabSize : Int) (c : Cell) (v : Int) : Text :=
  let front := lead (narrowLast c.text)
  front ++ run Code.space (lack (c.separator ++ front) v tabSize).toNat ++ body (narrowLast c.text)

/-- The cells of an aligned line are cut again into these. -/
inductive Recut (tabSize : Int) : List Cell → List Int → List Cell → Prop where
  | last (c : Cell) (v : Int) (ws : List Int) :
      Recut tabSize [c] (v :: ws) [⟨c.separator, paddedLast tabSize c v⟩]
  | cons (c : Cell) (v w : Int) {d : Cell} {cs cs' : List Cell} {ws : List Int} :
      Recut tabSize (d :: cs) ws cs' →
      Recut tabSize (c :: d :: cs) (v :: w :: ws) (⟨c.separator, paddedText tabSize c v w⟩ :: cs')

/-- No empty text between separators gets a gap out of the padding of its separator alone: its
column is not empty, or the separator is as wide as its own. -/
def Settled (tabSize : Int) : List Cell → List Int → Prop
  | c :: d :: cs, v :: w :: ws =>
      (c.text = [] → 0 < w ∨ v ≤ width tabSize c.separator) ∧ Settled tabSize (d :: cs) ws
  | _, _ => True

section Cells

variable {tabSize : Int} {cs cs' : List Cell} {ws : List Int}

/-- A text without blanks is left alone. -/
theorem narrow_of_filled {s : Text} (filled : ∀ c ∈ s, isBlank c = false) : narrow s = s := by
  cases s with
  | nil => rfl
  | cons c s =>
    obtain ⟨e, he, split⟩ := exists_blanks_trimEnd (c :: s)
    have none : e = [] := by
      refine List.eq_nil_iff_forall_not_mem.2 fun d hd => ?_
      have blank := he d hd
      rw [filled d (by rw [split]; exact List.mem_append_right _ hd)] at blank
      cases blank
    rw [none, List.append_nil] at split
    have firm : Firm (c :: s) := by
      refine ⟨by simp, trimStart_eq_self_iff.2 fun d r same => filled d ?_, split.symm⟩
      rw [same]
      exact List.mem_cons_self
    have same := narrow_firm allBlank_nil firm allBlank_nil
    simpa using same

theorem claimed_eq (filled : ∀ c ∈ cs, ∀ a ∈ c.separator, isBlank a = false) :
    (trimCells cs).map Cell.claimGap = claimed cs := by
  fun_induction claimed cs with
  | case1 => rfl
  | case2 c =>
    have same := narrow_of_filled (filled c (by simp))
    rw [narrow] at same
    simp [trimCells, Cell.claimGap_eq, same, narrowLast]
  | case3 c cs more ih =>
    have same := narrow_of_filled (filled c (by simp))
    rw [narrow] at same
    obtain ⟨d, cs, rfl⟩ := List.exists_cons_of_ne_nil more
    rw [← ih fun c hc => filled c (List.mem_cons_of_mem _ hc)]
    simp [trimCells, Cell.claimGap_eq, same, narrow]

theorem exists_of_mem_claimed {c : Cell} (h : c ∈ claimed cs) :
    ∃ d ∈ cs, ∃ t, c = ⟨d.separator ++ lead t, body t⟩ := by
  fun_induction claimed cs with
  | case1 => cases h
  | case2 d =>
    rw [List.mem_singleton] at h
    exact ⟨d, List.mem_singleton_self d, _, h⟩
  | case3 d cs _ ih =>
    rcases List.mem_cons.1 h with rfl | h
    · exact ⟨d, List.mem_cons_self, _, rfl⟩
    · obtain ⟨e, he, t, same⟩ := ih h
      exact ⟨e, List.mem_cons_of_mem d he, t, same⟩

theorem claimed_cons (c : Cell) (some : cs ≠ []) : claimed (c :: cs) =
    ⟨c.separator ++ lead (narrow c.text), body (narrow c.text)⟩ :: claimed cs := by
  obtain ⟨d, cs, rfl⟩ := List.exists_cons_of_ne_nil some
  rfl

theorem pieces_claimed_cons (c : Cell) (some : cs ≠ []) : pieces (claimed (c :: cs)) =
    (c.separator ++ lead (narrow c.text)) :: body (narrow c.text) :: pieces (claimed cs) := by
  rw [claimed_cons c some, pieces_cons]

theorem length_pieces_claimed (cs : List Cell) : (pieces (claimed cs)).length = 2 * cs.length := by
  fun_induction claimed cs with
  | case1 => rfl
  | case2 => rfl
  | case3 c cs _ ih =>
    simp only [pieces_cons, List.length_cons, ih]
    omega

theorem claimed_ne_nil (some : cs ≠ []) : claimed cs ≠ [] := by
  obtain ⟨c, _ | ⟨d, cs⟩, rfl⟩ := List.exists_cons_of_ne_nil some <;> simp [claimed]

theorem pieces_claimed_ne_nil (some : cs ≠ []) : pieces (claimed cs) ≠ [] := by
  have filled := List.length_pos_iff.2 some
  rw [← List.length_pos_iff, length_pieces_claimed]
  omega

theorem Recut.ne_nil (h : Recut tabSize cs ws cs') : cs ≠ [] ∧ cs' ≠ [] := by
  cases h <;> simp

/-- A line with a column for every piece but the last is cut again. -/
theorem exists_recut (tabSize : Int) (some : cs ≠ []) (enough : 2 * cs.length ≤ ws.length + 1) :
    ∃ cs', Recut tabSize cs ws cs' := by
  induction cs generalizing ws with
  | nil => exact absurd rfl some
  | cons c cs ih =>
    simp only [List.length_cons] at enough
    cases cs with
    | nil =>
      obtain ⟨v, ws, rfl⟩ := List.exists_cons_of_length_pos (show 0 < ws.length by omega)
      exact ⟨_, .last c v ws⟩
    | cons d cs =>
      simp only [List.length_cons] at enough
      obtain ⟨v, ws, rfl⟩ := List.exists_cons_of_length_pos (show 0 < ws.length by omega)
      simp only [List.length_cons] at enough
      obtain ⟨w, ws, rfl⟩ := List.exists_cons_of_length_pos (show 0 < ws.length by omega)
      simp only [List.length_cons] at enough
      have fewer : 2 * (d :: cs).length ≤ ws.length + 1 := by
        rw [List.length_cons]
        omega
      obtain ⟨cs', further⟩ := ih (by simp) fewer
      exact ⟨_, .cons c v w further⟩

/-- Padding writes the cells that are found again. -/
theorem Recut.padPieces_eq (h : Recut tabSize cs ws cs') :
    padPieces tabSize (pieces (claimed cs)) ws = cellsText cs' := by
  induction h with
  | last c v ws =>
    simp only [claimed, pieces_cons, pieces_nil]
    rw [padPieces_cons _ _ _ _ (by simp), padPieces_singleton]
    simp [pad, paddedLast]
  | @cons c v w d cs cs' ws further ih =>
    rw [pieces_claimed_cons c further.ne_nil.1, padPieces_cons _ _ _ _ (by simp),
      padPieces_cons _ _ _ _ (pieces_claimed_ne_nil further.ne_nil.1), ih]
    simp [pad, paddedText]

/-- Spaces may be put between a gap and its text. -/
theorem respaced_lead_run_body (t : Text) (n : Nat) :
    Respaced t (lead t ++ run Code.space n ++ body t) := by
  have spaced := ((Respaced.refl (lead t)).append (.of_run n)).append (.refl (body t))
  rwa [List.append_nil, lead_append_body] at spaced

theorem respaced_paddedText (c : Cell) (v w : Int) :
    Respaced c.text (paddedText tabSize c v w) := by
  have padded := (respaced_lead_run_body (narrow c.text)
    (lack (c.separator ++ lead (narrow c.text)) v tabSize).toNat).append
      (.of_run (lack (body (narrow c.text)) w tabSize).toNat)
  rw [List.append_nil, List.append_assoc] at padded
  exact (respaced_narrow c.text).trans padded

theorem rewritten_paddedLast (c : Cell) (v : Int) :
    Rewritten c.text (paddedLast tabSize c v) :=
  (rewritten_narrowLast c.text).trans (.of_respaced (respaced_lead_run_body _ _))

/-- What is found again is the old cells, respaced. -/
theorem Recut.respaced (h : Recut tabSize cs ws cs') {t t' : Text} (front : Respaced t t') :
    RespacedCells t cs t' cs' := by
  induction h generalizing t t' with
  | last c v ws => exact .cell front (.last (rewritten_paddedLast c v))
  | cons c v w _ ih => exact .cell front (ih (respaced_paddedText c v w))

section Piece

variable (tabSize : Int) (c : Cell) (v w : Int)

/-- A separator, padded and trimmed again, stays within its column. -/
theorem grown_separator : Grown tabSize v (c.separator ++ lead (narrow c.text))
    (c.separator ++ lead (narrow (paddedText tabSize c v w))) := by
  have front := lead_narrow_again c.text
    (lack (c.separator ++ lead (narrow c.text)) v tabSize).toNat
    (lack (body (narrow c.text)) w tabSize).toNat
  rw [lack_pos_iff] at front
  rw [paddedText, pad]
  exact front.append c.separator

theorem again_text :
    Again tabSize w (body (narrow c.text)) (body (narrow (paddedText tabSize c v w))) := by
  have back := body_narrow_again c.text
    (lack (c.separator ++ lead (narrow c.text)) v tabSize).toNat
    (lack (body (narrow c.text)) w tabSize).toNat
  rw [lack_pos_iff] at back
  rw [paddedText, pad]
  exact back.imp fun room => room.imp_right And.left

/-- A text, padded and trimmed again, stays within its column but for an empty one. -/
theorem grown_text_iff :
    Grown tabSize w (body (narrow c.text)) (body (narrow (paddedText tabSize c v w))) ↔
      (body (narrow c.text) = [] →
        0 < w ∨ v ≤ width tabSize (c.separator ++ lead (narrow c.text))) := by
  have back := longer_body_narrow_iff c.text
    (lack (c.separator ++ lead (narrow c.text)) v tabSize).toNat
    (lack (body (narrow c.text)) w tabSize).toNat
  rw [lack_pos_iff, lack_eq_zero_iff] at back
  rw [Grown, paddedText, pad]
  refine back.trans (imp_congr_right fun empty => ?_)
  rw [empty, width_nil]

theorem grown_lastSeparator : Grown tabSize v (c.separator ++ lead (narrowLast c.text))
    (c.separator ++ lead (narrowLast (paddedLast tabSize c v))) := by
  have front := lead_narrowLast_again c.text
    (lack (c.separator ++ lead (narrowLast c.text)) v tabSize).toNat
  rw [lack_pos_iff] at front
  rw [paddedLast]
  exact front.append c.separator

/-- The last text, trimmed again, is the same. -/
theorem body_paddedLast :
    body (narrowLast (paddedLast tabSize c v)) = body (narrowLast c.text) := by
  rw [paddedLast, body_narrowLast_again]

end Piece

/-- **A piece trimmed again is what it was, or has a gap more.** -/
theorem Recut.again (h : Recut tabSize cs ws cs') :
    Pairs (Again tabSize) (pieces (claimed cs)) ws (pieces (claimed cs')) := by
  induction h with
  | last c v ws =>
    simp only [claimed, pieces_cons, pieces_nil, body_paddedLast]
    exact .cons (.of_grown (grown_lastSeparator tabSize c v)) (.last _ _)
  | cons c v w further ih =>
    rw [pieces_claimed_cons c further.ne_nil.1, pieces_claimed_cons _ further.ne_nil.2]
    exact .cons (.of_grown (grown_separator tabSize c v w)) (.cons (again_text tabSize c v w) ih)

/-- **No piece outgrows its column where no gap comes from the padding of a separator alone.** -/
theorem Recut.grown_iff (h : Recut tabSize cs ws cs') :
    Pairs (Grown tabSize) (pieces (claimed cs)) ws (pieces (claimed cs')) ↔
      Settled tabSize (claimed cs) ws := by
  induction h with
  | last c v ws =>
    simp only [claimed, pieces_cons, pieces_nil, body_paddedLast, Settled, iff_true]
    exact .cons (grown_lastSeparator tabSize c v) (.last _ _)
  | @cons c v w d cs cs' ws further ih =>
    obtain ⟨e, rest, split⟩ := List.exists_cons_of_ne_nil (claimed_ne_nil further.ne_nil.1)
    rw [pieces_claimed_cons c further.ne_nil.1, pieces_claimed_cons _ further.ne_nil.2,
      pairs_cons_iff (by simp), pairs_cons_iff (pieces_claimed_ne_nil further.ne_nil.1), ih,
      claimed_cons c further.ne_nil.1, split, Settled, grown_text_iff]
    constructor
    · exact And.right
    · exact fun settled => ⟨grown_separator tabSize c v w, settled⟩

end Cells

end EditorText.Align
