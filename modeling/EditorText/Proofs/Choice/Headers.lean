import EditorText.Proofs.Choice.Interior

/-!
# Headers through a choice

Lines in which every header mark stands behind its header (`WellMarked`) are headers with their
marks and other lines in turn (`wellMarked_iff_marked`). A header is written as the three rows of a
box, another line as one item, and both are read as the same lines again
(`Marked.filterMap_lineOf?`, `decode_encode_of_wellMarked`).
-/

set_option autoImplicit false

namespace EditorText.Choice

open Text

/-- No corner at the left of a box, and no side of one, is in the text. -/
def Frameless (t : Text) : Prop := topLeft ∉ t ∧ bottomLeft ∉ t ∧ boxSide ∉ t

instance (t : Text) : Decidable (Frameless t) := inferInstanceAs (Decidable (_ ∧ _))

/-- Every header mark is three carets long and stands directly behind a line that is none. -/
def WellMarked (ls : List Text) : Prop :=
  ∀ front mark back, ls = front ++ mark :: back → isCaretRow mark = true →
    mark = caretRow ∧ ∃ before header, front = before ++ [header] ∧ isCaretRow header = false

/-- Lines, some of them headers with their marks. -/
inductive Marked : List Text → Prop where
  | nil : Marked []
  | line {l : Text} {ls : List Text} : isCaretRow l = false → Marked ls → Marked (l :: ls)
  | header {l : Text} {ls : List Text} : isCaretRow l = false → Marked ls →
      Marked (l :: caretRow :: ls)

section Rows

variable {l item : Text}

theorem isBoxRow_of_head {left right c : Code} {row : Text} (other : c ≠ left) :
    isBoxRow left right (c :: row) = false := by
  simp [isBoxRow, other]

/-- Bars between two corners make a row of a box. -/
theorem isBoxRow_bars (left right : Code) (n : Nat) (corner : right ≠ boxBar) :
    isBoxRow left right ([left, boxBar] ++ run boxBar n ++ [boxBar, right]) = true := by
  have bars : ∀ c ∈ boxBar :: (run boxBar n ++ [boxBar]), (c == boxBar) = true := by
    intro c inside
    simp only [List.mem_cons, List.mem_append, List.mem_replicate, List.not_mem_nil, or_false]
      at inside
    rcases inside with same | ⟨-, same⟩ | same <;> simp [same]
  have split : boxBar :: (run boxBar n ++ [boxBar, right]) =
      (boxBar :: (run boxBar n ++ [boxBar])) ++ [right] := by
    simp
  have rest : (boxBar :: (run boxBar n ++ [boxBar, right])).dropWhile (· == boxBar) = [right] := by
    rw [split, List.dropWhile_append_of_pos bars]
    simp [corner]
  simpa [isBoxRow] using rest

/-- The right side of a box is taken off the line in it. -/
theorem withoutRightSide_append (l : Text) :
    withoutRightSide (l ++ [Code.space, boxSide]) = l := by
  induction l with
  | nil => rfl
  | cons c l ih =>
    rw [List.cons_append, withoutRightSide, ih]
    · intro _ none
      simp at none
    · intro _ one
      cases l <;> simp at one

theorem withoutRightSide_of_not_mem (free : boxSide ∉ l) : withoutRightSide l = l := by
  induction l with
  | nil => rfl
  | cons c l ih =>
    rw [List.mem_cons, not_or] at free
    rw [withoutRightSide, ih free.2]
    · rintro same -
      exact free.1 same.symm
    · rintro - rfl
      simp at free

/-- A line without sides of a box has none to take off. -/
theorem withoutSides_of_not_mem (free : boxSide ∉ l) : withoutSides l = l := by
  have left : withoutLeftSide l = l := by
    unfold withoutLeftSide
    split
    · simp at free
    · simp at free
    · rfl
  rw [withoutSides, left, withoutRightSide_of_not_mem free]

/-- An item between no corners stands for what is left of it without sides of a box. -/
theorem lineOf?_eq (top : isBoxRow topLeft topRight item = false)
    (bottom : isBoxRow bottomLeft bottomRight item = false) :
    lineOf? item = some (unescape (withoutSides item)) := by
  rw [lineOf?, top, bottom]
  rfl

theorem lineOf?_top (n : Nat) :
    lineOf? ([topLeft, boxBar] ++ run boxBar n ++ [boxBar, topRight]) = none := by
  rw [lineOf?, isBoxRow_bars topLeft topRight n (by decide)]
  rfl

theorem lineOf?_bottom (n : Nat) :
    lineOf? ([bottomLeft, boxBar] ++ run boxBar n ++ [boxBar, bottomRight]) = some caretRow := by
  have top : isBoxRow topLeft topRight
      ([bottomLeft, boxBar] ++ run boxBar n ++ [boxBar, bottomRight]) = false :=
    isBoxRow_of_head (by decide)
  rw [lineOf?, top, isBoxRow_bars bottomLeft bottomRight n (by decide)]
  rfl

theorem lineOf?_sides (l : Text) :
    lineOf? ([boxSide, Code.space] ++ l ++ [Code.space, boxSide]) = some (unescape l) := by
  have inside : withoutSides ([boxSide, Code.space] ++ l ++ [Code.space, boxSide]) = l :=
    withoutRightSide_append l
  have top : isBoxRow topLeft topRight
      ([boxSide, Code.space] ++ l ++ [Code.space, boxSide]) = false :=
    isBoxRow_of_head (by decide)
  have bottom : isBoxRow bottomLeft bottomRight
      ([boxSide, Code.space] ++ l ++ [Code.space, boxSide]) = false :=
    isBoxRow_of_head (by decide)
  rw [lineOf?_eq top bottom, inside]

/-- An item without a frame stands for itself. -/
theorem lineOf?_of_frameless (free : Frameless item) : lineOf? item = some (unescape item) := by
  obtain ⟨top, bottom, side⟩ := free
  have noRow : ∀ left right, left ∉ item → isBoxRow left right item = false := by
    intro left right absent
    cases item with
    | nil => rfl
    | cons c t =>
      rw [List.mem_cons, not_or] at absent
      exact isBoxRow_of_head (Ne.symm absent.1)
  rw [lineOf?_eq (noRow _ _ top) (noRow _ _ bottom), withoutSides_of_not_mem side]

theorem Frameless.escapeCommas (free : Frameless l) : Frameless (escapeCommas l) := by
  have other : ∀ c, c ≠ Code.backslash → c ∉ l → c ∉ Choice.escapeCommas l :=
    fun c backslash absent inside => (mem_of_mem_escapeCommas inside).elim absent backslash
  obtain ⟨top, bottom, side⟩ := free
  exact ⟨other _ (by decide) top, other _ (by decide) bottom, other _ (by decide) side⟩

/-- A line without a frame is read as it was written. -/
theorem lineOf?_escapeCommas (free : Frameless l) : lineOf? (escapeCommas l) = some l := by
  rw [lineOf?_of_frameless free.escapeCommas, unescape_escapeCommas]

/-- **The rows of a box** are read as the line in it and a header mark. -/
theorem filterMap_lineOf?_frame (l : Text) :
    (frame (escapeCommas l)).filterMap lineOf? = [l, caretRow] := by
  simp only [frame, List.filterMap_cons, lineOf?_top, lineOf?_sides, lineOf?_bottom,
    unescape_escapeCommas, List.filterMap_nil]

/-- A row of bars has its corners and bars and nothing else. -/
theorem bars_subset (left right : Code) (n : Nat) :
    [left, boxBar] ++ run boxBar n ++ [boxBar, right] ⊆ [left, boxBar, right] := by
  intro c inside
  simp only [List.mem_append, List.mem_cons, List.mem_replicate, List.not_mem_nil, or_false]
    at inside
  rcases inside with ((same | same) | ⟨-, same⟩) | same | same <;> simp [same]

/-- The codes with which a box is drawn. -/
def frameCodes : List Code :=
  [topLeft, topRight, bottomLeft, bottomRight, boxBar, boxSide, Code.space]

/-- The rows of a box have the codes of the line in it and of the frame. -/
theorem not_mem_of_mem_frame {c : Code} (absent : c ∉ l) (other : c ∉ frameCodes)
    (row : item ∈ frame l) : c ∉ item := by
  intro inside
  refine other ?_
  simp only [frame, List.mem_cons, List.not_mem_nil, or_false] at row
  rcases row with rfl | rfl | rfl
  · have corner := bars_subset topLeft topRight _ inside
    simp only [List.mem_cons, List.not_mem_nil, or_false] at corner
    rcases corner with rfl | rfl | rfl <;> decide
  · rw [List.mem_append, List.mem_append] at inside
    rcases inside with (side | line) | side
    · simp only [List.mem_cons, List.not_mem_nil, or_false] at side
      rcases side with rfl | rfl <;> decide
    · exact absurd line absent
    · simp only [List.mem_cons, List.not_mem_nil, or_false] at side
      rcases side with rfl | rfl <;> decide
  · have corner := bars_subset bottomLeft bottomRight _ inside
    simp only [List.mem_cons, List.not_mem_nil, or_false] at corner
    rcases corner with rfl | rfl | rfl <;> decide

theorem whole_bars (left right : Code) (n : Nat) (comma : Code.comma ∉ [left, boxBar, right])
    (backslash : Code.backslash ∉ [left, boxBar, right]) :
    Whole ([left, boxBar] ++ run boxBar n ++ [boxBar, right]) :=
  whole_of_not_mem (fun inside => comma (bars_subset left right n inside))
    fun inside => backslash (bars_subset left right n inside)

/-- The rows of a box are whole if the line in it is. -/
theorem whole_of_mem_frame (whole : Whole l) (row : item ∈ frame l) : Whole item := by
  simp only [frame, List.mem_cons, List.not_mem_nil, or_false] at row
  rcases row with rfl | rfl | rfl
  · exact whole_bars _ _ _ (by decide) (by decide)
  · have left : Whole [boxSide, Code.space] := whole_of_not_mem (by decide) (by decide)
    have right : Whole [Code.space, boxSide] := whole_of_not_mem (by decide) (by decide)
    exact (left.append whole).append right
  · exact whole_bars _ _ _ (by decide) (by decide)

end Rows

section Marks

variable {l : Text} {ls : List Text}

theorem isCaretRow_caretRow : isCaretRow caretRow = true := by decide

theorem isCaretRow_of_mem {c : Code} (other : c ≠ Code.caret) (inside : c ∈ l) :
    isCaretRow l = false := by
  rw [isCaretRow, Bool.and_eq_false_iff]
  right
  rw [List.all_eq_false]
  exact ⟨c, inside, by simpa using other⟩

/-- Escaping commas neither makes a header mark nor hides one. -/
theorem isCaretRow_escapeCommas (l : Text) : isCaretRow (escapeCommas l) = isCaretRow l := by
  by_cases comma : Code.comma ∈ l
  · rw [isCaretRow_of_mem (by decide) comma,
      isCaretRow_of_mem (by decide) (mem_escapeCommas_of_mem comma)]
  · rw [escapeCommas_of_not_mem comma]

/-- A first line that is no header mark, if there is a line. -/
def StartsPlain (ls : List Text) : Prop := ∀ l ∈ ls.head?, isCaretRow l = false

/-- Marked lines start with no header mark, also where commas are escaped. -/
theorem Marked.startsPlain (h : Marked ls) : StartsPlain (ls.map escapeCommas) := by
  cases h with
  | nil => simp [StartsPlain]
  | line plain _ => simpa [StartsPlain, isCaretRow_escapeCommas] using plain
  | header plain _ => simpa [StartsPlain, isCaretRow_escapeCommas] using plain

theorem WellMarked.head (h : WellMarked (l :: ls)) : isCaretRow l = false := by
  cases mark : isCaretRow l with
  | false => rfl
  | true =>
    obtain ⟨-, before, header, none, -⟩ := h [] l ls rfl mark
    simp at none

/-- Nothing is marked directly behind a mark. -/
theorem WellMarked.behind_mark (first : List Text) (h : WellMarked (first ++ l :: ls))
    (mark : isCaretRow l = true) : StartsPlain ls := by
  intro k next
  obtain ⟨back, rfl⟩ := List.head?_eq_some_iff.1 next
  cases marks : isCaretRow k with
  | false => rfl
  | true =>
    obtain ⟨-, before, header, ends, other⟩ := h (first ++ [l]) k back (by simp) marks
    obtain ⟨-, same⟩ := List.append_inj' ends rfl
    rw [← (List.cons.inj same).1, mark] at other
    cases other

/-- Marks behind a start of the lines are where they should be, unless one comes first. -/
theorem WellMarked.behind (first : List Text) (h : WellMarked (first ++ ls))
    (plain : StartsPlain ls) : WellMarked ls := by
  intro front mark back split marks
  obtain ⟨three, before, header, ends, other⟩ :=
    h (first ++ front) mark back (by rw [split, List.append_assoc]) marks
  refine ⟨three, ?_⟩
  rcases List.eq_nil_or_concat front with rfl | ⟨before', header', rfl⟩
  · rw [plain mark (by simp [split])] at marks
    cases marks
  · rw [List.concat_eq_append] at ends ⊢
    rw [← List.append_assoc] at ends
    obtain ⟨-, same⟩ := List.append_inj' ends rfl
    exact ⟨before', header, by rw [same], other⟩

theorem WellMarked.line (plain : isCaretRow l = false) (h : WellMarked ls) :
    WellMarked (l :: ls) := by
  intro front mark back split marks
  cases front with
  | nil =>
    obtain ⟨rfl, -⟩ := List.cons.inj split
    rw [plain] at marks
    cases marks
  | cons first front =>
    obtain ⟨three, before, header, rfl, other⟩ := h front mark back (List.cons.inj split).2 marks
    exact ⟨three, first :: before, header, rfl, other⟩

theorem WellMarked.header (plain : isCaretRow l = false) (h : WellMarked ls) :
    WellMarked (l :: caretRow :: ls) := by
  intro front mark back split marks
  rcases front with _ | ⟨first, _ | ⟨second, front⟩⟩
  · obtain ⟨rfl, -⟩ := List.cons.inj split
    rw [plain] at marks
    cases marks
  · obtain ⟨rfl, behind⟩ := List.cons.inj split
    exact ⟨(List.cons.inj behind).1.symm, [], l, rfl, plain⟩
  · obtain ⟨three, before, header, rfl, other⟩ :=
      h front mark back (List.cons.inj (List.cons.inj split).2).2 marks
    exact ⟨three, first :: second :: before, header, rfl, other⟩

/-- Lines whose marks stand behind their headers are headers with their marks and other lines in
turn. -/
theorem WellMarked.marked {ls : List Text} (h : WellMarked ls) : Marked ls := by
  match ls with
  | [] => exact .nil
  | [l] => exact .line h.head .nil
  | l :: m :: ls =>
    cases mark : isCaretRow m with
    | false =>
      have plain : StartsPlain (m :: ls) := by simpa [StartsPlain] using mark
      have rest : WellMarked (m :: ls) := WellMarked.behind [l] h plain
      exact .line h.head rest.marked
    | true =>
      -- A mark goes with the line before it, so the lines are taken two at once.
      obtain ⟨rfl, -⟩ := h [l] m ls rfl mark
      have plain : StartsPlain ls := WellMarked.behind_mark [l] h mark
      have rest : WellMarked ls := WellMarked.behind [l, caretRow] h plain
      exact .header h.head rest.marked

/-- **Marks stand where they should** exactly in headers with their marks and other lines. -/
theorem wellMarked_iff_marked : WellMarked ls ↔ Marked ls := by
  constructor
  · exact WellMarked.marked
  · intro h
    induction h with
    | nil =>
      intro front mark back split
      simp at split
    | line plain _ ih => exact .line plain ih
    | header plain _ ih => exact .header plain ih

end Marks

section Written

variable {l item : Text} {ls : List Text}

/-- The items that are written for lines. -/
def written (ls : List Text) : List Text := itemsOf (ls.map escapeCommas)

theorem itemsOf_line (plain : isCaretRow l = false) (next : StartsPlain ls) :
    itemsOf (l :: ls) = l :: itemsOf ls := by
  cases ls with
  | nil => simp [itemsOf, plain]
  | cons m ls =>
    have other : isCaretRow m = false := next m rfl
    simp [itemsOf, plain, other]

theorem itemsOf_mark (mark : isCaretRow l = true) (next : StartsPlain ls) :
    itemsOf (l :: ls) = itemsOf ls := by
  cases ls with
  | nil => simp [itemsOf, mark]
  | cons m ls =>
    have other : isCaretRow m = false := next m rfl
    simp [itemsOf, mark, other]

/-- A line that is none of a header is an item. -/
theorem written_line (plain : isCaretRow l = false) (h : Marked ls) :
    written (l :: ls) = escapeCommas l :: written ls :=
  itemsOf_line ((isCaretRow_escapeCommas l).trans plain) h.startsPlain

/-- A header is the rows of a box, and its mark is gone. -/
theorem written_header (h : Marked ls) :
    written (l :: caretRow :: ls) = frame (escapeCommas l) ++ written ls := by
  have mark : isCaretRow (escapeCommas caretRow) = true :=
    (isCaretRow_escapeCommas caretRow).trans isCaretRow_caretRow
  have dropped := itemsOf_mark mark h.startsPlain
  rw [written, List.map_cons, List.map_cons, itemsOf, if_pos mark, dropped, written]

/-- Each item is a line with its commas escaped or a row of the box around one. -/
theorem Marked.mem_written (h : Marked ls) (inside : item ∈ written ls) :
    ∃ l ∈ ls, item = escapeCommas l ∨ item ∈ frame (escapeCommas l) := by
  induction h with
  | nil => cases inside
  | @line l ls plain rest ih =>
    rw [written_line plain rest, List.mem_cons] at inside
    rcases inside with same | inside
    · exact ⟨l, List.mem_cons_self, .inl same⟩
    · obtain ⟨k, member, origin⟩ := ih inside
      exact ⟨k, List.mem_cons_of_mem l member, origin⟩
  | @header l ls _ rest ih =>
    rw [written_header rest, List.mem_append] at inside
    rcases inside with row | inside
    · exact ⟨l, List.mem_cons_self, .inr row⟩
    · obtain ⟨k, member, origin⟩ := ih inside
      exact ⟨k, List.mem_cons_of_mem l (List.mem_cons_of_mem caretRow member), origin⟩

/-- **What is written is read again**: the items stand for the lines and their header marks. -/
theorem Marked.filterMap_lineOf? (h : Marked ls) (free : ∀ l ∈ ls, Frameless l) :
    (written ls).filterMap lineOf? = ls := by
  induction h with
  | nil => rfl
  | line plain rest ih =>
    obtain ⟨first, others⟩ := List.forall_mem_cons.1 free
    rw [written_line plain rest, List.filterMap_cons, lineOf?_escapeCommas first, ih others]
  | header _ rest ih =>
    obtain ⟨-, others⟩ := List.forall_mem_cons.1 free
    rw [written_header rest, List.filterMap_append, filterMap_lineOf?_frame,
      ih (List.forall_mem_cons.1 others).2]
    rfl

theorem Marked.written_eq_nil (h : Marked ls) (none : written ls = []) : ls = [] := by
  cases h with
  | nil => rfl
  | line plain rest => simp [written_line plain rest] at none
  | header _ rest => simp [written_header rest, frame] at none

/-- The last item is empty only where the last line is. -/
theorem Marked.getLast?_written (h : Marked ls) (empty : (written ls).getLast? = some []) :
    ls.getLast? = some [] := by
  induction h with
  | nil => cases empty
  | @line l ls plain rest ih =>
    rw [written_line plain rest, List.getLast?_cons] at empty
    rw [List.getLast?_cons]
    cases last : (written ls).getLast? with
    | none =>
      have none := rest.written_eq_nil (List.getLast?_eq_none_iff.1 last)
      rw [last] at empty
      have same : l = [] := escapeCommas_eq_nil_iff.1 (Option.some.inj empty)
      simp [none, same]
    | some item =>
      rw [last] at empty
      rw [ih (last.trans empty)]
      rfl
  | @header l ls _ rest ih =>
    rw [written_header rest, List.getLast?_append] at empty
    cases last : (written ls).getLast? with
    | none =>
      rw [last] at empty
      simp [frame] at empty
    | some item =>
      rw [last] at empty
      have behind : ls.getLast? = some [] := ih (last.trans empty)
      rw [List.getLast?_cons, List.getLast?_cons, behind]
      rfl

/-- Items are whole if the lines are written whole. -/
theorem Marked.whole_written (h : Marked ls) (whole : ∀ l ∈ ls, Whole (escapeCommas l)) :
    ∀ item ∈ written ls, Whole item := by
  intro item inside
  obtain ⟨l, member, same | row⟩ := h.mem_written inside
  · rw [same]
    exact whole l member
  · exact whole_of_mem_frame (whole l member) row

/-- Writing lines brings in the codes of a frame and backslashes alone. -/
theorem Marked.not_mem_written {c : Code} (h : Marked ls) (frame : c ∉ frameCodes)
    (backslash : c ≠ Code.backslash) (absent : ∀ l ∈ ls, c ∉ l) :
    ∀ item ∈ written ls, c ∉ item := by
  intro item inside
  obtain ⟨l, member, origin⟩ := h.mem_written inside
  have line : c ∉ escapeCommas l :=
    fun here => (mem_of_mem_escapeCommas here).elim (absent l member) backslash
  rcases origin with same | row
  · rwa [same]
  · exact not_mem_of_mem_frame line frame row

/-- The items are found again where they stand joined. -/
theorem Marked.items_join_written (h : Marked ls) (whole : ∀ l ∈ ls, Whole (escapeCommas l))
    (last : ls.getLast? ≠ some []) : items (join [Code.comma] (written ls)) = written ls := by
  rw [items_join (h.whole_written whole), if_neg fun empty => last (h.getLast?_written empty)]

end Written

section Restored

variable {ls : List Text} {n : Int}

/-- Lines without line endings are written as a choice of the items for them. -/
theorem encode_join (some : ls ≠ []) (each : ∀ l ∈ ls, OneLine l) (n : Int) :
    encode (join [Code.newline] ls) n false = choice (join [Code.comma] (written ls)) n := by
  rw [encode, if_neg (by decide), lines_join some each, written]

/-- **Lines and headers are restored.** Let no line have a backslash, a frame or a line ending in
it, let every header mark be three carets directly behind a line that is none, and let the last line
not be empty. Then what is written for the lines is a choice, and it is read as the lines again. -/
theorem decode_encode_of_wellMarked (nonneg : 0 ≤ n) (some : ls ≠ [])
    (plain : ∀ l ∈ ls, OneLine l ∧ Frameless l ∧ Code.backslash ∉ l) (marked : WellMarked ls)
    (last : ls.getLast? ≠ Option.some []) (eol : Text) :
    isChoice (encode (join [Code.newline] ls) n false) = true ∧
      (decode (encode (join [Code.newline] ls) n false) eol).result = .ok (join eol ls) := by
  have turns : Marked ls := marked.marked
  have whole : ∀ l ∈ ls, Whole (escapeCommas l) := fun l member =>
    whole_escapeCommas_iff.2 (evenBackslashes_of_not_mem (plain l member).2.2)
  have found : items (join [Code.comma] (written ls)) = written ls :=
    turns.items_join_written whole last
  have filled : join [Code.comma] (written ls) ≠ [] := by
    intro none
    rw [none] at found
    exact some (turns.written_eq_nil found.symm)
  have oneLine : Code.newline ∉ join [Code.comma] (written ls) :=
    not_mem_join (by decide)
      (turns.not_mem_written (by decide) (by decide) fun l member => (plain l member).1.2)
  rw [encode_join some fun l member => (plain l member).1]
  constructor
  · rw [isChoice, interior?_choice nonneg filled oneLine]
    rfl
  · rw [result_decode_choice nonneg filled oneLine, found,
      turns.filterMap_lineOf? fun l member => (plain l member).2.1]

/-- Two headers, one of them empty and one with a comma, and blank lines. -/
def palette : List Text :=
  [Text.ofString "Hue, tone", caretRow, Text.ofString "red,,blue", [], [], caretRow,
    Text.ofString "^^|\x7d", Text.ofString "x"]

theorem wellMarked_palette : WellMarked palette :=
  wellMarked_iff_marked.2 (.header rfl (.line rfl (.line rfl (.header rfl (.line rfl (.line rfl
    .nil))))))

/-- Headers of every kind and blank lines between them are restored with other line endings. -/
theorem decode_encode_of_wellMarked_palette :
    isChoice (encode (join [Code.newline] palette) 20 false) = true ∧
      (decode (encode (join [Code.newline] palette) 20 false)
        [Code.carriageReturn, Code.newline]).result =
          .ok (join [Code.carriageReturn, Code.newline] palette) :=
  decode_encode_of_wellMarked (by decide) (by decide) (by decide) wellMarked_palette (by decide) _

end Restored

end EditorText.Choice
