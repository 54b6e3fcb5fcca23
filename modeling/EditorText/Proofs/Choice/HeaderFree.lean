import EditorText.Proofs.Choice.Headers
import Mathlib.Data.List.Basic

/-!
# Lines without headers through a choice

The items of such lines are the lines themselves with their commas escaped. A backslash of a line is
written as it is, so it is taken for one that goes with the code behind it, be it the comma between
two items. The lines are restored exactly where backslashes stand in even numbers before commas and
at the ends of lines, and where the last line, for which no item is found if it is empty, is not
(`decode_encode_iff`).
-/

set_option autoImplicit false

namespace EditorText.Choice

open Text

/-- There is something in the lines, but no line ending, no frame and no header mark. -/
structure HeaderFree (ls : List Text) : Prop where
  filled : ∃ l ∈ ls, l ≠ []
  oneLine : ∀ l ∈ ls, OneLine l
  frameless : ∀ l ∈ ls, Frameless l
  unmarked : ∀ l ∈ ls, isCaretRow l = false

/-- The lines that come back: backslashes stand in even numbers before commas and at the ends of
lines, and the last line is not empty. -/
def Restorable (ls : List Text) : Prop :=
  (∀ l ∈ ls, EvenBackslashes l) ∧ ls.getLast? ≠ some []

instance (ls : List Text) : Decidable (HeaderFree ls) :=
  decidable_of_iff ((∃ l ∈ ls, l ≠ []) ∧ (∀ l ∈ ls, OneLine l) ∧ (∀ l ∈ ls, Frameless l) ∧
      ∀ l ∈ ls, isCaretRow l = false)
    ⟨fun ⟨filled, oneLine, frameless, unmarked⟩ => ⟨filled, oneLine, frameless, unmarked⟩,
      fun h => ⟨h.filled, h.oneLine, h.frameless, h.unmarked⟩⟩

instance (ls : List Text) : Decidable (Restorable ls) := inferInstanceAs (Decidable (_ ∧ _))

/-- The interior of a choice for lines without header marks. -/
def interiorOf (ls : List Text) : Text := join [Code.comma] (ls.map escapeCommas)

section Items

variable {item t : Text} {ls : List Text}

/-- Lines none of which is a header mark are items as they are. -/
theorem written_of_unmarked (unmarked : ∀ l ∈ ls, isCaretRow l = false) :
    Marked ls ∧ written ls = ls.map escapeCommas := by
  induction ls with
  | nil => exact ⟨.nil, rfl⟩
  | cons l ls ih =>
    obtain ⟨first, others⟩ := List.forall_mem_cons.1 unmarked
    obtain ⟨turns, items⟩ := ih others
    refine ⟨.line first turns, ?_⟩
    rw [written_line first turns, items, List.map_cons]

/-- Items of an interior without a frame stand for themselves. -/
theorem filterMap_lineOf?_items (free : Frameless t) :
    (items t).filterMap lineOf? = (items t).map unescape := by
  refine List.filterMap_eq_map_iff_forall_eq_some.2 fun item found => ?_
  have part : item ⊆ t := (of_mem_itemsFrom found).2
  obtain ⟨top, bottom, side⟩ := free
  exact lineOf?_of_frameless
    ⟨fun h => top (part h), fun h => bottom (part h), fun h => side (part h)⟩

/-- A line read from an interior on one line is one line. -/
theorem oneLine_of_mem_items (oneLine : OneLine t) (found : item ∈ items t) :
    OneLine (unescape item) := by
  obtain ⟨whole, part⟩ := of_mem_itemsFrom found
  exact ⟨fun h => oneLine.1 (part (mem_of_mem_unescape whole h)),
    fun h => oneLine.2 (part (mem_of_mem_unescape whole h))⟩

/-- **Items stand for the lines exactly if they are the lines as they are written.** -/
theorem map_unescape_items_eq_iff :
    (items t).map unescape = ls ↔ items t = ls.map escapeCommas := by
  constructor
  · rintro rfl
    rw [List.map_map]
    have same : ∀ item ∈ items t, (escapeCommas ∘ unescape) item = id item :=
      fun item found => escapeCommas_unescape (whole_of_mem_items found)
    rw [List.map_congr_left same, List.map_id]
  · intro same
    rw [same, List.map_map]
    have read : unescape ∘ escapeCommas = id := funext unescape_escapeCommas
    rw [read, List.map_id]

/-- The last line is written as nothing only if it is empty. -/
theorem getLast?_map_escapeCommas :
    (ls.map escapeCommas).getLast? = some [] ↔ ls.getLast? = some [] := by
  rw [List.getLast?_map, Option.map_eq_some_iff]
  constructor
  · rintro ⟨l, last, empty⟩
    rw [last, escapeCommas_eq_nil_iff.1 empty]
  · intro last
    exact ⟨[], last, rfl⟩

/-- **The items of lines are found again exactly if the lines are restorable.** -/
theorem items_interiorOf_iff (some : ls ≠ []) :
    items (interiorOf ls) = ls.map escapeCommas ↔ Restorable ls := by
  have filled : ls.map escapeCommas ≠ [] := by simpa using some
  rw [interiorOf, items_join_eq_iff filled, List.forall_mem_map, Ne, getLast?_map_escapeCommas, Restorable]
  simp only [whole_escapeCommas_iff, Ne]

end Items

section HeaderFree

variable {ls ks : List Text} {n : Int}

theorem HeaderFree.ne_nil (h : HeaderFree ls) : ls ≠ [] := by
  obtain ⟨l, member, -⟩ := h.filled
  exact List.ne_nil_of_mem member

/-- The choice for the lines has an interior. -/
theorem HeaderFree.interiorOf_ne_nil (h : HeaderFree ls) : interiorOf ls ≠ [] := by
  intro none
  obtain ⟨l, member, filled⟩ := h.filled
  -- Nothing comes of a single empty line alone.
  have all : ∀ item ∈ ls.map escapeCommas, item = [] := by
    rcases join_eq_nil (by simp) none with same | same <;> simp [same]
  exact filled (escapeCommas_eq_nil_iff.1 (all _ (List.mem_map_of_mem member)))

/-- The interior brings in commas and backslashes alone. -/
theorem not_mem_interiorOf {c : Code} (comma : c ≠ Code.comma) (backslash : c ≠ Code.backslash)
    (outside : ∀ l ∈ ls, c ∉ l) : c ∉ interiorOf ls := by
  refine not_mem_join (by simpa using comma) ?_
  rw [List.forall_mem_map]
  exact fun l member inside =>
    (mem_of_mem_escapeCommas inside).elim (outside l member) backslash

theorem HeaderFree.oneLine_interiorOf (h : HeaderFree ls) : OneLine (interiorOf ls) :=
  ⟨not_mem_interiorOf (by decide) (by decide) fun l member => (h.oneLine l member).1,
    not_mem_interiorOf (by decide) (by decide) fun l member => (h.oneLine l member).2⟩

theorem HeaderFree.frameless_interiorOf (h : HeaderFree ls) : Frameless (interiorOf ls) :=
  ⟨not_mem_interiorOf (by decide) (by decide) fun l member => (h.frameless l member).1,
    not_mem_interiorOf (by decide) (by decide) fun l member => (h.frameless l member).2.1,
    not_mem_interiorOf (by decide) (by decide) fun l member => (h.frameless l member).2.2⟩

/-- **What is read** of a choice for lines without headers are its items with their commas. -/
theorem HeaderFree.result_decode_encode (h : HeaderFree ls) (nonneg : 0 ≤ n) (eol : Text) :
    (decode (encode (join [Code.newline] ls) n false) eol).result =
      .ok (join eol ((items (interiorOf ls)).map unescape)) := by
  rw [encode_join h.ne_nil h.oneLine, (written_of_unmarked h.unmarked).2, ← interiorOf,
    result_decode_choice nonneg h.interiorOf_ne_nil h.oneLine_interiorOf.2,
    filterMap_lineOf?_items h.frameless_interiorOf]

/-- Lines read from a choice are the lines that were written if their text is. -/
theorem HeaderFree.join_map_unescape_eq_iff (h : HeaderFree ls) {t : Text} (oneLine : OneLine t) :
    join [Code.newline] ((items t).map unescape) = join [Code.newline] ls ↔
      (items t).map unescape = ls := by
  constructor
  · intro same
    -- No lines and one empty line have one text, but the lines that were written are neither.
    have some : (items t).map unescape ≠ [] := by
      intro none
      obtain ⟨l, member, filled⟩ := h.filled
      rw [none] at same
      rcases join_eq_nil (by simp) same.symm with none | empty
      · exact h.ne_nil none
      · rw [empty, List.mem_singleton] at member
        exact filled member
    have each : ∀ l ∈ (items t).map unescape, OneLine l :=
      List.forall_mem_map.2 fun item found => oneLine_of_mem_items oneLine found
    rw [← lines_join some each, same, lines_join h.ne_nil h.oneLine]
  · rintro rfl
    rfl

/-- **A text comes back exactly if its lines are restorable.** -/
theorem HeaderFree.result_eq_iff (h : HeaderFree ls) (nonneg : 0 ≤ n) :
    (decode (encode (join [Code.newline] ls) n false) [Code.newline]).result =
      .ok (join [Code.newline] ls) ↔ Restorable ls := by
  rw [h.result_decode_encode nonneg, Except.ok.injEq,
    h.join_map_unescape_eq_iff h.oneLine_interiorOf, map_unescape_items_eq_iff,
    items_interiorOf_iff h.ne_nil]

/-- Restorable lines that are written alike are the same. -/
theorem HeaderFree.eq_of_encode_eq (h : HeaderFree ls) (h' : HeaderFree ks) (nonneg : 0 ≤ n)
    (back : Restorable ls) (back' : Restorable ks)
    (same : encode (join [Code.newline] ls) n false = encode (join [Code.newline] ks) n false) :
    ls = ks := by
  have first := (h.result_eq_iff nonneg).2 back
  have second := (h'.result_eq_iff nonneg).2 back'
  rw [same, second, Except.ok.injEq] at first
  rw [← lines_join h.ne_nil h.oneLine, ← first, lines_join h'.ne_nil h'.oneLine]

/-- **Lines without headers are read, and they are restored exactly if they are restorable.** Two
such texts that are restorable are not written alike. -/
theorem decode_encode_iff (nonneg : 0 ≤ n) (h : HeaderFree ls) :
    (∃ t, (decode (encode (join [Code.newline] ls) n false) [Code.newline]).result = .ok t) ∧
    ((decode (encode (join [Code.newline] ls) n false) [Code.newline]).result =
      .ok (join [Code.newline] ls) ↔ Restorable ls) ∧
    ∀ ks, HeaderFree ks → Restorable ls → Restorable ks →
      encode (join [Code.newline] ls) n false = encode (join [Code.newline] ks) n false →
      ls = ks := by
  refine ⟨⟨_, h.result_decode_encode nonneg _⟩, h.result_eq_iff nonneg, ?_⟩
  intro ks h' back back' same
  exact h.eq_of_encode_eq h' nonneg back back' same

/-- Two backslashes at an end and two before a comma, one before a letter, a pipe, a brace and an
empty line. -/
def paths : List Text :=
  [Text.ofString "c:\\\\", [], Text.ofString "a\\\\, b", Text.ofString "d|\x7d\\e"]

/-- Backslashes in even numbers are no hindrance, and none elsewhere. -/
theorem decode_encode_iff_paths : HeaderFree paths ∧ Restorable paths ∧
    (decode (encode (join [Code.newline] paths) 10 false) [Code.newline]).result =
      .ok (join [Code.newline] paths) := by
  have plain : HeaderFree paths := by decide
  have back : Restorable paths := by decide +kernel
  exact ⟨plain, back, (decode_encode_iff (n := 10) (by decide) plain).2.1.2 back⟩

/-- A line with a backslash at its end. -/
def trailing : Text := Text.ofString "a\\"

/-- **Not all lines without headers are restored.** What is written for a line with a backslash at
its end is read as nothing, and above another line it is written as the two with a comma between
them are. An empty line at the end is lost. -/
theorem decode_encode_ne :
    (HeaderFree [trailing] ∧ join [Code.newline] [trailing] ≠ [] ∧
      (decode (encode (join [Code.newline] [trailing]) 10 false) [Code.newline]).result =
        .ok []) ∧
    (HeaderFree [trailing, Text.ofString "b"] ∧ HeaderFree [Text.ofString "a,b"] ∧
      encode (join [Code.newline] [trailing, Text.ofString "b"]) 10 false =
        encode (join [Code.newline] [Text.ofString "a,b"]) 10 false) ∧
    HeaderFree [Text.ofString "a", []] ∧
      join [Code.newline] [Text.ofString "a", []] ≠ Text.ofString "a" ∧
      (decode (encode (join [Code.newline] [Text.ofString "a", []]) 10 false)
        [Code.newline]).result = .ok (Text.ofString "a") := by
  refine ⟨⟨by decide, by decide, ?_⟩, ⟨by decide, by decide, by decide +kernel⟩,
    by decide, by decide, ?_⟩
  · rfl
  · rfl

end HeaderFree

end EditorText.Choice
