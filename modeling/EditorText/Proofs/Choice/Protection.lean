import EditorText.Proofs.Choice.Headers
import Mathlib.Data.List.Induction

/-!
# Protected commas and pipes

In the interior of a choice a backslash goes with the code behind it, from left to right, so that a
code is protected exactly if an odd number of backslashes stands before it (`waits_iff`). `traced`
is the interior that is written for a text, with what stands before each code in the line that the
code comes from. A backslash is put before each comma and no other code, so that a comma of a line
is protected where backslashes stand before it in even number, and a pipe where they stand in odd
number (`waits_of_traced`).
-/

set_option autoImplicit false

namespace EditorText.Choice

open Text

/-- The codes that end an item or a choice unless they are protected. -/
def isEnd (c : Code) : Bool := c == Code.comma || c == Code.pipe

/-- From left to right a backslash goes with the code behind it; one is left over at the end. -/
def waits (front : Text) : Bool :=
  front.foldl (fun waiting c => !waiting && c == Code.backslash) false

/-- A code of an interior, and what stands before it in its line if it comes from a line. -/
structure Traced where
  code : Code
  before : Option Text

/-- Codes that come from no line. -/
def added (t : Text) : List Traced := t.map fun c => ⟨c, none⟩

/-- The rest of a line with a backslash before each comma. -/
def traceFrom (before : Text) : Text → List Traced
  | [] => []
  | c :: t =>
    added (if c = Code.comma then [Code.backslash] else []) ++
      ⟨c, some before⟩ :: traceFrom (before ++ [c]) t

/-- An item: a line with what stands at its sides. -/
structure Row where
  left : Text := []
  line : Text := []
  right : Text := []

/-- The item as it is written. -/
def Row.text (r : Row) : Text := r.left ++ escapeCommas r.line ++ r.right

/-- The codes of the item. -/
def Row.trace (r : Row) : List Traced := added r.left ++ traceFrom [] r.line ++ added r.right

/-- The rows of a box around a line. -/
def boxRows (l : Text) : List Row :=
  let bar := run boxBar ((escapeCommas l).length - (escapeCommas l).count Code.comma)
  [{ left := [topLeft, boxBar] ++ bar ++ [boxBar, topRight] },
    { left := [boxSide, Code.space], line := l, right := [Code.space, boxSide] },
    { left := [bottomLeft, boxBar] ++ bar ++ [boxBar, bottomRight] }]

/-- The items for lines. -/
def rowsOf : List Text → List Row
  | [] => []
  | [l] => if isCaretRow l then [] else [{ line := l }]
  | l :: m :: rest =>
    if isCaretRow m then boxRows l ++ rowsOf (m :: rest)
    else if isCaretRow l then rowsOf (m :: rest)
    else { line := l } :: rowsOf (m :: rest)

/-- The codes of items with commas between. -/
def traceRows : List Row → List Traced
  | [] => []
  | [r] => r.trace
  | r :: s :: rest => r.trace ++ added [Code.comma] ++ traceRows (s :: rest)

/-- The codes of the interior that is written for a text. -/
def traced (text : Text) : List Traced := traceRows (rowsOf (lines text))

/-- Backslashes stand in even number before every comma of the line and in odd number before every
pipe. -/
def IsSafe (line : Text) : Prop :=
  ∀ front c back, line = front ++ c :: back → isEnd c = true →
    if c = Code.comma then backslashesAtEnd front % 2 = 0 else backslashesAtEnd front % 2 = 1

/-- Every comma and every pipe that comes from a line is protected. -/
def Protected (text : Text) : Prop :=
  ∀ front y back, traced text = front ++ y :: back → y.before ≠ none → isEnd y.code = true →
    waits (front.map Traced.code) = true

section Parity

variable {c : Code} {front s : Text}

theorem waits_append (front : Text) (c : Code) :
    waits (front ++ [c]) = (!waits front && c == Code.backslash) := by
  rw [waits, List.foldl_append]
  rfl

/-- **A code is protected** exactly if the backslashes before it are odd in number. -/
theorem waits_iff (front : Text) : waits front = true ↔ backslashesAtEnd front % 2 = 1 := by
  induction front using List.reverseRecOn with
  | nil => simp [waits]
  | append_singleton front c ih =>
    rw [waits_append]
    by_cases backslash : c = Code.backslash
    · subst backslash
      rw [backslashesAtEnd_backslash]
      cases waiting : waits front with
      | true =>
        have odd := ih.1 waiting
        simp
        omega
      | false =>
        have even : ¬ backslashesAtEnd front % 2 = 1 := by
          rw [← ih, waiting]
          decide
        simp
        omega
    · simp [backslashesAtEnd_other front backslash, backslash]

theorem backslashesAtEnd_append (none : backslashesAtEnd front = 0)
    (none' : backslashesAtEnd s = 0) : backslashesAtEnd (front ++ s) = 0 := by
  rcases List.eq_nil_or_concat s with rfl | ⟨s, c, rfl⟩
  · rwa [List.append_nil]
  · rw [List.concat_eq_append] at none' ⊢
    have other : c ≠ Code.backslash := by
      rintro rfl
      rw [backslashesAtEnd_backslash] at none'
      omega
    rw [← List.append_assoc, backslashesAtEnd_other _ other]

theorem backslashesAtEnd_of_not_mem (absent : Code.backslash ∉ s) : backslashesAtEnd s = 0 := by
  rcases List.eq_nil_or_concat s with rfl | ⟨s, c, rfl⟩
  · rfl
  · rw [List.concat_eq_append] at absent ⊢
    have other : c ≠ Code.backslash := by
      rintro rfl
      simp at absent
    exact backslashesAtEnd_other s other

theorem escapeCommas_append (s t : Text) :
    escapeCommas (s ++ t) = escapeCommas s ++ escapeCommas t := by
  simp [escapeCommas, replaceCode]

/-- The backslashes at the end of a line that is written are those of the line. -/
theorem backslashesAtEnd_append_escapeCommas (none : backslashesAtEnd front = 0) (s : Text) :
    backslashesAtEnd (front ++ escapeCommas s) = backslashesAtEnd s := by
  induction s using List.reverseRecOn with
  | nil => simpa using none
  | append_singleton s c ih =>
    rw [escapeCommas_append, ← List.append_assoc]
    by_cases backslash : c = Code.backslash
    · subst backslash
      have single : escapeCommas [Code.backslash] = [Code.backslash] := rfl
      rw [single, backslashesAtEnd_backslash, backslashesAtEnd_backslash, ih]
    · rw [backslashesAtEnd_other s backslash]
      by_cases comma : c = Code.comma
      · subst comma
        have pair : escapeCommas [Code.comma] = [Code.backslash] ++ [Code.comma] := rfl
        rw [pair, ← List.append_assoc, backslashesAtEnd_other _ backslash]
      · have single : escapeCommas [c] = [c] := by
          rw [escapeCommas_cons comma]
          rfl
        rw [single, backslashesAtEnd_other _ backslash]

end Parity

section Trace

variable {c : Code} {p t : Text} {y : Traced} {front back : List Traced} {r : Row}
  {rs : List Row} {ls : List Text}

@[simp] theorem map_code_added (t : Text) : (added t).map Traced.code = t := by
  simp [added, Function.comp_def]

theorem not_mem_added (line : y.before ≠ none) : y ∉ added t := by
  intro inside
  obtain ⟨c, -, rfl⟩ := List.mem_map.1 inside
  exact line rfl

theorem map_code_traceFrom (before t : Text) :
    (traceFrom before t).map Traced.code = escapeCommas t := by
  induction t generalizing before with
  | nil => rfl
  | cons c t ih =>
    rw [traceFrom, List.map_append, List.map_cons, ih, map_code_added]
    by_cases comma : c = Code.comma
    · subst comma
      rfl
    · rw [if_neg comma, escapeCommas_cons comma]
      rfl

theorem map_code_trace (r : Row) : r.trace.map Traced.code = r.text := by
  simp [Row.trace, Row.text, map_code_traceFrom]

theorem map_code_traceRows (rs : List Row) :
    (traceRows rs).map Traced.code = join [Code.comma] (rs.map Row.text) := by
  induction rs with
  | nil => rfl
  | cons r rs ih =>
    cases rs with
    | nil => simp [traceRows, join, map_code_trace]
    | cons s rs =>
      rw [traceRows, List.map_append, List.map_append, ih, map_code_trace, map_code_added]
      exact (join_cons_cons [Code.comma] r.text s.text (rs.map Row.text)).symm

theorem map_text_boxRows (l : Text) : (boxRows l).map Row.text = frame (escapeCommas l) := by
  simp [boxRows, Row.text, frame]

/-- The items are those that are written for the lines. -/
theorem map_text_rowsOf (ls : List Text) :
    (rowsOf ls).map Row.text = itemsOf (ls.map escapeCommas) := by
  have alone (l : Text) : ({ line := l } : Row).text = escapeCommas l := by
    simp [Row.text]
  fun_induction rowsOf ls with
  | case1 => rfl
  | case2 l mark => simp [itemsOf, isCaretRow_escapeCommas, mark]
  | case3 l plain => simp [itemsOf, isCaretRow_escapeCommas, plain, alone]
  | case4 l m rest mark ih =>
    rw [List.map_append, map_text_boxRows, ih]
    simp [itemsOf, isCaretRow_escapeCommas, mark]
  | case5 l m rest plain mark ih =>
    rw [ih]
    simp [itemsOf, isCaretRow_escapeCommas, plain, mark]
  | case6 l m rest plain plain' ih =>
    rw [List.map_cons, alone, ih]
    simp [itemsOf, isCaretRow_escapeCommas, plain, plain']

/-- **The traced codes are the interior** that is written for the text. -/
theorem encode_eq_traced (text : Text) (n : Int) :
    encode text n false = choice ((traced text).map Traced.code) n := by
  rw [traced, map_code_traceRows, map_text_rowsOf, encode, if_neg (by decide)]

/-- A code of a line stands behind what was added before it. -/
theorem front_of_added {s : Text} {x : List Traced} (line : y.before ≠ none)
    (split : added s ++ x = front ++ y :: back) :
    ∃ more, front = added s ++ more ∧ x = more ++ y :: back := by
  rcases List.append_eq_append_iff.1 split with ⟨more, rfl, rest⟩ | ⟨more, marks, rest⟩
  · exact ⟨more, rfl, rest⟩
  · cases more with
    | nil => exact ⟨[], by simpa using marks.symm, rest.symm⟩
    | cons first more =>
      obtain ⟨rfl, -⟩ := List.cons.inj rest
      have inside : y ∈ added s := by simp [marks]
      exact absurd inside (not_mem_added line)

/-- Before a code of a line that is written stands what stands before it in the line, and the
backslash of a comma. -/
theorem front_of_traceFrom {before : Text}
    (split : traceFrom before t = front ++ ⟨c, some p⟩ :: back) :
    ∃ s q, t = s ++ c :: q ∧ p = before ++ s ∧ front.map Traced.code =
      escapeCommas s ++ if c = Code.comma then [Code.backslash] else [] := by
  induction t generalizing before front with
  | nil => simp [traceFrom] at split
  | cons d t ih =>
    rw [traceFrom] at split
    obtain ⟨more, rfl, rest⟩ := front_of_added (by simp) split
    rw [List.map_append, map_code_added]
    cases more with
    | nil =>
      obtain ⟨same, -⟩ := List.cons.inj rest
      obtain ⟨rfl, rfl⟩ : d = c ∧ before = p := by simpa using same
      exact ⟨[], t, rfl, by simp, by simp⟩
    | cons first more =>
      obtain ⟨rfl, later⟩ := List.cons.inj rest
      obtain ⟨s, q, rfl, rfl, codes⟩ := ih later
      refine ⟨d :: s, q, rfl, by simp, ?_⟩
      rw [List.map_cons, codes]
      by_cases comma : d = Code.comma
      · subst comma
        rw [if_pos rfl, escapeCommas_comma]
        rfl
      · rw [if_neg comma, escapeCommas_cons comma]
        rfl

/-- A code of a line does not stand in what was added behind it. -/
theorem front_of_append_added {s : Text} {x : List Traced} (line : y.before ≠ none)
    (split : x ++ added s = front ++ y :: back) : ∃ more, x = front ++ y :: more := by
  rcases List.append_eq_append_iff.1 split with ⟨more, -, rest⟩ | ⟨more, rfl, rest⟩
  · have inside : y ∈ added s := by simp [rest]
    exact absurd inside (not_mem_added line)
  · cases more with
    | nil =>
      have inside : y ∈ added s := by
        rw [List.nil_append] at rest
        simp [← rest]
      exact absurd inside (not_mem_added line)
    | cons first more =>
      obtain ⟨rfl, -⟩ := List.cons.inj rest
      exact ⟨more, rfl⟩

/-- Before a code of a line in its item stand the left side and what stands before it in the line. -/
theorem front_of_trace (split : r.trace = front ++ ⟨c, some p⟩ :: back) :
    (∃ q, r.line = p ++ c :: q) ∧ front.map Traced.code =
      r.left ++ escapeCommas p ++ if c = Code.comma then [Code.backslash] else [] := by
  obtain ⟨more, item⟩ := front_of_append_added (by simp) split
  obtain ⟨inner, rfl, line⟩ := front_of_added (by simp) item
  obtain ⟨s, q, whole, before, codes⟩ := front_of_traceFrom line
  rw [List.nil_append] at before
  subst before
  refine ⟨⟨q, whole⟩, ?_⟩
  rw [List.map_append, map_code_added, codes, List.append_assoc]

/-- Before an item in the interior stands nothing that ends in a backslash of its own. -/
theorem front_of_traceRows (line : y.before ≠ none) (split : traceRows rs = front ++ y :: back) :
    ∃ r ∈ rs, ∃ outer inner rest, front.map Traced.code = outer ++ inner.map Traced.code ∧
      backslashesAtEnd outer = 0 ∧ r.trace = inner ++ y :: rest := by
  induction rs generalizing front with
  | nil => simp [traceRows] at split
  | cons r rs ih =>
    cases rs with
    | nil => exact ⟨r, List.mem_cons_self, [], front, back, rfl, rfl, split⟩
    | cons s rs =>
      rw [traceRows, List.append_assoc] at split
      rcases List.append_eq_append_iff.1 split with ⟨more, rfl, behind⟩ | ⟨more, item, behind⟩
      · obtain ⟨more, rfl, later⟩ := front_of_added line behind
        obtain ⟨r', member, outer, inner, rest, codes, none, item⟩ := ih later
        have comma : backslashesAtEnd (r.text ++ [Code.comma]) = 0 :=
          backslashesAtEnd_other r.text (by decide)
        refine ⟨r', List.mem_cons_of_mem r member, r.text ++ [Code.comma] ++ outer, inner, rest,
          ?_, backslashesAtEnd_append comma none, item⟩
        simp [map_code_trace, codes]
      · cases more with
        | nil =>
          obtain ⟨rfl, -⟩ := List.cons.inj behind
          exact absurd rfl line
        | cons first more =>
          obtain ⟨rfl, -⟩ := List.cons.inj behind
          exact ⟨r, List.mem_cons_self, [], front, more, rfl, rfl, item⟩

end Trace

section Rows

variable {c : Code} {l p t : Text} {r : Row} {rs : List Row} {ls : List Text}

theorem of_mem_boxRows (row : r ∈ boxRows l) :
    (r.line = [] ∨ r.line = l) ∧ Code.backslash ∉ r.left := by
  simp only [boxRows, List.mem_cons, List.not_mem_nil, or_false] at row
  rcases row with rfl | rfl | rfl
  · refine ⟨.inl rfl, fun inside => ?_⟩
    exact absurd (bars_subset topLeft topRight _ inside) (by decide)
  · exact ⟨.inr rfl, show Code.backslash ∉ [boxSide, Code.space] by decide⟩
  · refine ⟨.inl rfl, fun inside => ?_⟩
    exact absurd (bars_subset bottomLeft bottomRight _ inside) (by decide)

/-- An item holds one of the lines or none, and there is no backslash in front of it. -/
theorem of_mem_rowsOf (row : r ∈ rowsOf ls) :
    (r.line = [] ∨ r.line ∈ ls) ∧ Code.backslash ∉ r.left := by
  fun_induction rowsOf ls with
  | case1 => cases row
  | case2 => cases row
  | case3 l _ =>
    rw [List.mem_singleton] at row
    subst row
    exact ⟨.inr List.mem_cons_self, List.not_mem_nil⟩
  | case4 l m rest _ ih =>
    rcases List.mem_append.1 row with box | later
    · obtain ⟨line, left⟩ := of_mem_boxRows box
      refine ⟨line.imp_right fun same => ?_, left⟩
      rw [same]
      exact List.mem_cons_self
    · obtain ⟨line, left⟩ := ih later
      exact ⟨line.imp_right (List.mem_cons_of_mem l), left⟩
  | case5 l m rest _ _ ih =>
    obtain ⟨line, left⟩ := ih row
    exact ⟨line.imp_right (List.mem_cons_of_mem l), left⟩
  | case6 l m rest _ _ ih =>
    rcases List.mem_cons.1 row with rfl | later
    · exact ⟨.inr List.mem_cons_self, List.not_mem_nil⟩
    · obtain ⟨line, left⟩ := ih later
      exact ⟨line.imp_right (List.mem_cons_of_mem l), left⟩

/-- Every line that is no header mark is in an item. -/
theorem exists_row (plain : isCaretRow l = false) (member : l ∈ ls) :
    ∃ r ∈ rowsOf ls, r.line = l := by
  fun_induction rowsOf ls with
  | case1 => cases member
  | case2 k mark =>
    rw [List.mem_singleton.1 member, mark] at plain
    cases plain
  | case3 k _ => exact ⟨_, List.mem_cons_self, (List.mem_singleton.1 member).symm⟩
  | case4 k m rest _ ih =>
    rcases List.mem_cons.1 member with rfl | later
    · exact ⟨_, List.mem_append_left _ (List.mem_cons_of_mem _ List.mem_cons_self), rfl⟩
    · obtain ⟨r, row, line⟩ := ih later
      exact ⟨r, List.mem_append_right _ row, line⟩
  | case5 k m rest _ mark ih =>
    rcases List.mem_cons.1 member with rfl | later
    · rw [mark] at plain
      cases plain
    · exact ih later
  | case6 k m rest _ _ ih =>
    rcases List.mem_cons.1 member with rfl | later
    · exact ⟨_, List.mem_cons_self, rfl⟩
    · obtain ⟨r, row, line⟩ := ih later
      exact ⟨r, List.mem_cons_of_mem _ row, line⟩

/-- Every code of a line is traced. -/
theorem mem_traceFrom (before p q : Text) (c : Code) :
    ⟨c, some (before ++ p)⟩ ∈ traceFrom before (p ++ c :: q) := by
  induction p generalizing before with
  | nil => simp [traceFrom]
  | cons d p ih =>
    have later := ih (before ++ [d])
    rw [List.append_assoc] at later
    exact List.mem_append_right _ (List.mem_cons_of_mem _ later)

theorem mem_traceRows {y : Traced} (row : r ∈ rs) (inside : y ∈ r.trace) : y ∈ traceRows rs := by
  induction rs with
  | nil => cases row
  | cons s rs ih =>
    cases rs with
    | nil =>
      rw [List.mem_singleton] at row
      rwa [traceRows, ← row]
    | cons s' rs =>
      rw [traceRows]
      rcases List.mem_cons.1 row with rfl | later
      · exact List.mem_append_left _ (List.mem_append_left _ inside)
      · exact List.mem_append_right _ (ih later)

end Rows

section Lines

variable {c : Code} {p text : Text} {front back : List Traced}

theorem ne_caret_of_isEnd (isEnds : isEnd c = true) : c ≠ Code.caret := by
  rintro rfl
  exact absurd isEnds (by decide)

/-- **The commas and pipes of lines** are those that are traced, each with what stands before it. -/
theorem mem_traced_iff (isEnds : isEnd c = true) :
    ⟨c, some p⟩ ∈ traced text ↔ ∃ l ∈ lines text, ∃ q, l = p ++ c :: q := by
  constructor
  · intro inside
    obtain ⟨front, back, split⟩ := List.append_of_mem inside
    obtain ⟨r, row, -, inner, rest, -, -, item⟩ := front_of_traceRows (by simp) split
    obtain ⟨⟨q, line⟩, -⟩ := front_of_trace item
    rcases (of_mem_rowsOf row).1 with none | member
    · simp [none] at line
    · exact ⟨r.line, member, q, line⟩
  · rintro ⟨l, member, q, rfl⟩
    have plain : isCaretRow (p ++ c :: q) = false :=
      isCaretRow_of_mem (ne_caret_of_isEnd isEnds) (by simp)
    obtain ⟨r, row, line⟩ := exists_row plain member
    refine mem_traceRows row ?_
    have inside := mem_traceFrom [] p q c
    rw [← line] at inside
    exact List.mem_append_left _ (List.mem_append_right _ inside)

/-- **Whether a code of a line is protected** is seen from the backslashes before it in its line. -/
theorem waits_of_traced (split : traced text = front ++ ⟨c, some p⟩ :: back) :
    waits (front.map Traced.code) = true ↔
      if c = Code.comma then backslashesAtEnd p % 2 = 0 else backslashesAtEnd p % 2 = 1 := by
  obtain ⟨r, row, outer, inner, rest, codes, none, item⟩ := front_of_traceRows (by simp) split
  obtain ⟨-, codes'⟩ := front_of_trace item
  have left : backslashesAtEnd (outer ++ r.left) = 0 :=
    backslashesAtEnd_append none (backslashesAtEnd_of_not_mem (of_mem_rowsOf row).2)
  have line := backslashesAtEnd_append_escapeCommas left p
  rw [waits_iff, codes, codes']
  by_cases comma : c = Code.comma
  · rw [if_pos comma, if_pos comma, ← List.append_assoc, ← List.append_assoc,
      backslashesAtEnd_backslash, line]
    omega
  · rw [if_neg comma, if_neg comma, List.append_nil, ← List.append_assoc, line]

/-- **All commas and pipes of a text are protected** exactly if its lines are safe. -/
theorem protected_iff (text : Text) : Protected text ↔ ∀ l ∈ lines text, IsSafe l := by
  constructor
  · rintro guarded l member p c q rfl isEnds
    have inside : ⟨c, some p⟩ ∈ traced text :=
      (mem_traced_iff isEnds).2 ⟨p ++ c :: q, member, q, rfl⟩
    obtain ⟨front, back, split⟩ := List.append_of_mem inside
    exact (waits_of_traced split).1 (guarded front _ back split (by simp) isEnds)
  · rintro safe front ⟨c, before⟩ back split line isEnds
    obtain ⟨p, rfl⟩ := Option.ne_none_iff_exists'.1 line
    have inside : ⟨c, some p⟩ ∈ traced text := by simp [split]
    obtain ⟨l, member, q, whole⟩ := (mem_traced_iff isEnds).1 inside
    exact (waits_of_traced split).2 (safe l member p c q whole isEnds)

/-- **Backslashes decide whether a comma or a pipe of a line is protected.** The traced codes are
the interior that is written, and every comma and every pipe of a line is among them. A comma is
protected exactly if the backslashes before it in its line are even in number, and a pipe exactly if
they are odd in number; so all of them are protected exactly if every line is safe. -/
theorem protected_exactly (text : Text) (n : Int) :
    encode text n false = choice ((traced text).map Traced.code) n ∧
    (∀ c p, isEnd c = true →
      (⟨c, some p⟩ ∈ traced text ↔ ∃ l ∈ lines text, ∃ q, l = p ++ c :: q)) ∧
    (∀ front c p back, traced text = front ++ ⟨c, some p⟩ :: back →
      (waits (front.map Traced.code) = true ↔
        if c = Code.comma then backslashesAtEnd p % 2 = 0 else backslashesAtEnd p % 2 = 1)) ∧
    (Protected text ↔ ∀ l ∈ lines text, IsSafe l) := by
  refine ⟨encode_eq_traced text n, ?_, ?_, protected_iff text⟩
  · intro c p isEnds
    exact mem_traced_iff isEnds
  · intro front c p back split
    exact waits_of_traced split

/-- A header with a backslash before its pipe and two before its comma. -/
def guarded : Text := Text.ofString "a\\|b\\\\,c\n^^^"

theorem protected_exactly_guarded :
    ∃ front back, traced guarded = front ++ ⟨Code.pipe, some (Text.ofString "a\\")⟩ :: back ∧
      waits (front.map Traced.code) = true := by
  refine ⟨(traced guarded).take 17, (traced guarded).drop 18, rfl, ?_⟩
  exact ((protected_exactly guarded 10).2.2.1 _ _ _ _ rfl).2 (by decide)

/-- **Not all commas and pipes are protected.** A pipe of a line is written as it is, and a comma
behind a backslash of the line stands alone, since the two backslashes before it go together. -/
theorem not_protected :
    (encode (Text.ofString "a|b\nc") 10 false = Text.ofString "$\x7b10|a|b,c|\x7d" ∧
      ¬ Protected (Text.ofString "a|b\nc")) ∧
    encode (Text.ofString "a\\,b\nc") 10 false = Text.ofString "$\x7b10|a\\\\,b,c|\x7d" ∧
      ¬ Protected (Text.ofString "a\\,b\nc") := by
  refine ⟨⟨by decide +kernel, fun all => ?_⟩, by decide +kernel, fun all => ?_⟩
  · have safe := (protected_iff _).1 all (Text.ofString "a|b") (by decide)
    exact absurd (safe (Text.ofString "a") Code.pipe (Text.ofString "b") rfl rfl) (by decide)
  · have safe := (protected_iff _).1 all (Text.ofString "a\\,b") (by decide)
    exact absurd (safe (Text.ofString "a\\") Code.comma (Text.ofString "b") rfl rfl) (by decide)

end Lines

end EditorText.Choice
