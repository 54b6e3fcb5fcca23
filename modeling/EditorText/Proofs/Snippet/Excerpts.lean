import EditorText.Proofs.Snippet.LineBreaks
import EditorText.Proofs.Snippet.Parsing
import EditorText.Proofs.Snippet.Rules
import Mathlib.Data.List.TakeWhile

/-!
# The excerpt of an error

An error of a reading is shown with the line it stands on. Its position counts line feeds, while the
excerpt also ends lines at carriage returns; the two agree, because before the error every carriage
return belongs to a line end (`ErrorIn`). So the excerpt can always be written and shows that line
(`format_excerpt`), and the row under it has a caret unless the error is at a line feed or at the end
of the text (`caret_iff`).
-/

set_option autoImplicit false

namespace EditorText.Snippet

/-- The line of an offset: from behind the last line feed before it to the first carriage return or
line feed at it or behind it. -/
structure LineOf (text : Text) (k start stop : Nat) : Prop where
  start_le : start ≤ k
  begins : start = 0 ∨ text[start - 1]? = some Code.newline
  free : Code.newline ∉ text.extract start k
  le_stop : k ≤ stop
  stop_le : stop ≤ text.length
  ends : stop = text.length ∨ ∃ c, text[stop]? = some c ∧ ¬ IsInLine c
  inLine : ∀ c ∈ text.extract k stop, IsInLine c

/-- What stands behind the last line feed of a text. -/
def lastRow (t : Text) : Text :=
  (t.reverse.takeWhile fun c => c ≠ Code.newline).reverse

/-- The row under the line of an error: the gutter, blanks up to the column, and carets. -/
def markingRow (e : SyntaxError) (carets : Nat) : Text :=
  Text.run Code.space (Text.ofInt e.location.start.line).length ++ Text.ofString " | " ++
    Text.run Code.space (e.location.start.column - 1).toNat ++ Text.run Code.caret carets

/-- How many carets mark the place in front of a text. -/
def caretCount : Text → Nat
  | [] => 0
  | c :: _ => if c = Code.newline then 0 else 1

/-- An error behind some lines and the beginning of one, where no carriage return stands alone. It
goes over one character of what is left, if there is one. -/
structure ErrorIn (e : SyntaxError) (source : Option Text) (s m v : Text) : Prop where
  ends : EndsAtLine s
  free : Code.newline ∉ m
  paired : Paired (s ++ m)
  location : ∃ p : Place, p = ⟨1 + s.count Code.newline, 1 + m.length⟩ ∧ ∃ n,
    e.location =
      ⟨source, p.position (s ++ m).length, ((v.take 1).foldl Place.after p).position n⟩

section Rows

theorem lastRow_append {row : Text} (free : Code.newline ∉ row) (above : Text) :
    lastRow (above ++ Code.newline :: row) = row := by
  have others : ∀ c ∈ row.reverse, decide (c ≠ Code.newline) = true := by
    intro c member
    rw [List.mem_reverse] at member
    rw [decide_eq_true_iff]
    rintro rfl
    exact free member
  rw [lastRow, List.reverse_append, List.reverse_cons, List.append_assoc,
    List.takeWhile_append_of_pos others]
  simp

theorem newline_notMem_markingRow (e : SyntaxError) (n : Nat) :
    Code.newline ∉ markingRow e n := by
  have gutter : Code.newline ∉ Text.ofString " | " := by decide
  simp [markingRow, gutter, Text.run, Code.newline, Code.space, Code.caret]

theorem caretCount_le_one (v : Text) : caretCount v ≤ 1 := by
  cases v with
  | nil => exact Nat.zero_le 1
  | cons c v =>
    show (if c = Code.newline then 0 else 1) ≤ 1
    split <;> omega

theorem caretCount_pos_iff (v : Text) :
    0 < caretCount v ↔ ∃ c, v.head? = some c ∧ c ≠ Code.newline := by
  cases v with
  | nil => simp [caretCount]
  | cons c v => simp [caretCount, Nat.pos_iff_ne_zero]

/-- The line with a number that is counted from one. -/
theorem lineNumbered_of_getElem? {lines : List Text} {i : Nat} {line : Text}
    (h : lines[i]? = some line) : lineNumbered lines (1 + i : Nat) = .ok line := by
  have index : ((1 + i : Nat) : Int) - 1 = (i : Nat) := by omega
  have found : lineAt? lines (i : Nat) = some line := by
    rw [lineAt?, if_pos (Int.natCast_nonneg i)]
    exact h
  rw [lineNumbered, index, found]

/-- The last two rows of an excerpt are the line with its number and the row that marks a part. -/
theorem excerpt_eq (location : Location) (line place marks : Text) :
    ∃ above, excerpt location line place marks =
      above ++ Code.newline :: (Text.ofInt location.start.line ++ Text.ofString " | " ++ line) ++
        Code.newline :: (Text.run Code.space (Text.ofInt location.start.line).length ++
          Text.ofString " | " ++ marks) := by
  have gutter : Text.ofString " |\n" = Text.ofString " |" ++ [Code.newline] := by decide
  refine ⟨Text.ofString "\n --> " ++ place ++ Code.newline ::
    Text.run Code.space (Text.ofInt location.start.line).length ++ Text.ofString " |", ?_⟩
  unfold excerpt
  rw [gutter]
  simp

end Rows

section Line

variable {s m : Text}

/-- The part of a text between what stands before it and what stands behind it. -/
theorem extract_append (a b c : Text) : (a ++ b ++ c).extract a.length (a ++ b).length = b := by
  rw [List.extract_eq_take_drop, List.append_assoc, List.drop_left, List.length_append,
    Nat.add_sub_cancel_left, List.take_left]

/-- A text begins with the rest of a line. -/
theorem exists_inLine (v : Text) : ∃ w t, v = w ++ t ∧
    (v.takeWhile fun c => decide (IsInLine c)) = w ∧ (∀ c ∈ w, IsInLine c) ∧
    ∀ c ∈ t.head?, ¬ IsInLine c := by
  refine ⟨_, _, List.takeWhile_append_dropWhile.symm, rfl, ?_, ?_⟩
  · intro c member
    have inside := List.mem_takeWhile_imp member
    exact of_decide_eq_true inside
  · intro c first
    have outside := List.head?_dropWhile_not (fun c => decide (IsInLine c)) v
    rw [Option.mem_def.1 first] at outside
    exact of_decide_eq_false outside

/-- The line of an offset begins behind the whole lines before it. -/
theorem lineOf_append (ends : EndsAtLine s) (free : Code.newline ∉ m) (w t : Text)
    (inLine : ∀ c ∈ w, IsInLine c) (stops : ∀ c ∈ t.head?, ¬ IsInLine c) :
    LineOf (s ++ m ++ (w ++ t)) (s ++ m).length s.length (s ++ (m ++ w)).length where
  start_le := by simp
  begins := by
    rcases ends with rfl | ⟨x, rfl⟩
    · exact .inl rfl
    · exact .inr (by simp)
  free := by rwa [extract_append]
  le_stop := by simp
  stop_le := by simp
  ends := by
    cases t with
    | nil => exact .inl (by simp)
    | cons c t => exact .inr ⟨c, by simp, stops c rfl⟩
  inLine := by
    have part := extract_append (s ++ m) w t
    rw [List.append_assoc (s ++ m) w t, List.append_assoc s m w] at part
    rwa [part]

end Line

/-- The reading behind a syntax error. -/
theorem exists_failed_run {text : Text} {source : Option Text} {e : SyntaxError}
    (failed : readAll text source = .error (.syntaxError e)) :
    ∃ last, Run.snippet { input := text, source := source } = (none, last) ∧
      last.error?.1 = some e := by
  have judged := Run.snippet_judges text source
  unfold readAll at failed
  dsimp only at failed
  rcases outcome : Run.snippet { input := text, source := source } with ⟨_ | d, last⟩
  · rw [outcome] at failed
    dsimp only [readAll.failWith] at failed
    refine ⟨last, rfl, ?_⟩
    split at failed
    next e' found =>
      cases failed
      exact found
    next => cases failed
  · rw [outcome] at judged failed
    cases judged with
    | accepts _ pos =>
      dsimp only at failed
      rw [if_pos pos] at failed
      cases failed

/-- The location of a syntax error is what scans find for its offset and the one behind it. -/
theorem location_of_readAll {u v : Text} {source : Option Text} {e : SyntaxError}
    (failed : readAll (u ++ v) source = .error (.syntaxError e))
    (place : e.location.start.offset = u.length) :
    Paired u ∧ ∃ n, e.location = ⟨source, .scanned (u ++ v) u.length,
      ((v.take 1).foldl Place.after (Place.scan (u ++ v) u.length)).position n⟩ := by
  obtain ⟨last, outcome, found⟩ := exists_failed_run failed
  have at_start : Run.Inside { input := u ++ v, source := source } :=
    ⟨Int.le_refl 0, Int.natCast_nonneg _⟩
  have beside := Run.beside_snippet at_start
  have paired := Run.paired_furthest outcome
  rw [outcome] at beside
  have known : last.known.Sound last.input := by
    rw [beside.known, beside.input]
    exact Places.sound_start _
  have location := Run.location_of_error? known found
  rw [beside.input, beside.source] at location
  have furthest : last.furthest = u.length := by
    rw [location] at place
    exact Int.ofNat.inj place
  have width : u.length ≤ last.stop ∧
      ((u ++ v).drop u.length).take (last.stop - u.length) = v.take 1 := by
    rw [Run.stop, furthest, beside.input, List.drop_left]
    cases v with
    | nil => simp
    | cons c v => simp
  rw [furthest] at paired location
  rw [List.take_left] at paired
  refine ⟨paired, last.stop, location.trans ?_⟩
  rw [← width.2, Place.foldl_after_scan _ width.1]
  rfl

/-- A text that is no document has its error behind some lines and the beginning of one. -/
theorem exists_errorIn {text : Text} {source : Option Text}
    (rejected : ∀ d, (parse text source).result ≠ .ok d) :
    ∃ e s m v, text = s ++ m ++ v ∧ (parse text source).result = .error (.syntaxError e) ∧
      ErrorIn e source s m v := by
  obtain ⟨e, u, v, rfl, points, failed⟩ := exists_error_of_rejected rejected
  obtain ⟨paired, n, location⟩ := location_of_readAll (parse_result _ source ▸ failed) points.place
  obtain ⟨s, m, rfl, ends, free⟩ := exists_endsAtLine u
  refine ⟨e, s, m, v, rfl, failed, ends, free, paired, _, rfl, n, ?_⟩
  rw [location, Position.scanned, Place.scan_append ends free]

namespace ErrorIn

variable {e : SyntaxError} {source : Option Text} {s m v : Text}

theorem offset_eq (h : ErrorIn e source s m v) :
    e.location.start.offset = ((s ++ m).length : Nat) := by
  obtain ⟨p, -, n, location⟩ := h.location
  rw [location]
  rfl

theorem line_eq (h : ErrorIn e source s m v) :
    e.location.start.line = (1 + s.count Code.newline : Nat) := by
  obtain ⟨p, rfl, n, location⟩ := h.location
  rw [location]
  rfl

theorem column_eq (h : ErrorIn e source s m v) :
    e.location.start.column - 1 = (m.length : Nat) := by
  obtain ⟨p, rfl, n, location⟩ := h.location
  rw [location]
  show ((1 + m.length : Nat) : Int) - 1 = (m.length : Nat)
  omega

/-- The row under the line of an error: blanks up to its column and the carets of its place. -/
theorem markRow_eq (h : ErrorIn e source s m v) :
    markRow (s ++ m ++ v).length e.location (m ++ v.takeWhile fun c => decide (IsInLine c)) =
      .ok (Text.run Code.space m.length ++ Text.run Code.caret (caretCount v)) := by
  have total : (s ++ m ++ v).length = s.length + m.length + v.length := by
    rw [List.length_append, List.length_append]
  have carets : (if e.location.start.line = e.location.stop.line then e.location.stop.column
      else ((m ++ v.takeWhile fun c => decide (IsInLine c)).length : Int) + 1) -
        e.location.start.column = (caretCount v : Nat) := by
    obtain ⟨p, rfl, n, location⟩ := h.location
    rw [location]
    cases v with
    | nil =>
      show (if ((1 + s.count Code.newline : Nat) : Int) = (1 + s.count Code.newline : Nat)
        then ((1 + m.length : Nat) : Int) else _) - (1 + m.length : Nat) = (0 : Nat)
      rw [if_pos rfl]
      exact Int.sub_self _
    | cons c v =>
      by_cases feed : c = Code.newline
      · -- The end is on the next line, so that the carets would go up to the end of this one.
        subst feed
        show (if ((1 + s.count Code.newline : Nat) : Int) = (1 + s.count Code.newline + 1 : Nat)
          then _ else ((m ++ []).length : Int) + 1) - (1 + m.length : Nat) = (0 : Nat)
        rw [if_neg (by omega), List.append_nil]
        omega
      · have behind : Place.after ⟨1 + s.count Code.newline, 1 + m.length⟩ c =
            ⟨1 + s.count Code.newline, 1 + m.length + 1⟩ := if_neg feed
        have one : caretCount (c :: v) = 1 := if_neg feed
        rw [one, List.take_succ_cons, List.foldl_cons, behind]
        show (if ((1 + s.count Code.newline : Nat) : Int) = (1 + s.count Code.newline : Nat)
          then ((1 + m.length + 1 : Nat) : Int) else _) - (1 + m.length : Nat) = (1 : Nat)
        rw [if_pos rfl]
        omega
  have few : caretCount v ≤ v.length := by
    cases v with
    | nil => exact Nat.le_refl 0
    | cons c v => exact Nat.le_trans (caretCount_le_one (c :: v)) (Nat.succ_le_succ (Nat.zero_le _))
  unfold markRow
  dsimp only
  rw [h.column_eq, carets, Text.checkedRun_of_le _ (by omega), Text.checkedRun_of_le _ (by omega)]
  rfl

/-- An error is shown with the line it stands in, whatever follows on it. -/
theorem format_eq (h : ErrorIn e source s m v) :
    e.format [(source, s ++ m ++ v)] = .ok (Text.ofString "Error: " ++ e.message ++
      excerpt e.location (m ++ v.takeWhile fun c => decide (IsInLine c)) e.place
        (Text.run Code.space m.length ++ Text.run Code.caret (caretCount v))) := by
  have given : List.lookup e.location.source [(source, s ++ m ++ v)] = some (s ++ m ++ v) := by
    obtain ⟨p, -, n, location⟩ := h.location
    rw [location]
    exact List.lookup_cons_self
  have numbered : lineNumbered (excerptLines (s ++ m ++ v)) e.location.start.line =
      .ok (m ++ v.takeWhile fun c => decide (IsInLine c)) := by
    rw [h.line_eq]
    exact lineNumbered_of_getElem? (getElem?_excerptLines h.ends h.paired h.free v)
  unfold SyntaxError.format
  dsimp only
  rw [given]
  dsimp only [bind, Except.bind]
  rw [numbered]
  dsimp only
  rw [h.markRow_eq]
  rfl

/-- The last two rows of what is shown: the line with its number, and the carets. -/
theorem exists_rows (h : ErrorIn e source s m v) : ∃ shown above,
    e.format [(source, s ++ m ++ v)] = .ok shown ∧
    lastRow shown = markingRow e (caretCount v) ∧
    shown = above ++ Code.newline :: (Text.ofNat (1 + s.count Code.newline) ++
      Text.ofString " | " ++ (m ++ v.takeWhile fun c => decide (IsInLine c))) ++
        Code.newline :: markingRow e (caretCount v) := by
  obtain ⟨above, rows⟩ := excerpt_eq e.location (m ++ v.takeWhile fun c => decide (IsInLine c))
    e.place (Text.run Code.space m.length ++ Text.run Code.caret (caretCount v))
  have number : Text.ofInt e.location.start.line = Text.ofNat (1 + s.count Code.newline) := by
    rw [h.line_eq]
    rfl
  have marks : Text.run Code.space (Text.ofInt e.location.start.line).length ++
      Text.ofString " | " ++ (Text.run Code.space m.length ++ Text.run Code.caret (caretCount v)) =
        markingRow e (caretCount v) := by
    rw [markingRow, h.column_eq, Int.toNat_natCast, List.append_assoc _ (Text.run Code.space _)]
  have shown := h.format_eq
  rw [rows, marks, number, ← List.append_assoc, ← List.append_assoc] at shown
  refine ⟨_, _, shown, ?_, rfl⟩
  exact lastRow_append (newline_notMem_markingRow e _) _

end ErrorIn

/-- **The excerpt of an error shows the line it stands on.** Every text that is not read is answered
with an error that can be shown with it. The last row but one of what is shown is the number of the
line, one more than the line feeds before the error, and the line itself; the column lies in it. -/
theorem format_excerpt (text : Text) (source : Option Text)
    (rejected : ∀ d, (parse text source).result ≠ .ok d) :
    ∃ (e : SyntaxError) (k start stop : Nat) (shown above : Text),
      (parse text source).result = .error (.syntaxError e) ∧ e.location.start.offset = k ∧
      k ≤ text.length ∧ LineOf text k start stop ∧ e.format [(source, text)] = .ok shown ∧
      shown = above ++ Code.newline :: (Text.ofNat (1 + (text.take k).count Code.newline) ++
        Text.ofString " | " ++ text.extract start stop) ++ Code.newline :: lastRow shown ∧
      e.location.start.column - 1 = (k - start : Nat) ∧ k - start ≤ stop - start := by
  obtain ⟨e, s, m, v, rfl, failed, h⟩ := exists_errorIn rejected
  obtain ⟨shown, above, formatted, last, rows⟩ := h.exists_rows
  obtain ⟨w, t, rfl, line, inLine, stops⟩ := exists_inLine v
  have feeds : ((s ++ m ++ (w ++ t)).take (s ++ m).length).count Code.newline =
      s.count Code.newline := by
    rw [List.take_left, List.count_append, List.count_eq_zero.2 h.free, Nat.add_zero]
  have shownLine : (s ++ m ++ (w ++ t)).extract s.length (s ++ (m ++ w)).length = m ++ w := by
    have part := extract_append s (m ++ w) t
    simpa using part
  refine ⟨e, (s ++ m).length, s.length, (s ++ (m ++ w)).length, shown, above, failed, h.offset_eq,
    by simp, lineOf_append h.ends h.free w t inLine stops, formatted, ?_, ?_, by simp⟩
  · rw [feeds, shownLine, last]
    rwa [line] at rows
  · rw [h.column_eq, List.length_append, Nat.add_sub_cancel_left]

/-- What is no definition is rejected. -/
theorem result_ne_ok {text : Text} {source : Option Text}
    (rejected : (parse text source).result.toOption.isNone) (d : Definition) :
    (parse text source).result ≠ .ok d := by
  intro read
  rw [read] at rejected
  cases rejected

/-- A text whose third line, behind line ends of two characters, has neither keyword. -/
def keywordMissing : Text := Text.ofString "// Name: a\r\n\r\n// Nope\rx"

theorem format_excerpt_keywordMissing :
    (∀ d, (parse keywordMissing none).result ≠ .ok d) ∧
    ∃ (e : SyntaxError) (k start stop : Nat) (shown above : Text),
      (parse keywordMissing none).result = .error (.syntaxError e) ∧ e.location.start.offset = k ∧
      k ≤ keywordMissing.length ∧ LineOf keywordMissing k start stop ∧
      e.format [(none, keywordMissing)] = .ok shown ∧
      shown = above ++ Code.newline ::
        (Text.ofNat (1 + (keywordMissing.take k).count Code.newline) ++ Text.ofString " | " ++
          keywordMissing.extract start stop) ++ Code.newline :: lastRow shown ∧
      e.location.start.column - 1 = (k - start : Nat) ∧ k - start ≤ stop - start := by
  have rejected := result_ne_ok (show (parse keywordMissing none).result.toOption.isNone by decide)
  exact ⟨rejected, format_excerpt keywordMissing none rejected⟩

/-- **A caret marks an error exactly where there is a character to mark**: the row under the line has
one, unless the error is at a line feed or at the end of the text. -/
theorem caret_iff (text : Text) (source : Option Text)
    (rejected : ∀ d, (parse text source).result ≠ .ok d) :
    ∃ (e : SyntaxError) (k carets : Nat) (shown : Text),
      (parse text source).result = .error (.syntaxError e) ∧ e.location.start.offset = k ∧
      e.format [(source, text)] = .ok shown ∧ lastRow shown = markingRow e carets ∧ carets ≤ 1 ∧
      (0 < carets ↔ ∃ c, text[k]? = some c ∧ c ≠ Code.newline) := by
  obtain ⟨e, s, m, v, rfl, failed, h⟩ := exists_errorIn rejected
  obtain ⟨shown, above, formatted, last, -⟩ := h.exists_rows
  have here : (s ++ m ++ v)[(s ++ m).length]? = v.head? := by
    rw [List.getElem?_append_right (Nat.le_refl _), Nat.sub_self, List.head?_eq_getElem?]
  refine ⟨e, (s ++ m).length, caretCount v, shown, failed, h.offset_eq, formatted, last,
    caretCount_le_one v, ?_⟩
  rw [here]
  exact caretCount_pos_iff v

/-- A text that ends a line where a value is expected. -/
def valueMissing : Text := Text.ofString "// Name:\n"

theorem caret_iff_valueMissing :
    (∀ d, (parse valueMissing none).result ≠ .ok d) ∧
    ∃ (e : SyntaxError) (k carets : Nat) (shown : Text),
      (parse valueMissing none).result = .error (.syntaxError e) ∧ e.location.start.offset = k ∧
      e.format [(none, valueMissing)] = .ok shown ∧ lastRow shown = markingRow e carets ∧
      carets ≤ 1 ∧ (0 < carets ↔ ∃ c, valueMissing[k]? = some c ∧ c ≠ Code.newline) := by
  have rejected := result_ne_ok (show (parse valueMissing none).result.toOption.isNone by decide)
  exact ⟨rejected, caret_iff valueMissing none rejected⟩

/-- The error of the empty text, which ends where the first slashes are expected. -/
def slashesMissing : SyntaxError :=
  ⟨Text.ofString "Expected \"//\" but end of input found.", [slashes], none,
    ⟨none, ⟨0, 1, 1⟩, ⟨0, 1, 1⟩⟩⟩

/-- The error of the empty text is shown without a caret. -/
theorem no_caret_of_empty :
    (parse [] none).result = .error (.syntaxError slashesMissing) ∧
    ∃ shown, slashesMissing.format [(none, [])] = .ok shown ∧
      ∀ carets, 0 < carets → lastRow shown ≠ markingRow slashesMissing carets := by
  refine ⟨by rfl, Text.ofString "Error: Expected \"//\" but end of input found.\n" ++
    Text.ofString " --> None:1:1\n  |\n1 | \n  | ", by rfl, ?_⟩
  intro carets some same
  have bare : (markingRow slashesMissing 0).length = 4 := by decide
  have marked : markingRow slashesMissing carets =
      markingRow slashesMissing 0 ++ Text.run Code.caret carets := by
    simp [markingRow]
  have lengths := congrArg List.length same
  rw [marked, List.length_append, bare, Text.run, List.length_replicate] at lengths
  have shown : 4 = 4 + carets := lengths
  omega

end EditorText.Snippet
