import EditorText.Align.Passes
import EditorText.Proofs.Align.Rewriting
import EditorText.Proofs.Text.Splitting

/-!
# Passes over a region

A pass makes new lines of the lines of a text, one of each (`split_text_passBlock`). The new lines
hold no line ending, so that the next pass finds them again, and what a row of passes makes of a
line is rewritten (`alignFurther_cases`). An alignment fails only where a padding cannot be written
(`Outgrows`).
-/

set_option autoImplicit false

namespace EditorText.Align

open Text

variable {find : Finder} {eol : Text} {startLine tabSize : Int}

/-- What is made of lines does not depend on their numbers. -/
theorem map_cutLines {β : Type} (find : Finder) (f : Line → β)
    (numberless : ∀ n h cs, f ⟨n, h, cs⟩ = f ⟨0, h, cs⟩) (start : Int) (raws : List Text) :
    (cutLines find start raws).map f = raws.map fun raw => f (Line.cut find 0 raw) := by
  induction raws generalizing start with
  | nil => rfl
  | cons raw raws ih =>
    rw [cutLines, List.map_cons, List.map_cons, ih]
    congr 1
    exact numberless _ _ _

/-- The widths of the columns that a pass finds. -/
def passColumns (find : Finder) (tabSize : Int) (raws : List Text) : List Int :=
  Block.columns tabSize (raws.map (gathered find))

/-- The block that a pass makes. -/
def passBlock (find : Finder) (eol : Text) (startLine tabSize : Int) (text : Text) : Block :=
  (Block.ofText find eol startLine text).trim.align tabSize

/-- The widths of a line that counts. -/
def countedWidths (tabSize : Int) (l : Line) : Option (List Int) :=
  if l.isCut then some (l.widths tabSize) else none

theorem columns_eq (tabSize : Int) (lines : List Line) :
    Block.columns tabSize lines =
      ((lines.map (countedWidths tabSize)).filterMap id).foldl wider [] := by
  have counted : (lines.filter Line.isCut).map (Line.widths tabSize) =
      (lines.map (countedWidths tabSize)).filterMap id := by
    induction lines with
    | nil => rfl
    | cons l lines ih =>
      by_cases cut : l.isCut = true <;> simp [countedWidths, cut, ih]
  rw [Block.columns, counted]

/-- The columns of a block are those of its lines, whatever their numbers. -/
theorem columns_cutLines (find : Finder) (tabSize start : Int) (raws : List Text) :
    Block.columns tabSize (((cutLines find start raws).map Line.trim).map Line.claimGaps) =
      passColumns find tabSize raws := by
  rw [passColumns, columns_eq, columns_eq]
  simp only [List.map_map]
  congr 2
  refine map_cutLines find _ ?_ start raws
  intro n h cs
  cases cs <;> rfl

/-- A pass makes one line of each. -/
theorem map_text_passBlock (find : Finder) (eol : Text) (startLine tabSize : Int) (text : Text) :
    (passBlock find eol startLine tabSize text).lines.map Line.text =
      (split eol text).map (passLine find tabSize (passColumns find tabSize (split eol text))) := by
  simp only [passBlock, Block.align, Block.trim, Block.ofText, columns_cutLines]
  simp only [List.map_map]
  refine map_cutLines find _ ?_ startLine (split eol text)
  intro n h cs
  cases cs <;> rfl

/-- The text of a pass. -/
theorem text_passBlock (find : Finder) (eol : Text) (startLine tabSize : Int) (text : Text) :
    (passBlock find eol startLine tabSize text).text =
      join eol ((split eol text).map
        (passLine find tabSize (passColumns find tabSize (split eol text)))) := by
  rw [← map_text_passBlock find eol startLine tabSize text]
  rfl

/-- The ending of a line holds no space and does not begin the way it ends. -/
theorem solid_of_mem_lineEndings (ending : eol ∈ lineEndings) :
    eol ≠ [] ∧ Code.space ∉ eol ∧ Unbordered eol := by
  have two : eol = [Code.newline] ∨ eol = [Code.carriageReturn, Code.newline] := by
    simpa [lineEndings] using ending
  rcases two with rfl | rfl
  · exact ⟨by simp, by decide, unbordered_single _⟩
  · exact ⟨by simp, by decide, unbordered_pair (by decide)⟩

/-- **A pass keeps the lines**: cutting the new text gives the new lines, one of each. -/
theorem split_text_passBlock (lawful : Lawful find) (ending : eol ∈ lineEndings)
    (startLine tabSize : Int) (text : Text) :
    split eol (passBlock find eol startLine tabSize text).text =
      (split eol text).map (passLine find tabSize (passColumns find tabSize (split eol text))) := by
  obtain ⟨filled, solid, unbordered⟩ := solid_of_mem_lineEndings ending
  rw [text_passBlock]
  refine split_join filled unbordered (by simp [split_ne_nil]) ?_
  intro new member inside
  obtain ⟨raw, old, rfl⟩ := List.mem_map.1 member
  have rewritten := rewritten_passLine lawful tabSize
    (passColumns find tabSize (split eol text)) raw
  exact not_infix_of_mem_split filled old (rewritten.infix_of_infix solid inside)

/-- The block that a pattern cuts out of a text, before it is aligned. -/
def trimmedBlock (q : Pattern) (eol : Text) (startLine : Int) (text : Text) : Block :=
  (Block.ofText (finder q) eol startLine text).trim

/-- The tab size to work with. -/
theorem result_usableTabSize {ε : Type} (reported : HostValue) :
    (usableTabSize reported : Outcome ε Int).result =
      .ok (reported.tabSize?.getD defaultTabSize) := by
  rw [usableTabSize]
  cases reported.tabSize? <;> rfl

/-- The text of a line is the same but for blanks, and what stood apart in it stands apart. -/
structure SameButBlanks (line new : Text) : Prop where
  bare_eq : bare new = bare line
  apart : ∀ x c y, line = x ++ c :: y → isBlank c = true → bare x ≠ [] → bare y ≠ [] →
    ∃ x' d y', new = x' ++ d :: y' ∧ isBlank d = true ∧ bare x' = bare x ∧ bare y' = bare y

theorem SameButBlanks.of_rewritten {line new : Text} (h : Rewritten line new) :
    SameButBlanks line new where
  bare_eq := h.bare_eq
  apart _ _ _ split blank _ further := h.exists_blank split blank further

section Engine

variable [Pattern.Engine]

/-- A pattern that can be read makes a block of a text. -/
theorem result_buildBlock {p : Text} {q : Pattern}
    (compiles : (Pattern.compile p {}).result = .ok q) (filled : eol ≠ []) (startLine : Int)
    (text : Text) : (buildBlock text eol p startLine).result =
      .ok (Block.ofText (finder q) eol startLine text) := by
  have read : ((Pattern.compile p {}).mapError AlignError.rejected).result = .ok q := by
    simp only [Outcome.mapError, compiles]
  refine (Outcome.result_bind_ok read).trans ?_
  rw [if_neg filled]
  rfl

/-- A pass makes its block, unless a padding of it cannot be written. -/
theorem result_alignPass {p : Text} {q : Pattern} (compiles : (Pattern.compile p {}).result = .ok q)
    (filled : eol ≠ []) (startLine tabSize : Int) (text : Text) :
    (alignPass eol startLine tabSize text p).result =
      match (trimmedBlock q eol startLine text).excess? tabSize with
      | some x => .error (.overlong x)
      | none => .ok (passBlock (finder q) eol startLine tabSize text) := by
  have built := result_buildBlock compiles filled startLine text
  rw [alignPass]
  refine (Outcome.result_bind_ok built).trans ?_
  simp only [Outcome.mapError, Outcome.ofExcept, Block.checkedAlign, trimmedBlock]
  cases (Block.ofText (finder q) eol startLine text).trim.excess? tabSize <;> rfl

/-- The first pass of a row and the others over its output. -/
theorem result_alignInPasses_cons (eol : Text) (startLine tabSize : Int) (text p q : Text)
    (ps : List Text) :
    (alignInPasses text (p :: q :: ps) startLine eol tabSize).result =
      match (alignPass eol startLine tabSize text p).result with
      | .error e => .error e
      | .ok b => (alignInPasses b.text (q :: ps) startLine eol tabSize).result := by
  cases first : (alignPass eol startLine tabSize text p).result with
  | error e => exact Outcome.result_bind_error first
  | ok b => exact Outcome.result_bind_ok first

/-- A row of one pass. -/
theorem result_alignInPasses_one (eol : Text) (startLine tabSize : Int) (text p : Text) :
    (alignInPasses text [p] startLine eol tabSize).result =
      (alignPass eol startLine tabSize text p).result := by
  cases first : (alignPass eol startLine tabSize text p).result with
  | error e => exact Outcome.result_bind_error first
  | ok b => exact Outcome.result_bind_ok first

/-- Some pass of a row, over the output of those before it, has a padding that cannot be written. -/
def Outgrows (eol : Text) (startLine tabSize : Int) (x : Excess) : Text → List Text → Prop
  | _, [] => False
  | text, p :: ps => ∃ q, (Pattern.compile p {}).result = .ok q ∧
      ((trimmedBlock q eol startLine text).excess? tabSize = some x ∨
        (trimmedBlock q eol startLine text).excess? tabSize = none ∧
          Outgrows eol startLine tabSize x
            (passBlock (finder q) eol startLine tabSize text).text ps)

/-- The pattern has no separator to show in a line: it finds nothing, or an empty text. -/
def FindsNone (p line : Text) : Prop :=
  ∀ q, (Pattern.compile p {}).result = .ok q → ∀ m, q.search line 0 = some m → m.isEmpty = true

/-- What passes make of a text: a block at the same place, whose lines are those of the text, each
rewritten, and left alone if no pass finds a separator in it. -/
structure Relays (eol : Text) (startLine : Int) (ps : List Text) (text : Text) (b : Block) :
    Prop where
  eol_eq : b.eol = eol
  startLine_eq : b.startLine = startLine
  length_eq : b.lines.length = (split eol text).length
  lines : ∃ rewrite : Text → Text, split eol b.text = (split eol text).map rewrite ∧
    ∀ line, Rewritten line (rewrite line) ∧ ((∀ p ∈ ps, FindsNone p line) → rewrite line = line)

theorem relays_passBlock {p : Text} {q : Pattern} (ending : eol ∈ lineEndings)
    (compiles : (Pattern.compile p {}).result = .ok q) (startLine tabSize : Int) (text : Text) :
    Relays eol startLine [p] text (passBlock (finder q) eol startLine tabSize text) where
  eol_eq := rfl
  startLine_eq := rfl
  length_eq := by
    have same := congrArg List.length
      (map_text_passBlock (finder q) eol startLine tabSize text)
    simpa using same
  lines := by
    have lawful := lawful_finder q
    refine ⟨_, split_text_passBlock lawful ending startLine tabSize text, fun line => ?_⟩
    refine ⟨rewritten_passLine lawful _ _ line, fun none => passLine_eq_self lawful ?_ _ _⟩
    intro s found
    obtain ⟨m, shown, rfl⟩ := Option.map_eq_some_iff.1 found
    have empty := none p (by simp) q compiles m shown
    have same : m.span.start = m.span.stop := by simpa [Pattern.Match.isEmpty] using empty
    exact same.symm

theorem Relays.trans {ps qs : List Text} {text : Text} {b c : Block}
    (h : Relays eol startLine ps text b) (h' : Relays eol startLine qs b.text c) :
    Relays eol startLine (ps ++ qs) text c where
  eol_eq := h'.eol_eq
  startLine_eq := h'.startLine_eq
  length_eq := by
    obtain ⟨f, first, -⟩ := h.lines
    rw [h'.length_eq, first, List.length_map]
  lines := by
    obtain ⟨f, first, hf⟩ := h.lines
    obtain ⟨g, second, hg⟩ := h'.lines
    refine ⟨g ∘ f, by rw [second, first, List.map_map], fun line => ?_⟩
    refine ⟨(hf line).1.trans (hg (f line)).1, fun none => ?_⟩
    have still : f line = line := (hf line).2 fun p hp => none p (List.mem_append_left _ hp)
    have again := (hg line).2 fun p hp => none p (List.mem_append_right _ hp)
    rw [Function.comp_apply, still, again]

/-- A row of passes behind a block relays its text, unless a padding cannot be written. -/
theorem alignFurther_cases (ending : eol ∈ lineEndings) (ps done : List Text)
    (compiles : ∀ p ∈ ps, ∃ q, (Pattern.compile p {}).result = .ok q) {text : Text} {b : Block}
    (h : Relays eol startLine done text b) :
    (∃ x, (alignFurther eol startLine tabSize b ps).result = .error (.overlong x) ∧
      Outgrows eol startLine tabSize x b.text ps) ∨
    ∃ c, (alignFurther eol startLine tabSize b ps).result = .ok c ∧
      Relays eol startLine (done ++ ps) text c := by
  induction ps generalizing b done with
  | nil => exact .inr ⟨b, rfl, by simpa using h⟩
  | cons p ps ih =>
    obtain ⟨⟨q, first⟩, others⟩ := List.forall_mem_cons.1 compiles
    have result := result_alignPass first (solid_of_mem_lineEndings ending).1 startLine tabSize
      b.text
    cases fits : (trimmedBlock q eol startLine b.text).excess? tabSize with
    | some x =>
      rw [fits] at result
      refine .inl ⟨x, ?_, q, first, .inl fits⟩
      exact Outcome.result_bind_error result
    | none =>
      rw [fits] at result
      have step := h.trans (relays_passBlock ending first startLine tabSize b.text)
      have answer : (alignFurther eol startLine tabSize b (p :: ps)).result =
          (alignFurther eol startLine tabSize
            (passBlock (finder q) eol startLine tabSize b.text) ps).result :=
        Outcome.result_bind_ok result
      rw [answer]
      rcases ih (done ++ [p]) others step with ⟨x, failed, outgrows⟩ | ⟨c, aligned, relays⟩
      · exact .inl ⟨x, failed, q, first, .inr ⟨fits, outgrows⟩⟩
      · exact .inr ⟨c, aligned, by simpa using relays⟩

/-- A row of passes relays a text, unless a padding cannot be written. -/
theorem alignInPasses_cases (ending : eol ∈ lineEndings) {ps : List Text} (some : ps ≠ [])
    (compiles : ∀ p ∈ ps, ∃ q, (Pattern.compile p {}).result = .ok q) (text : Text) :
    (∃ x, (alignInPasses text ps startLine eol tabSize).result = .error (.overlong x) ∧
      Outgrows eol startLine tabSize x text ps) ∨
    ∃ b, (alignInPasses text ps startLine eol tabSize).result = .ok b ∧
      Relays eol startLine ps text b := by
  cases ps with
  | nil => exact absurd rfl some
  | cons p ps =>
    obtain ⟨⟨q, first⟩, others⟩ := List.forall_mem_cons.1 compiles
    have result := result_alignPass first (solid_of_mem_lineEndings ending).1 startLine tabSize
      text
    cases fits : (trimmedBlock q eol startLine text).excess? tabSize with
    | some x =>
      rw [fits] at result
      exact .inl ⟨x, Outcome.result_bind_error result, q, first, .inl fits⟩
    | none =>
      rw [fits] at result
      have answer : (alignInPasses text (p :: ps) startLine eol tabSize).result =
          (alignFurther eol startLine tabSize
            (passBlock (finder q) eol startLine tabSize text) ps).result :=
        Outcome.result_bind_ok result
      rw [answer]
      have step := relays_passBlock ending first startLine tabSize text
      rcases alignFurther_cases ending ps [p] others step with
        ⟨x, failed, outgrows⟩ | ⟨c, aligned, relays⟩
      · exact .inl ⟨x, failed, q, first, .inr ⟨fits, outgrows⟩⟩
      · exact .inr ⟨c, aligned, relays⟩

/-- Without a pattern there is no replacement. -/
theorem replacementFor_of_no_pass {region : Region} {chain : Text} (filled : region.text ≠ [])
    (none : passesOf chain = []) (tabSize : HostValue) :
    (replacementFor region chain tabSize).result = .ok Option.none := by
  rw [replacementFor, if_neg filled, none]
  rfl

/-- Otherwise the replacement is what the passes make of the region. -/
theorem replacementFor_of_passes {region : Region} {chain : Text} (filled : region.text ≠ [])
    (some : passesOf chain ≠ []) (tabSize : HostValue) :
    (replacementFor region chain tabSize).result =
      (alignInPasses region.text (passesOf chain) region.startLine region.eol
        (tabSize.tabSize?.getD defaultTabSize)).result.map fun b =>
          Option.some ⟨b.startLine, b.endLine, b.text⟩ := by
  rw [replacementFor, if_neg filled]
  generalize passesOf chain = passes at some
  cases passes with
  | nil => exact absurd rfl some
  | cons p ps =>
    refine (Outcome.result_bind_ok (result_usableTabSize tabSize)).trans ?_
    simp only
    cases (alignInPasses region.text (p :: ps) region.startLine region.eol
      (tabSize.tabSize?.getD defaultTabSize)).result <;> rfl

theorem Relays.endLine_eq {ps : List Text} {text : Text} {b : Block} (filled : eol ≠ [])
    (h : Relays eol startLine ps text b) : b.endLine = startLine + occurrences eol text := by
  have pieces := List.length_pos_iff.2 (split_ne_nil eol text)
  rw [Block.endLine, h.startLine_eq, h.length_eq, occurrences, if_neg filled]
  omega

/-- **Alignment keeps the lines and all but their blanks**, whatever the engine is. Where there is a
pattern, and every padding can be written, the replacement is for the same lines as the region, has as
many line endings, and has each line of the region rewritten in its blanks alone. A line in which no
pass finds a separator is left as it is. -/
theorem replacementFor_relays (region : Region) (chain : Text) (tabSize : HostValue)
    (filled : region.text ≠ []) (ending : region.eol ∈ lineEndings)
    (compiles : ∀ p ∈ passesOf chain, ∃ q, (Pattern.compile p {}).result = .ok q) :
    (passesOf chain = [] ∧ (replacementFor region chain tabSize).result = .ok none) ∨
    (∃ x, (replacementFor region chain tabSize).result = .error (.overlong x) ∧
      Outgrows region.eol region.startLine (tabSize.tabSize?.getD defaultTabSize) x region.text
        (passesOf chain)) ∨
    ∃ r, (replacementFor region chain tabSize).result = .ok (some r) ∧
      r.startLine = region.startLine ∧ r.endLine = region.endLine ∧
      occurrences region.eol r.text = occurrences region.eol region.text ∧
      ∃ rewrite : Text → Text,
        split region.eol r.text = (split region.eol region.text).map rewrite ∧
        ∀ line ∈ split region.eol region.text, SameButBlanks line (rewrite line) ∧
          ((∀ p ∈ passesOf chain, FindsNone p line) → rewrite line = line) := by
  have eolFilled := (solid_of_mem_lineEndings ending).1
  by_cases none : passesOf chain = []
  · exact .inl ⟨none, replacementFor_of_no_pass filled none tabSize⟩
  · have result := replacementFor_of_passes filled none tabSize
    rcases alignInPasses_cases ending none compiles region.text with
      ⟨x, failed, outgrows⟩ | ⟨b, aligned, relays⟩
    · rw [failed] at result
      exact .inr (.inl ⟨x, result, outgrows⟩)
    · rw [aligned] at result
      obtain ⟨rewrite, lines, each⟩ := relays.lines
      refine .inr (.inr ⟨_, result, relays.startLine_eq, relays.endLine_eq eolFilled, ?_,
        rewrite, lines, fun line _ => ⟨.of_rewritten (each line).1, (each line).2⟩⟩)
      rw [occurrences, occurrences, if_neg eolFilled, if_neg eolFilled, lines, List.length_map]

end Engine

theorem replacementFor_relays_assignments :
    ∃ r, (replacementFor { text := ofString "a = 1\nbbb = 2" } (ofString "=")
        (.whole 4)).result = .ok (some r) ∧ r.endLine = 1 ∧
      ∃ rewrite : Text → Text, split [Code.newline] r.text =
        [rewrite (ofString "a = 1"), rewrite (ofString "bbb = 2")] := by
  have answers : (replacementFor { text := ofString "a = 1\nbbb = 2" } (ofString "=")
      (.whole 4)).result.toOption.join.isSome := by decide
  have reads : (Pattern.compile (ofString "=") {}).result.toOption.isSome := by decide
  have compiles : ∀ p ∈ passesOf (ofString "="), ∃ q, (Pattern.compile p {}).result = .ok q := by
    intro p hp
    have passes : passesOf (ofString "=") = [ofString "="] := by decide
    rw [passes, List.mem_singleton] at hp
    subst hp
    cases read : (Pattern.compile (ofString "=") {}).result with
    | ok q => exact ⟨q, rfl⟩
    | error e =>
      rw [read] at reads
      cases reads
  rcases replacementFor_relays { text := ofString "a = 1\nbbb = 2" } (ofString "=") (.whole 4)
    (by decide) (by decide) compiles with
    ⟨-, none⟩ | ⟨x, failed, -⟩ | ⟨r, done, -, stop, -, rewrite, lines, -⟩
  · rw [none] at answers
    cases answers
  · rw [failed] at answers
    cases answers
  · exact ⟨r, done, stop, rewrite, lines⟩

end EditorText.Align
