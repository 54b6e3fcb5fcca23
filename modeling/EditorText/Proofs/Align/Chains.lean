import EditorText.Proofs.Align.Passes
import EditorText.Proofs.Pattern.Rejections
import Mathlib.Data.List.Infix

/-!
# Chains of patterns

A chain holds segments with a delimiter between neighbours. Where no delimiter stands in a segment,
none comes into being at a border either, and the chain is cut into its segments
(`splitChain_chainOf`). Alignment by a chain is alignment by its segments one after another
(`replacementFor_chainOf`): a pass leaves something of every text, so the next call has lines to
work on.
-/

set_option autoImplicit false

namespace EditorText

open Text

namespace Align

/-- What may stand between two segments of a chain. -/
inductive Delimiter where
  | braceBracket
  | bracketBrace
  deriving DecidableEq, Repr

/-- The delimiter as text. -/
def Delimiter.text : Delimiter → Text
  | braceBracket => [Code.openBrace, Code.closeBracket]
  | bracketBrace => [Code.openBracket, Code.closeBrace]

/-- A segment and further ones, each behind a delimiter, as a chain. -/
def chainOf (first : Text) : List (Delimiter × Text) → Text
  | [] => first
  | (d, s) :: rest => first ++ (d.text ++ chainOf s rest)

/-- The segments of a chain. -/
def segmentsOf (first : Text) (rest : List (Delimiter × Text)) : List Text :=
  first :: rest.map Prod.snd

/-- The segments of a chain that are not blank. -/
def shownSegments (first : Text) (rest : List (Delimiter × Text)) : List Text :=
  (segmentsOf first rest).filter fun s => s.trim ≠ []

/-- No delimiter stands in the text. -/
def Undivided (s : Text) : Prop := ∀ d : Delimiter, ¬ d.text <:+: s

instance (s : Text) : Decidable (Undivided s) :=
  decidable_of_iff (¬ Delimiter.braceBracket.text <:+: s ∧ ¬ Delimiter.bracketBrace.text <:+: s)
    ⟨fun h => fun | .braceBracket => h.1 | .bracketBrace => h.2, fun h => ⟨h _, h _⟩⟩

section Splitting

variable {c : Code} {s t : Text}

theorem Undivided.tail (h : Undivided (c :: s)) : Undivided s :=
  fun d inside => h d (List.infix_cons inside)

theorem splitChain_delimiter (d : Delimiter) (t : Text) :
    splitChain (d.text ++ t) = [] :: splitChain t := by
  cases d <;> simp [Delimiter.text, splitChain]

/-- A code that begins no delimiter belongs to the first segment. -/
theorem splitChain_cons (none : ∀ d : Delimiter, ¬ d.text <+: c :: t) :
    splitChain (c :: t) = consFirst c (splitChain t) := by
  rw [splitChain]
  · rintro r rfl rfl
    exact none .braceBracket ⟨r, rfl⟩
  · rintro r rfl rfl
    exact none .bracketBrace ⟨r, rfl⟩

/-- No delimiter begins in a segment and ends behind it: what a delimiter begins with none ends
with. -/
theorem Undivided.not_prefix_append (undivided : Undivided (c :: s)) (d e : Delimiter) (t : Text) :
    ¬ e.text <+: c :: (s ++ (d.text ++ t)) := by
  intro begins
  cases s with
  | nil =>
    have second : e.text.tail <+: d.text ++ t := by
      cases e <;> exact (List.cons_prefix_cons.1 begins).2
    cases e <;> cases d <;> exact absurd (List.cons_prefix_cons.1 second).1 (by decide)
  | cons b s =>
    refine undivided e (List.IsPrefix.isInfix ?_)
    cases e <;> simpa [Delimiter.text] using begins

theorem splitChain_of_undivided (undivided : Undivided s) : splitChain s = [s] := by
  induction s with
  | nil => rfl
  | cons c s ih =>
    have none : ∀ d : Delimiter, ¬ d.text <+: c :: s :=
      fun d begins => undivided d begins.isInfix
    rw [splitChain_cons none, ih undivided.tail]
    rfl

theorem splitChain_append (undivided : Undivided s) (d : Delimiter) (t : Text) :
    splitChain (s ++ (d.text ++ t)) = s :: splitChain t := by
  induction s with
  | nil => exact splitChain_delimiter d t
  | cons c s ih =>
    have none : ∀ e : Delimiter, ¬ e.text <+: c :: (s ++ (d.text ++ t)) :=
      fun e => undivided.not_prefix_append d e t
    rw [List.cons_append, splitChain_cons none, ih undivided.tail]
    rfl

/-- **A chain is cut into its segments**, whichever delimiters stand between them. -/
theorem splitChain_chainOf (first : Text) (rest : List (Delimiter × Text))
    (undivided : ∀ s ∈ segmentsOf first rest, Undivided s) :
    splitChain (chainOf first rest) = segmentsOf first rest := by
  induction rest generalizing first with
  | nil => exact splitChain_of_undivided (undivided first List.mem_cons_self)
  | cons next rest ih =>
    obtain ⟨d, s⟩ := next
    obtain ⟨head, others⟩ := List.forall_mem_cons.1 undivided
    rw [chainOf, splitChain_append head, ih s others]
    rfl

/-- The passes of a chain are its segments that are not blank. -/
theorem passesOf_chainOf (first : Text) (rest : List (Delimiter × Text))
    (undivided : ∀ s ∈ segmentsOf first rest, Undivided s) :
    passesOf (chainOf first rest) = shownSegments first rest := by
  rw [passesOf, splitChain_chainOf first rest undivided]
  rfl

/-- A segment that is not blank is one pass. -/
theorem passesOf_of_undivided (undivided : Undivided s) (some : s.trim ≠ []) :
    passesOf s = [s] := by
  rw [passesOf, splitChain_of_undivided undivided]
  simp [some]

end Splitting

section Passes

variable {eol : Text} {startLine tabSize : Int} {text p : Text}

/-- A pass leaves something of a text. -/
theorem text_passBlock_ne_nil {find : Finder} (lawful : Lawful find) (filled : eol ≠ [])
    (some : text ≠ []) : (passBlock find eol startLine tabSize text).text ≠ [] := by
  rw [text_passBlock]
  intro empty
  have whole := join_split filled text
  rcases join_eq_nil filled empty with none | one
  · exact split_ne_nil eol text (List.map_eq_nil_iff.1 none)
  · obtain ⟨line, lines, line_eq⟩ := List.map_eq_singleton_iff.1 one
    rw [lines] at whole
    have old : line = text := by simpa [join] using whole
    rw [old] at line_eq
    exact passLine_ne_nil lawful some _ _ line_eq

variable [Pattern.Engine]

/-- A pass ends with its pattern. -/
theorem result_alignPass_of_rejected {e : Pattern.Rejection}
    (rejected : (Pattern.compile p {}).result = .error e) :
    (alignPass eol startLine tabSize text p).result = .error (.rejected e) := by
  have read : ((Pattern.compile p {}).mapError AlignError.rejected).result =
      .error (.rejected e) := by
    simp only [Outcome.mapError, rejected]
  have built : (buildBlock text eol p startLine).result = .error (.rejected e) :=
    Outcome.result_bind_error read
  exact Outcome.result_bind_error built

/-- A pass with no line ending to cut at ends. -/
theorem result_alignPass_of_no_eol {q : Pattern}
    (compiles : (Pattern.compile p {}).result = .ok q) :
    (alignPass [] startLine tabSize text p).result = .error .emptyLineEnding := by
  have read : ((Pattern.compile p {}).mapError AlignError.rejected).result = .ok q := by
    simp only [Outcome.mapError, compiles]
  have built : (buildBlock text [] p startLine).result = .error .emptyLineEnding := by
    refine (Outcome.result_bind_ok read).trans ?_
    rw [if_pos rfl]
    rfl
  exact Outcome.result_bind_error built

/-- The ways a pass goes: its pattern is rejected, or there is no line ending, or a padding of it
cannot be written, or it makes its block. -/
theorem alignPass_cases (eol : Text) (startLine tabSize : Int) (text p : Text) :
    (∃ e, (Pattern.compile p {}).result = .error e ∧
      (alignPass eol startLine tabSize text p).result = .error (.rejected e)) ∨
    (eol = [] ∧ (alignPass eol startLine tabSize text p).result = .error .emptyLineEnding) ∨
    (∃ x, (alignPass eol startLine tabSize text p).result = .error (.overlong x)) ∨
    ∃ q, eol ≠ [] ∧ (alignPass eol startLine tabSize text p).result =
      .ok (passBlock (finder q) eol startLine tabSize text) := by
  cases compiles : (Pattern.compile p {}).result with
  | error e => exact .inl ⟨e, rfl, result_alignPass_of_rejected compiles⟩
  | ok q =>
    right
    by_cases empty : eol = []
    · subst empty
      exact .inl ⟨rfl, result_alignPass_of_no_eol compiles⟩
    · right
      have result := result_alignPass compiles empty startLine tabSize text
      cases fits : (trimmedBlock q eol startLine text).excess? tabSize with
      | some x => exact .inl ⟨x, by rw [result, fits]⟩
      | none => exact .inr ⟨q, empty, by rw [result, fits]⟩

/-- What a pass leaves of a text is something. -/
theorem text_ne_nil_of_alignPass {b : Block} (some : text ≠ [])
    (done : (alignPass eol startLine tabSize text p).result = .ok b) : b.text ≠ [] := by
  rcases alignPass_cases eol startLine tabSize text p with
    ⟨e, -, failed⟩ | ⟨-, failed⟩ | ⟨x, failed⟩ | ⟨q, filled, made⟩
  · rw [failed] at done
    cases done
  · rw [failed] at done
    cases done
  · rw [failed] at done
    cases done
  · rw [made] at done
    obtain rfl := Except.ok.inj done
    exact text_passBlock_ne_nil (lawful_finder q) filled some

/-- A malformed pattern that a pass reports is its own. -/
theorem eq_of_alignPass_invalid {q reason : Text}
    (failed : (alignPass eol startLine tabSize text p).result =
      .error (.rejected (.invalid q reason))) : q = p := by
  rcases alignPass_cases eol startLine tabSize text p with
    ⟨e, rejected, result⟩ | ⟨-, result⟩ | ⟨x, result⟩ | ⟨q, -, result⟩
  · rw [result] at failed
    cases failed
    exact Pattern.eq_of_compile_invalid rejected
  · rw [result] at failed
    cases failed
  · rw [result] at failed
    cases failed
  · rw [result] at failed
    cases failed

end Passes

section Calls

variable [Pattern.Engine]

/-- Calls one after another, a segment each: every call that gives a replacement hands its text on
to the next, over the same lines. The row ends with the last replacement, or with the first failure
and the segment that it is for. There is no row in which a call gives no replacement. -/
inductive InTurn (tabSize : HostValue) :
    Region → List Text → Except (Text × AlignError) Replacement → Prop where
  | last {region : Region} {s : Text} {r : Replacement} :
      (replacementFor region s tabSize).result = .ok (some r) → InTurn tabSize region [s] (.ok r)
  | further {region : Region} {s : Text} {ss : List Text} {r : Replacement}
      {answer : Except (Text × AlignError) Replacement} :
      (replacementFor region s tabSize).result = .ok (some r) →
      InTurn tabSize { region with text := r.text } ss answer →
      InTurn tabSize region (s :: ss) answer
  | fails {region : Region} {s : Text} {ss : List Text} {e : AlignError} :
      (replacementFor region s tabSize).result = .error e →
      InTurn tabSize region (s :: ss) (.error (s, e))

section InTurn

variable {tabSize : HostValue} {region : Region} {ss : List Text}
  {answer other : Except (Text × AlignError) Replacement}

theorem InTurn.ne_nil (h : InTurn tabSize region ss answer) : ss ≠ [] := by
  cases h with
  | last | further | fails => exact List.cons_ne_nil _ _

/-- Calls in turn have one answer. -/
theorem InTurn.unique (h : InTurn tabSize region ss answer)
    (h' : InTurn tabSize region ss other) : answer = other := by
  induction h with
  | last done =>
    cases h' with
    | last done' =>
      rw [done] at done'
      cases done'
      rfl
    | further _ rest => exact absurd rfl rest.ne_nil
    | fails failed =>
      rw [done] at failed
      cases failed
  | further done rest ih =>
    cases h' with
    | last => exact absurd rfl rest.ne_nil
    | further done' rest' =>
      rw [done] at done'
      cases done'
      exact ih rest'
    | fails failed =>
      rw [done] at failed
      cases failed
  | fails failed =>
    cases h' with
    | last done | further done =>
      rw [failed] at done
      cases done
    | fails failed' =>
      rw [failed] at failed'
      cases failed'
      rfl

/-- The replacement that a block stands for. -/
def Block.replacement (b : Block) : Replacement := ⟨b.startLine, b.endLine, b.text⟩

/-- A call for one segment makes one pass. -/
theorem result_replacementFor_segment {s : Text} (filled : region.text ≠ [])
    (undivided : Undivided s) (some : s.trim ≠ []) (tabSize : HostValue) :
    (replacementFor region s tabSize).result =
      (alignPass region.eol region.startLine (tabSize.tabSize?.getD defaultTabSize) region.text
        s).result.map fun b => Option.some b.replacement := by
  have passes := passesOf_of_undivided undivided some
  have result : (replacementFor region s tabSize).result = _ :=
    replacementFor_of_passes filled (by simp [passes]) tabSize
  rw [passes, result_alignInPasses_one] at result
  exact result

/-- **A row of passes is a row of calls**, one call for each segment. -/
theorem exists_inTurn (some : ss ≠ []) (segments : ∀ s ∈ ss, Undivided s ∧ s.trim ≠ [])
    (filled : region.text ≠ []) (tabSize : HostValue) :
    ∃ answer, InTurn tabSize region ss answer ∧
      (alignInPasses region.text ss region.startLine region.eol
        (tabSize.tabSize?.getD defaultTabSize)).result.map Block.replacement =
          answer.mapError Prod.snd := by
  induction ss generalizing region with
  | nil => exact absurd rfl some
  | cons s ss ih =>
    obtain ⟨⟨undivided, seen⟩, others⟩ := List.forall_mem_cons.1 segments
    have call := result_replacementFor_segment filled undivided seen tabSize
    cases first : (alignPass region.eol region.startLine (tabSize.tabSize?.getD defaultTabSize)
        region.text s).result with
    | error e =>
      rw [first] at call
      refine ⟨.error (s, e), .fails call, ?_⟩
      cases ss with
      | nil => rw [result_alignInPasses_one, first]; rfl
      | cons q ss => rw [result_alignInPasses_cons, first]; rfl
    | ok b =>
      rw [first] at call
      cases ss with
      | nil =>
        refine ⟨.ok b.replacement, .last call, ?_⟩
        rw [result_alignInPasses_one, first]
        rfl
      | cons q ss =>
        have left : ({ region with text := b.text } : Region).text ≠ [] :=
          text_ne_nil_of_alignPass filled first
        obtain ⟨answer, rest, same⟩ := ih (List.cons_ne_nil q ss) others left
        refine ⟨answer, .further call rest, ?_⟩
        rw [result_alignInPasses_cons, first]
        exact same

/-- A malformed pattern that a row of calls reports is the segment of the call that failed. -/
theorem InTurn.eq_of_invalid {s q reason : Text}
    (segments : ∀ s ∈ ss, Undivided s ∧ s.trim ≠ []) (filled : region.text ≠ [])
    (h : InTurn tabSize region ss (.error (s, .rejected (.invalid q reason)))) : q = s := by
  generalize reported : Except.error (s, AlignError.rejected (.invalid q reason)) = answer at h
  induction h with
  | last => cases reported
  | @further region s' ss r answer done rest ih =>
    obtain ⟨⟨undivided, seen⟩, others⟩ := List.forall_mem_cons.1 segments
    refine ih others ?_ reported
    have call := result_replacementFor_segment filled undivided seen tabSize
    rw [done] at call
    cases first : (alignPass region.eol region.startLine (tabSize.tabSize?.getD defaultTabSize)
        region.text s').result with
    | error e =>
      rw [first] at call
      cases call
    | ok b =>
      rw [first] at call
      cases call
      exact text_ne_nil_of_alignPass filled first
  | @fails region s' ss e failed =>
    obtain ⟨⟨undivided, seen⟩, -⟩ := List.forall_mem_cons.1 segments
    cases reported
    have call := result_replacementFor_segment filled undivided seen tabSize
    rw [failed] at call
    cases first : (alignPass region.eol region.startLine (tabSize.tabSize?.getD defaultTabSize)
        region.text s).result with
    | error e =>
      rw [first] at call
      cases call
      exact eq_of_alignPass_invalid first
    | ok b =>
      rw [first] at call
      cases call

end InTurn

/-- **A chained alignment is the single alignments one after another**, whatever the engine is.
Aligning a region with text by a chain of segments, some of them not blank, gives what the calls for
the segments that are not blank give in turn: the replacement of the last, each of them having given
one to the next, or the failure of the first that fails. A pattern that is reported as malformed is
the segment whose call failed. -/
theorem replacementFor_chainOf (region : Region) (first : Text) (rest : List (Delimiter × Text))
    (tabSize : HostValue) (filled : region.text ≠ [])
    (undivided : ∀ s ∈ segmentsOf first rest, Undivided s)
    (some : ∃ s ∈ segmentsOf first rest, s.trim ≠ []) :
    (∃ answer, InTurn tabSize region (shownSegments first rest) answer) ∧
    ∀ answer, InTurn tabSize region (shownSegments first rest) answer →
      (replacementFor region (chainOf first rest) tabSize).result =
        (answer.mapError Prod.snd).map Option.some ∧
      ∀ s pattern reason, answer = .error (s, .rejected (.invalid pattern reason)) →
        pattern = s := by
  have segments : ∀ s ∈ shownSegments first rest, Undivided s ∧ s.trim ≠ [] := by
    intro s member
    obtain ⟨inside, shown⟩ := List.mem_filter.1 member
    exact ⟨undivided s inside, by simpa using shown⟩
  have shown : shownSegments first rest ≠ [] := by
    obtain ⟨s, inside, shown⟩ := some
    exact List.ne_nil_of_mem (List.mem_filter.2 ⟨inside, by simpa using shown⟩)
  have passes := passesOf_chainOf first rest undivided
  obtain ⟨answer, calls, same⟩ := exists_inTurn shown segments filled tabSize
  refine ⟨⟨answer, calls⟩, fun other calls' => ?_⟩
  obtain rfl := calls.unique calls'
  constructor
  · have result : (replacementFor region (chainOf first rest) tabSize).result = _ :=
      replacementFor_of_passes filled (by rw [passes]; exact shown) tabSize
    rw [result, passes, ← same]
    cases (alignInPasses region.text (shownSegments first rest) region.startLine region.eol
      (tabSize.tabSize?.getD defaultTabSize)).result <;> rfl
  · rintro s pattern reason rfl
    exact calls.eq_of_invalid segments filled

end Calls

theorem replacementFor_chainOf_assignments :
    ∃ answer, InTurn (.whole 4) { text := ofString "a = 1: x\nbbb = 22: y" }
        [ofString "=", ofString ":"] answer ∧
      (replacementFor { text := ofString "a = 1: x\nbbb = 22: y" } (ofString "={]  [}:")
        (.whole 4)).result = (answer.mapError Prod.snd).map Option.some := by
  have undivided : ∀ s ∈ segmentsOf (ofString "=")
      [(.braceBracket, ofString "  "), (.bracketBrace, ofString ":")], Undivided s := by
    decide
  obtain ⟨⟨answer, calls⟩, each⟩ := replacementFor_chainOf
    { text := ofString "a = 1: x\nbbb = 22: y" } (ofString "=")
    [(.braceBracket, ofString "  "), (.bracketBrace, ofString ":")] (.whole 4) (by decide)
    undivided ⟨ofString "=", List.mem_cons_self, by decide⟩
  exact ⟨answer, calls, (each answer calls).1⟩

end Align

end EditorText
