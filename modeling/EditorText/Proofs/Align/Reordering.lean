import EditorText.Proofs.Align.Blocks
import Mathlib.Data.List.OfFn
import Mathlib.Logic.Equiv.Defs

/-!
# Lines in another order

What a row of passes makes of a line depends on the lines with separators around it and on nothing
else: not on their order, and not on lines in which no pass finds a separator
(`alignInPasses_extends`). Each pass finds the same columns, so that it rewrites equal lines alike,
and leaves lines of the same kind to the next one (`Extends.passLines`).
-/

set_option autoImplicit false

namespace EditorText.Align

open Text

section Engine

variable [Pattern.Engine]

/-- The second lines hold all of the first, and besides them only lines in which none of the
patterns finds a separator. Neither their order nor their number matters. -/
structure Extends (ps raws raws' : List Text) : Prop where
  subset : raws ⊆ raws'
  quiet : ∀ raw ∈ raws', raw ∈ raws ∨ ∀ p ∈ ps, FindsNone p raw

section Pass

variable {p : Text} {ps raws raws' : List Text} {q : Pattern} {tabSize : Int}

/-- A line in which a pattern finds no separator does not count in its pass. -/
theorem FindsNone.not_isCut {raw : Text} (none : FindsNone p raw)
    (compiles : (Pattern.compile p {}).result = .ok q) :
    (gathered (finder q) raw).isCut ≠ true := by
  rw [gathered, Line.isCut_gathered, Ne, Line.isCut_iff, Classical.not_not]
  refine Line.cells_cut_eq_nil (fun s found => ?_) 0
  obtain ⟨m, shown, rfl⟩ := Option.map_eq_some_iff.1 found
  have empty := none q compiles m shown
  have same : m.span.start = m.span.stop := by simpa [Pattern.Match.isEmpty] using empty
  exact same.symm

omit [Pattern.Engine] in
/-- A line without separators has no padding that could be too long. -/
theorem excess?_of_not_isCut {l : Line} (uncut : l.isCut ≠ true) (ws : List Int) :
    l.excess? tabSize ws = none := by
  rw [Ne, Line.isCut_iff, Classical.not_not] at uncut
  rw [Line.excess?_eq_none_iff, uncut]
  exact True.intro

theorem Extends.tail (h : Extends (p :: ps) raws raws') : Extends ps raws raws' where
  subset := h.subset
  quiet raw inside := (h.quiet raw inside).imp_right fun none =>
    fun q member => none q (List.mem_cons_of_mem p member)

/-- A line that counts in the first pass is one of the first lines. -/
theorem Extends.mem_of_isCut (h : Extends (p :: ps) raws raws')
    (compiles : (Pattern.compile p {}).result = .ok q) {raw : Text} (inside : raw ∈ raws')
    (cut : (gathered (finder q) raw).isCut = true) : raw ∈ raws := by
  rcases h.quiet raw inside with old | none
  · exact old
  · exact absurd cut ((none p List.mem_cons_self).not_isCut compiles)

/-- **The columns are the same.** -/
theorem Extends.passColumns_eq (h : Extends (p :: ps) raws raws')
    (compiles : (Pattern.compile p {}).result = .ok q) (tabSize : Int) :
    passColumns (finder q) tabSize raws' = passColumns (finder q) tabSize raws := by
  apply Fits.antisymm
  · apply passColumns_fits
    intro raw inside cut
    exact fits_passColumns tabSize (h.mem_of_isCut compiles inside cut) cut
  · apply passColumns_fits
    intro raw inside cut
    exact fits_passColumns tabSize (h.subset inside) cut

/-- A pass over the second lines can be written if one over the first lines can. -/
theorem Extends.excess?_iff (h : Extends (p :: ps) raws raws')
    (compiles : (Pattern.compile p {}).result = .ok q) (ws : List Int) :
    (∀ raw ∈ raws', (gathered (finder q) raw).excess? tabSize ws = none) ↔
      ∀ raw ∈ raws, (gathered (finder q) raw).excess? tabSize ws = none := by
  constructor
  · intro fits raw inside
    exact fits raw (h.subset inside)
  · intro fits raw inside
    by_cases cut : (gathered (finder q) raw).isCut = true
    · exact fits raw (h.mem_of_isCut compiles inside cut)
    · exact excess?_of_not_isCut cut ws

/-- In which no pass finds a separator, that line stays as it is. -/
theorem passLine_of_findsNone {raw : Text} (compiles : (Pattern.compile p {}).result = .ok q)
    (none : FindsNone p raw) (tabSize : Int) (ws : List Int) :
    passLine (finder q) tabSize ws raw = raw :=
  passLine_of_not_isCut (lawful_finder q) (none.not_isCut compiles) tabSize ws

/-- **A step keeps it so**: the second lines that a pass makes hold the first that it makes, and
besides them only lines in which none of the other patterns finds a separator. -/
theorem Extends.passLines (h : Extends (p :: ps) raws raws')
    (compiles : (Pattern.compile p {}).result = .ok q) (tabSize : Int) (ws : List Int) :
    Extends ps (raws.map (passLine (finder q) tabSize ws))
      (raws'.map (passLine (finder q) tabSize ws)) where
  subset := List.map_subset _ h.subset
  quiet new inside := by
    obtain ⟨raw, old, rfl⟩ := List.mem_map.1 inside
    rcases h.quiet raw old with first | none
    · exact .inl (List.mem_map_of_mem first)
    · right
      rw [passLine_of_findsNone compiles (none p List.mem_cons_self)]
      exact fun q member => none q (List.mem_cons_of_mem p member)

end Pass

section Passes

variable {eol : Text} {startLine tabSize : Int} {p : Text} {ps : List Text} {q : Pattern}
  {text text' : Text} {rewrite : Text → Text}

/-- A row of passes fails for a padding that cannot be written. -/
def Overgrown (eol : Text) (startLine tabSize : Int) (ps : List Text) (text : Text) : Prop :=
  ∃ x, (alignInPasses text ps startLine eol tabSize).result = .error (.overlong x) ∧
    Outgrows eol startLine tabSize x text ps

/-- A row of passes makes a block whose lines are those of the text, each rewritten. -/
def RewritesTo (eol : Text) (startLine tabSize : Int) (ps : List Text) (text : Text)
    (rewrite : Text → Text) : Prop :=
  ∃ b, (alignInPasses text ps startLine eol tabSize).result = .ok b ∧
    b.lines.map Line.text = (split eol text).map rewrite

theorem overgrown_of_excess {x : Excess} (compiles : (Pattern.compile p {}).result = .ok q)
    (filled : eol ≠ []) (tooLong : (trimmedBlock q eol startLine text).excess? tabSize = some x)
    (ps : List Text) : Overgrown eol startLine tabSize (p :: ps) text := by
  have result := result_alignPass compiles filled startLine tabSize text
  rw [tooLong] at result
  exact ⟨x, Outcome.result_bind_error result, q, compiles, .inl tooLong⟩

theorem Overgrown.behind (compiles : (Pattern.compile p {}).result = .ok q) (filled : eol ≠ [])
    (fits : (trimmedBlock q eol startLine text).excess? tabSize = none)
    (h : Overgrown eol startLine tabSize ps
      (passBlock (finder q) eol startLine tabSize text).text) :
    Overgrown eol startLine tabSize (p :: ps) text := by
  obtain ⟨x, failed, outgrows⟩ := h
  have result := result_alignPass compiles filled startLine tabSize text
  rw [fits] at result
  refine ⟨x, ?_, q, compiles, .inr ⟨fits, outgrows⟩⟩
  cases ps with
  | nil => exact outgrows.elim
  | cons p' ps =>
    rw [result_alignInPasses_cons, result]
    exact failed

theorem rewritesTo_one (compiles : (Pattern.compile p {}).result = .ok q) (filled : eol ≠ [])
    (fits : (trimmedBlock q eol startLine text).excess? tabSize = none) :
    RewritesTo eol startLine tabSize [p] text
      (passLine (finder q) tabSize (passColumns (finder q) tabSize (split eol text))) := by
  have result := result_alignPass compiles filled startLine tabSize text
  rw [fits] at result
  refine ⟨_, ?_, map_text_passBlock (finder q) eol startLine tabSize text⟩
  rw [result_alignInPasses_one, result]

theorem RewritesTo.behind (compiles : (Pattern.compile p {}).result = .ok q)
    (ending : eol ∈ lineEndings)
    (fits : (trimmedBlock q eol startLine text).excess? tabSize = none)
    (h : RewritesTo eol startLine tabSize ps
      (passBlock (finder q) eol startLine tabSize text).text rewrite) :
    RewritesTo eol startLine tabSize (p :: ps) text
      (rewrite ∘
        passLine (finder q) tabSize (passColumns (finder q) tabSize (split eol text))) := by
  obtain ⟨b, done, lines⟩ := h
  have filled := (solid_of_mem_lineEndings ending).1
  have result := result_alignPass compiles filled startLine tabSize text
  rw [fits] at result
  refine ⟨b, ?_, ?_⟩
  · cases ps with
    | nil => cases done
    | cons p' ps =>
      rw [result_alignInPasses_cons, result]
      exact done
  · rw [lines, split_text_passBlock (lawful_finder q) ending, List.map_map]

/-- **Passes rewrite equal lines alike**, in whatever order the lines stand and whatever lines
without separators stand between them. -/
theorem alignInPasses_extends (ending : eol ∈ lineEndings) (some : ps ≠ [])
    (compiles : ∀ p ∈ ps, ∃ q, (Pattern.compile p {}).result = .ok q)
    (h : Extends ps (split eol text) (split eol text')) (startLine tabSize : Int) :
    Overgrown eol startLine tabSize ps text ∧ Overgrown eol startLine tabSize ps text' ∨
    ∃ rewrite, RewritesTo eol startLine tabSize ps text rewrite ∧
      RewritesTo eol startLine tabSize ps text' rewrite ∧
      ∀ line, (∀ p ∈ ps, FindsNone p line) → rewrite line = line := by
  have filled := (solid_of_mem_lineEndings ending).1
  induction ps generalizing text text' with
  | nil => exact absurd rfl some
  | cons p ps ih =>
    obtain ⟨⟨q, first⟩, others⟩ := List.forall_mem_cons.1 compiles
    have columns := h.passColumns_eq first tabSize
    have writable : (trimmedBlock q eol startLine text').excess? tabSize = none ↔
        (trimmedBlock q eol startLine text).excess? tabSize = none := by
      rw [trimmedBlock, trimmedBlock, excess?_eq_none_iff, excess?_eq_none_iff, columns]
      exact h.excess?_iff first _
    cases fits : (trimmedBlock q eol startLine text).excess? tabSize with
    | some x =>
      obtain ⟨y, tooLong⟩ : ∃ y,
          (trimmedBlock q eol startLine text').excess? tabSize = Option.some y :=
        Option.ne_none_iff_exists'.1 fun none => by simp [writable.1 none] at fits
      exact .inl ⟨overgrown_of_excess first filled fits ps,
        overgrown_of_excess first filled tooLong ps⟩
    | none =>
      have fits' := writable.2 fits
      have still : ∀ line, (∀ p' ∈ p :: ps, FindsNone p' line) →
          passLine (finder q) tabSize (passColumns (finder q) tabSize (split eol text)) line =
            line :=
        fun line none => passLine_of_findsNone first (none p List.mem_cons_self) _ _
      by_cases more : ps = []
      · subst more
        have made' := rewritesTo_one first filled fits'
        rw [columns] at made'
        exact .inr ⟨_, rewritesTo_one first filled fits, made', still⟩
      · have next : Extends ps
            (split eol (passBlock (finder q) eol startLine tabSize text).text)
            (split eol (passBlock (finder q) eol startLine tabSize text').text) := by
          rw [split_text_passBlock (lawful_finder q) ending,
            split_text_passBlock (lawful_finder q) ending, columns]
          exact h.passLines first tabSize _
        rcases ih more others next with ⟨tooLong, tooLong'⟩ | ⟨rewrite, made, made', rest⟩
        · exact .inl ⟨tooLong.behind first filled fits, tooLong'.behind first filled fits'⟩
        · have made'' := made'.behind first ending fits'
          rw [columns] at made''
          refine .inr ⟨_, made.behind first ending fits, made'', fun line none => ?_⟩
          rw [Function.comp_apply, still line none]
          exact rest line fun p' member => none p' (List.mem_cons_of_mem p member)

end Passes

section Lines

variable {eol : Text} {startLine tabSize : Int} {ps lines lines' : List Text}

/-- Aligning lines gives these lines. -/
def AlignsTo (eol : Text) (startLine tabSize : Int) (ps lines new : List Text) : Prop :=
  ∃ b, (alignInPasses (join eol lines) ps startLine eol tabSize).result = .ok b ∧
    b.lines.map Line.text = new

/-- Lines taken in another order. -/
def reordered (lines : List Text) (σ : Equiv.Perm (Fin lines.length)) : List Text :=
  List.ofFn fun i => lines.get (σ i)

omit [Pattern.Engine] in
theorem mem_reordered_iff {l : Text} (σ : Equiv.Perm (Fin lines.length)) :
    l ∈ reordered lines σ ↔ l ∈ lines := by
  rw [reordered, List.mem_ofFn, List.mem_iff_get]
  constructor
  · rintro ⟨i, rfl⟩
    exact ⟨σ i, rfl⟩
  · rintro ⟨i, rfl⟩
    exact ⟨σ.symm i, by simp⟩

theorem extends_reordered (ps lines : List Text) (σ : Equiv.Perm (Fin lines.length)) :
    Extends ps lines (reordered lines σ) where
  subset _ inside := (mem_reordered_iff σ).2 inside
  quiet _ inside := .inl ((mem_reordered_iff σ).1 inside)

theorem extends_insert {extra : Text} (none : ∀ p ∈ ps, FindsNone p extra)
    (front back : List Text) : Extends ps (front ++ back) (front ++ extra :: back) where
  subset l inside := by
    rw [List.mem_append] at inside ⊢
    exact inside.imp_right (List.mem_cons_of_mem extra)
  quiet l inside := by
    simp only [List.mem_append, List.mem_cons] at inside ⊢
    rcases inside with early | rfl | late
    · exact .inl (.inl early)
    · exact .inr none
    · exact .inl (.inr late)

/-- Passes over lines rewrite equal lines alike. -/
theorem alignsTo_map_of_extends (ending : eol ∈ lineEndings) (some : ps ≠ [])
    (compiles : ∀ p ∈ ps, ∃ q, (Pattern.compile p {}).result = .ok q) (filled : lines ≠ [])
    (free : ∀ l ∈ lines, ¬ eol <:+: l) (free' : ∀ l ∈ lines', ¬ eol <:+: l)
    (h : Extends ps lines lines') :
    Overgrown eol startLine tabSize ps (join eol lines) ∧
        Overgrown eol startLine tabSize ps (join eol lines') ∨
      ∃ rewrite : Text → Text, AlignsTo eol startLine tabSize ps lines (lines.map rewrite) ∧
        AlignsTo eol startLine tabSize ps lines' (lines'.map rewrite) ∧
        ∀ line, (∀ p ∈ ps, FindsNone p line) → rewrite line = line := by
  obtain ⟨eolFilled, -, unbordered⟩ := solid_of_mem_lineEndings ending
  have filled' : lines' ≠ [] := by
    obtain ⟨l, rest, rfl⟩ := List.exists_cons_of_ne_nil filled
    exact List.ne_nil_of_mem (h.subset List.mem_cons_self)
  have pieces := split_join eolFilled unbordered filled free
  have pieces' := split_join eolFilled unbordered filled' free'
  have texts : Extends ps (split eol (join eol lines)) (split eol (join eol lines')) := by
    rwa [pieces, pieces']
  rcases alignInPasses_extends ending some compiles texts startLine tabSize with
    tooLong | ⟨rewrite, ⟨b, done, made⟩, ⟨b', done', made'⟩, still⟩
  · exact .inl tooLong
  · rw [pieces] at made
    rw [pieces'] at made'
    exact .inr ⟨rewrite, ⟨b, done, made⟩, ⟨b', done', made'⟩, still⟩

/-- **Alignment does not depend on the order of lines or on unrelated lines**, whatever the engine is.
Lines taken in another order are aligned to the same lines in that order. A line in which no pass
finds a separator, put in anywhere, stays as it is and leaves the others as they would be without it.
Where a padding cannot be written, it cannot be written either way. -/
theorem alignInPasses_independent (ending : eol ∈ lineEndings) (some : ps ≠ [])
    (compiles : ∀ p ∈ ps, ∃ q, (Pattern.compile p {}).result = .ok q) (filled : lines ≠ [])
    (free : ∀ l ∈ lines, ¬ eol <:+: l) (startLine tabSize : Int) :
    (∀ σ : Equiv.Perm (Fin lines.length),
      Overgrown eol startLine tabSize ps (join eol lines) ∧
          Overgrown eol startLine tabSize ps (join eol (reordered lines σ)) ∨
        ∃ new : Fin lines.length → Text,
          AlignsTo eol startLine tabSize ps lines (List.ofFn new) ∧
          AlignsTo eol startLine tabSize ps (reordered lines σ) (List.ofFn fun i => new (σ i))) ∧
    ∀ front back extra, lines = front ++ back → ¬ eol <:+: extra →
      (∀ p ∈ ps, FindsNone p extra) →
      Overgrown eol startLine tabSize ps (join eol lines) ∧
          Overgrown eol startLine tabSize ps (join eol (front ++ extra :: back)) ∨
        ∃ newFront newBack, newFront.length = front.length ∧
          AlignsTo eol startLine tabSize ps lines (newFront ++ newBack) ∧
          AlignsTo eol startLine tabSize ps (front ++ extra :: back)
            (newFront ++ extra :: newBack) := by
  constructor
  · intro σ
    have free' : ∀ l ∈ reordered lines σ, ¬ eol <:+: l :=
      fun l inside => free l ((mem_reordered_iff σ).1 inside)
    rcases alignsTo_map_of_extends ending some compiles filled free free'
      (extends_reordered ps lines σ) with tooLong | ⟨rewrite, made, made', -⟩
    · exact .inl tooLong
    · refine .inr ⟨fun i => rewrite (lines.get i), ?_, ?_⟩
      · rwa [List.ofFn_comp', List.ofFn_get]
      · rwa [List.ofFn_comp' _ rewrite]
  · rintro front back extra rfl freeExtra none
    have free' : ∀ l ∈ front ++ extra :: back, ¬ eol <:+: l := by
      intro l inside
      rw [List.mem_append, List.mem_cons] at inside
      rcases inside with early | rfl | late
      · exact free l (List.mem_append_left back early)
      · exact freeExtra
      · exact free l (List.mem_append_right front late)
    rcases alignsTo_map_of_extends ending some compiles filled free free'
      (extends_insert none front back) with tooLong | ⟨rewrite, made, made', still⟩
    · exact .inl tooLong
    · rw [List.map_append] at made
      rw [List.map_append, List.map_cons, still extra none] at made'
      exact .inr ⟨front.map rewrite, back.map rewrite, List.length_map _, made, made'⟩

end Lines

end Engine

/-- Two assignments, and the patterns for their separators. -/
def assignments : List Text := [ofString "a = 1: x", ofString "bbb = 22: y"]
def marks : List Text := [ofString "=", ofString ":"]

theorem alignInPasses_independent_assignments :
    (∃ new : Fin 2 → Text,
      AlignsTo [Code.newline] 0 4 marks
        assignments (List.ofFn new) ∧
      AlignsTo [Code.newline] 0 4 marks
        [ofString "bbb = 22: y", ofString "a = 1: x"] (List.ofFn fun i => new i.rev)) ∧
    ∃ newFront newBack, newFront.length = 1 ∧
      AlignsTo [Code.newline] 0 4 marks
        assignments (newFront ++ newBack) ∧
      AlignsTo [Code.newline] 0 4 marks
        [ofString "a = 1: x", ofString "plain", ofString "bbb = 22: y"]
        (newFront ++ ofString "plain" :: newBack) := by
  have compiles : ∀ p ∈ marks,
      ∃ q, (Pattern.compile p {}).result = .ok q := by
    intro p member
    have reads : (Pattern.compile p {}).result.toOption.isSome := by
      revert p
      decide +kernel
    cases read : (Pattern.compile p {}).result with
    | ok q => exact ⟨q, rfl⟩
    | error e =>
      rw [read] at reads
      cases reads
  have none : ∀ p ∈ marks, FindsNone p (ofString "plain") := by
    have absent : ∀ p ∈ marks,
        ((Pattern.compile p {}).result.toOption.bind fun q =>
          q.search (ofString "plain") 0).isNone := by
      decide +kernel
    intro p member q read m found
    have absent := absent p member
    rw [read] at absent
    simp [Except.toOption, found] at absent
  have fits : ¬ Overgrown [Code.newline] 0 4 marks
      (join [Code.newline] assignments) := by
    rintro ⟨x, failed, -⟩
    have answers : (alignInPasses
        (join [Code.newline] assignments)
        marks 0 [Code.newline] 4).result.toOption.isSome := by
      decide +kernel
    rw [failed] at answers
    cases answers
  obtain ⟨order, insertion⟩ := alignInPasses_independent
    (show [Code.newline] ∈ lineEndings by decide) (show marks ≠ [] by decide) compiles
    (show assignments ≠ [] by decide) (by decide +kernel) 0 4
  constructor
  · have swapped : reordered assignments
        ⟨Fin.rev, Fin.rev, Fin.rev_rev, Fin.rev_rev⟩ =
          [ofString "bbb = 22: y", ofString "a = 1: x"] := by
      decide
    rcases order ⟨Fin.rev, Fin.rev, Fin.rev_rev, Fin.rev_rev⟩ with tooLong | ⟨new, made, made'⟩
    · exact absurd tooLong.1 fits
    · rw [swapped] at made'
      exact ⟨new, made, made'⟩
  · rcases insertion [ofString "a = 1: x"] [ofString "bbb = 22: y"] (ofString "plain") rfl
      (by decide +kernel) none with tooLong | aligned
    · exact absurd tooLong.1 fits
    · exact aligned

end EditorText.Align
