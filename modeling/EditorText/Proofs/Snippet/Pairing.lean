import EditorText.Proofs.Snippet.Acceptance
import EditorText.Proofs.Text.Following

/-!
# Carriage returns before the body

The grammar allows a carriage return before the body only as part of a line end. So each one there
has its line feed behind it (`Paired`), in the lines of a document (`paired_headerLine`,
`paired_scopeLine`, `paired_dashLine`) as well as before any place where a reading has recorded a
failure (`paired_furthest`).
-/

set_option autoImplicit false

namespace EditorText.Snippet

open Text (EachBehind)

/-- Every carriage return is followed by a line feed. -/
def Paired : Text → Prop :=
  EachBehind Code.carriageReturn ([Code.newline] <+: ·)

theorem paired_of_not_mem {t : Text} (absent : Code.carriageReturn ∉ t) : Paired t :=
  Text.eachBehind_of_not_mem absent

theorem Paired.append {s t : Text} (hs : Paired s) (ht : Paired t) : Paired (s ++ t) :=
  EachBehind.append (fun _ z front => front.trans (List.prefix_append _ z)) hs ht

theorem paired_lineEndUnit {e : Text} (unit : LineEndUnit e) : Paired e := by
  rcases unit with rfl | rfl
  · exact paired_of_not_mem (by decide)
  · refine Text.eachBehind_cons_iff.2 ⟨fun _ => List.prefix_refl _, ?_⟩
    exact Text.eachBehind_of_not_mem (by decide)

theorem paired_sequence {t : Text} (h : Sequence LineEndUnit t) : Paired t := by
  induction h with
  | nil => exact Text.eachBehind_nil
  | cons unit _ ih => exact (paired_lineEndUnit unit).append ih

/-- A piece that takes carriage returns only in line ends. -/
def Piece.Level : Piece → Prop
  | word t => Code.carriageReturn ∉ t
  | blanks | dashes | value | newlines => True
  | everything => False

theorem paired_of_fills {p : Piece} {w : Text} (level : p.Level) (h : p.Fills w) : Paired w := by
  have codes {holds : Code → Prop} (none : ¬ holds Code.carriageReturn)
      (seq : Sequence (CodeUnit holds) w) : Paired w :=
    paired_of_not_mem fun inside => none (Sequence.codes_iff.1 seq _ inside)
  cases p with
  | word t =>
    obtain rfl : w = t := h
    exact paired_of_not_mem level
  | blanks => exact codes (by decide) h.2
  | dashes => exact codes (by decide) h.2
  | value => exact codes (by decide) h.2
  | newlines => exact paired_sequence h.2
  | everything => exact level.elim

/-- Pieces that take carriage returns only in line ends. -/
def Level (ps : List Piece) : Prop := ∀ p ∈ ps, p.Level

section Routes

variable {ps : List Piece} {keyword u w t rest : Text} {kept : List Text} {trace more : Trace}

theorem Spells.paired (level : Level ps) (h : Spells ps t kept) : Paired t := by
  induction h with
  | done => exact Text.eachBehind_nil
  | piece hw _ ih =>
    obtain ⟨first, others⟩ := List.forall_mem_cons.1 level
    exact (paired_of_fills first hw.1).append (ih others)

theorem level_headerLine (plain : Code.carriageReturn ∉ keyword) : Level (headerLine keyword) := by
  have slashes : Code.carriageReturn ∉ [Code.slash, Code.slash] := by decide
  have colon : Code.carriageReturn ∉ [Code.colon] := by decide
  simp [Level, headerLine, lineStart, lineRest, Piece.Level, plain, slashes, colon]

theorem level_dashLine : Level dashLine := by
  have slashes : Code.carriageReturn ∉ [Code.slash, Code.slash] := by decide
  have dash : Code.carriageReturn ∉ [Code.dash] := by decide
  simp [Level, dashLine, Piece.Level, slashes, dash]

theorem level_lastLines : Level lastLines.dropLast := by
  have lines : lastLines.dropLast = headerLine Run.triggerKeyword ++ dashLine := rfl
  rw [lines, Level, List.forall_mem_append]
  exact ⟨level_headerLine (by decide), level_dashLine⟩

theorem paired_headerLine {value : Text} (plain : Code.carriageReturn ∉ keyword)
    (h : HeaderLine keyword value t) : Paired t :=
  (spells_headerLine_iff.2 ⟨value, rfl, h⟩).paired (level_headerLine plain)

theorem paired_scopeLine {scope : Option Text} (h : ScopeLine scope t) : Paired t := by
  cases h with
  | missing => exact Text.eachBehind_nil
  | present line => exact paired_headerLine (by decide) line

theorem paired_dashLine (h : DashLine t) : Paired t :=
  (spells_dashLine_iff.2 ⟨rfl, h⟩).paired level_dashLine

/-- Before each place of a trace every carriage return is followed by a line feed. -/
def Settled (text : Text) (trace : Trace) : Prop := ∀ n e, (n, e) ∈ trace → Paired (text.take n)

theorem Settled.append (h : Settled t trace) (h' : Settled t more) : Settled t (trace ++ more) := by
  intro n e member
  rcases List.mem_append.1 member with early | late
  · exact h n e early
  · exact h' n e late

theorem settled_trace (hu : Paired u) (p : Piece) (rest : Text) :
    Settled (u ++ rest) (p.trace u.length) := by
  intro n e member
  obtain ⟨rfl, -⟩ := Piece.mem_trace_iff.1 member
  rwa [List.take_left]

/-- What is read piece by piece keeps carriage returns and line feeds together. -/
theorem Reads.settled {n : Nat} (level : Level ps) (h : Reads ps n w rest kept trace)
    (place : n = u.length) (hu : Paired u) : Paired (u ++ w) ∧ Settled (u ++ w ++ rest) trace := by
  induction h generalizing u with
  | done => exact ⟨by simpa using hu, nofun⟩
  | @piece p ps n w t rest kept trace hw _ _ ih =>
    subst place
    obtain ⟨first, others⟩ := List.forall_mem_cons.1 level
    have front : Paired (u ++ w) := hu.append (paired_of_fills first hw)
    obtain ⟨paired, settled⟩ := ih others List.length_append.symm front
    have here := settled_trace front p (t ++ rest)
    simp only [List.append_assoc, List.length_append] at paired settled here ⊢
    exact ⟨paired, here.append settled⟩

/-- So does what is read up to a piece that cannot be taken. The last piece is never behind that
place, and may be any. -/
theorem Fails.settled {n : Nat} (level : Level ps.dropLast) (h : Fails ps n w rest trace)
    (place : n = u.length) (hu : Paired u) : Settled (u ++ w ++ rest) trace := by
  induction h generalizing u with
  | @here p ps n rest _ =>
    subst place
    intro m e member
    obtain ⟨rfl, -⟩ := Prod.mk.inj (List.mem_singleton.1 member)
    rw [List.append_nil, List.take_left]
    exact hu
  | @later p ps n w t rest trace hw _ behind ih =>
    subst place
    have more : ps ≠ [] := by
      rintro rfl
      cases behind
    rw [List.dropLast_cons_of_ne_nil more] at level
    obtain ⟨first, others⟩ := List.forall_mem_cons.1 level
    have front : Paired (u ++ w) := hu.append (paired_of_fills first hw)
    have settled := ih others List.length_append.symm front
    have here := settled_trace front p (t ++ rest)
    simp only [List.append_assoc, List.length_append] at settled here ⊢
    exact here.append settled

end Routes

namespace Run

/-- The furthest place of a run is one of its trace, or the start. -/
theorem Records.paired {r : Run} {text : Text} {trace : Trace} (records : r.Records trace)
    (settled : Settled text trace) : Paired (text.take r.furthest) := by
  rcases records.reached with start | ⟨e, reached⟩
  · rw [start]
    exact Text.eachBehind_nil
  · exact settled _ e reached

theorem snippetRest_paired {r last : Run} {u v name : Text} {scope : Option Text} {trace : Trace}
    {start : Int} (h : r.At u v trace) (hu : Paired u) (settled : Settled (u ++ v) trace)
    (rejected : snippetRest start name scope r = (none, last)) :
    Paired ((u ++ v).take last.furthest) := by
  rcases snippetRest_cases start name scope h with
    ⟨w, rest, more, last', rfl, failed, outcome, -, records⟩ |
    ⟨more, trigger, text, last', -, outcome, -⟩
  · rw [outcome] at rejected
    cases rejected
    have further := failed.settled level_lastLines rfl hu
    rw [List.append_assoc] at further
    exact records.paired (settled.append further)
  · rw [outcome] at rejected
    cases rejected

/-- **Before the furthest place of a reading every carriage return is followed by a line feed.** -/
theorem paired_furthest {text : Text} {source : Option Text} {last : Run}
    (rejected : snippet { input := text, source := source } = (none, last)) :
    Paired (text.take last.furthest) := by
  have start := at_start text source
  have front {k : Text} (plain : Code.carriageReturn ∉ k) : Level (headerLine k).dropLast :=
    fun p member => level_headerLine plain p (List.dropLast_subset _ member)
  rw [snippet_eq] at rejected
  rcases field_cases nameKeyword start with
    ⟨w, rest, more, last', rfl, failed, none, at_last⟩ |
    ⟨w, rest, more, name, next, rfl, read, some, at_next⟩
  · simp only [none] at rejected
    cases rejected
    exact at_last.records.paired (failed.settled (front (by decide)) rfl Text.eachBehind_nil)
  · simp only [some] at rejected
    obtain ⟨paired, settled⟩ := read.settled (level_headerLine (by decide)) rfl Text.eachBehind_nil
    simp only [List.nil_append] at paired settled at_next
    rcases field_cases scopeKeyword at_next with
      ⟨x, y, more', last', rfl, missing, none', at_last⟩ |
      ⟨x, y, more', scope, next', rfl, line, some', at_next'⟩
    · simp only [none'] at rejected
      have further := missing.settled (front (by decide)) rfl paired
      rw [List.append_assoc] at further
      exact snippetRest_paired at_last paired (settled.append further) rejected
    · simp only [some'] at rejected
      obtain ⟨paired', further⟩ := line.settled (level_headerLine (by decide)) rfl paired
      rw [← List.append_assoc] at settled ⊢
      exact snippetRest_paired at_next' paired' (settled.append further) rejected

end Run

end EditorText.Snippet
