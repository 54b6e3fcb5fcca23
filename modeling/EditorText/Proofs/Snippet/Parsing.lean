import EditorText.Proofs.Snippet.Acceptance
import EditorText.Snippet.Parse

/-!
# Reading whole documents

`parse` answers exactly for the documents of the grammar, each of which has one reading
(`parse_exact`). Any other text is answered with a syntax error at the frontier of the documents,
which says what could have come next (`parse_frontier`).
-/

set_option autoImplicit false

namespace EditorText.Snippet

/-- A document without a scope line is none with one. -/
theorem not_spells_both {t : Text} {kept kept' : List Text} (plain : Spells plainRoute t kept)
    (withScope : Spells scopedRoute t kept') : False := by
  rw [plainRoute_eq] at plain
  rw [scopedRoute_eq] at withScope
  obtain ⟨a, b, _, _, rfl, -, front, back⟩ := plain.split
  obtain ⟨a', b', _, _, same, -, front', back'⟩ := withScope.split
  obtain ⟨-, rfl⟩ := Spells.unique_front tight_plain tight_scoped front back front' back' same
  obtain ⟨r, begins⟩ := spells_word_front back
  obtain ⟨r', begins'⟩ := spells_word_front back'
  rw [begins] at begins'
  exact absurd (List.cons.inj begins').1 (by decide)

/-- A route spells a text in one way. -/
theorem Spells.unique {ps : List Piece} {t : Text} {kept kept' : List Text} (tight : Tight ps)
    (h : Spells ps t kept) (h' : Spells ps t kept') : kept = kept' := by
  have tight' : Tight (ps ++ []) := by rwa [List.append_nil]
  exact (unique_front tight' tight' h .done h' .done rfl).1

/-- The grammar is unambiguous: a text defines one snippet. -/
theorem Document.unique {t : Text} {d d' : Definition} (h : Document t d) (h' : Document t d') :
    d = d' := by
  have spelled := document_iff.1 h
  have spelled' := document_iff.1 h'
  obtain ⟨name, scope, trigger, body⟩ := d
  obtain ⟨name', scope', trigger', body'⟩ := d'
  cases scope with
  | none =>
    cases scope' with
    | none => simpa using Spells.unique tight_plainRoute spelled spelled'
    | some _ => exact (not_spells_both spelled spelled').elim
  | some _ =>
    cases scope' with
    | none => exact (not_spells_both spelled' spelled).elim
    | some _ => simpa using Spells.unique tight_scopedRoute spelled spelled'

theorem insertOnce_ne_nil (t : Text) (ts : List Text) : insertOnce t ts ≠ [] := by
  cases ts with
  | nil => simp [insertOnce]
  | cons u ts =>
    simp only [insertOnce]
    split
    · simp
    · split <;> simp

/-- Something expected has words. -/
theorem exists_message {expected : List Expectation} (some : expected ≠ []) (found : Option Text) :
    ∃ m, message? expected found = .some m := by
  have words : sortOnce (expected.map Expectation.shown) ≠ [] := by
    cases expected with
    | nil => exact absurd rfl some
    | cons e es => exact insertOnce_ne_nil _ _
  simp only [message?, expectedWords?]
  generalize sortOnce (expected.map Expectation.shown) = ts at words
  rcases ts with _ | ⟨t, _ | ⟨u, _ | ⟨v, ts⟩⟩⟩
  · exact absurd rfl words
  all_goals exact ⟨_, rfl⟩

namespace Run

/-- A run that expected something has an error at the furthest place. -/
theorem exists_error {r : Run} (some : r.expected ≠ []) : ∃ e, r.error?.1 = .some e ∧
    e.expected = r.expected ∧ e.location.start.offset = r.furthest := by
  simp only [error?]
  split
  all_goals
    simp only [SyntaxError.ofExpected?, location, position]
    obtain ⟨m, message⟩ := exists_message some _
    rw [message]
    exact ⟨_, rfl, rfl, rfl⟩

/-- What a run has recorded of a trace is what the trace has at its last offset. -/
theorem Records.furthest_eq {r : Run} {trace : Trace} {n : Nat} (records : r.Records trace)
    (top : ∀ m e, (m, e) ∈ trace → m ≤ n) {e : Expectation} (reached : (n, e) ∈ trace) :
    r.furthest = n := by
  have least := records.bound n e reached
  rcases records.reached with none | ⟨d, hd⟩
  · omega
  · have := top _ d hd
    omega

end Run

/-- An error stands at the frontier of the documents and says what could have come next. -/
structure PointsAt (e : SyntaxError) (u v : Text) : Prop where
  place : e.location.start.offset = u.length
  frontier : Frontier IsDocument u v (· ∈ e.expected)

/-- A text is read as the document it is, or answered with the error at its frontier. -/
theorem readAll_cases (text : Text) (source : Option Text) :
    (∃ d, Document text d ∧ readAll text source = .ok d) ∨
    ∃ e u v, text = u ++ v ∧ PointsAt e u v ∧ readAll text source = .error (.syntaxError e) := by
  have judged := Run.snippet_judges text source
  simp only [readAll]
  generalize Run.snippet { input := text, source := source } = outcome at judged
  cases judged with
  | @accepts d last document pos => exact .inl ⟨d, document, if_pos pos⟩
  | @rejects u v trace last split _ records top frontier =>
    obtain ⟨t, document⟩ := frontier.viable
    obtain ⟨e, reached, -⟩ := frontier.complete t document
    have place : last.furthest = u.length := records.furthest_eq top reached
    have same (e : Expectation) : trace.At u.length e ↔ e ∈ last.expected := by
      rw [records.expected_iff, place]
      rfl
    obtain ⟨error, found, expected, offset⟩ :=
      Run.exists_error (List.ne_nil_of_mem ((same e).1 reached))
    refine .inr ⟨error, u, v, split, ⟨by rw [offset, place], ?_⟩, ?_⟩
    · rw [expected]
      exact frontier.congr same
    · simp only [readAll.failWith, found]

theorem parse_result (text : Text) (source : Option Text) :
    (parse text source).result = readAll text source := by
  simp only [parse]
  generalize readAll text source = outcome
  rcases outcome with (e | _) | d <;> rfl

/-- A text is read exactly as the document it is. -/
theorem result_eq_ok_iff (text : Text) (source : Option Text) (d : Definition) :
    (parse text source).result = .ok d ↔ Document text d := by
  rw [parse_result]
  rcases readAll_cases text source with ⟨d', document, read⟩ | ⟨e, u, v, split, points, failed⟩
  · rw [read]
    constructor
    · intro same
      cases same
      exact document
    · intro document'
      rw [document.unique document']
  · rw [failed]
    constructor
    · nofun
    · intro document
      rw [split] at document
      obtain ⟨x, expected, stands⟩ := points.frontier.complete v ⟨d, document⟩
      exact absurd stands (points.frontier.absent x expected)

/-- A text that is no document is answered with the error at its frontier. -/
theorem exists_error_of_rejected {text : Text} {source : Option Text}
    (rejected : ∀ d, (parse text source).result ≠ .ok d) :
    ∃ e u v, text = u ++ v ∧ PointsAt e u v ∧
      (parse text source).result = .error (.syntaxError e) := by
  rcases readAll_cases text source with ⟨d, document, -⟩ | failed
  · exact absurd ((result_eq_ok_iff text source d).2 document) (rejected d)
  · rwa [parse_result]

/-- The texts that are accepted are the documents. -/
theorem accepted_eq (source : Option Text) :
    (fun t => ∃ d, (parse t source).result = .ok d) = IsDocument := by
  funext t
  simp only [result_eq_ok_iff]
  rfl

/-- **Exactness**: a text is read if and only if it is a document, which has one reading. The rule
of a definition has then taken all of the text; every other text is answered with a syntax error,
which never expects the end of the text. -/
theorem parse_exact (text : Text) (source : Option Text) :
    (∀ d, (parse text source).result = .ok d ↔ Document text d) ∧
    (∀ d d', Document text d → Document text d' → d = d') ∧
    ((¬ ∃ d, Document text d) → ∃ e, (parse text source).result = .error (.syntaxError e)) ∧
    (∀ d last, Run.snippet { input := text, source := source } = (some d, last) →
      last.pos = text.length) ∧
    ∀ e, (parse text source).result = .error (.syntaxError e) →
      Expectation.endOfInput ∉ e.expected := by
  refine ⟨result_eq_ok_iff text source, fun d d' => Document.unique, ?_, ?_, ?_⟩
  · intro none
    have rejected (d : Definition) : (parse text source).result ≠ .ok d := fun read =>
      none ⟨d, (result_eq_ok_iff text source d).1 read⟩
    obtain ⟨e, -, -, -, -, failed⟩ := exists_error_of_rejected rejected
    exact ⟨e, failed⟩
  · intro d last answer
    have judged := Run.snippet_judges text source
    rw [answer] at judged
    cases judged with
    | accepts _ pos => exact pos
  · intro e failed expected
    have rejected (d : Definition) : (parse text source).result ≠ .ok d := by
      rw [failed]
      nofun
    obtain ⟨e', u, v, -, points, failed'⟩ := exists_error_of_rejected rejected
    rw [failed] at failed'
    cases failed'
    obtain ⟨t, document, rfl⟩ := points.frontier.sound _ expected
    exact points.frontier.unfinished (by simpa using document)

/-- **The frontier of an error**: every text that is not read is answered with a syntax error. Up to
its offset the text begins a document; every document that goes on from there begins with something
expected, everything expected begins such a document, and nothing expected stands in the text. -/
theorem parse_frontier (text : Text) (source : Option Text)
    (rejected : ∀ d, (parse text source).result ≠ .ok d) :
    ∃ (e : SyntaxError) (k : Nat), (parse text source).result = .error (.syntaxError e) ∧
      e.location.start.offset = k ∧ k ≤ text.length ∧ e.expected ≠ [] ∧
      Frontier (fun t => ∃ d, (parse t source).result = .ok d) (text.take k) (text.drop k)
        (· ∈ e.expected) := by
  obtain ⟨e, u, v, rfl, ⟨place, frontier⟩, failed⟩ := exists_error_of_rejected rejected
  refine ⟨e, u.length, failed, place, by simp, ?_, ?_⟩
  · obtain ⟨t, document⟩ := frontier.viable
    obtain ⟨x, expected, -⟩ := frontier.complete t document
    exact List.ne_nil_of_mem expected
  · rw [accepted_eq]
    simpa using frontier

theorem parse_frontier_of_misspelled :
    ∃ (e : SyntaxError) (k : Nat),
      (parse (Text.ofString "// Nome: x") none).result = .error (.syntaxError e) ∧
      e.location.start.offset = k ∧ k ≤ 10 ∧ e.expected ≠ [] ∧
      Frontier (fun t => ∃ d, (parse t none).result = .ok d)
        ((Text.ofString "// Nome: x").take k) ((Text.ofString "// Nome: x").drop k)
        (· ∈ e.expected) :=
  parse_frontier _ none fun d read => by
    have none : (parse (Text.ofString "// Nome: x") none).result.toOption.isNone := by decide
    rw [read] at none
    cases none

end EditorText.Snippet
