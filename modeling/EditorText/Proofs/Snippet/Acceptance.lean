import EditorText.Proofs.Snippet.Divergence
import EditorText.Proofs.Snippet.Reading

/-!
# Which texts the rule of a definition accepts

The rule of a whole definition judges every text (`Run.snippet_judges`): it answers for a document
of the grammar and has then taken all of it, and on any other text it fails, with the frontier of
the documents in its record.
-/

set_option autoImplicit false

namespace EditorText.Snippet

/-- Something is kept of a row of pieces that has a value or a body. -/
theorem Reads.kept_ne_nil {ps : List Piece} {n : Nat} {w rest : Text} {kept : List Text}
    {trace : Trace} (h : Reads ps n w rest kept trace)
    (keeps : .value ∈ ps ∨ .everything ∈ ps) : kept ≠ [] := by
  induction h with
  | done => simp at keeps
  | @piece p ps _ w _ _ _ _ _ _ _ ih =>
    cases p with
    | value | everything => exact List.cons_ne_nil _ _
    | word _ | blanks | dashes | newlines => exact ih (by simpa using keeps)

/-- Behind a row of pieces that takes everything nothing is left. -/
theorem Reads.rest_eq_nil {ps : List Piece} {n : Nat} {w rest : Text} {kept : List Text}
    {trace : Trace} (h : Reads (ps ++ [.everything]) n w rest kept trace) : rest = [] := by
  obtain ⟨a, b, _, _, _, _, rfl, -, -, -, last⟩ := h.split
  cases last with
  | piece _ stops done =>
    cases done with
    | done =>
      cases rest with
      | nil => rfl
      | cons c r => exact absurd ⟨r, rfl⟩ (stops [c] ⟨c, trivial, rfl⟩)

/-- The pieces before the keyword at which the routes part. -/
def commonFront : List Piece := headerLine Run.nameKeyword ++ lineStart

theorem plainRoute_eq : plainRoute =
    commonFront ++ .word Run.triggerKeyword :: (lineRest ++ (dashLine ++ [.everything])) := rfl

theorem scopedRoute_eq : scopedRoute =
    commonFront ++ .word Run.scopeKeyword :: (lineRest ++ lastLines) := rfl

theorem tight_plain : Tight
    (commonFront ++ .word Run.triggerKeyword :: (lineRest ++ (dashLine ++ [.everything]))) :=
  tight_plainRoute

theorem tight_scoped : Tight (commonFront ++ .word Run.scopeKeyword :: (lineRest ++ lastLines)) :=
  tight_scopedRoute

theorem opening_commonFront (ps : List Piece) (t : Text) : Opening (commonFront ++ ps) t := trivial

theorem apart_keywords : Apart Run.triggerKeyword Run.scopeKeyword :=
  ⟨_, _, _, _, rfl, rfl, by decide, by decide, by decide⟩

/-- A text that begins a document. -/
def IsDocument (text : Text) : Prop := ∃ d, Document text d

theorem isDocument_eq : IsDocument = fun t => Spelled plainRoute t ∨ Spelled scopedRoute t :=
  funext fun _ => propext exists_document_iff

/-- A text on which both routes fail has a frontier, which both traces describe. -/
theorem document_frontier {u u' v v' : Text} {t t' : Trace} (fails : Fails plainRoute 0 u v t)
    (fails' : Fails scopedRoute 0 u' v' t') (same : u ++ v = u' ++ v') :
    ∃ a b, u ++ v = a ++ b ∧ (∀ m e, (m, e) ∈ t ∨ (m, e) ∈ t' → m ≤ a.length) ∧
      Frontier IsDocument a b fun e => t.At a.length e ∨ t'.At a.length e := by
  rw [plainRoute_eq] at fails
  rw [scopedRoute_eq] at fails'
  obtain ⟨a, b, split, top, frontier⟩ := exists_frontier tight_plain tight_scoped
    opening_commonFront apart_keywords fails fails' same
  refine ⟨a, b, split, top, ?_⟩
  rwa [isDocument_eq]

/-- Behind the scope line the route with it alone describes the frontier. -/
theorem scoped_frontier {w x v : Text} {kept : List Text} {s t : Trace}
    (read : Reads (headerLine Run.nameKeyword ++ headerLine Run.scopeKeyword) 0 w (x ++ v) kept s)
    (fails : Fails scopedRoute 0 (w ++ x) v t) :
    Frontier IsDocument (w ++ x) v (t.At (w ++ x).length) := by
  have parts : headerLine Run.nameKeyword ++ headerLine Run.scopeKeyword =
      commonFront ++ .word Run.scopeKeyword :: lineRest := rfl
  rw [parts] at read
  obtain ⟨a, b, kept', _, s', _, rfl, -, -, front, line⟩ := read.split
  cases line with
  | @piece _ _ _ k b _ _ _ keyword _ _ =>
    obtain rfl : k = Run.scopeKeyword := keyword
    have place : a ++ (Run.scopeKeyword ++ b) ++ x = a ++ (Run.scopeKeyword ++ (b ++ x)) := by
      simp
    rw [place, scopedRoute_eq] at fails
    have front' : Reads commonFront 0 a (Run.scopeKeyword ++ (b ++ x) ++ v) kept' s' := by
      simpa using front
    have frontier := frontier_of_keyword tight_scoped tight_plain opening_commonFront
      apart_keywords.symm front' fails
    rw [place, isDocument_eq]
    exact frontier.swap

namespace Run

variable {r last : Run} {u v : Text} {trace : Trace}

/-- A header line that is missing leaves the cursor where it was. -/
theorem pos_of_field_eq_none {keyword : Text} (h : field keyword r = (none, last)) :
    last.pos = r.pos := by
  have back (first second : Rule) (s : Run) (none : andThen r.pos first second s = (none, last)) :
      last.pos = r.pos := by
    simp only [andThen] at none
    split at none
    · split at none
      · cases none
      · cases none
        rfl
    · cases none
      rfl
  exact back _ _ _ h

/-- The rule of a header line fails on its pieces, or answers with its value. -/
theorem field_cases (keyword : Text) (h : r.At u v trace) :
    (∃ w rest more last, v = w ++ rest ∧ Fails (headerLine keyword) u.length w rest more ∧
      field keyword r = (none, last) ∧ last.At u v (trace ++ more)) ∨
    ∃ w rest more value next, v = w ++ rest ∧
      Reads (headerLine keyword) u.length w rest [value] more ∧
      field keyword r = (some value, next) ∧ next.At (u ++ w) rest (trace ++ more) := by
  have line := Obeys.field keyword r u v trace h
  generalize taken : field keyword r = outcome at line
  cases line with
  | @fails w rest more last split failed back =>
    refine .inl ⟨w, rest, more, last, split, failed, rfl, ?_⟩
    have pos : last.pos = u.length := (pos_of_field_eq_none taken).trans h.pos
    rwa [← pos] at back
  | @reads w rest kept more value next split read answer at_next =>
    have some : kept ≠ [] := read.kept_ne_nil (by simp [headerLine, lineStart, lineRest])
    obtain rfl := answer.resolve_left some
    exact .inr ⟨w, rest, more, value, next, split, read, rfl, at_next⟩

/-- The rule of the body fails on its pieces, or answers with all that is left. -/
theorem body_cases (h : r.At u v trace) :
    (∃ w rest more last, v = w ++ rest ∧
      Fails (dashLine ++ [.everything]) u.length w rest more ∧ body r = (none, last) ∧
      (last.moveTo u.length).At u v (trace ++ more)) ∨
    ∃ more text next, Reads (dashLine ++ [.everything]) u.length v [] [text] more ∧
      body r = (some text, next) ∧ next.At (u ++ v) [] (trace ++ more) := by
  have all := Obeys.body r u v trace h
  generalize body r = outcome at all
  cases all with
  | @fails w rest more last split failed back =>
    exact .inl ⟨w, rest, more, last, split, failed, rfl, back⟩
  | @reads w rest kept more text next split read answer at_next =>
    obtain rfl := read.rest_eq_nil
    rw [List.append_nil] at split
    subst split
    have some : kept ≠ [] := read.kept_ne_nil (by simp)
    obtain rfl := answer.resolve_left some
    exact .inr ⟨more, text, next, read, rfl, at_next⟩

/-- The rules from the prefix line on fail on their pieces, or answer with the two values and have
taken all that is left. -/
theorem lastLines_cases (h : r.At u v trace) :
    (∃ w rest more last, v = w ++ rest ∧ Fails lastLines u.length w rest more ∧
      (last.moveTo u.length).At u v (trace ++ more) ∧
      (field triggerKeyword r = (none, last) ∨
        ∃ t next, field triggerKeyword r = (some t, next) ∧ body next = (none, last))) ∨
    ∃ more t text next last, Reads lastLines u.length v [] [t, text] more ∧
      field triggerKeyword r = (some t, next) ∧ body next = (some text, last) ∧
      last.At (u ++ v) [] (trace ++ more) := by
  rcases field_cases triggerKeyword h with
    ⟨w, rest, more, last, rfl, failed, none, at_last⟩ |
    ⟨w, rest, more, t, next, rfl, read, some, at_next⟩
  · exact .inl ⟨w, rest, more, last, rfl, failed.append _, at_last.moveTo rfl, .inl none⟩
  · rcases body_cases at_next with
      ⟨x, rest, further, last, rfl, failed, none, at_last⟩ |
      ⟨further, text, last, read', some', at_last⟩
    · have failed' : Fails (dashLine ++ [.everything]) (u.length + w.length) x rest further := by
        simpa using failed
      have back : (last.moveTo u.length).At u (w ++ (x ++ rest)) (trace ++ more ++ further) :=
        at_last.moveTo (List.append_assoc ..)
      rw [List.append_assoc] at back
      exact .inl ⟨w ++ x, rest, more ++ further, last, (List.append_assoc ..).symm,
        read.append_fails failed', back, .inr ⟨t, next, some, none⟩⟩
    · have read'' : Reads (dashLine ++ [.everything]) (u.length + w.length) rest [] [text]
          further := by
        simpa using read'
      have whole := Reads.append (by simpa using read) read''
      refine .inr ⟨more ++ further, t, text, next, last, whole, some, some', ?_⟩
      simpa using at_last

/-- What becomes of a text: it is a document, and the reading ends behind it, or it is none, and the
reading has recorded what could have come at the frontier of the documents, and nothing behind it.
-/
inductive Judges (text : Text) : Option Definition × Run → Prop where
  | accepts {d : Definition} {last : Run} :
      Document text d → last.pos = text.length → Judges text (some d, last)
  | rejects {u v : Text} {trace : Trace} {last : Run} :
      text = u ++ v → last.input = text → last.Records trace →
      (∀ m e, (m, e) ∈ trace → m ≤ u.length) →
      Frontier IsDocument u v (trace.At u.length) → Judges text (none, last)

/-- Two routes that fail leave their traces together. -/
theorem Judges.of_fails {text u u' v v' : Text} {t t' trace : Trace} {last : Run}
    (fails : Fails plainRoute 0 u v t) (fails' : Fails scopedRoute 0 u' v' t')
    (split : text = u ++ v) (split' : text = u' ++ v') (input : last.input = text)
    (records : last.Records trace) (both : ∀ x, x ∈ trace ↔ x ∈ t ∨ x ∈ t') :
    Judges text (none, last) := by
  obtain ⟨a, b, whole, top, frontier⟩ := document_frontier fails fails' (split ▸ split')
  refine .rejects (split.trans whole) input records ?_ (frontier.congr fun e => (both _).symm)
  exact fun m e he => top m e ((both _).1 he)

/-- The rules from the prefix line on, behind a name and perhaps a scope. -/
def snippetRest (start : Int) (name : Text) (scope : Option Text) (r : Run) :
    Option Definition × Run :=
  match field triggerKeyword r with
  | (none, next) => (none, next.moveTo start)
  | (some trigger, next) =>
    match body next with
    | (none, next) => (none, next.moveTo start)
    | (some text, next) => (some ⟨name, scope, trigger, text⟩, next)

theorem snippet_eq (r : Run) : snippet r =
    match field nameKeyword r with
    | (none, next) => (none, next.moveTo r.pos)
    | (some name, next) =>
      let (scope, next) := field scopeKeyword next
      snippetRest r.pos name scope next := by
  unfold snippet snippetRest
  rcases field nameKeyword r with ⟨_ | name, next⟩
  · rfl
  · rcases field scopeKeyword next with ⟨scope, next⟩
    rcases field triggerKeyword next with ⟨_ | trigger, next⟩
    · rfl
    · rcases body next with ⟨_ | text, next⟩ <;> rfl

/-- The rules from the prefix line on fail, or they have taken all that is left. -/
theorem snippetRest_cases (start : Int) (name : Text) (scope : Option Text) (h : r.At u v trace) :
    (∃ w rest more last, v = w ++ rest ∧ Fails lastLines u.length w rest more ∧
      snippetRest start name scope r = (none, last) ∧ last.input = u ++ v ∧
      last.Records (trace ++ more)) ∨
    ∃ more trigger text last, Reads lastLines u.length v [] [trigger, text] more ∧
      snippetRest start name scope r = (some ⟨name, scope, trigger, text⟩, last) ∧
      last.pos = (u ++ v).length := by
  simp only [snippetRest]
  rcases lastLines_cases h with ⟨w, rest, more, last, split, failed, at_last, outcome⟩ |
    ⟨more, trigger, text, next, last, read, some, some', at_last⟩
  · refine .inl ⟨w, rest, more, last.moveTo start, split, failed, ?_, at_last.input,
      at_last.records.moveTo start⟩
    rcases outcome with none | ⟨t, next, some, none⟩
    · simp only [none]
    · simp only [some, none]
  · refine .inr ⟨more, trigger, text, last, read, ?_, at_last.pos⟩
    simp only [some, some']

/-- Without a scope line the text is judged by what follows the name line. -/
theorem Judges.of_plain {w rest x y name : Text} {s s' : Trace} {r : Run} (start : Int)
    (read : Reads (headerLine nameKeyword) 0 w rest [name] s)
    (missing : Fails (headerLine scopeKeyword) w.length x y s') (split : rest = x ++ y)
    (h : r.At w rest (s ++ s')) : Judges (w ++ rest) (snippetRest start name none r) := by
  have behind : 0 + w.length = w.length := Nat.zero_add _
  rcases snippetRest_cases start name none h with
    ⟨x', y', further, last, split', failed, outcome, input, records⟩ |
    ⟨further, trigger, text, last, read', outcome, pos⟩
  · rw [outcome]
    have plain : Fails plainRoute 0 (w ++ x') y' (s ++ further) :=
      (split' ▸ read).append_fails (by rwa [behind])
    have withScope : Fails scopedRoute 0 (w ++ x) y (s ++ s') :=
      (split ▸ read).append_fails (behind.symm ▸ missing.append lastLines)
    refine .of_fails plain withScope (by simp [split']) (by simp [split]) input records fun e => ?_
    simp only [List.mem_append]
    grind
  · rw [outcome]
    have front : Reads (headerLine nameKeyword) 0 w (rest ++ []) [name] s := by simpa using read
    have whole := front.append (behind.symm ▸ read')
    exact .accepts (document_iff.2 (whole.spells tight_plainRoute trivial)) pos

/-- With a scope line the text is judged by what follows it. -/
theorem Judges.of_scoped {w rest name scope : Text} {s : Trace} {r : Run} (start : Int)
    (read : Reads (headerLine nameKeyword ++ headerLine scopeKeyword) 0 w rest [name, scope] s)
    (h : r.At w rest s) : Judges (w ++ rest) (snippetRest start name (some scope) r) := by
  have behind : 0 + w.length = w.length := Nat.zero_add _
  rcases snippetRest_cases start name (some scope) h with
    ⟨x, y, further, last, rfl, failed, outcome, input, records⟩ |
    ⟨further, trigger, text, last, read', outcome, pos⟩
  · rw [outcome]
    have withScope : Fails scopedRoute 0 (w ++ x) y (s ++ further) :=
      read.append_fails (behind.symm ▸ failed)
    refine .rejects (List.append_assoc w x y).symm input records ?_ (scoped_frontier read withScope)
    intro m e he
    simpa using withScope.bound he
  · rw [outcome]
    have front : Reads (headerLine nameKeyword ++ headerLine scopeKeyword) 0 w (rest ++ [])
        [name, scope] s := by simpa using read
    have whole := front.append (behind.symm ▸ read')
    rw [List.append_assoc (headerLine _)] at whole
    exact .accepts (document_iff.2 (whole.spells tight_scopedRoute trivial)) pos

/-- The rule of a definition judges every text. -/
theorem snippet_judges (text : Text) (source : Option Text) :
    Judges text (snippet { input := text, source := source }) := by
  have start := at_start text source
  rw [snippet_eq]
  rcases field_cases nameKeyword start with
    ⟨w, rest, more, last, rfl, failed, none, at_last⟩ |
    ⟨w, rest, more, name, next, rfl, read, some, at_next⟩
  · simp only [none]
    refine .of_fails (failed.append _) (failed.append _) rfl rfl at_last.input
      (at_last.records.moveTo _) ?_
    simp
  · simp only [some]
    simp only [List.nil_append, List.length_nil] at read at_next
    rcases field_cases scopeKeyword at_next with
      ⟨x, y, more', last, split, missing, none', at_last⟩ |
      ⟨x, y, more', scope, next', rfl, line, some', at_next'⟩
    · simp only [none']
      exact .of_plain _ read missing split at_last
    · simp only [some']
      have both := read.append (by rwa [Nat.zero_add])
      rw [← List.append_assoc]
      exact .of_scoped _ both at_next'

end Run

end EditorText.Snippet
