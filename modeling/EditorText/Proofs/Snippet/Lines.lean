import EditorText.Proofs.Snippet.Route

/-!
# The routes of a definition

A definition without a scope line follows `plainRoute` and one with it `scopedRoute`. Both routes
are tight, and what they spell is what `Document` describes.
-/

set_option autoImplicit false

namespace EditorText.Snippet

/-- The pieces before a keyword. -/
def lineStart : List Piece := [.word [Code.slash, Code.slash], .blanks]

/-- The pieces behind a keyword. -/
def lineRest : List Piece := [.blanks, .word [Code.colon], .blanks, .value, .newlines]

/-- The pieces of a header line. -/
def headerLine (keyword : Text) : List Piece := lineStart ++ .word keyword :: lineRest

/-- The pieces of the line of dashes. -/
def dashLine : List Piece :=
  [.word [Code.slash, Code.slash], .blanks, .word [Code.dash], .dashes, .blanks, .newlines]

/-- The pieces from the prefix line on. -/
def lastLines : List Piece := headerLine Run.triggerKeyword ++ (dashLine ++ [.everything])

/-- The pieces of a definition without a scope line. -/
def plainRoute : List Piece := headerLine Run.nameKeyword ++ lastLines

/-- The pieces of a definition with a scope line. -/
def scopedRoute : List Piece :=
  headerLine Run.nameKeyword ++ (headerLine Run.scopeKeyword ++ lastLines)

section Follow

variable {ps : List Piece} {c : Code} {t : Text}

theorem stops_codes_iff {p : Piece} {holds : Code → Prop} (unit : p.Unit = CodeUnit holds)
    {rest : Text} : p.Stops rest ↔ ∀ d r, rest = d :: r → ¬ holds d := by
  have begins := @codeUnit_begins_iff holds rest
  simp only [Piece.Stops, unit]
  constructor
  · intro h d r same hd
    obtain ⟨x, hx, front⟩ := begins.2 ⟨d, r, same, hd⟩
    exact h x hx front
  · intro h x hx front
    obtain ⟨d, r, same, hd⟩ := begins.1 ⟨x, hx, front⟩
    exact h d r same hd

/-- A piece whose rounds are single characters fits a route that begins with none of them. -/
theorem follow_of_codes (p : Piece) {holds : Code → Prop} (repeats : ∀ t, p ≠ .word t)
    (unit : p.Unit = CodeUnit holds) (final : p = .everything → ps = [])
    (starts : ∀ s kept, Spells ps s kept → ∀ d r, s = d :: r → ¬ holds d)
    (opens : ∀ rest, (∀ d r, rest = d :: r → ¬ holds d) → Opening ps rest) : Follow p ps where
  solid t same := absurd same (repeats t)
  final := final
  stops s kept h := (stops_codes_iff unit).2 (starts s kept h)
  opens rest h := opens rest ((stops_codes_iff unit).1 h)
  sharp _ _ d s rest _ _ h := by
    rintro c r more same stands
    have none : ¬ holds c := (stops_codes_iff unit).1 h c r same
    have stops : p.Stops (c :: more) := by
      rw [stops_codes_iff unit]
      rintro d r same
      cases same
      exact none
    exact Piece.not_standsAt repeats stops stands

/-- A word fits any route that may begin with everything. -/
theorem follow_word (filled : t ≠ []) (opens : ∀ rest, Opening ps rest) : Follow (.word t) ps where
  solid s same := by cases same; exact filled
  final := nofun
  stops _ _ _ _ hx := hx.elim
  opens rest _ := opens rest
  sharp repeats := absurd rfl (repeats t)

theorem spells_word_front {s : Text} {kept : List Text} (h : Spells (.word (c :: t) :: ps) s kept) :
    ∃ r, s = c :: r := by
  cases h with
  | @piece _ _ w s _ hw _ =>
    obtain rfl : w = c :: t := hw.1
    exact ⟨t ++ s, rfl⟩

theorem spells_newlines_front {s : Text} {kept : List Text}
    (h : Spells (.newlines :: ps) s kept) :
    ∃ d r, s = d :: r ∧ (d = Code.carriageReturn ∨ d = Code.newline) := by
  cases h with
  | @piece _ _ w s _ hw _ =>
    obtain ⟨x, hx, r, rfl⟩ := hw.1.2.begins (hw.1.1 rfl)
    rcases hx with rfl | rfl
    · exact ⟨_, _, rfl, .inr rfl⟩
    · exact ⟨_, _, rfl, .inl rfl⟩

theorem follow_blanks_word (c_ok : ¬ IsSpaceOrTab c) : Follow .blanks (.word (c :: t) :: ps) := by
  refine follow_of_codes .blanks nofun rfl nofun ?_ ?_
  · rintro s kept h d r rfl
    obtain ⟨r', same⟩ := spells_word_front h
    cases same
    exact c_ok
  · exact fun _ _ => trivial

theorem follow_blanks_value : Follow .blanks (.value :: ps) := by
  refine follow_of_codes .blanks nofun rfl nofun ?_ ?_
  · intro s kept h d r same
    cases h with
    | @piece _ _ w s _ hw _ =>
      cases w with
      | nil => exact absurd rfl (hw.1.1 rfl)
      | cons e w =>
        cases same
        exact hw.2 _ _ rfl
  · exact fun _ h => h

theorem follow_blanks_newlines : Follow .blanks (.newlines :: ps) := by
  refine follow_of_codes .blanks nofun rfl nofun ?_ ?_
  · intro s kept h d r same
    obtain ⟨e, r', rfl, he⟩ := spells_newlines_front h
    cases same
    rcases he with rfl | rfl <;> decide
  · exact fun _ _ => trivial

theorem follow_dashes : Follow .dashes (.blanks :: .newlines :: ps) := by
  refine follow_of_codes .dashes nofun rfl nofun ?_ ?_
  · intro s kept h d r same
    cases h with
    | @piece _ _ w s _ hw hs =>
      cases w with
      | nil =>
        obtain ⟨e, r', rfl, he⟩ := spells_newlines_front hs
        cases same
        rcases he with rfl | rfl <;> decide
      | cons e w =>
        cases same
        have blank : IsSpaceOrTab d := Sequence.codes_iff.1 hw.1.2 d (by simp)
        rcases blank with rfl | rfl <;> decide
  · exact fun _ _ => trivial

theorem follow_value : Follow .value (.newlines :: ps) := by
  refine follow_of_codes .value nofun rfl nofun ?_ ?_
  · intro s kept h d r same
    obtain ⟨e, r', rfl, he⟩ := spells_newlines_front h
    cases same
    rcases he with rfl | rfl <;> decide
  · exact fun _ _ => trivial

theorem follow_everything : Follow .everything [] := by
  refine follow_of_codes .everything nofun rfl (fun _ => rfl) ?_ ?_
  · rintro s kept h d r rfl
    cases h
  · exact fun _ _ => trivial

/-- A line end and what follows it share their first character only if that is a carriage return or
a line feed. -/
theorem newlines_sharp {rest : Text} (h : ∀ d r, rest = d :: r → IsInLine d) :
    Piece.newlines.Sharp rest := by
  intro d r s same stands
  have repeats : ∀ t, Piece.newlines ≠ .word t := nofun
  obtain ⟨x, hx, r', front⟩ := (Piece.standsAt_iff repeats _).1 stands
  have inLine : IsInLine d := h d r same
  rcases hx with rfl | rfl
  · exact inLine.2 (List.cons.inj front).1.symm
  · exact inLine.1 (List.cons.inj front).1.symm

theorem follow_newlines_word (c_ok : IsInLine c) : Follow .newlines (.word (c :: t) :: ps) where
  solid := nofun
  final := nofun
  stops s kept h x hx front := by
    obtain ⟨r, rfl⟩ := spells_word_front h
    obtain ⟨r', same⟩ := front
    rcases hx with rfl | rfl
    · exact c_ok.2 (List.cons.inj same).1.symm
    · exact c_ok.1 (List.cons.inj same).1.symm
  opens _ _ := trivial
  sharp _ n d s rest trace h _ := by
    apply newlines_sharp
    rintro e r same
    generalize whole : d :: s = u at h same
    cases h with
    | here _ => cases whole
    | @later _ _ _ w s _ trace hw _ _ =>
      obtain rfl : w = c :: t := hw
      cases same
      exact c_ok

theorem follow_newlines_everything : Follow .newlines [.everything] where
  solid := nofun
  final := nofun
  stops s kept h := by
    cases h with
    | @piece _ _ w s _ hw hs =>
      cases hs
      simpa [Piece.Stops, Piece.Opens, Piece.Unit] using hw.2
  opens _ h := h
  sharp _ n d s rest trace h _ := by
    generalize whole : d :: s = u at h
    cases h with
    | here _ => cases whole
    | later _ _ h => cases h

theorem tight_headerLine {keyword : Text} (front : keyword = c :: t) (c_ok : ¬ IsSpaceOrTab c)
    (behind : Follow .newlines ps) (tight : Tight ps) : Tight (headerLine keyword ++ ps) := by
  subst front
  exact ⟨follow_word (by simp) fun _ => trivial, follow_blanks_word c_ok,
    follow_word (by simp) fun _ => trivial, follow_blanks_word (by decide),
    follow_word (by simp) fun _ => trivial, follow_blanks_value, follow_value, behind, tight⟩

end Follow

theorem follow_newlines_slash {ps : List Piece} :
    Follow .newlines (.word [Code.slash, Code.slash] :: ps) :=
  follow_newlines_word (by decide)

theorem tight_lastLines : Tight lastLines := by
  refine tight_headerLine rfl (by decide) follow_newlines_slash ?_
  exact ⟨follow_word (by simp) fun _ => trivial, follow_blanks_word (by decide),
    follow_word (by simp) fun _ => trivial, follow_dashes, follow_blanks_newlines,
    follow_newlines_everything, follow_everything, trivial⟩

theorem tight_plainRoute : Tight plainRoute :=
  tight_headerLine rfl (by decide) follow_newlines_slash tight_lastLines

theorem tight_scopedRoute : Tight scopedRoute :=
  tight_headerLine rfl (by decide) follow_newlines_slash
    (tight_headerLine rfl (by decide) follow_newlines_slash tight_lastLines)

section Document

variable {p : Piece} {ps qs : List Piece} {w t : Text} {kept : List Text}

theorem holds_word (s : Text) : (Piece.word s).Holds s := ⟨rfl, trivial⟩

theorem holds_blanks_iff : Piece.blanks.Holds w ↔ Blanks w := by
  simp [Piece.Holds, Piece.Fills, Piece.Opens, Piece.required, Piece.Unit, Sequence.codes_iff,
    Blanks]

theorem holds_dashes_iff : Piece.dashes.Holds w ↔ ∀ c ∈ w, c = Code.dash := by
  simp [Piece.Holds, Piece.Fills, Piece.Opens, Piece.required, Piece.Unit, Sequence.codes_iff]

theorem holds_value_iff : Piece.value.Holds w ↔ FieldValue w := by
  simp [Piece.Holds, Piece.Fills, Piece.Opens, Piece.required, Piece.Unit, Sequence.codes_iff,
    FieldValue, and_assoc]

theorem holds_newlines_iff : Piece.newlines.Holds w ↔ LineEnds w := by
  simp [Piece.Holds, Piece.Fills, Piece.Opens, Piece.required, Piece.Unit, LineEnds]

theorem holds_everything_iff : Piece.everything.Holds w ↔ BodyText w := by
  simp [Piece.Holds, Piece.Fills, Piece.Opens, Piece.required, Piece.Unit, Sequence.codes_iff,
    BodyText]

/-- A header line keeps its value. -/
theorem spells_headerLine_iff {keyword : Text} :
    Spells (headerLine keyword) t kept ↔ ∃ v, kept = [v] ∧ HeaderLine keyword v t := by
  constructor
  · intro h
    obtain - | @⟨_, _, _, _, _, ⟨rfl, -⟩, h⟩ := h
    obtain - | @⟨_, _, b₁, _, _, h₁, h⟩ := h
    obtain - | @⟨_, _, _, _, _, ⟨rfl, -⟩, h⟩ := h
    obtain - | @⟨_, _, b₂, _, _, h₂, h⟩ := h
    obtain - | @⟨_, _, _, _, _, ⟨rfl, -⟩, h⟩ := h
    obtain - | @⟨_, _, b₃, _, _, h₃, h⟩ := h
    obtain - | @⟨_, _, v, _, _, hv, h⟩ := h
    obtain - | @⟨_, _, e, _, _, he, h⟩ := h
    cases h
    refine ⟨v, rfl, b₁, b₂, b₃, e, holds_blanks_iff.1 h₁, holds_blanks_iff.1 h₂,
      holds_blanks_iff.1 h₃, holds_value_iff.1 hv, holds_newlines_iff.1 he, ?_⟩
    simp
  · rintro ⟨v, rfl, b₁, b₂, b₃, e, h₁, h₂, h₃, hv, he, rfl⟩
    have spelled := Spells.piece (holds_word [Code.slash, Code.slash]) <|
      .piece (holds_blanks_iff.2 h₁) <| .piece (holds_word keyword) <|
      .piece (holds_blanks_iff.2 h₂) <| .piece (holds_word [Code.colon]) <|
      .piece (holds_blanks_iff.2 h₃) <| .piece (holds_value_iff.2 hv) <|
      .piece (holds_newlines_iff.2 he) .done
    simpa [Piece.kept, headerLine, lineStart, lineRest] using spelled

/-- The line of dashes keeps nothing. -/
theorem spells_dashLine_iff : Spells dashLine t kept ↔ kept = [] ∧ DashLine t := by
  constructor
  · intro h
    obtain - | @⟨_, _, _, _, _, ⟨rfl, -⟩, h⟩ := h
    obtain - | @⟨_, _, b₁, _, _, h₁, h⟩ := h
    obtain - | @⟨_, _, _, _, _, ⟨rfl, -⟩, h⟩ := h
    obtain - | @⟨_, _, d, _, _, hd, h⟩ := h
    obtain - | @⟨_, _, b₂, _, _, h₂, h⟩ := h
    obtain - | @⟨_, _, e, _, _, he, h⟩ := h
    cases h
    have dashes : Dashes (Code.dash :: d) := ⟨by simp, by simpa using holds_dashes_iff.1 hd⟩
    refine ⟨rfl, b₁, Code.dash :: d, b₂, e, holds_blanks_iff.1 h₁, dashes, holds_blanks_iff.1 h₂,
      holds_newlines_iff.1 he, ?_⟩
    simp
  · rintro ⟨rfl, b₁, d, b₂, e, h₁, ⟨filled, hd⟩, h₂, he, rfl⟩
    obtain ⟨c, d, rfl⟩ := List.exists_cons_of_ne_nil filled
    obtain rfl : c = Code.dash := hd c (by simp)
    have more : ∀ c ∈ d, c = Code.dash := fun c hc => hd c (by simp [hc])
    have spelled := Spells.piece (holds_word [Code.slash, Code.slash]) <|
      .piece (holds_blanks_iff.2 h₁) <| .piece (holds_word [Code.dash]) <|
      .piece (holds_dashes_iff.2 more) <|
      .piece (holds_blanks_iff.2 h₂) <| .piece (holds_newlines_iff.2 he) .done
    simpa [Piece.kept, dashLine] using spelled

theorem spells_lastLines_iff : Spells lastLines t kept ↔
    ∃ v b p l, kept = [v, b] ∧ HeaderLine Run.triggerKeyword v p ∧ DashLine l ∧ BodyText b ∧
      t = p ++ l ++ b := by
  constructor
  · intro whole
    obtain ⟨p, _, _, _, rfl, rfl, prefixLine, back⟩ := whole.split
    obtain ⟨l, _, _, _, rfl, rfl, dashes, body⟩ := back.split
    obtain ⟨v, rfl, hp⟩ := spells_headerLine_iff.1 prefixLine
    obtain ⟨rfl, hl⟩ := spells_dashLine_iff.1 dashes
    obtain - | @⟨_, _, b, _, _, hb, nothing⟩ := body
    cases nothing
    exact ⟨v, b, p, l, rfl, hp, hl, holds_everything_iff.1 hb, by simp⟩
  · rintro ⟨v, b, p, l, rfl, hp, hl, hb, rfl⟩
    have spelled := (spells_headerLine_iff.2 ⟨v, rfl, hp⟩).append
      ((spells_dashLine_iff.2 ⟨rfl, hl⟩).append (.piece (holds_everything_iff.2 hb) .done))
    simpa [Piece.kept, lastLines] using spelled

/-- A document is what one of the two routes spells. -/
theorem document_iff {d : Definition} : Document t d ↔
    match d.scope with
    | none => Spells plainRoute t [d.name, d.trigger, d.body]
    | some v => Spells scopedRoute t [d.name, v, d.trigger, d.body] := by
  obtain ⟨name, scope, trigger, body⟩ := d
  constructor
  · rintro ⟨n, s, p, l, hn, hs, hp, hl, hb, rfl⟩
    have front := spells_headerLine_iff.2 ⟨name, rfl, hn⟩
    have back := spells_lastLines_iff.2 ⟨trigger, body, p, l, rfl, hp, hl, hb, rfl⟩
    cases hs with
    | missing => simpa [plainRoute] using front.append back
    | @present v _ hs =>
      have middle := spells_headerLine_iff.2 ⟨v, rfl, hs⟩
      simpa [scopedRoute] using front.append (middle.append back)
  · cases scope with
    | none =>
      intro whole
      obtain ⟨n, _, _, _, rfl, kept, front, back⟩ := Spells.split whole
      obtain ⟨v, rfl, hn⟩ := spells_headerLine_iff.1 front
      obtain ⟨u, b, p, l, rfl, hp, hl, hb, rfl⟩ := spells_lastLines_iff.1 back
      simp only [List.singleton_append, List.cons.injEq, and_true] at kept
      obtain ⟨rfl, rfl, rfl⟩ := kept
      exact ⟨n, [], p, l, hn, .missing, hp, hl, hb, by simp⟩
    | some v =>
      intro whole
      obtain ⟨n, _, _, _, rfl, kept, front, further⟩ := Spells.split whole
      obtain ⟨s, _, _, _, rfl, rfl, middle, back⟩ := further.split
      obtain ⟨v', rfl, hn⟩ := spells_headerLine_iff.1 front
      obtain ⟨w, rfl, hs⟩ := spells_headerLine_iff.1 middle
      obtain ⟨u, b, p, l, rfl, hp, hl, hb, rfl⟩ := spells_lastLines_iff.1 back
      simp only [List.cons_append, List.nil_append, List.cons.injEq, and_true] at kept
      obtain ⟨rfl, rfl, rfl, rfl⟩ := kept
      exact ⟨n, s, p, l, hn, .present hs, hp, hl, hb, by simp⟩

/-- The documents are the texts of the two routes. -/
theorem exists_document_iff :
    (∃ d, Document t d) ↔ Spelled plainRoute t ∨ Spelled scopedRoute t := by
  constructor
  · rintro ⟨⟨name, scope, trigger, body⟩, hd⟩
    have spelled := document_iff.1 hd
    cases scope with
    | none => exact .inl ⟨_, spelled⟩
    | some v => exact .inr ⟨_, spelled⟩
  · rintro (⟨kept, whole⟩ | ⟨kept, whole⟩)
    · obtain ⟨n, _, _, _, rfl, rfl, front, back⟩ := whole.split
      obtain ⟨v, rfl, -⟩ := spells_headerLine_iff.1 front
      obtain ⟨u, b, -, -, rfl, -⟩ := spells_lastLines_iff.1 back
      exact ⟨⟨v, none, u, b⟩, document_iff.2 whole⟩
    · obtain ⟨n, _, _, _, rfl, rfl, front, further⟩ := whole.split
      obtain ⟨s, _, _, _, rfl, rfl, middle, back⟩ := further.split
      obtain ⟨v, rfl, -⟩ := spells_headerLine_iff.1 front
      obtain ⟨w, rfl, -⟩ := spells_headerLine_iff.1 middle
      obtain ⟨u, b, -, -, rfl, -⟩ := spells_lastLines_iff.1 back
      exact ⟨⟨v, some w, u, b⟩, document_iff.2 whole⟩

end Document

end EditorText.Snippet
