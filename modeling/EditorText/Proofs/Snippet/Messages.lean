import EditorText.Proofs.Snippet.Descriptions
import EditorText.Proofs.Snippet.Parsing
import Mathlib.Data.List.Sort

/-!
# What a message tells

The descriptions of a message stand in ascending order, each once, so that they depend on what is
expected as a set (`sortOnce_eq_iff`). An enumeration of regular descriptions can be taken apart
(`enumerate?_append`), and with it a message tells what was expected and what was found
(`message?_eq_iff`).
-/

set_option autoImplicit false

namespace EditorText.Snippet

variable {r r' t t' : Text} {ts ts' : List Text}

section Sorting

theorem mem_insertOnce {s : Text} : s ∈ insertOnce t ts ↔ s = t ∨ s ∈ ts := by
  induction ts with
  | nil => simp [insertOnce]
  | cons u ts ih =>
    unfold insertOnce
    split
    case isTrue same => simp [same]
    split
    · simp
    · simp [ih, or_left_comm]

/-- One text stands before another in the order. -/
def Before (t t' : Text) : Prop := Text.le t t' = true ∧ t ≠ t'

instance : Std.Irrefl Before := ⟨fun _ before => before.2 rfl⟩

instance : Std.Antisymm Before := ⟨fun _ _ before after => Text.le_antisymm before.1 after.1⟩

theorem Before.trans {u : Text} (h : Before t t') (h' : Before t' u) : Before t u := by
  refine ⟨Text.le_trans h.1 h'.1, ?_⟩
  rintro rfl
  exact h.2 (Text.le_antisymm h.1 h'.1)

/-- Inserting keeps the order strict. -/
theorem pairwise_insertOnce (ascending : ts.Pairwise Before) :
    (insertOnce t ts).Pairwise Before := by
  induction ts with
  | nil => simp [insertOnce]
  | cons u ts ih =>
    obtain ⟨first, others⟩ := List.pairwise_cons.1 ascending
    unfold insertOnce
    split
    case isTrue => exact ascending
    case isFalse different =>
    split
    case isTrue le =>
      have below : Before t u := ⟨le, different⟩
      refine List.pairwise_cons.2 ⟨fun s member => ?_, ascending⟩
      rcases List.mem_cons.1 member with rfl | further
      · exact below
      · exact below.trans (first s further)
    case isFalse beyond =>
      have above : Before u t := ⟨(Text.le_total t u).resolve_left beyond, Ne.symm different⟩
      refine List.pairwise_cons.2 ⟨fun s member => ?_, ih others⟩
      rcases mem_insertOnce.1 member with rfl | further
      · exact above
      · exact first s further

theorem mem_sortOnce {s : Text} : s ∈ sortOnce ts ↔ s ∈ ts := by
  induction ts with
  | nil => rfl
  | cons t ts ih => rw [sortOnce, List.foldr_cons, ← sortOnce, mem_insertOnce, ih, List.mem_cons]

theorem pairwise_sortOnce (ts : List Text) : (sortOnce ts).Pairwise Before := by
  induction ts with
  | nil => exact .nil
  | cons t ts ih => exact pairwise_insertOnce ih

/-- **Sorted once each, texts are a set.** -/
theorem sortOnce_eq_iff : sortOnce ts = sortOnce ts' ↔ ∀ t, t ∈ ts ↔ t ∈ ts' := by
  constructor
  · intro same t
    rw [← mem_sortOnce, same, mem_sortOnce]
  · intro same
    refine (pairwise_sortOnce ts).eq_of_mem_iff (pairwise_sortOnce ts') fun t => ?_
    rw [mem_sortOnce, mem_sortOnce, same]

end Sorting

section Enumerations

/-- The words for a regular expectation. -/
def IsRegular (t : Text) : Prop := ∃ e : Expectation, e.Regular ∧ e.shown = t

theorem IsRegular.append (h : IsRegular t) (h' : IsRegular t') (same : t ++ r = t' ++ r') :
    t = t' ∧ r = r' := by
  obtain ⟨e, regular, rfl⟩ := h
  obtain ⟨e', regular', rfl⟩ := h'
  obtain ⟨rfl, rest⟩ := regular.shown_append regular' same
  exact ⟨rfl, rest⟩

/-- The last of an enumeration is not taken for one before it. -/
theorem enumerateMore_last_ne (h : IsRegular t') (t u : Text) (us : List Text) (r r' : Text) :
    enumerateMore [t] ++ r ≠ enumerateMore (t' :: u :: us) ++ r' := by
  obtain ⟨e, regular, rfl⟩ := h
  intro same
  have behind : 'o'.toNat :: 'r'.toNat :: Code.space :: (t ++ r) =
      e.shown ++ enumerateMore (u :: us) ++ r' := (List.cons.inj (List.cons.inj same).2).2
  rw [List.append_assoc] at behind
  exact regular.shown_ne_word _ _ behind.symm

theorem enumerateMore_cons (t : Text) (ts : List Text) :
    ∃ s, enumerateMore (t :: ts) = Code.comma :: Code.space :: s := by
  cases ts <;> exact ⟨_, rfl⟩

theorem enumerateMore_cons_cons (t u : Text) (us : List Text) :
    enumerateMore (t :: u :: us) = Text.ofChars [',', ' '] ++ (t ++ enumerateMore (u :: us)) :=
  List.append_assoc _ _ _

/-- Where no comma is written behind it, an enumeration can be taken apart. -/
theorem enumerateMore_append (h : ∀ t ∈ ts, IsRegular t) (h' : ∀ t ∈ ts', IsRegular t)
    (ends : r.head? ≠ some Code.comma) (ends' : r'.head? ≠ some Code.comma)
    (same : enumerateMore ts ++ r = enumerateMore ts' ++ r') : ts = ts' ∧ r = r' := by
  induction ts generalizing ts' with
  | nil =>
    cases ts' with
    | nil => exact ⟨rfl, same⟩
    | cons t' ts' =>
      obtain ⟨s, front⟩ := enumerateMore_cons t' ts'
      rw [front] at same
      exact absurd (congrArg List.head? same) ends
  | cons t ts ih =>
    obtain ⟨first, others⟩ := List.forall_mem_cons.1 h
    cases ts' with
    | nil =>
      obtain ⟨s, front⟩ := enumerateMore_cons t ts
      rw [front] at same
      exact absurd (congrArg List.head? same).symm ends'
    | cons t' ts' =>
      obtain ⟨first', others'⟩ := List.forall_mem_cons.1 h'
      cases ts with
      | nil =>
        cases ts' with
        | nil =>
          rw [enumerateMore, enumerateMore, List.append_assoc, List.append_assoc] at same
          obtain ⟨rfl, rest⟩ := first.append first' (List.append_cancel_left same)
          exact ⟨rfl, rest⟩
        | cons u' us' => exact absurd same (enumerateMore_last_ne first' _ _ _ _ _)
      | cons u us =>
        cases ts' with
        | nil => exact absurd same.symm (enumerateMore_last_ne first _ _ _ _ _)
        | cons u' us' =>
          rw [enumerateMore_cons_cons, enumerateMore_cons_cons] at same
          iterate 4 rw [List.append_assoc] at same
          obtain ⟨rfl, rest⟩ := first.append first' (List.append_cancel_left same)
          obtain ⟨further, behind⟩ := ih others others' rest
          exact ⟨by rw [further], behind⟩

/-- The enumeration behind its first text. -/
def enumerateRest : List Text → Text
  | [u] => Text.ofString " or " ++ u
  | us => enumerateMore us

theorem enumerate?_cons (t : Text) (us : List Text) :
    enumerate? (t :: us) = some (t ++ enumerateRest us) := by
  rcases us with _ | ⟨u, _ | ⟨v, us⟩⟩
  · exact congrArg some (List.append_nil t).symm
  · exact congrArg some (List.append_assoc _ _ _)
  · rfl

theorem enumerateRest_cases (us : List Text) :
    (∃ u, us = [u]) ∨ enumerateRest us = enumerateMore us := by
  rcases us with _ | ⟨u, _ | ⟨v, us⟩⟩
  · exact .inr rfl
  · exact .inl ⟨u, rfl⟩
  · exact .inr rfl

/-- Two alternatives are not taken for one or for more. -/
theorem enumerateMore_ne_or (us : List Text) (r t : Text) :
    enumerateMore us ++ (Text.ofString " but " ++ r) ≠ Text.ofString " or " ++ t := by
  cases us with
  | nil => exact fun same => absurd (List.cons.inj (List.cons.inj same).2).1 (by decide)
  | cons u us =>
    obtain ⟨s, front⟩ := enumerateMore_cons u us
    rw [front]
    exact fun same => absurd (List.cons.inj same).1 (by decide)

theorem enumerateRest_append (h : ∀ t ∈ ts, IsRegular t) (h' : ∀ t ∈ ts', IsRegular t)
    (same : enumerateRest ts ++ (Text.ofString " but " ++ r) =
      enumerateRest ts' ++ (Text.ofString " but " ++ r')) : ts = ts' ∧ r = r' := by
  have space (r : Text) : (Text.ofString " but " ++ r).head? ≠ some Code.comma :=
    fun same => absurd (Option.some.inj same) (by decide)
  rcases enumerateRest_cases ts with ⟨u, rfl⟩ | more <;>
    rcases enumerateRest_cases ts' with ⟨u', rfl⟩ | more'
  · rw [enumerateRest, enumerateRest, List.append_assoc, List.append_assoc] at same
    obtain ⟨rfl, rest⟩ := IsRegular.append (h u List.mem_cons_self) (h' u' List.mem_cons_self)
      (List.append_cancel_left same)
    exact ⟨rfl, List.append_cancel_left rest⟩
  · rw [enumerateRest, more', List.append_assoc] at same
    exact absurd same.symm (enumerateMore_ne_or _ _ _)
  · rw [enumerateRest, more, List.append_assoc] at same
    exact absurd same (enumerateMore_ne_or _ _ _)
  · rw [more, more'] at same
    obtain ⟨rfl, rest⟩ := enumerateMore_append h h' (space r) (space r') same
    exact ⟨rfl, List.append_cancel_left rest⟩

/-- **An enumeration of regular descriptions can be taken apart**, up to the word behind it. -/
theorem enumerate?_append {d d' : Text} (h : ∀ t ∈ ts, IsRegular t) (h' : ∀ t ∈ ts', IsRegular t)
    (words : enumerate? ts = some d) (words' : enumerate? ts' = some d')
    (same : d ++ (Text.ofString " but " ++ r) = d' ++ (Text.ofString " but " ++ r')) :
    ts = ts' ∧ r = r' := by
  cases ts with
  | nil => cases words
  | cons t us =>
    cases ts' with
    | nil => cases words'
    | cons t' us' =>
      obtain ⟨first, others⟩ := List.forall_mem_cons.1 h
      obtain ⟨first', others'⟩ := List.forall_mem_cons.1 h'
      rw [enumerate?_cons] at words words'
      rw [← Option.some.inj words, ← Option.some.inj words', List.append_assoc,
        List.append_assoc] at same
      obtain ⟨rfl, rest⟩ := first.append first' same
      obtain ⟨rfl, behind⟩ := enumerateRest_append others others' rest
      exact ⟨rfl, behind⟩

end Enumerations

section Messages

/-- What was found, as the expectation that it would have met. -/
def met : Option Code → Expectation
  | none => .endOfInput
  | some c => .literal [c]

theorem regular_met (found : Option Code) : (met found).Regular := by
  cases found with
  | none => exact .endOfInput
  | some c => exact .literal [c]

theorem shown_met (found : Option Code) : (met found).shown = foundWords (found.map ([·])) := by
  cases found <;> rfl

theorem met_inj {found found' : Option Code} (same : met found = met found') : found = found' := by
  cases found <;> cases found' <;> cases same <;> rfl

variable {es es' : List Expectation}

/-- A message is put together from an enumeration and what was found. -/
theorem message?_cases {found : Option Text} {m : Text} (h : message? es found = some m) :
    ∃ d, enumerate? (sortOnce (es.map Expectation.shown)) = some d ∧
      m = Text.ofString "Expected " ++ (d ++ (Text.ofString " but " ++
        (foundWords found ++ Text.ofString " found."))) := by
  obtain ⟨d, words, rfl⟩ := Option.map_eq_some_iff.1 h
  exact ⟨d, words, by simp only [List.append_assoc]⟩

theorem forall_mem_sortOnce (h : ∀ e ∈ es, e.Regular) :
    ∀ t ∈ sortOnce (es.map Expectation.shown), IsRegular t := by
  intro t member
  obtain ⟨e, expected, shown⟩ := List.mem_map.1 (mem_sortOnce.1 member)
  exact ⟨e, h e expected, shown⟩

/-- Regular expectations that are described alike are the same. -/
theorem Expectation.Regular.shown_inj {e e' : Expectation} (h : e.Regular) (h' : e'.Regular)
    (same : e.shown = e'.shown) : e = e' := by
  have behind : e.shown ++ [] = e'.shown ++ [] := by rw [same]
  exact (h.shown_append h' behind).1

/-- Regular expectations and their descriptions are the same sets. -/
theorem shown_mem_iff (h : ∀ e ∈ es, e.Regular) (h' : ∀ e ∈ es', e.Regular) :
    (∀ t, t ∈ es.map Expectation.shown ↔ t ∈ es'.map Expectation.shown) ↔
      ∀ e, e ∈ es ↔ e ∈ es' := by
  have covers {es es' : List Expectation} (h : ∀ e ∈ es, e.Regular) (h' : ∀ e ∈ es', e.Regular)
      (within : ∀ t, t ∈ es.map Expectation.shown → t ∈ es'.map Expectation.shown)
      {e : Expectation} (member : e ∈ es) : e ∈ es' := by
    obtain ⟨e', member', same⟩ := List.mem_map.1 (within _ (List.mem_map_of_mem member))
    rwa [(h e member).shown_inj (h' e' member') same.symm]
  constructor
  · intro same e
    exact ⟨covers h h' fun t => (same t).1, covers h' h fun t => (same t).2⟩
  · intro same t
    simp only [List.mem_map, same]

/-- **A message tells what was expected and what was found.** Every list of regular expectations has
a message, with any character found and at the end of the input. Two messages are the same only if
the same set of expectations and the same find stand behind them, and then they are. -/
theorem message?_eq_iff (filled : es ≠ []) (filled' : es' ≠ []) (h : ∀ e ∈ es, e.Regular)
    (h' : ∀ e ∈ es', e.Regular) (found found' : Option Code) :
    ∃ m m', message? es (found.map ([·])) = some m ∧ message? es' (found'.map ([·])) = some m' ∧
      (m = m' ↔ (∀ e, e ∈ es ↔ e ∈ es') ∧ found = found') := by
  obtain ⟨m, message⟩ := exists_message filled (found.map ([·]))
  obtain ⟨m', message'⟩ := exists_message filled' (found'.map ([·]))
  refine ⟨m, m', message, message', ?_⟩
  obtain ⟨d, words, rfl⟩ := message?_cases message
  obtain ⟨d', words', rfl⟩ := message?_cases message'
  rw [← shown_mem_iff h h', ← sortOnce_eq_iff]
  constructor
  · intro same
    obtain ⟨sorted, behind⟩ := enumerate?_append (forall_mem_sortOnce h) (forall_mem_sortOnce h')
      words words' (List.append_cancel_left same)
    rw [← shown_met, ← shown_met] at behind
    exact ⟨sorted, met_inj ((regular_met found).shown_append (regular_met found') behind).1⟩
  · rintro ⟨sorted, rfl⟩
    rw [sorted, words'] at words
    rw [Option.some.inj words]

/-- What is expected in an order and once each. -/
def someExpected : List Expectation :=
  [.literal (Text.ofString "a\" or \"b"), .charClass [.single [Code.comma], .range [48] [57]] true,
    .endOfInput]

/-- The same in another order, with one of them twice. -/
def sameExpected : List Expectation :=
  [.endOfInput, .charClass [.single [Code.comma], .range [48] [57]] true, .endOfInput,
    .literal (Text.ofString "a\" or \"b")]

theorem message?_eq_iff_someExpected :
    someExpected ≠ [] ∧ sameExpected ≠ [] ∧ (∀ e ∈ someExpected, e.Regular) ∧
      (∀ e ∈ sameExpected, e.Regular) ∧
      ∃ m m', message? someExpected (some [Code.quote]) = some m ∧
        message? sameExpected (some [Code.quote]) = some m ∧
        message? sameExpected none = some m' ∧ m ≠ m' := by
  have regular : ∀ e ∈ someExpected, e.Regular := by
    intro e member
    simp only [someExpected, List.mem_cons, List.not_mem_nil, or_false] at member
    rcases member with rfl | rfl | rfl
    · exact .literal _
    · refine .charClass _ fun p part => ?_
      simp only [List.mem_cons, List.not_mem_nil, or_false] at part
      rcases part with rfl | rfl
      · exact .single _
      · exact .range _ _
    · exact .endOfInput
  have sets : ∀ e, e ∈ someExpected ↔ e ∈ sameExpected := by
    intro e
    simp only [someExpected, sameExpected, List.mem_cons, List.not_mem_nil, or_false]
    tauto
  have regular' : ∀ e ∈ sameExpected, e.Regular := fun e member => regular e ((sets e).2 member)
  have filled : someExpected ≠ [] := by decide
  have filled' : sameExpected ≠ [] := by decide
  have told := message?_eq_iff filled filled' regular regular'
  obtain ⟨m, _, message, again, alike⟩ := told (some Code.quote) (some Code.quote)
  obtain rfl := alike.2 ⟨sets, rfl⟩
  obtain ⟨_, m', message', ended, apart⟩ := told (some Code.quote) none
  obtain rfl := Option.some.inj (message.symm.trans message')
  exact ⟨filled, filled', regular, regular', m, m', message, again, ended,
    fun same => nomatch (apart.1 same).2⟩

end Messages

end EditorText.Snippet
