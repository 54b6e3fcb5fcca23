import EditorText.Proofs.Snippet.Positions

/-!
# Questions for positions, in any order

A run is asked for positions and locations, again and again and in any order. Every reply is what
counting says (`Position.counted`): the line feeds before the offset, and the characters behind the
last of them. What was asked before makes no difference, and the search that a question starts
always ends at an offset that is remembered (`replies_eq_counted`).
-/

set_option autoImplicit false

namespace EditorText.Snippet

/-- The position of an offset by counting. A text that ends before the offset is counted whole. -/
def Position.counted (input : Text) (offset : Nat) : Position :=
  let front := input.take offset
  ⟨offset, 1 + front.count Code.newline,
    1 + (front.reverse.takeWhile (· != Code.newline)).length⟩

/-- What a run can be asked for. -/
inductive Query where
  | position (offset : Nat)
  | location (start stop : Nat)
  deriving DecidableEq, Repr

/-- What it replies. -/
inductive Reply where
  | position (p : Position)
  | location (l : Location)
  deriving DecidableEq, Repr

/-- Asks a run. -/
def Query.ask : Query → Run → Reply × Run
  | position offset, r => (.position (r.position offset).1, (r.position offset).2)
  | location start stop, r => (.location (r.location start stop).1, (r.location start stop).2)

/-- The reply by counting. -/
def Query.counted (input : Text) (source : Option Text) : Query → Reply
  | position offset => .position (.counted input offset)
  | location start stop => .location ⟨source, .counted input start, .counted input stop⟩

/-- Asks a run one question after another. -/
def Run.replies : List Query → Run → List Reply × Run
  | [], r => ([], r)
  | query :: queries, r =>
    let (reply, next) := query.ask r
    let (others, last) := replies queries next
    (reply :: others, last)

/-- Going down from an offset, `below` is the first one that is remembered. Below the start of the
text the way has no end. -/
inductive Places.Descends (known : Places) : Int → Nat → Prop where
  | found {offset : Nat} {p : Place} : known.lookup offset = some p → Descends known offset offset
  | down {offset : Int} {below : Nat} : (∀ n : Nat, offset = n → known.lookup n = none) →
      Descends known (offset - 1) below → Descends known offset below

/-- Behind the last line feed of a text stands what follows the lines it ends with. -/
theorem takeWhile_reverse_append {s m : Text} (ends : EndsAtLine s) (free : Code.newline ∉ m) :
    (s ++ m).reverse.takeWhile (· != Code.newline) = m.reverse := by
  have all : ∀ c ∈ m.reverse, (c != Code.newline) = true := by
    intro c inside
    refine bne_iff_ne.2 ?_
    rintro rfl
    exact free (List.mem_reverse.1 inside)
  rw [List.reverse_append, List.takeWhile_append_of_pos all]
  rcases ends with rfl | ⟨x, rfl⟩
  · simp
  · simp

/-- **A scan counts.** -/
theorem Position.scanned_eq_counted (input : Text) (offset : Nat) :
    Position.scanned input offset = .counted input offset := by
  obtain ⟨s, m, split, ends, free⟩ := exists_endsAtLine (input.take offset)
  have feeds : (input.take offset).count Code.newline = s.count Code.newline := by
    rw [split, List.count_append, List.count_eq_zero_of_not_mem free, Nat.add_zero]
  have scan : Place.scan input offset = ⟨1 + s.count Code.newline, 1 + m.length⟩ := by
    rw [Place.scan, split, List.foldl_append, Place.foldl_after_of_endsAtLine ends,
      Place.foldl_after_of_not_mem free]
  rw [Position.scanned, Place.position, scan, Position.counted]
  dsimp only
  rw [feeds, split, takeWhile_reverse_append ends free, List.length_reverse]
  norm_cast

/-- The search of a run that remembers the start of the text ends. -/
theorem Places.Sound.descends {known : Places} {input : Text} (h : known.Sound input) (n : Nat) :
    known.Descends n (known.nearest n).1 := by
  induction n with
  | zero =>
    obtain ⟨p, found⟩ := h.start
    exact .found found
  | succ n ih =>
    unfold Places.nearest
    split
    next p found => exact .found found
    next missing =>
      refine .down (fun m same => ?_) ?_
      · rwa [← Int.ofNat.inj same]
      · have lower : ((n + 1 : Nat) : Int) - 1 = n := by omega
        rw [lower]
        exact ih

namespace Query

variable {r : Run}

/-- **One question** is answered by counting, and a run that remembers what scans find still does
so. -/
theorem ask_eq (h : r.known.Sound r.input) (query : Query) :
    ∃ known, query.ask r = (query.counted r.input r.source, { r with known := known }) ∧
      known.Sound r.input := by
  cases query with
  | position offset =>
    refine ⟨_, ?_, (h.find offset).2⟩
    rw [ask, counted, Run.position_eq h, Position.scanned_eq_counted]
  | location start stop =>
    refine ⟨_, ?_, ((h.find start).2.find stop).2⟩
    rw [ask, counted, Run.location_eq h, Position.scanned_eq_counted, Position.scanned_eq_counted]

end Query

namespace Run

/-- Questions one after another, whatever is remembered when the first one is asked. -/
theorem replies_of_sound (queries : List Query) {r : Run} (h : r.known.Sound r.input) :
    (r.replies queries).1 = queries.map (Query.counted r.input r.source) ∧
      (r.replies queries).2.known.Sound r.input := by
  induction queries generalizing r with
  | nil => exact ⟨rfl, h⟩
  | cons query queries ih =>
    obtain ⟨known, reply, sound⟩ := query.ask_eq h
    obtain ⟨others, last⟩ := ih (r := { r with known := known }) sound
    rw [replies, reply]
    exact ⟨congrArg (_ :: ·) others, last⟩

/-- **Every reply is what counting says, and every search ends**: a run that was asked nothing yet
answers any questions as if each were the first one, and afterwards the search for an offset that is
not remembered goes down to one that is. -/
theorem replies_eq_counted (queries : List Query) (r : Run) :
    let asked := { r with known := Places.start }.replies queries
    asked.1 = queries.map (Query.counted r.input r.source) ∧
      ∀ offset : Nat, asked.2.known.lookup offset = none →
        asked.2.known.Descends (offset - 1) (asked.2.known.nearest (offset - 1)).1 := by
  obtain ⟨replies, sound⟩ :=
    replies_of_sound queries (r := { r with known := Places.start }) (Places.sound_start r.input)
  refine ⟨replies, fun offset missing => ?_⟩
  obtain ⟨p, first⟩ := sound.start
  have positive : 0 < offset := by
    refine Nat.pos_of_ne_zero ?_
    rintro rfl
    rw [first] at missing
    cases missing
  have lower : (offset : Int) - 1 = (offset - 1 : Nat) := by omega
  rw [lower]
  exact sound.descends (offset - 1)

/-- After an offset behind the end and one before a line feed, the search for one between them stops
at the lower one. -/
theorem replies_eq_counted_behindEnd :
    let asked := replies [.position 5, .position 1]
      { input := Text.ofChars ['a', '\n', 'b'], source := none }
    asked.1 = [.position ⟨5, 2, 2⟩, .position ⟨1, 1, 2⟩] ∧
      asked.2.known.lookup 4 = none ∧ asked.2.known.Descends 3 1 := by
  have both := replies_eq_counted [.position 5, .position 1]
    { input := Text.ofChars ['a', '\n', 'b'], source := none }
  exact ⟨both.1.trans (by decide), by decide, both.2 4 (by decide)⟩

end Run

end EditorText.Snippet
