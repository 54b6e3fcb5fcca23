import EditorText.Proofs.Align.Offsets
import EditorText.Proofs.Align.Passes
import Mathlib.Data.List.Forall2

/-!
# The shape of a block

A line is scanned for separators to its end, whatever these are (`tokenized_iff`), and loses nothing
(`Block.text_ofText`). Trimming and aligning change what the pieces of a line hold, and leave its
number and as many cells, none of whose separators becomes empty (`Line.Kept`). What one change
keeps a row of changes keeps (`Block.kept_after`), so that a block stays in shape (`inShape_after`).
-/

set_option autoImplicit false

namespace EditorText.Align

open Text

section Tokens

variable {find : Finder} {raw : Text} {place : Nat} {ps qs : List Part}

/-- The parts that a scan of a line makes from a place on, once it has ended. An empty separator
would not lead on, so the rest stays text. -/
inductive Tokenized (find : Finder) (raw : Text) : Nat → List Part → Prop where
  | rest {place : Nat} :
      (place ≤ raw.length → ∀ s, find raw place = some s → s.stop = s.start) →
      Tokenized find raw place [.text (raw.drop place)]
  | separator {place : Nat} {s : Span} {ps : List Part} :
      place ≤ raw.length → find raw place = some s → s.stop ≠ s.start →
      Tokenized find raw s.stop ps →
      Tokenized find raw place
        (.text (raw.slice ⟨place, s.start⟩) :: .separator (raw.slice s) :: ps)

/-- A scan makes the parts of a line in one way. -/
theorem Tokenized.unique (h : Tokenized find raw place ps) (h' : Tokenized find raw place qs) :
    ps = qs := by
  induction h generalizing qs with
  | rest none =>
    cases h' with
    | rest _ => rfl
    | separator within found filled _ => exact absurd (none within _ found) filled
  | separator within found filled _ ih =>
    cases h' with
    | rest none => exact absurd (none within _ found) filled
    | separator _ found' _ further =>
      rw [found] at found'
      obtain rfl := Option.some.inj found'
      rw [ih further]

/-- **A scan ends**: each separator leads on, and there is nothing behind the end of the line. -/
theorem tokenized_cutFrom (lawful : Lawful find) (number : Int) (fuel : Nat)
    (within : place ≤ raw.length) (enough : raw.length < fuel + place) :
    Tokenized find raw place
      (Line.parts ⟨number, (cutFrom find raw fuel place).1, (cutFrom find raw fuel place).2⟩) := by
  -- There are more rounds left than characters, and a separator takes one of each at least.
  induction fuel generalizing place with
  | zero => omega
  | succ fuel ih =>
    rw [cutFrom]
    cases found : find raw place with
    | none =>
      apply Tokenized.rest
      intro _ s some
      rw [found] at some
      cases some
    | some s =>
      obtain ⟨behind, forward, inside⟩ := lawful raw place s found
      by_cases empty : s.stop = s.start
      · simp only [if_pos empty]
        apply Tokenized.rest
        intro _ t again
        rw [found] at again
        obtain rfl := Option.some.inj again
        exact empty
      · simp only [if_neg empty]
        have further := ih inside (by omega)
        exact .separator within found empty further

/-- The parts of a line are those that a scan makes, and no others. -/
theorem tokenized_iff (lawful : Lawful find) (number : Int) (raw : Text) :
    Tokenized find raw 0 ps ↔ ps = (Line.cut find number raw).parts := by
  have ends : Tokenized find raw 0 (Line.cut find number raw).parts :=
    tokenized_cutFrom lawful number (raw.length + 1) (Nat.zero_le _) (by omega)
  constructor
  · intro h
    exact h.unique ends
  · rintro rfl
    exact ends

end Tokens

section Fresh

variable {find : Finder}

theorem map_number_cutLines (find : Finder) (start : Int) (raws : List Text) :
    (cutLines find start raws).map Line.number =
      (List.range raws.length).map fun i : Nat => start + i := by
  induction raws generalizing start with
  | nil => rfl
  | cons raw raws ih =>
    rw [cutLines, List.map_cons, ih, List.length_cons, List.range_succ_eq_map, List.map_cons,
      List.map_map]
    congr 1
    · show start = start + ((0 : Nat) : Int)
      omega
    · apply List.map_congr_left
      intro i _
      show start + 1 + (i : Int) = start + ((i + 1 : Nat) : Int)
      omega

theorem length_cutLines (find : Finder) (start : Int) (raws : List Text) :
    (cutLines find start raws).length = raws.length := by
  simpa using congrArg List.length (map_number_cutLines find start raws)

theorem exists_of_mem_cutLines {l : Line} {start : Int} {raws : List Text}
    (member : l ∈ cutLines find start raws) : ∃ number raw, l = Line.cut find number raw := by
  induction raws generalizing start with
  | nil => cases member
  | cons raw raws ih =>
    rcases List.mem_cons.1 member with rfl | further
    · exact ⟨start, raw, rfl⟩
    · exact ih further

/-- The lines of a block are scanned to their ends. -/
theorem forall₂_tokenized (lawful : Lawful find) (start : Int) (raws : List Text) :
    List.Forall₂ (fun raw l => ∀ ps, Tokenized find raw 0 ps ↔ ps = l.parts) raws
      (cutLines find start raws) := by
  induction raws generalizing start with
  | nil => exact .nil
  | cons raw raws ih => exact .cons (fun ps => tokenized_iff lawful start raw) (ih (start + 1))

/-- **A block has the text that it is cut out of.** -/
theorem Block.text_ofText (lawful : Lawful find) {eol : Text} (filled : eol ≠ [])
    (startLine : Int) (text : Text) : (Block.ofText find eol startLine text).text = text := by
  have lines := map_cutLines find Line.text (fun _ _ _ => rfl) startLine (split eol text)
  have same := List.map_id'' (fun raw => Line.text_cut lawful 0 raw) (split eol text)
  rw [same] at lines
  show join eol ((cutLines find startLine (split eol text)).map Line.text) = text
  rw [lines, join_split filled]

end Fresh

/-- Text and separator in turn, a text at either end. -/
inductive Alternating : List Part → Prop where
  | last {t : Text} : Alternating [.text t]
  | cons {t s : Text} {ps : List Part} :
      Alternating ps → Alternating (.text t :: .separator s :: ps)

theorem Alternating.length_odd {ps : List Part} (h : Alternating ps) : ps.length % 2 = 1 := by
  induction h with
  | last => rfl
  | cons _ ih =>
    simp only [List.length_cons]
    omega

/-- The part is a separator. -/
def Part.isSeparator : Part → Bool
  | .text _ => false
  | .separator _ => true

namespace Line

variable {l k m : Line}

/-- Which parts of a line are separators. -/
def kinds (l : Line) : List Bool :=
  l.parts.map Part.isSeparator

theorem alternating_parts (l : Line) : Alternating l.parts := by
  obtain ⟨number, head, cells⟩ := l
  induction cells generalizing head with
  | nil => exact .last
  | cons c cs ih => exact .cons (ih c.text)

theorem separator_mem_parts_iff {t : Text} :
    Part.separator t ∈ l.parts ↔ ∃ c ∈ l.cells, c.separator = t := by
  simp [parts, eq_comm]

/-- The kinds of the parts are those of as many cells. -/
theorem kinds_eq (l : Line) :
    l.kinds = false :: (List.replicate l.cells.length [true, false]).flatten := by
  obtain ⟨number, head, cells⟩ := l
  simp only [kinds, parts, List.map_cons, Part.isSeparator, List.cons.injEq, true_and]
  induction cells with
  | nil => rfl
  | cons c cs ih =>
    rw [List.flatMap_cons, List.map_append, ih, List.length_cons, List.replicate_succ,
      List.flatten_cons]
    rfl

/-- None of the separators is empty. -/
def Separated (l : Line) : Prop :=
  ∀ c ∈ l.cells, c.separator ≠ []

/-- What a change leaves of a line: its number, and as many cells, none of whose separators has
become empty. -/
structure Kept (l k : Line) : Prop where
  number_eq : k.number = l.number
  length_eq : k.cells.length = l.cells.length
  separated : l.Separated → k.Separated

theorem Kept.refl (l : Line) : l.Kept l :=
  ⟨rfl, rfl, fun separated => separated⟩

theorem Kept.trans (h : l.Kept k) (h' : k.Kept m) : l.Kept m where
  number_eq := h'.number_eq.trans h.number_eq
  length_eq := h'.length_eq.trans h.length_eq
  separated := fun separated => h'.separated (h.separated separated)

theorem Kept.kinds_eq (h : l.Kept k) : k.kinds = l.kinds := by
  rw [Line.kinds_eq, Line.kinds_eq, h.length_eq]

end Line

section Changes

theorem length_trimCells (cs : List Cell) : (trimCells cs).length = cs.length := by
  fun_induction trimCells cs with
  | case1 => rfl
  | case2 => rfl
  | case3 c cs _ ih => rw [List.length_cons, List.length_cons, ih]

theorem separator_ne_nil_trimCells {cs : List Cell} (filled : ∀ c ∈ cs, c.separator ≠ []) :
    ∀ d ∈ trimCells cs, d.separator ≠ [] := by
  have narrowed (t : Text) (some : t ≠ []) : narrow t ≠ [] := (respaced_narrow t).ne_nil some
  fun_induction trimCells cs with
  | case1 => exact filled
  | case2 c =>
    rw [List.forall_mem_singleton] at filled ⊢
    exact narrowed c.separator filled
  | case3 c cs _ ih =>
    rw [List.forall_mem_cons] at filled ⊢
    exact ⟨narrowed c.separator filled.1, ih filled.2⟩

theorem separator_ne_nil_padCells (tabSize : Int) (text : Text) {cs : List Cell} (ws : List Int)
    (filled : ∀ c ∈ cs, c.separator ≠ []) :
    ∀ d ∈ (padCells tabSize text cs ws).2, d.separator ≠ [] := by
  fun_induction padCells tabSize text cs ws with
  | case1 text c cs w v ws rest ih =>
    rw [List.forall_mem_cons] at filled ⊢
    exact ⟨(respaced_pad c.separator v tabSize).ne_nil filled.1, ih filled.2⟩
  | case2 => exact filled

theorem Line.kept_trim (l : Line) : l.Kept l.trim := by
  rw [trim]
  split
  · exact .refl l
  · exact ⟨rfl, length_trimCells l.cells, separator_ne_nil_trimCells⟩

theorem Line.kept_claimGaps (l : Line) : l.Kept l.claimGaps where
  number_eq := rfl
  length_eq := List.length_map ..
  separated := by
    intro filled d member
    obtain ⟨c, inside, rfl⟩ := List.mem_map.1 member
    rw [Cell.claimGap_eq]
    exact List.append_ne_nil_of_left_ne_nil (filled c inside) _

theorem Line.kept_pad (tabSize : Int) (ws : List Int) (l : Line) : l.Kept (l.pad tabSize ws) where
  number_eq := rfl
  length_eq := length_padCells tabSize l.head l.cells ws
  separated := separator_ne_nil_padCells tabSize l.head ws

/-- A change of a block. -/
inductive Change where
  | trim
  | align (tabSize : Int)

/-- The block with a change made to it. -/
def Change.on (b : Block) : Change → Block
  | .trim => b.trim
  | .align tabSize => b.align tabSize

/-- Makes a change to a block, if what it takes can be written. -/
def Change.checkedOn (b : Block) : Change → Except Excess Block
  | .trim => .ok b.trim
  | .align tabSize => b.checkedAlign tabSize

end Changes

namespace Block

variable {b c d : Block}

/-- The block after changes, one after the other. -/
def after (b : Block) (changes : List Change) : Block :=
  changes.foldl Change.on b

/-- The block after changes, if what they take can be written. -/
def checkedAfter (b : Block) (changes : List Change) : Except Excess Block :=
  changes.foldlM Change.checkedOn b

/-- What changes leave of a block: its place, and as many lines, each kept. -/
structure Kept (b c : Block) : Prop where
  eol_eq : c.eol = b.eol
  startLine_eq : c.startLine = b.startLine
  numbers_eq : c.lines.map Line.number = b.lines.map Line.number
  kinds_eq : c.lines.map Line.kinds = b.lines.map Line.kinds
  separated : (∀ l ∈ b.lines, l.Separated) → ∀ l ∈ c.lines, l.Separated

theorem Kept.refl (b : Block) : b.Kept b :=
  ⟨rfl, rfl, rfl, rfl, fun separated => separated⟩

theorem Kept.trans (h : b.Kept c) (h' : c.Kept d) : b.Kept d where
  eol_eq := h'.eol_eq.trans h.eol_eq
  startLine_eq := h'.startLine_eq.trans h.startLine_eq
  numbers_eq := h'.numbers_eq.trans h.numbers_eq
  kinds_eq := h'.kinds_eq.trans h.kinds_eq
  separated := fun separated => h'.separated (h.separated separated)

theorem Kept.length_eq (h : b.Kept c) : c.lines.length = b.lines.length := by
  simpa using congrArg List.length h.numbers_eq

/-- A block is kept if each of its lines is. -/
theorem kept_map {f : Line → Line} (each : ∀ l : Line, l.Kept (f l)) (b : Block) :
    b.Kept { b with lines := b.lines.map f } where
  eol_eq := rfl
  startLine_eq := rfl
  numbers_eq := by
    rw [List.map_map]
    exact List.map_congr_left fun l _ => (each l).number_eq
  kinds_eq := by
    rw [List.map_map]
    exact List.map_congr_left fun l _ => (each l).kinds_eq
  separated := by
    intro separated k member
    obtain ⟨l, inside, rfl⟩ := List.mem_map.1 member
    exact (each l).separated (separated l inside)

/-- **A change keeps every line.** -/
theorem kept_on (b : Block) (change : Change) : b.Kept (change.on b) := by
  cases change with
  | trim => exact kept_map Line.kept_trim b
  | align tabSize =>
    have gaps := kept_map Line.kept_claimGaps b
    exact gaps.trans (kept_map (Line.kept_pad tabSize (b.targets tabSize)) _)

/-- **So do changes in a row.** -/
theorem kept_after (b : Block) (changes : List Change) : b.Kept (b.after changes) := by
  induction changes generalizing b with
  | nil => exact .refl b
  | cons change changes ih => exact (kept_on b change).trans (ih (change.on b))

theorem checkedAfter_cons {change : Change} (made : change.checkedOn b = .ok (change.on b))
    (changes : List Change) :
    b.checkedAfter (change :: changes) = (change.on b).checkedAfter changes := by
  rw [checkedAfter, List.foldlM_cons, made]
  rfl

/-- Changes can be made, as far as the first alignment of pieces that differ by too much. -/
theorem checkedAfter_cases (b : Block) (changes : List Change) :
    b.checkedAfter changes = .ok (b.after changes) ∨
    ∃ front tabSize back, changes = front ++ .align tabSize :: back ∧
      (b.after front).Overwide tabSize ∧ ∃ e, b.checkedAfter changes = .error e := by
  induction changes generalizing b with
  | nil => exact .inl rfl
  | cons change changes ih =>
    have made : change.checkedOn b = .ok (change.on b) ∨ ∃ tabSize e, change = .align tabSize ∧
        b.Overwide tabSize ∧ b.checkedAlign tabSize = .error e := by
      cases change with
      | trim => exact .inl rfl
      | align tabSize =>
        rcases b.checkedAlign_cases tabSize with ⟨overwide, e, failed⟩ | aligned
        · exact .inr ⟨tabSize, e, rfl, overwide, failed⟩
        · exact .inl aligned
    rcases made with made | ⟨tabSize, e, rfl, overwide, failed⟩
    · rw [checkedAfter_cons made]
      rcases ih (change.on b) with done | ⟨front, tabSize, back, rfl, overwide, failed⟩
      · exact .inl done
      · exact .inr ⟨change :: front, tabSize, back, rfl, overwide, failed⟩
    · refine .inr ⟨[], tabSize, changes, rfl, overwide, e, ?_⟩
      have first : (Change.align tabSize).checkedOn b = .error e := failed
      rw [checkedAfter, List.foldlM_cons, first]
      rfl

end Block

/-- A block has the shape it was cut in: text and separator in turn, of the same kinds, on lines
that are numbered through, and no separator is empty. -/
structure InShape (fresh b : Block) : Prop where
  alternating : ∀ l ∈ b.lines, Alternating l.parts ∧ l.parts.length % 2 = 1
  kinds_eq : b.lines.map Line.kinds = fresh.lines.map Line.kinds
  startLine_eq : b.startLine = fresh.startLine
  startLine_le : b.startLine ≤ b.endLine
  numbers_eq : b.lines.map Line.number =
    (List.range (b.endLine + 1 - b.startLine).toNat).map fun i : Nat => b.startLine + i
  join_edits : join fresh.eol (b.edits.map LineEdit.text) = b.text
  separators : ∀ l ∈ b.lines, ∀ t, Part.separator t ∈ l.parts → t ≠ []

section Shape

variable {find : Finder} {eol : Text} {startLine : Int} {text : Text} {b : Block}

theorem separated_ofText (lawful : Lawful find) :
    ∀ l ∈ (Block.ofText find eol startLine text).lines, l.Separated := by
  intro l member c inside
  obtain ⟨number, raw, rfl⟩ := exists_of_mem_cutLines member
  exact separator_ne_nil_of_mem_cut lawful inside

/-- A block that is kept has the shape it was cut in. -/
theorem inShape_of_kept (lawful : Lawful find)
    (kept : (Block.ofText find eol startLine text).Kept b) :
    InShape (Block.ofText find eol startLine text) b := by
  have length : b.lines.length = (split eol text).length := by
    rw [kept.length_eq]
    exact length_cutLines find startLine (split eol text)
  have some : 0 < (split eol text).length := List.length_pos_iff.2 (split_ne_nil eol text)
  have last : b.endLine = b.startLine + b.lines.length - 1 := rfl
  refine ⟨?_, kept.kinds_eq, kept.startLine_eq, ?_, ?_, ?_, ?_⟩
  · intro l _
    exact ⟨l.alternating_parts, l.alternating_parts.length_odd⟩
  · omega
  · have many : (b.endLine + 1 - b.startLine).toNat = (split eol text).length := by omega
    rw [kept.numbers_eq, many, kept.startLine_eq]
    exact map_number_cutLines find startLine (split eol text)
  · rw [Block.text, kept.eol_eq, Block.edits, List.map_map]
    rfl
  · intro l member t inside
    obtain ⟨c, cell, rfl⟩ := Line.separator_mem_parts_iff.1 inside
    exact kept.separated (separated_ofText lawful) l member c cell

/-- **A block keeps its shape.** It is cut out of a text by scans that end, has the text it is cut
out of, and whatever changes follow it has the shape it was cut in. The changes can be made, as far
as the first alignment of pieces that differ in width by more than there is always room for. -/
theorem inShape_after [Pattern.Engine] (filled : eol ≠ []) (startLine : Int) (text : Text) :
    (∀ p q, (Pattern.compile p {}).result = .ok q → Lawful (finder q) ∧
      (buildBlock text eol p startLine).result =
        .ok (Block.ofText (finder q) eol startLine text)) ∧
    ∀ find, Lawful find → ∀ fresh, fresh = Block.ofText find eol startLine text →
      fresh.startLine = startLine ∧ fresh.text = text ∧
      List.Forall₂ (fun raw l => ∀ ps, Tokenized find raw 0 ps ↔ ps = l.parts)
        (split eol text) fresh.lines ∧
      ∀ changes, InShape fresh (fresh.after changes) ∧
        (fresh.checkedAfter changes = .ok (fresh.after changes) ∨
          ∃ front tabSize back, changes = front ++ .align tabSize :: back ∧
            (fresh.after front).Overwide tabSize ∧
            ∃ e, fresh.checkedAfter changes = .error e) := by
  constructor
  · intro p q compiles
    exact ⟨lawful_finder q, result_buildBlock compiles filled startLine text⟩
  · rintro find lawful _ rfl
    refine ⟨rfl, Block.text_ofText lawful filled startLine text,
      forall₂_tokenized lawful startLine (split eol text), ?_⟩
    intro changes
    have kept := Block.kept_after (Block.ofText find eol startLine text) changes
    exact ⟨inShape_of_kept lawful kept, Block.checkedAfter_cases _ changes⟩

theorem inShape_after_edges :
    ∃ fresh, (buildBlock (ofString "=a\nb==") [Code.newline] (ofString "=") 10).result = .ok fresh ∧
      fresh.text = ofString "=a\nb==" ∧ InShape fresh (fresh.after [.trim, .align 4]) ∧
      (fresh.after [.trim, .align 4]).text = ofString " =a\nb= =" := by
  have made : ((buildBlock (ofString "=a\nb==") [Code.newline] (ofString "=") 10).result.toOption
      |>.map fun b => (b.after [.trim, .align 4]).text) = some (ofString " =a\nb= =") := by decide
  have reads : (Pattern.compile (ofString "=") {}).result.toOption.isSome := by decide
  have filled : [Code.newline] ≠ [] := by decide
  obtain ⟨builds, shapes⟩ := inShape_after filled 10 (ofString "=a\nb==")
  cases read : (Pattern.compile (ofString "=") {}).result with
  | error e =>
    rw [read] at reads
    cases reads
  | ok q =>
    obtain ⟨lawful, built⟩ := builds _ q read
    obtain ⟨-, text, -, changed⟩ := shapes _ lawful _ rfl
    rw [built] at made
    exact ⟨_, built, text, (changed _).1, Option.some.inj made⟩

end Shape

end EditorText.Align
