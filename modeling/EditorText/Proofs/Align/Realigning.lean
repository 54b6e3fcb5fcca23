import EditorText.Proofs.Align.Stability
import EditorText.Proofs.Pattern.Literals

/-!
# Realigning

A text that a pass aligned at literals can be aligned again (`realign_passBlock`). That changes
nothing where the literals are equally long (`realign_eq_of_equal_lengths`), and in general exactly
where the block is settled (`realign_eq_iff`).
-/

set_option autoImplicit false

namespace EditorText.Align

open Text Pattern

section Block

variable {find : Finder} {eol : Text} {tabSize startLine : Int} {text : Text}

/-- No empty text between the separators of a block gets a gap out of the padding of a separator
alone. -/
def Block.IsSettled (tabSize : Int) (b : Block) : Prop :=
  let lines := b.lines.map Line.claimGaps
  ∀ l ∈ lines, Settled tabSize l.cells ((columns tabSize lines).drop 1)

theorem isSettled_iff : (Block.ofText find eol startLine text).trim.IsSettled tabSize ↔
    ∀ raw ∈ split eol text, Settled tabSize (gathered find raw).cells
      ((passColumns find tabSize (split eol text)).drop 1) := by
  rw [Block.IsSettled, columns_claimGaps]
  exact forall_mem_claimGaps_iff _ fun _ _ _ => Iff.rfl

/-- A row of one pass. -/
theorem result_alignInPasses_singleton {p : Text} {q : Pattern}
    (compiles : (Pattern.compile p {}).result = .ok q) (filled : eol ≠ [])
    (startLine tabSize : Int) (text : Text) :
    (alignInPasses text [p] startLine eol tabSize).result =
      match (trimmedBlock q eol startLine text).excess? tabSize with
      | some x => .error (.overlong x)
      | none => .ok (passBlock (finder q) eol startLine tabSize text) := by
  rw [result_alignInPasses_one]
  exact result_alignPass compiles filled startLine tabSize text

/-- A pattern of literals finds the literals. -/
theorem exists_compile_literals {ls : List Text} (some : ls ≠ [])
    (literal : ∀ l ∈ ls, IsLiteral l) (solid : Solid ls) :
    ∃ q, (Pattern.compile (literals ls) {}).result = .ok q ∧
      ∀ raw place, finder q raw place = literalSpan? ls raw place :=
  ⟨_, compile_literals some literal, fun _ place =>
    span_search_literals some (fun l hl => (solid l hl).1) place⟩

/-- What a pass made can be aligned again. The second pass changes nothing exactly where no empty
text outgrows its column. -/
theorem realign_passBlock {ls : List Text} {p : Text} {q : Pattern}
    (compiles : (Pattern.compile p {}).result = .ok q) (solid : Solid ls)
    (search : ∀ raw place, finder q raw place = literalSpan? ls raw place)
    (ending : eol ∈ lineEndings) (positive : 1 ≤ tabSize)
    (fits : (trimmedBlock q eol startLine text).excess? tabSize = none) :
    ∃ c, (alignInPasses (passBlock (finder q) eol startLine tabSize text).text [p] startLine eol
        tabSize).result = .ok c ∧
      (c.text = (passBlock (finder q) eol startLine tabSize text).text ↔
        (trimmedBlock q eol startLine text).IsSettled tabSize) := by
  have lawful := lawful_finder q
  have filled := (solid_of_mem_lineEndings ending).1
  have once : split eol (passBlock (finder q) eol startLine tabSize text).text =
      passLines (finder q) tabSize (split eol text) :=
    split_text_passBlock lawful ending startLine tabSize text
  have fits' : (trimmedBlock q eol startLine
      (passBlock (finder q) eol startLine tabSize text).text).excess? tabSize = none := by
    rw [trimmedBlock, excess?_eq_none_iff] at fits ⊢
    rw [once]
    intro new member
    obtain ⟨raw, old, rfl⟩ := List.mem_map.1 member
    exact excess?_passLine_eq_none positive lawful solid search old (fits raw old)
  have twice : split eol (passBlock (finder q) eol startLine tabSize
      (passBlock (finder q) eol startLine tabSize text).text).text =
        passLines (finder q) tabSize (passLines (finder q) tabSize (split eol text)) := by
    rw [split_text_passBlock lawful ending, once]
    rfl
  have result := result_alignInPasses_singleton compiles filled startLine tabSize
    (passBlock (finder q) eol startLine tabSize text).text
  rw [fits'] at result
  refine ⟨_, result, ?_⟩
  rw [trimmedBlock, isSettled_iff, ← passLines_passLines_iff lawful solid search, ← twice, ← once]
  constructor
  · exact congrArg (split eol)
  · intro same
    have joined := congrArg (join eol) same
    rwa [join_split filled, join_split filled] at joined

/-- **Aligned at literals of one length a text stays as it is** when it is aligned again. -/
theorem realign_eq_of_equal_lengths {ls : List Text} {n : Nat} {b : Block} (some : ls ≠ [])
    (literal : ∀ l ∈ ls, IsLiteral l) (solid : Solid ls) (equal : ∀ l ∈ ls, l.length = n)
    (ending : eol ∈ lineEndings) (positive : 1 ≤ tabSize)
    (aligned : (alignInPasses text [literals ls] startLine eol tabSize).result = .ok b) :
    ∃ c, (alignInPasses b.text [literals ls] startLine eol tabSize).result = .ok c ∧
      c.text = b.text := by
  obtain ⟨q, compiles, search⟩ := exists_compile_literals some literal solid
  have result := result_alignInPasses_singleton compiles (solid_of_mem_lineEndings ending).1
    startLine tabSize text
  rw [aligned] at result
  cases fits : (trimmedBlock q eol startLine text).excess? tabSize with
  | some x =>
    rw [fits] at result
    cases result
  | none =>
    rw [fits] at result
    obtain rfl := Except.ok.inj result
    obtain ⟨c, again, iff⟩ := realign_passBlock compiles solid search ending positive fits
    refine ⟨c, again, iff.2 (isSettled_iff.2 fun raw _ => ?_)⟩
    exact settled_of_equal_lengths solid equal search positive raw

/-- **Realigning.** A text aligned at literals can be aligned again, and that changes nothing
exactly where no empty text between separators gets a gap out of the padding of a separator alone:
every empty text stands in a column that has a width, or behind a separator as wide as its column.
-/
theorem realign_eq_iff {ls : List Text} (some : ls ≠ []) (literal : ∀ l ∈ ls, IsLiteral l)
    (solid : Solid ls) (ending : eol ∈ lineEndings) (positive : 1 ≤ tabSize) (startLine : Int)
    (text : Text) :
    ∃ q, (Pattern.compile (literals ls) {}).result = .ok q ∧
      ((∃ x, (trimmedBlock q eol startLine text).excess? tabSize = Option.some x ∧
        (alignInPasses text [literals ls] startLine eol tabSize).result = .error (.overlong x)) ∨
      ∃ b c, (alignInPasses text [literals ls] startLine eol tabSize).result = .ok b ∧
        (alignInPasses b.text [literals ls] startLine eol tabSize).result = .ok c ∧
        (c.text = b.text ↔ (trimmedBlock q eol startLine text).IsSettled tabSize)) := by
  obtain ⟨q, compiles, search⟩ := exists_compile_literals some literal solid
  have result := result_alignInPasses_singleton compiles (solid_of_mem_lineEndings ending).1
    startLine tabSize text
  refine ⟨q, compiles, ?_⟩
  cases fits : (trimmedBlock q eol startLine text).excess? tabSize with
  | some x =>
    rw [fits] at result
    exact .inl ⟨x, rfl, result⟩
  | none =>
    rw [fits] at result
    obtain ⟨c, again, iff⟩ := realign_passBlock compiles solid search ending positive fits
    exact .inr ⟨_, c, result, again, iff⟩

/-- A separator padded behind an empty text moves the text behind it once more. -/
theorem realign_ne_of_two_lengths :
    (alignInPasses (ofString "a:::=b\nc==d") [literals [ofString "=", ofString ":::"]] 0
        [Code.newline] 1).result.toOption.map Block.text = some (ofString "a:::=b\nc=  =d") ∧
      (alignInPasses (ofString "a:::=b\nc=  =d") [literals [ofString "=", ofString ":::"]] 0
        [Code.newline] 1).result.toOption.map Block.text = some (ofString "a::: =b\nc=   =d") ∧
      ofString "a::: =b\nc=   =d" ≠ ofString "a:::=b\nc=  =d" := by
  refine ⟨?_, ?_, ?_⟩ <;> decide +kernel

theorem realign_eq_iff_assignments :
    ∃ q, (Pattern.compile (literals [ofString "="]) {}).result = .ok q ∧
    ((∃ x, (trimmedBlock q [Code.newline] 0 (ofString "a = 1\nbbb = 2")).excess? 4 = some x ∧
      (alignInPasses (ofString "a = 1\nbbb = 2") [literals [ofString "="]] 0 [Code.newline]
        4).result = .error (.overlong x)) ∨
    ∃ b c, (alignInPasses (ofString "a = 1\nbbb = 2") [literals [ofString "="]] 0 [Code.newline]
        4).result = .ok b ∧
      (alignInPasses b.text [literals [ofString "="]] 0 [Code.newline] 4).result = .ok c ∧
      (c.text = b.text ↔
        (trimmedBlock q [Code.newline] 0 (ofString "a = 1\nbbb = 2")).IsSettled 4)) :=
  realign_eq_iff (by decide) (by simp [IsLiteral]; decide) (by simp [Solid]; decide) (by decide)
    (by decide) 0 _

end Block

end EditorText.Align
