import EditorText.Proofs.Align.Rewriting
import EditorText.Proofs.Pattern.Searching

/-!
# Lines cut at literals

`Cuts` says how a line is cut at literals, without a search: no literal stands before a separator,
and the separator is the first literal that stands where it does. A line is cut in one way
(`Cuts.unique`), the one that a search for the literals shows (`cuts_cut`), and respaced between its
separators it is cut at the same ones (`Cuts.respaced`).
-/

set_option autoImplicit false

namespace EditorText.Align

open Text Pattern

/-- Literals that can be told apart from blanks: each has some text, none of it blank. -/
def Solid (ls : List Text) : Prop :=
  ∀ l ∈ ls, l ≠ [] ∧ ∀ c ∈ l, isBlank c = false

theorem Solid.not_mem_space {ls : List Text} (solid : Solid ls) {l : Text} (hl : l ∈ ls) :
    Code.space ∉ l := by
  intro space
  have filled := (solid l hl).2 _ space
  rw [isBlank_space] at filled
  cases filled

/-- A text, cut into its head and cells at the literals that stand in it. -/
inductive Cuts (ls : List Text) : Text → Text → List Cell → Prop where
  | rest {t : Text} : (∀ x y, t = x ++ y → standing? ls y = none) → Cuts ls t t []
  | cell {h s r t : Text} {cs : List Cell} :
      (∀ x y, h = x ++ y → y ≠ [] → standing? ls (y ++ (s ++ r)) = none) →
      standing? ls (s ++ r) = some s → Cuts ls r t cs → Cuts ls (h ++ (s ++ r)) h (⟨s, t⟩ :: cs)

variable {ls : List Text}

/-- A text is cut in one way. -/
theorem Cuts.unique {t a a' : Text} {cs cs' : List Cell} (h : Cuts ls t a cs)
    (h' : Cuts ls t a' cs') : a = a' ∧ cs = cs' := by
  induction h generalizing a' cs' with
  | @rest t none =>
    cases h' with
    | rest _ => exact ⟨rfl, rfl⟩
    | cell _ stands _ => exact absurd (none _ _ rfl) (by simp [stands])
  | @cell a s r b cs before stands _ ih =>
    generalize whole : a ++ (s ++ r) = t at h'
    cases h' with
    | rest none => exact absurd (none _ _ whole.symm) (by simp [stands])
    | @cell a' s' r' b' cs' before' stands' further =>
      -- Were one head the longer one, the separator behind the other would stand in it.
      have place : a = a' := by
        rcases List.append_eq_append_iff.1 whole with ⟨x, rfl, rest⟩ | ⟨x, rfl, rest⟩
        · by_cases empty : x = []
          · rw [empty, List.append_nil]
          · have absent := before' a x rfl empty
            rw [← rest, stands] at absent
            cases absent
        · by_cases empty : x = []
          · rw [empty, List.append_nil]
          · have absent := before a' x rfl empty
            rw [← rest, stands'] at absent
            cases absent
      subst place
      have rest := List.append_cancel_left whole
      rw [← rest, stands] at stands'
      obtain rfl := Option.some.inj stands'
      obtain rfl := List.append_cancel_left rest
      obtain ⟨rfl, rfl⟩ := ih further
      exact ⟨rfl, rfl⟩

/-- **A search for the literals cuts a text at them.** -/
theorem cuts_cutFrom {find : Finder} (solid : Solid ls)
    (search : ∀ raw place, find raw place = literalSpan? ls raw place) {raw : Text}
    (fuel place : Nat) (within : place ≤ raw.length) (enough : raw.length < fuel + place) :
    Cuts ls (raw.drop place) (cutFrom find raw fuel place).1 (cutFrom find raw fuel place).2 := by
  induction fuel generalizing place with
  | zero => omega
  | succ fuel ih =>
    rw [cutFrom, search]
    cases found : literalSpan? ls raw place with
    | none => exact .rest fun x y split => standing?_of_literalSpan?_eq_none within found split
    | some s =>
      obtain ⟨h, l, r, split, stands, rfl, before⟩ := exists_of_literalSpan?_eq_some found
      have filled : 0 < l.length := List.length_pos_iff.2 (solid l (standing?_eq_some stands).1).1
      have long := congrArg List.length split
      simp only [List.length_drop, List.length_append] at long
      have advances : place + h.length + l.length ≠ place + h.length := by omega
      have head : raw.slice ⟨place, place + h.length⟩ = h := by
        rw [slice, split, Nat.add_sub_cancel_left, List.take_left]
      have behind : raw.drop (place + h.length) = l ++ r := by
        rw [← List.drop_drop, split, List.drop_left]
      have separator : raw.slice ⟨place + h.length, place + h.length + l.length⟩ = l := by
        rw [slice, behind, Nat.add_sub_cancel_left, List.take_left]
      have rest : raw.drop (place + h.length + l.length) = r := by
        rw [← List.drop_drop, behind, List.drop_left]
      have further := ih (place + h.length + l.length) (by omega) (by omega)
      rw [rest] at further
      simp only [if_neg advances, head, separator, split]
      exact .cell before stands further

theorem cuts_cut {find : Finder} (solid : Solid ls)
    (search : ∀ raw place, find raw place = literalSpan? ls raw place) (number : Int)
    (raw : Text) :
    Cuts ls raw (Line.cut find number raw).head (Line.cut find number raw).cells :=
  cuts_cutFrom solid search (raw.length + 1) 0 (Nat.zero_le _) (by omega)

theorem standing?_eq_none_iff {t : Text} : standing? ls t = none ↔ ∀ l ∈ ls, ¬ l <+: t := by
  simp only [standing?, List.find?_eq_none, startsWith_iff]
  constructor
  · rintro none l hl ⟨r, rfl⟩
    exact none l hl ⟨r, rfl⟩
  · rintro none l hl ⟨r, rfl⟩
    exact none l hl ⟨r, rfl⟩

/-- What stands in a rewritten text stood in the old one. -/
theorem standing?_eq_none_of_rewritten (solid : Solid ls) {s t : Text} (h : Rewritten s t)
    (absent : standing? ls s = none) : standing? ls t = none := by
  rw [standing?_eq_none_iff] at absent ⊢
  intro l hl front
  exact absent l hl (h.front_of_front (solid.not_mem_space hl) front)

/-- Where a blank is no literal stands. -/
theorem standing?_eq_none_of_blank (solid : Solid ls) {c : Code} (blank : isBlank c = true)
    (t : Text) : standing? ls (c :: t) = none := by
  rw [standing?_eq_none_iff]
  intro l hl front
  obtain ⟨d, l, rfl⟩ := List.exists_cons_of_ne_nil (solid l hl).1
  obtain ⟨rfl, -⟩ := List.cons_prefix_cons.1 front
  rw [(solid _ hl).2 d List.mem_cons_self] at blank
  cases blank

theorem standing?_nil (solid : Solid ls) : standing? ls [] = none := by
  rw [standing?_eq_none_iff]
  intro l hl front
  exact (solid l hl).1 (List.prefix_nil.1 front)

/-- A separator stands still if the text behind it is rewritten. -/
theorem standing?_of_rewritten (solid : Solid ls) {s r r' : Text} (h : Rewritten r r')
    (stands : standing? ls (s ++ r) = some s) : standing? ls (s ++ r') = some s := by
  obtain ⟨-, before, behind, whole, earlier⟩ := List.find?_eq_some_iff_append.1 stands
  refine List.find?_eq_some_iff_append.2
    ⟨startsWith_iff.2 ⟨r', rfl⟩, before, behind, whole, fun l hl => ?_⟩
  have member : l ∈ ls := by rw [whole]; exact List.mem_append_left _ hl
  have absent : ¬ l <+: s ++ r := by
    rintro ⟨z, split⟩
    have stood : (s ++ r).startsWith l = true := startsWith_iff.2 ⟨z, split.symm⟩
    simpa [stood] using earlier l hl
  have still : ¬ l <+: s ++ r' := fun front =>
    absent ((Rewritten.append (.refl s) h).front_of_front (solid.not_mem_space member) front)
  rw [Bool.not_eq_eq_eq_not, Bool.not_true, ← Bool.not_eq_true, startsWith_iff]
  rintro ⟨z, split⟩
  exact still ⟨z, split.symm⟩

/-- No literal comes to stand before the end of a text that is respaced. -/
theorem absent_of_respaced (solid : Solid ls) {h h' r r' : Text} (front : Respaced h h')
    (rest : Rewritten r r')
    (before : ∀ x y, h = x ++ y → y ≠ [] → standing? ls (y ++ r) = none) :
    ∀ x y, h' = x ++ y → y ≠ [] → standing? ls (y ++ r') = none := by
  rintro x y rfl filled
  obtain ⟨c, y, rfl⟩ := List.exists_cons_of_ne_nil filled
  by_cases blank : isBlank c = true
  · exact standing?_eq_none_of_blank solid blank _
  · obtain ⟨x₁, y₁, rfl, -, back⟩ := front.split
    have noSpace : Code.space ∉ [c] := by
      rintro space
      rw [← List.mem_singleton.1 space] at blank
      exact blank isBlank_space
    have begins : [c] <+: y₁ := back.front_of_front noSpace ⟨y, rfl⟩
    have filled₁ : y₁ ≠ [] := by
      rintro rfl
      exact absurd (List.prefix_nil.1 begins) (List.cons_ne_nil c [])
    exact standing?_eq_none_of_rewritten solid (.append back rest) (before x₁ y₁ rfl filled₁)

/-- Cells whose texts are respaced, the last one also rewritten. -/
inductive RespacedCells : Text → List Cell → Text → List Cell → Prop where
  | last {t t' : Text} : Rewritten t t' → RespacedCells t [] t' []
  | cell {h h' s t t' : Text} {cs cs' : List Cell} : Respaced h h' → RespacedCells t cs t' cs' →
      RespacedCells h (⟨s, t⟩ :: cs) h' (⟨s, t'⟩ :: cs')

theorem RespacedCells.rewritten {h h' : Text} {cs cs' : List Cell}
    (respaced : RespacedCells h cs h' cs') :
    Rewritten (h ++ cellsText cs) (h' ++ cellsText cs') := by
  induction respaced with
  | last rewritten => simpa using rewritten
  | @cell h h' s t t' cs cs' front _ ih =>
    simpa using Rewritten.append front (Rewritten.append (.refl s) ih)

theorem Cuts.text_eq {t h : Text} {cs : List Cell} (cuts : Cuts ls t h cs) :
    t = h ++ cellsText cs := by
  induction cuts with
  | rest _ => simp
  | @cell h s r t cs _ _ _ ih => simp [ih]

/-- **Respaced between its separators a text is cut at the same ones.** -/
theorem Cuts.respaced (solid : Solid ls) {t h h' : Text} {cs cs' : List Cell}
    (cuts : Cuts ls t h cs) (respaced : RespacedCells h cs h' cs') :
    Cuts ls (h' ++ cellsText cs') h' cs' := by
  induction respaced generalizing t with
  | @last a a' rewritten =>
    cases cuts with
    | rest none =>
      rw [cellsText_nil, List.append_nil]
      refine .rest fun x y split => ?_
      obtain ⟨kept, lost, rfl, blank, front⟩ := rewritten
      by_cases empty : y = []
      · rw [empty]
        exact standing?_nil solid
      · have gone : Rewritten lost [] := ⟨[], lost, rfl, blank, .nil⟩
        have before (x y : Text) (split : kept = x ++ y) (_ : y ≠ []) :
            standing? ls (y ++ lost) = Option.none :=
          none x (y ++ lost) (by rw [split, List.append_assoc])
        simpa using absent_of_respaced solid front gone before x y split empty
  | @cell a a' s b b' cs cs' front further ih =>
    cases cuts with
    | @cell _ _ r _ _ before stands behind =>
      have whole : a' ++ cellsText (⟨s, b'⟩ :: cs') = a' ++ (s ++ (b' ++ cellsText cs')) := by simp
      have rewritten := further.rewritten
      rw [← behind.text_eq] at rewritten
      rw [whole]
      exact .cell (absent_of_respaced solid front (.append (.refl s) rewritten) before)
        (standing?_of_rewritten solid rewritten stands) (ih behind)

end EditorText.Align
