import EditorText.Proofs.Snippet.Pairing
import EditorText.Proofs.Snippet.Positions
import EditorText.Proofs.Text.Splitting
import EditorText.Snippet.SyntaxError

/-!
# The lines of an excerpt

A text is shown in lines that end at a line feed, a carriage return or both. Line by line it falls
apart at a line end (`excerptLines_append`), and its first line goes up to the first of these
characters (`head?_excerptLines`). Where every carriage return is followed by a line feed there are
as many lines as line feeds and one more (`length_excerptLines`).
-/

set_option autoImplicit false

namespace EditorText.Snippet

variable {c : Code} {s t e : Text}

theorem excerptLines_ne_nil (t : Text) : excerptLines t ≠ [] := by
  fun_induction excerptLines t with
  | case1 | case2 | case3 | case4 => simp
  | case5 c t _ _ _ ih =>
    obtain ⟨p, rest, -, first⟩ := Text.consFirst_eq_cons ih
    rw [first]
    exact List.cons_ne_nil _ _

theorem excerptLines_newline (t : Text) :
    excerptLines (Code.newline :: t) = [] :: excerptLines t := rfl

theorem excerptLines_return_newline (t : Text) :
    excerptLines (Code.carriageReturn :: Code.newline :: t) = [] :: excerptLines t := rfl

/-- A carriage return ends a line, unless the line feed behind it does. -/
theorem excerptLines_return (lone : ¬ [Code.newline] <+: t) :
    excerptLines (Code.carriageReturn :: t) = [] :: excerptLines t := by
  rw [excerptLines]
  rintro r rfl
  exact lone (List.prefix_append [Code.newline] r)

theorem excerptLines_cons (inLine : IsInLine c) :
    excerptLines (c :: t) = Text.consFirst c (excerptLines t) := by
  rw [excerptLines]
  · exact fun r same => absurd same inLine.1
  · exact inLine.1
  · exact inLine.2

theorem consFirst_append {ps : List Text} (filled : ps ≠ []) (qs : List Text) :
    Text.consFirst c (ps ++ qs) = Text.consFirst c ps ++ qs := by
  obtain ⟨p, rest, rfl, -⟩ := Text.consFirst_eq_cons (c := c) filled
  rfl

/-- Lines fall apart at a line end. A line feed is one of its own only where no carriage return
stands before it. -/
theorem excerptLines_append (unit : LineEndUnit e)
    (own : e = [Code.newline] → t.getLast? ≠ some Code.carriageReturn) (r : Text) :
    excerptLines (t ++ (e ++ r)) = excerptLines t ++ excerptLines r := by
  have shorter {d : Code} {t : Text} (own : (d :: t).getLast? ≠ some Code.carriageReturn) :
      t.getLast? ≠ some Code.carriageReturn := by
    cases t with
    | nil => simp
    | cons b t => rwa [List.getLast?_cons_cons] at own
  fun_induction excerptLines t with
  | case1 => rcases unit with rfl | rfl <;> rfl
  | case2 t ih =>
    have behind := ih fun same => shorter (shorter (own same))
    exact congrArg ([] :: ·) behind
  | case3 t lone ih =>
    have behind := ih fun same => shorter (own same)
    have alone : ¬ [Code.newline] <+: t ++ (e ++ r) := by
      intro front
      cases t with
      | nil =>
        rcases unit with rfl | rfl
        · exact own rfl rfl
        · exact absurd (List.cons_prefix_cons.1 front).1 (by decide)
      | cons d t =>
        obtain ⟨rfl, -⟩ := List.cons_prefix_cons.1 front
        exact lone t rfl
    rw [List.cons_append, excerptLines_return alone, behind]
    rfl
  | case4 t ih =>
    have behind := ih fun same => shorter (own same)
    exact congrArg ([] :: ·) behind
  | case5 c t _ notReturn notFeed ih =>
    have behind := ih fun same => shorter (own same)
    rw [List.cons_append, excerptLines_cons ⟨notReturn, notFeed⟩, behind,
      consFirst_append (excerptLines_ne_nil t)]

/-- The first line goes up to the first carriage return or line feed. -/
theorem head?_excerptLines (t : Text) :
    (excerptLines t).head? = some (t.takeWhile fun c => decide (IsInLine c)) := by
  fun_induction excerptLines t with
  | case1 | case2 | case3 | case4 => rfl
  | case5 c t _ notReturn notFeed ih =>
    have inLine : IsInLine c := ⟨notReturn, notFeed⟩
    obtain ⟨p, rest, lines, first⟩ := Text.consFirst_eq_cons (c := c) (excerptLines_ne_nil t)
    rw [lines] at ih
    rw [first, List.takeWhile_cons_of_pos (by simpa using inLine), ← Option.some.inj ih]
    rfl

/-- A text whose carriage returns are all followed by line feeds has a line more than line feeds. -/
theorem length_excerptLines (paired : Paired t) :
    (excerptLines t).length = t.count Code.newline + 1 := by
  fun_induction excerptLines t with
  | case1 => rfl
  | case2 t ih =>
    have behind := ih (paired.suffix (s := [Code.carriageReturn, Code.newline]))
    simp [behind, Code.newline]
  | case3 t lone ih =>
    obtain ⟨r, split⟩ := paired [] t rfl
    exact absurd split.symm (lone r)
  | case4 t ih =>
    have behind := ih (paired.suffix (s := [Code.newline]))
    simp [behind]
  | case5 c t _ notReturn notFeed ih =>
    have behind := ih (paired.suffix (s := [c]))
    obtain ⟨p, rest, lines, first⟩ := Text.consFirst_eq_cons (c := c) (excerptLines_ne_nil t)
    rw [lines] at behind
    rw [first, List.count_cons_of_ne notFeed, ← behind]
    rfl

/-- The front of a text pairs its carriage returns, unless it is cut off between the two. -/
theorem Paired.front (h : Paired (s ++ t))
    (cut : s.getLast? = some Code.carriageReturn → ¬ [Code.newline] <+: t) : Paired s := by
  rintro x y rfl
  have behind : [Code.newline] <+: y ++ t := h x (y ++ t) (by simp)
  cases y with
  | nil => exact absurd behind (cut (by simp))
  | cons d y =>
    obtain ⟨rfl, -⟩ := List.cons_prefix_cons.1 behind
    exact List.prefix_append [Code.newline] y

/-- A text that ends where a line begins stands in lines of its own, one for each line feed. -/
theorem exists_excerptLines (ends : EndsAtLine s) (paired : Paired s) :
    ∃ ls : List Text, ls.length = s.count Code.newline ∧
      ∀ t, excerptLines (s ++ t) = ls ++ excerptLines t := by
  have lines {x e : Text} (unit : LineEndUnit e) (paired : Paired (x ++ e))
      (own : e = [Code.newline] → x.getLast? ≠ some Code.carriageReturn) :
      ∃ ls : List Text, ls.length = (x ++ e).count Code.newline ∧
        ∀ t, excerptLines (x ++ e ++ t) = ls ++ excerptLines t := by
    have front : Paired x := by
      apply paired.front
      rcases unit with rfl | rfl
      · exact fun last => absurd last (own rfl)
      · exact fun _ begins => absurd (List.cons_prefix_cons.1 begins).1 (by decide)
    have feeds : e.count Code.newline = 1 := by rcases unit with rfl | rfl <;> rfl
    refine ⟨excerptLines x, ?_, ?_⟩
    · rw [length_excerptLines front, List.count_append, feeds]
    · intro t
      rw [List.append_assoc, excerptLines_append unit own]
  rcases ends with rfl | ⟨x, rfl⟩
  · exact ⟨[], rfl, fun _ => rfl⟩
  · by_cases last : x.getLast? = some Code.carriageReturn
    · obtain ⟨y, rfl⟩ := List.getLast?_eq_some_iff.1 last
      rw [List.append_assoc] at paired ⊢
      exact lines (.inr rfl) paired (by simp)
    · exact lines (.inl rfl) paired fun _ => last

/-- **The line with a number**, counted by line feeds: what stands on it before, and what follows up
to the end of the line. -/
theorem getElem?_excerptLines {m : Text} (ends : EndsAtLine s) (paired : Paired (s ++ m))
    (free : Code.newline ∉ m) (v : Text) :
    (excerptLines (s ++ m ++ v))[s.count Code.newline]? =
      some (m ++ v.takeWhile fun c => decide (IsInLine c)) := by
  have front : Paired s := by
    apply paired.front
    rcases ends with rfl | ⟨x, rfl⟩
    · simp
    · simp [Code.newline, Code.carriageReturn]
  have inLine : ∀ c ∈ m, IsInLine c := by
    intro c member
    constructor
    · rintro rfl
      obtain ⟨x, y, rfl⟩ := List.append_of_mem member
      obtain ⟨r, rfl⟩ := paired (s ++ x) y (by simp)
      exact free (by simp)
    · rintro rfl
      exact free member
  obtain ⟨ls, count, lines⟩ := exists_excerptLines ends front
  have first : (excerptLines (m ++ v)).head? =
      some (m ++ v.takeWhile fun c => decide (IsInLine c)) := by
    rw [head?_excerptLines, List.takeWhile_append_of_pos (by simpa using inLine)]
  rw [List.append_assoc, lines, List.getElem?_append_right (by omega), count, Nat.sub_self,
    ← List.head?_eq_getElem?, first]

end EditorText.Snippet
