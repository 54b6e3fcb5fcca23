import EditorText.Proofs.Replace.Scanning
import EditorText.Proofs.Text.Following

/-!
# Dollar signs without a listed token

A dollar sign that has no sign of a token and no digit from `0` to `9` behind it is listed nowhere,
yet it is not always copied: a digit of another script counts as a digit too, so that it may name a
group (`Numbers`). Where no dollar sign has such digits behind it the template stands for itself
(`expand_eq_self`); where one has them a dollar sign is lost (`count_expand_le`), so that the
template is copied only if the text of a group brings it back (`expand_unlisted`).
-/

set_option autoImplicit false

namespace EditorText.Replace

/-- No dollar sign of a template has the sign of a token or a digit from `0` to `9` behind it. -/
def Unlisted (template : Text) : Prop :=
  Text.EachBehind Code.dollar (fun t => ∀ c ∈ t.head?, c ∉ signs ∧ isAsciiDigit c = false) template

/-- The first one or two characters of a text are digits, of any script, whose number a group
has. -/
def Numbers (groups : Nat) (t : Text) : Prop :=
  ∃ k ∈ [1, 2], (∀ d ∈ t.take k, isDigit d = true) ∧
    1 ≤ number (t.take k) ∧ number (t.take k) ≤ groups

instance (groups : Nat) (t : Text) : Decidable (Numbers groups t) :=
  inferInstanceAs (Decidable (∃ k ∈ [1, 2], _))

/-- No dollar sign of a template has the number of a group behind it. -/
def NamesNoGroup (groups : Nat) (template : Text) : Prop :=
  Text.EachBehind Code.dollar (fun t => ¬ Numbers groups t) template

instance (template : Text) : Decidable (Unlisted template) :=
  Text.decidableEachBehind ..

instance (groups : Nat) (template : Text) : Decidable (NamesNoGroup groups template) :=
  Text.decidableEachBehind ..

variable {f : Found} {t : Text} {d : Code}

section Dollar

theorem numbers_one {groups : Nat} (digit : isDigit d = true) (least : 1 ≤ number [d])
    (most : number [d] ≤ groups) (t : Text) : Numbers groups (d :: t) :=
  ⟨1, by simp, by simpa using digit, least, most⟩

theorem numbers_two {groups : Nat} {e : Code} (digit : isDigit d = true) (digit' : isDigit e = true)
    (least : 1 ≤ number [d, e]) (most : number [d, e] ≤ groups) (t : Text) :
    Numbers groups (d :: e :: t) :=
  ⟨2, by simp, by simp [digit, digit'], least, most⟩

/-- A dollar sign is copied where no sign and no number of a group stands behind it. -/
theorem expand_copied (noSign : ∀ c ∈ t.head?, c ∉ signs) (none : ¬ Numbers f.groupCount t) :
    expand (Code.dollar :: t) f = Code.dollar :: expand t f := by
  cases t with
  | nil => rfl
  | cons d t =>
    have other : d ∉ signs := noSign d rfl
    have plain : d ≠ Code.dollar := fun same => other (by simp [same, signs])
    by_cases digit : isDigit d = true
    · have unpaired : Unpaired f d t := by
        rintro e r rfl digit' ⟨least, most⟩
        exact none (numbers_two digit digit' least most r)
      have alone : ¬ f.Has (number [d]) := fun has => none (numbers_one digit has.1 has.2 t)
      rw [expand_noGroup f digit unpaired alone, expand_cons f plain]
    · have token : token? (d :: t) = .none := by rw [token?_cons other, if_neg digit]
      exact expand_alone f token

/-- Where the number of a group stands behind a dollar sign, the group takes the place of both. -/
theorem exists_expand_of_numbers (some : Numbers f.groupCount t) :
    ∃ n r, f.Has n ∧ r <:+ t ∧ expand (Code.dollar :: t) f = f.group n ++ expand r f := by
  cases t with
  | nil =>
    obtain ⟨k, -, -, least, -⟩ := some
    exact absurd least (by simp [number])
  | cons d t =>
    obtain ⟨k, size, digits, least, most⟩ := some
    have digit : isDigit d = true := by
      refine digits d ?_
      rcases List.mem_pair.1 size with rfl | rfl <;> simp
    by_cases pair : ∃ e r, t = e :: r ∧ isDigit e = true ∧ f.Has (number [d, e])
    · obtain ⟨e, r, rfl, digit', has⟩ := pair
      exact ⟨_, r, has, ⟨[d, e], rfl⟩, expand_pair f digit digit' has r⟩
    · have unpaired : Unpaired f d t := fun e r split digit' has => pair ⟨e, r, split, digit', has⟩
      have alone : f.Has (number [d]) := by
        rcases List.mem_pair.1 size with rfl | rfl
        · exact ⟨least, most⟩
        · cases t with
          | nil => exact ⟨least, most⟩
          | cons e r => exact absurd ⟨least, most⟩ (unpaired e r rfl (digits e (by simp)))
      exact ⟨_, t, alone, ⟨[d], rfl⟩, expand_single f digit unpaired alone⟩

end Dollar

section Template

theorem Unlisted.behind {c : Code} (h : Unlisted (c :: t)) : Unlisted t :=
  (Text.eachBehind_cons_iff.1 h).2

theorem Unlisted.noSign (h : Unlisted (Code.dollar :: t)) : ∀ c ∈ t.head?, c ∉ signs :=
  fun c first => ((Text.eachBehind_cons_iff.1 h).1 rfl c first).1

/-- A template that names no group stands for itself. -/
theorem expand_eq_self (unlisted : Unlisted t) (none : NamesNoGroup f.groupCount t) :
    expand t f = t := by
  induction t with
  | nil => rfl
  | cons c t ih =>
    obtain ⟨here, further⟩ := Text.eachBehind_cons_iff.1 none
    have rest := ih unlisted.behind further
    by_cases dollar : c = Code.dollar
    · subst dollar
      rw [expand_copied unlisted.noSign (here rfl), rest]
    · rw [expand_cons f dollar, rest]

/-- No dollar sign comes in where the groups hold none. -/
theorem count_expand_le (plain : ∀ n, f.Has n → Code.dollar ∉ f.group n) (unlisted : Unlisted t) :
    (expand t f).count Code.dollar ≤ t.count Code.dollar := by
  induction size : t.length using Nat.strongRecOn generalizing t with
  | ind size' ih =>
    cases t with
    | nil => exact Nat.le_refl _
    | cons c t =>
      have rest := ih t.length (by rw [← size, List.length_cons]; omega) unlisted.behind rfl
      by_cases dollar : c = Code.dollar
      swap
      · rw [expand_cons f dollar, List.count_cons_of_ne dollar, List.count_cons_of_ne dollar]
        exact rest
      subst dollar
      by_cases some : Numbers f.groupCount t
      · obtain ⟨n, r, has, ⟨s, rfl⟩, made⟩ := exists_expand_of_numbers some
        have shorter : r.length < size' := by
          rw [← size, List.length_cons, List.length_append]
          omega
        have fewer := ih r.length shorter (Text.EachBehind.suffix unlisted.behind) rfl
        rw [made, List.count_append, List.count_eq_zero.2 (plain n has), List.count_cons_self,
          List.count_append]
        omega
      · rw [expand_copied unlisted.noSign some, List.count_cons_self, List.count_cons_self]
        exact Nat.succ_le_succ rest

/-- Only a template that names no group stands for itself where the groups hold no dollar sign. -/
theorem namesNoGroup_of_expand_eq (plain : ∀ n, f.Has n → Code.dollar ∉ f.group n)
    (unlisted : Unlisted t) (same : expand t f = t) : NamesNoGroup f.groupCount t := by
  induction t with
  | nil => exact Text.eachBehind_nil
  | cons c t ih =>
    by_cases dollar : c = Code.dollar
    swap
    · rw [expand_cons f dollar] at same
      exact Text.eachBehind_cons_iff.2
        ⟨fun here => absurd here dollar, ih unlisted.behind (List.cons.inj same).2⟩
    subst dollar
    by_cases some : Numbers f.groupCount t
    · obtain ⟨n, r, has, ⟨s, rfl⟩, made⟩ := exists_expand_of_numbers some
      have fewer := count_expand_le plain (Text.EachBehind.suffix unlisted.behind)
      have kept := congrArg (List.count Code.dollar) (made.symm.trans same)
      rw [List.count_append, List.count_eq_zero.2 (plain n has), List.count_cons_self,
        List.count_append] at kept
      omega
    · rw [expand_copied unlisted.noSign some] at same
      exact Text.eachBehind_cons_iff.2 ⟨fun _ => some, ih unlisted.behind (List.cons.inj same).2⟩

end Template

section Step

variable {p : Pattern} {template : Text}

/-- **A template without listed tokens is copied where it names no group.** Then it stands for
itself against every match of the pattern, and a step puts it in the place of every match. Against a
match whose groups hold no dollar sign it stands for itself only then. -/
theorem expand_unlisted [Pattern.Engine] (unlisted : Unlisted template) :
    (NamesNoGroup p.groupCount template →
      (∀ text m, expand template (.ofMatch p text m) = template) ∧
      ∀ find replacement, (Pattern.compile find stepFlags).result = .ok p →
        unescape replacement = template → ∀ name text,
          (Operation.apply ⟨name, [⟨find, replacement⟩]⟩ text).result =
            .ok (p.replaceAll text fun _ => template)) ∧
    ∀ text m, (∀ n, (Found.ofMatch p text m).Has n →
        Code.dollar ∉ (Found.ofMatch p text m).group n) →
      (expand template (.ofMatch p text m) = template ↔ NamesNoGroup p.groupCount template) := by
  have copied (none : NamesNoGroup p.groupCount template) (text : Text) (m : Pattern.Match) :
      expand template (.ofMatch p text m) = template :=
    expand_eq_self (f := .ofMatch p text m) unlisted none
  constructor
  · intro none
    refine ⟨copied none, fun find replacement compiles stands name text => ?_⟩
    rw [result_apply_step compiles, stands, substitute]
    congr 2
    funext m
    exact copied none text m
  · intro text m plain
    exact ⟨namesNoGroup_of_expand_eq (f := .ofMatch p text m) plain unlisted,
      fun none => copied none text m⟩

end Step

/-- A pattern with one group. -/
def oneGroup : Text := Text.ofString "(a)|b"

/-- A dollar sign with the Arabic digit nine behind it, and two with nothing of a token. -/
def otherNine : Text := Text.ofString "$x $\u0669 $"

/-- A dollar sign with the Arabic digit one behind it. -/
def otherOne : Text := Text.ofString "$\u0661"

theorem expand_unlisted_otherNine :
    ∃ p m, (Pattern.compile oneGroup stepFlags).result = .ok p ∧
      p.search (Text.ofString "abc") 0 = some m ∧ Unlisted otherNine ∧
      NamesNoGroup p.groupCount otherNine ∧
      (∀ n, (Found.ofMatch p (Text.ofString "abc") m).Has n →
        Code.dollar ∉ (Found.ofMatch p (Text.ofString "abc") m).group n) ∧
      expand otherNine (.ofMatch p (Text.ofString "abc") m) = otherNine ∧
      (Operation.apply ⟨Text.ofString "o", [⟨oneGroup, otherNine⟩]⟩
        (Text.ofString "abc")).result = .ok (otherNine ++ otherNine ++ Text.ofString "c") := by
  have unlisted : Unlisted otherNine := by decide
  have answers : ((Pattern.compile oneGroup stepFlags).result.toOption.bind fun p =>
      (p.search (Text.ofString "abc") 0).map fun m =>
        (p.groupCount, (Found.ofMatch p (Text.ofString "abc") m).group 1,
          p.replaceAll (Text.ofString "abc") fun _ => otherNine)) =
        some (1, Text.ofString "a", otherNine ++ otherNine ++ Text.ofString "c") := by
    decide +kernel
  cases compiles : (Pattern.compile oneGroup stepFlags).result with
  | error e =>
    rw [compiles] at answers
    cases answers
  | ok p =>
    rw [compiles] at answers
    obtain ⟨m, found, values⟩ := Option.map_eq_some_iff.1 answers
    obtain ⟨groups, values⟩ := Prod.mk.inj values
    obtain ⟨first, replaced⟩ := Prod.mk.inj values
    have none : NamesNoGroup p.groupCount otherNine := by
      rw [groups]
      decide
    have plain (n : Nat) (has : (Found.ofMatch p (Text.ofString "abc") m).Has n) :
        Code.dollar ∉ (Found.ofMatch p (Text.ofString "abc") m).group n := by
      obtain rfl : n = 1 := Nat.le_antisymm (has.2.trans_eq groups) has.1
      rw [first]
      decide
    obtain ⟨copied, only⟩ := expand_unlisted (p := p) unlisted
    have step := (copied none).2 oneGroup otherNine compiles (by decide) (Text.ofString "o")
      (Text.ofString "abc")
    exact ⟨p, m, rfl, found, unlisted, none, plain, (only _ m plain).2 none,
      step.trans (congrArg Except.ok replaced)⟩

/-- **A digit of another script behind a dollar sign may stand for the text of a group.** -/
theorem expand_otherOne_ne :
    ∃ p m, (Pattern.compile oneGroup stepFlags).result = .ok p ∧
      p.search (Text.ofString "a") 0 = some m ∧ Unlisted otherOne ∧
      expand otherOne (.ofMatch p (Text.ofString "a") m) = Text.ofString "a" ∧
      expand otherOne (.ofMatch p (Text.ofString "a") m) ≠ otherOne := by
  have answers : ((Pattern.compile oneGroup stepFlags).result.toOption.bind fun p =>
      (p.search (Text.ofString "a") 0).map fun m =>
        expand otherOne (.ofMatch p (Text.ofString "a") m)) = some (Text.ofString "a") := by
    decide +kernel
  cases compiles : (Pattern.compile oneGroup stepFlags).result with
  | error e =>
    rw [compiles] at answers
    cases answers
  | ok p =>
    rw [compiles] at answers
    obtain ⟨m, found, expanded⟩ := Option.map_eq_some_iff.1 answers
    refine ⟨p, m, rfl, found, by decide, expanded, ?_⟩
    rw [expanded]
    decide

end EditorText.Replace
