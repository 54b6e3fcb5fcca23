import EditorText.Proofs.Snippet.Paths
import EditorText.Snippet.File

/-!
# Names of snippet files

A text that is cleaned for a file name holds no forbidden character and no two blanks side by side
(`isClean_sanitize`), and a clean text stays as it is (`sanitize_eq_self`). The name of a snippet
file is clean, so that it holds no slash, and it holds a closing bracket, so that it is neither
empty nor a dot. Hence it is a component of a path, and a file stands directly in the directory for
snippets whatever the snippet holds (`prepareFile_path`).
-/

set_option autoImplicit false

namespace EditorText.Snippet

/-- No two blanks stand side by side. -/
def BlanksApart (t : Text) : Prop :=
  t.IsChain fun c d => ¬ (isBlank c = true ∧ isBlank d = true)

/-- No forbidden character and no two blanks side by side. -/
structure IsClean (t : Text) : Prop where
  allowed : ∀ c ∈ t, isForbidden c = false
  apart : BlanksApart t

section Blanks

variable {c d : Code} {t : Text}

theorem blanksApart_cons_cons_iff : BlanksApart (c :: d :: t) ↔
    ¬ (isBlank c = true ∧ isBlank d = true) ∧ BlanksApart (d :: t) :=
  List.isChain_cons_cons

/-- Of a run of blanks one blank is left, and all else stays where it is. -/
theorem exists_mergeBlanks_cons (c : Code) (t : Text) :
    ∃ d r, mergeBlanks (c :: t) = d :: r ∧ isBlank d = isBlank c := by
  cases t with
  | nil => exact ⟨c, [], rfl, rfl⟩
  | cons d t =>
    rw [mergeBlanks]
    split
    next both =>
      obtain ⟨blank, -⟩ := Bool.and_eq_true_iff.1 both
      split
      next none =>
        obtain ⟨e, r, first, -⟩ := exists_mergeBlanks_cons d t
        rw [none] at first
        cases first
      next => exact ⟨Code.space, _, rfl, blank.symm⟩
    next => exact ⟨c, _, rfl, rfl⟩

theorem mergeBlanks_of_blanks (blank : isBlank c = true) (next : isBlank d = true) :
    mergeBlanks (c :: d :: t) = Code.space :: (mergeBlanks (d :: t)).tail := by
  obtain ⟨e, r, first, -⟩ := exists_mergeBlanks_cons d t
  rw [mergeBlanks, if_pos (by rw [blank, next]; rfl), first]
  rfl

theorem mergeBlanks_of_apart (apart : ¬ (isBlank c = true ∧ isBlank d = true)) :
    mergeBlanks (c :: d :: t) = c :: mergeBlanks (d :: t) := by
  rw [mergeBlanks, if_neg (by rwa [Bool.and_eq_true_iff])]

/-- **No two blanks stay side by side.** -/
theorem blanksApart_mergeBlanks (t : Text) : BlanksApart (mergeBlanks t) := by
  induction t with
  | nil => exact .nil
  | cons c t ih =>
    cases t with
    | nil => exact .singleton c
    | cons d t =>
      obtain ⟨e, r, first, kind⟩ := exists_mergeBlanks_cons d t
      rw [first] at ih
      by_cases both : isBlank c = true ∧ isBlank d = true
      · -- The space takes the place of a blank, so that what follows it is none.
        rw [mergeBlanks_of_blanks both.1 both.2, first, List.tail_cons]
        cases r with
        | nil => exact .singleton Code.space
        | cons f r =>
          obtain ⟨apart, rest⟩ := blanksApart_cons_cons_iff.1 ih
          refine blanksApart_cons_cons_iff.2 ⟨fun ⟨_, blank⟩ => ?_, rest⟩
          exact apart ⟨kind.trans both.2, blank⟩
      · rw [mergeBlanks_of_apart both, first]
        rw [← kind] at both
        exact blanksApart_cons_cons_iff.2 ⟨both, ih⟩

/-- Where no two blanks stand side by side there is nothing to merge. -/
theorem mergeBlanks_eq_self (apart : BlanksApart t) : mergeBlanks t = t := by
  induction t with
  | nil => rfl
  | cons c t ih =>
    cases t with
    | nil => rfl
    | cons d t =>
      obtain ⟨first, rest⟩ := blanksApart_cons_cons_iff.1 apart
      rw [mergeBlanks_of_apart first, ih rest]

/-- Merging brings in spaces alone. -/
theorem mem_of_mem_mergeBlanks (inside : c ∈ mergeBlanks t) : c ∈ t ∨ c = Code.space := by
  induction t with
  | nil => cases inside
  | cons d t ih =>
    cases t with
    | nil => exact .inl inside
    | cons e t =>
      by_cases both : isBlank d = true ∧ isBlank e = true
      · rw [mergeBlanks_of_blanks both.1 both.2] at inside
        rcases List.mem_cons.1 inside with space | behind
        · exact .inr space
        · exact (ih (List.mem_of_mem_tail behind)).imp_left (List.mem_cons_of_mem d)
      · rw [mergeBlanks_of_apart both] at inside
        rcases List.mem_cons.1 inside with same | behind
        · exact .inl (same ▸ List.mem_cons_self)
        · exact (ih behind).imp_left (List.mem_cons_of_mem d)

/-- Merging loses blanks alone. -/
theorem mem_mergeBlanks_of_mem (solid : isBlank c = false) (inside : c ∈ t) :
    c ∈ mergeBlanks t := by
  induction t with
  | nil => cases inside
  | cons d t ih =>
    cases t with
    | nil => exact inside
    | cons e t =>
      by_cases both : isBlank d = true ∧ isBlank e = true
      · have behind : c ∈ e :: t := by
          rcases List.mem_cons.1 inside with rfl | behind
          · rw [solid] at both
            cases both.1
          · exact behind
        obtain ⟨f, r, first, kind⟩ := exists_mergeBlanks_cons e t
        have kept := ih behind
        rw [first] at kept
        rw [mergeBlanks_of_blanks both.1 both.2, first, List.tail_cons]
        rcases List.mem_cons.1 kept with rfl | later
        · rw [solid, both.2] at kind
          cases kind
        · exact List.mem_cons_of_mem _ later
      · rw [mergeBlanks_of_apart both]
        rcases List.mem_cons.1 inside with rfl | behind
        · exact List.mem_cons_self
        · exact List.mem_cons_of_mem d (ih behind)

end Blanks

section Cleaning

variable {c : Code} {t : Text}

/-- **A cleaned text is clean.** -/
theorem isClean_sanitize (t : Text) : IsClean (sanitize t) := by
  constructor
  · intro c inside
    rcases mem_of_mem_mergeBlanks inside with kept | rfl
    · simpa using (List.mem_filter.1 kept).2
    · decide
  · exact blanksApart_mergeBlanks _

/-- **A clean text stays as it is.** -/
theorem sanitize_eq_self (clean : IsClean t) : sanitize t = t := by
  have allowed : ∀ c ∈ t, (!isForbidden c) = true := fun c inside => by
    rw [clean.allowed c inside]
    rfl
  rw [sanitize, List.filter_eq_self.2 allowed, mergeBlanks_eq_self clean.apart]

/-- What is neither forbidden nor blank stays. -/
theorem mem_sanitize_of_mem (allowed : isForbidden c = false) (solid : isBlank c = false)
    (inside : c ∈ t) : c ∈ sanitize t :=
  mem_mergeBlanks_of_mem solid (List.mem_filter.2 ⟨inside, by rw [allowed]; rfl⟩)

end Cleaning

section Files

/-- The name of a file is a cleaned text with a bracket in it. -/
theorem exists_filename (d : Definition) :
    ∃ t, d.filename = sanitize t ∧ Code.closeBracket ∈ t := by
  unfold Definition.filename
  split
  · exact ⟨_, rfl, by simp⟩
  · exact ⟨_, rfl, by simp⟩
  · exact ⟨_, rfl, by simp⟩

theorem isClean_filename (d : Definition) : IsClean d.filename := by
  obtain ⟨t, cleaned, -⟩ := exists_filename d
  rw [cleaned]
  exact isClean_sanitize t

/-- **The name of a file is a component of a path.** -/
theorem isName_filename (d : Definition) : Path.IsName d.filename := by
  have bracket : Code.closeBracket ∈ d.filename := by
    obtain ⟨t, cleaned, inside⟩ := exists_filename d
    rw [cleaned]
    exact mem_sanitize_of_mem (by decide) (by decide) inside
  constructor
  · exact List.ne_nil_of_mem bracket
  · intro dot
    rw [dot] at bracket
    exact absurd bracket (by decide)
  · intro slash
    have allowed := (isClean_filename d).allowed Code.slash slash
    exact absurd allowed (by decide)

/-- The directory for snippets is a proper path with components. -/
theorem proper_directory (user : Text) (portable : Option Text) :
    (directory user portable).Proper ∧ (directory user portable).components ≠ [] := by
  have name : Path.IsName (Text.ofString "snippets") := ⟨by decide, by decide, by decide⟩
  have last (p : Path) : (p.below (Text.ofString "snippets")).components ≠ [] := by
    rw [Path.below_name name]
    simp
  unfold directory
  split
  · exact ⟨(Path.proper_ofText _).below _, last _⟩
  · exact ⟨(Path.proper_ofText _).below _, last _⟩
  · exact ⟨(((Path.proper_ofText _).below _).below _).below _, last _⟩

/-- **A snippet file stands directly in the directory for snippets.** A file name that is cleaned
holds no forbidden character and no two blanks side by side, and cleaning it again changes nothing.
Whatever the snippet holds, its file has such a name, and the path of the file is the directory with
this name as the one component behind it, also when the path is written and read. -/
theorem prepareFile_path :
    (∀ t, IsClean (sanitize t) ∧ sanitize (sanitize t) = sanitize t) ∧
    ∀ (ε : Type) (d : Definition) (source user : Text) (portable : Option Text) (eol : Text),
      ∃ f : File, (prepareFile d source user portable eol : Outcome ε File).result = .ok f ∧
        f.directory = directory user portable ∧ f.filename = d.filename ∧ IsClean f.filename ∧
        f.path = ⟨f.directory.root, f.directory.components ++ [f.filename]⟩ ∧
        f.path.text = f.directory.text ++ Code.slash :: f.filename ∧
        Path.ofText f.path.text = f.path := by
  constructor
  · intro t
    exact ⟨isClean_sanitize t, sanitize_eq_self (isClean_sanitize t)⟩
  · intro ε d source user portable eol
    have name : Path.IsName d.filename := isName_filename d
    obtain ⟨proper, some⟩ := proper_directory user portable
    refine ⟨_, rfl, rfl, rfl, isClean_filename d, ?_, ?_, ?_⟩
    · exact Path.below_name name (directory user portable)
    · exact Path.text_below name some
    · exact Path.ofText_text (proper.below d.filename)

end Files

end EditorText.Snippet
