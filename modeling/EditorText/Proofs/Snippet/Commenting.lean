import EditorText.Proofs.Snippet.LineBreaks
import EditorText.Proofs.Snippet.Recovery

/-!
# Comments in a snippet file

The definition stands in its file with a comment mark at its start and behind every line feed. A line
of an excerpt also ends at a carriage return alone, behind which no mark is put; so every line of the
definition is a comment exactly if whatever stands behind such a carriage return is one already
(`forall_lines_commented_iff`). Carriage returns alone can stand in the body only
(`prepareFile_comments_iff`).
-/

set_option autoImplicit false

namespace EditorText.Snippet

open Text (EachBehind)

/-- The two slashes that make a line a comment. -/
def commentSlashes : Text := [Code.slash, Code.slash]

/-- The text with a comment mark behind every line feed. -/
def marked (s : Text) : Text :=
  Text.replaceCode Code.newline (Code.newline :: commentMark) s

/-- What stands behind a carriage return needs no mark: it ends the line with a line feed, which gets
one, or it is a comment. -/
def NeedsNoMark (t : Text) : Prop := [Code.newline] <+: t ∨ commentSlashes <+: t

section Marks

variable {c : Code} {s t w : Text}

theorem marked_newline (s : Text) :
    marked (Code.newline :: s) = Code.newline :: (commentMark ++ marked s) :=
  Text.replaceCode_cons_self Code.newline _ s

theorem marked_cons (other : c ≠ Code.newline) (s : Text) : marked (c :: s) = c :: marked s :=
  Text.replaceCode_cons_of_ne other _ s

/-- Marks do not change how a text begins up to its first line feed. -/
theorem prefix_marked_iff (free : Code.newline ∉ w) : w <+: marked s ↔ w <+: s := by
  induction w generalizing s with
  | nil => simp
  | cons d w ih =>
    obtain ⟨other, behind⟩ := List.ne_and_not_mem_of_not_mem_cons free
    cases s with
    | nil => rfl
    | cons c s =>
      by_cases feed : c = Code.newline
      · subst feed
        rw [marked_newline, List.cons_prefix_cons, List.cons_prefix_cons]
        simp [Ne.symm other]
      · rw [marked_cons feed, List.cons_prefix_cons, List.cons_prefix_cons, ih behind]

theorem newline_prefix_marked_iff : [Code.newline] <+: marked s ↔ [Code.newline] <+: s := by
  cases s with
  | nil => rfl
  | cons c s =>
    by_cases feed : c = Code.newline
    · subst feed
      rw [marked_newline, List.cons_prefix_cons, List.cons_prefix_cons]
      simp
    · rw [marked_cons feed, List.cons_prefix_cons, List.cons_prefix_cons]
      simp

end Marks

section Comments

variable {c : Code} {s t w : Text}

/-- The lines behind the first stay when something without a line end is put before a text. -/
theorem tail_excerptLines_append (inLine : ∀ c ∈ w, IsInLine c) (t : Text) :
    (excerptLines (w ++ t)).tail = (excerptLines t).tail := by
  induction w with
  | nil => rfl
  | cons c w ih =>
    obtain ⟨first, others⟩ := List.forall_mem_cons.1 inLine
    obtain ⟨p, rest, lines, longer⟩ :=
      Text.consFirst_eq_cons (c := c) (excerptLines_ne_nil (w ++ t))
    rw [List.cons_append, excerptLines_cons first, longer, ← ih others, lines]
    rfl

/-- What has no line end begins the first line if it begins the text. -/
theorem prefix_takeWhile_iff (inLine : ∀ c ∈ w, IsInLine c) :
    w <+: t.takeWhile (fun c => decide (IsInLine c)) ↔ w <+: t := by
  constructor
  · intro front
    exact front.trans (List.takeWhile_prefix _)
  · rintro ⟨r, rfl⟩
    rw [List.takeWhile_append_of_pos (by simpa using inLine)]
    exact List.prefix_append w _

/-- The lines of a text are comments if the text begins as one and the other lines are. -/
theorem forall_lines_iff (t : Text) :
    (∀ line ∈ excerptLines t, commentSlashes <+: line) ↔
      commentSlashes <+: t ∧ ∀ line ∈ (excerptLines t).tail, commentSlashes <+: line := by
  have slashes : ∀ c ∈ commentSlashes, IsInLine c := by decide
  have first := head?_excerptLines t
  obtain ⟨line, rest, lines⟩ := List.exists_cons_of_ne_nil (excerptLines_ne_nil t)
  rw [lines] at first ⊢
  obtain rfl := Option.some.inj first
  rw [List.forall_mem_cons, prefix_takeWhile_iff slashes]
  rfl

/-- With a mark at its start a text is all comments if its lines behind the first are. -/
theorem forall_lines_mark_iff (t : Text) :
    (∀ line ∈ excerptLines (commentMark ++ t), commentSlashes <+: line) ↔
      ∀ line ∈ (excerptLines t).tail, commentSlashes <+: line := by
  have mark : ∀ c ∈ commentMark, IsInLine c := by decide
  have begins : commentSlashes <+: commentMark ++ t :=
    List.prefix_append commentSlashes (Code.space :: t)
  rw [forall_lines_iff, tail_excerptLines_append mark]
  exact and_iff_right begins

/-- Behind the first line only a carriage return can end a line without a mark behind it. -/
theorem forall_tail_lines_iff (s : Text) :
    (∀ line ∈ (excerptLines (marked s)).tail, commentSlashes <+: line) ↔
      EachBehind Code.carriageReturn NeedsNoMark s := by
  induction s with
  | nil => simp [marked, Text.replaceCode, excerptLines, Text.eachBehind_nil]
  | cons c s ih =>
    rw [Text.eachBehind_cons_iff, ← ih]
    by_cases feed : c = Code.newline
    · subst feed
      have noReturn : Code.newline ≠ Code.carriageReturn := by decide
      rw [marked_newline, excerptLines_newline, List.tail_cons, forall_lines_mark_iff]
      simp [noReturn]
    rw [marked_cons feed]
    by_cases ret : c = Code.carriageReturn
    · subst ret
      by_cases joined : [Code.newline] <+: s
      · -- The two end one line, so that the carriage return adds none.
        obtain ⟨r, rfl⟩ := joined
        have needsNo : NeedsNoMark ([Code.newline] ++ r) := .inl (List.prefix_append _ r)
        rw [List.singleton_append] at needsNo ⊢
        rw [marked_newline, excerptLines_return_newline, excerptLines_newline]
        simp [needsNo]
      · have lone : ¬ [Code.newline] <+: marked s := by rwa [newline_prefix_marked_iff]
        have comment : NeedsNoMark s ↔ commentSlashes <+: s := or_iff_right joined
        rw [excerptLines_return lone, List.tail_cons, forall_lines_iff,
          prefix_marked_iff (by decide), comment]
        simp
    · have inLine : ∀ d ∈ [c], IsInLine d := List.forall_mem_singleton.2 ⟨ret, feed⟩
      have same := tail_excerptLines_append inLine (marked s)
      rw [List.singleton_append] at same
      rw [same]
      simp [ret]

/-- **Which definitions are all comments**: those where whatever stands behind a carriage return
needs no mark. -/
theorem forall_lines_commented_iff (source : Text) :
    (∀ line ∈ excerptLines (commented source), commentSlashes <+: line) ↔
      EachBehind Code.carriageReturn NeedsNoMark source :=
  (forall_lines_mark_iff (marked source)).trans (forall_tail_lines_iff source)

end Comments

section Content

variable {source eol : Text} {d : Definition}

theorem NeedsNoMark.append {t : Text} (h : NeedsNoMark t) (r : Text) : NeedsNoMark (t ++ r) :=
  h.imp (fun front => front.trans (List.prefix_append t r))
    fun front => front.trans (List.prefix_append t r)

/-- The lines of a file are those of its document, an empty one and those of the definition. -/
theorem excerptLines_content (unit : LineEndUnit eol) (d : Definition) (source : Text) :
    excerptLines (content d source eol) =
      excerptLines d.json ++ [] :: excerptLines (commented source) := by
  obtain ⟨front, -, document⟩ := json_eq d
  have brace : d.json.getLast? ≠ some Code.carriageReturn := by
    rw [document, List.getLast?_append]
    simp [closing, Code.closeBrace, Code.carriageReturn]
  have lines := excerptLines_append unit (fun _ => brace) ([] ++ (eol ++ commented source))
  rw [excerptLines_append (t := []) unit (by simp), List.nil_append] at lines
  rw [content, List.append_assoc, List.append_assoc, lines]
  rfl

/-- The lines before the body take no carriage return alone, so that only the body is to be looked
at. -/
theorem Document.eachBehind_iff (document : Document source d) :
    EachBehind Code.carriageReturn NeedsNoMark source ↔
      EachBehind Code.carriageReturn NeedsNoMark d.body := by
  obtain ⟨n, s, p, l, name, scope, trigger, dashes, -, rfl⟩ := document
  have optional := paired_scopeLine scope
  have header : Paired (n ++ s ++ p ++ l) :=
    (((paired_headerLine (by decide) name).append optional).append
      (paired_headerLine (by decide) trigger)).append (paired_dashLine dashes)
  constructor
  · exact fun whole => whole.suffix
  · exact (header.mono fun _ => .inl).append fun _ z needsNo => needsNo.append z

/-- **Which files hold a definition all commented out**: the lines of a file are those of the JSON
document, an empty one, and those of the definition, and the latter are all comments exactly if in
the body every carriage return has a line feed behind it, or a comment. -/
theorem prepareFile_comments_iff {name : Option Text} (unit : LineEndUnit eol)
    (read : (parse source name).result = .ok d) (ε : Type) (user : Text) (portable : Option Text) :
    ∃ f : File, (prepareFile d source user portable eol : Outcome ε File).result = .ok f ∧
      ∃ comments, excerptLines f.content = excerptLines d.json ++ [] :: comments ∧
        ((∀ line ∈ comments, commentSlashes <+: line) ↔
          ∀ x y, d.body = x ++ Code.carriageReturn :: y →
            [Code.newline] <+: y ∨ commentSlashes <+: y) := by
  have document := (result_eq_ok_iff source name d).1 read
  refine ⟨_, rfl, _, excerptLines_content unit d source, ?_⟩
  rw [forall_lines_commented_iff, document.eachBehind_iff]
  rfl

end Content

/-- A snippet whose body has a carriage return with a comment behind it. -/
def remark : Definition :=
  ⟨Text.ofString "a", none, Text.ofString "b", Text.ofString "x\r// y\r\nz"⟩

def remarkSource : Text := Text.ofString "// Name: a\n// Prefix: b\n// -\n" ++ remark.body

theorem prepareFile_comments_iff_remark :
    LineEndUnit [Code.carriageReturn, Code.newline] ∧
    (parse remarkSource none).result = .ok remark ∧
    ∃ f : File, (prepareFile remark remarkSource (Text.ofString "u") none
        [Code.carriageReturn, Code.newline] : Outcome ParseError File).result = .ok f ∧
      ∃ comments, excerptLines f.content = excerptLines remark.json ++ [] :: comments ∧
        ((∀ line ∈ comments, commentSlashes <+: line) ↔
          ∀ x y, remark.body = x ++ Code.carriageReturn :: y →
            [Code.newline] <+: y ∨ commentSlashes <+: y) := by
  have unit : LineEndUnit [Code.carriageReturn, Code.newline] := .inr rfl
  have read : (parse remarkSource none).result = .ok remark := by rfl
  exact ⟨unit, read, prepareFile_comments_iff unit read ParseError (Text.ofString "u") none⟩

/-- A snippet whose body has a carriage return in front of text. -/
def torn : Definition := ⟨Text.ofString "a", none, Text.ofString "b", Text.ofString "x\ry"⟩

def tornSource : Text := Text.ofString "// Name: a\n// Prefix: b\n// -\n" ++ torn.body

/-- Its file has a line behind the JSON document that is not empty and no comment. -/
theorem exists_line_not_comment_of_torn :
    (parse tornSource none).result = .ok torn ∧
    ∃ f : File, (prepareFile torn tornSource (Text.ofString "u") none [Code.newline] :
        Outcome ParseError File).result = .ok f ∧
      ∃ comments, excerptLines f.content = excerptLines torn.json ++ [] :: comments ∧
        Text.ofString "y" ∈ comments ∧ ¬ commentSlashes <+: Text.ofString "y" := by
  have read : (parse tornSource none).result = .ok torn := by rfl
  refine ⟨read, _, rfl, _, excerptLines_content (.inl rfl) torn tornSource, ?_, ?_⟩
  · decide
  · decide

end EditorText.Snippet
