import EditorText.Proofs.Snippet.Json
import EditorText.Proofs.Snippet.Parsing
import EditorText.Proofs.Text.Following
import EditorText.Proofs.Text.Replacing
import EditorText.Snippet.File

/-!
# Recovering a definition from its file

The content of a snippet file is a JSON document, an empty line and the definition as comments. In
the document every line feed but the last is followed by a space, whatever the snippet holds
(`Indented`, one lemma per part of a document), so that nothing before its end looks like that end
(`json_eq`). Hence the definition is what is left when the document and the comment marks are taken
away (`recovered?_content`).
-/

set_option autoImplicit false

namespace EditorText.Snippet

/-- What stands behind the first occurrence of a part. -/
def behindFirst? (part : Text) : Text → Option Text
  | [] => Text.after? part []
  | c :: t =>
    match Text.after? part (c :: t) with
    | some rest => some rest
    | none => behindFirst? part t

/-- How a JSON document ends: a line with the closing brace alone. -/
def closing : Text := [Code.newline, Code.closeBrace]

/-- The definition in the content of a file: what stands behind the first end of a document and two
line endings, without the mark at its start and those behind line feeds. -/
def recovered? (eol content : Text) : Option Text := do
  let comments ← behindFirst? (closing ++ eol ++ eol) content
  let marked ← Text.after? commentMark comments
  return Text.replace (Code.newline :: commentMark) [Code.newline] marked

/-- Every line feed is followed by a space. -/
def Indented (t : Text) : Prop :=
  ∀ x y, t = x ++ Code.newline :: y → [Code.space] <+: y

section First

variable {part s t : Text}

/-- A part is found where it stands, if it begins nowhere before. -/
theorem behindFirst?_append
    (before : ∀ x y, s = x ++ y → y ≠ [] → ¬ part <+: y ++ (part ++ t)) :
    behindFirst? part (s ++ (part ++ t)) = some t := by
  induction s with
  | nil =>
    have here : Text.after? part (part ++ t) = some t := Text.after?_eq_some_iff.2 rfl
    rw [List.nil_append]
    cases whole : part ++ t with
    | nil => rw [behindFirst?, ← whole, here]
    | cons c r => rw [behindFirst?, ← whole, here]
  | cons c s ih =>
    have absent : Text.after? part (c :: (s ++ (part ++ t))) = none := by
      cases found : Text.after? part (c :: (s ++ (part ++ t))) with
      | none => rfl
      | some r =>
        have begins : part <+: c :: (s ++ (part ++ t)) :=
          ⟨r, (Text.after?_eq_some_iff.1 found).symm⟩
        exact absurd begins (before [] (c :: s) rfl (List.cons_ne_nil c s))
    rw [List.cons_append, behindFirst?, absent]
    apply ih
    intro x y split filled
    exact before (c :: x) y (by rw [split, List.cons_append]) filled

end First

section Indentation

variable {s t : Text}

theorem indented_of_not_mem (absent : Code.newline ∉ t) : Indented t :=
  Text.eachBehind_of_not_mem absent

theorem Indented.append (hs : Indented s) (ht : Indented t) : Indented (s ++ t) :=
  Text.EachBehind.append (fun _ z front => front.trans (List.prefix_append _ z)) hs ht

theorem Indented.cons {c : Code} (other : c ≠ Code.newline) (ht : Indented t) :
    Indented (c :: t) := by
  have single : Indented [c] := indented_of_not_mem (by simpa using Ne.symm other)
  exact single.append ht

theorem indented_join {sep : Text} {parts : List Text} (hsep : Indented sep)
    (each : ∀ p ∈ parts, Indented p) : Indented (Text.join sep parts) := by
  induction parts with
  | nil => exact indented_of_not_mem (by simp [Text.join])
  | cons p ps ih =>
    obtain ⟨first, others⟩ := List.forall_mem_cons.1 each
    cases ps with
    | nil => simpa [Text.join] using first
    | cons q ps =>
      rw [Text.join_cons_cons]
      exact (first.append hsep).append (ih others)

/-- An indented text does not begin the end of a document, whatever stands behind it. -/
theorem Indented.not_closing_prefix (hs : Indented s) (filled : s ≠ []) (rest t : Text) :
    ¬ closing ++ rest <+: s ++ (closing ++ t) := by
  intro begins
  obtain ⟨c, s, rfl⟩ := List.exists_cons_of_ne_nil filled
  obtain ⟨rfl, brace⟩ := List.cons_prefix_cons.1 begins
  -- The text begins with a line feed, so that its next character is a space and no brace; if it
  -- ends there, the next one is the line feed of the end.
  cases s with
  | nil => exact absurd (List.cons_prefix_cons.1 brace).1 (by decide)
  | cons d s =>
    obtain ⟨rfl, -⟩ := List.cons_prefix_cons.1 (hs [] (d :: s) rfl)
    exact absurd (List.cons_prefix_cons.1 brace).1 (by decide)

end Indentation

section Document

/-- No character of a JSON string is spelled with a line feed. -/
theorem newline_notMem_of_encodes {s : Text} {u : Code × Bool} (h : Json.Encodes s u) :
    Code.newline ∉ s := by
  cases h with
  | plain shown _ _ =>
    rw [List.mem_singleton]
    rintro rfl
    exact absurd shown (by decide)
  | @letter e c listed =>
    have table : ∀ p ∈ Json.escapeLetters, Code.newline ∉ [Code.backslash, p.1] := by decide
    exact table (e, c) listed
  | number _ digits =>
    intro inside
    rcases List.mem_cons.1 inside with sign | inside
    · exact absurd sign (by decide)
    · rcases List.mem_cons.1 inside with sign | digit
      · exact absurd sign (by decide)
      · exact absurd (digits _ digit) (by decide)

theorem newline_notMem_jsonString (t : Text) : Code.newline ∉ jsonString t := by
  intro inside
  rw [jsonString, List.cons_append, List.mem_cons, List.mem_append, List.mem_flatMap] at inside
  rcases inside with first | ⟨c, -, code⟩ | last
  · exact absurd first (by decide)
  · obtain ⟨_, encodes, -⟩ := encodes_jsonCode c
    exact newline_notMem_of_encodes encodes code
  · exact absurd last (by decide)

theorem indented_jsonString (t : Text) : Indented (jsonString t) :=
  indented_of_not_mem (newline_notMem_jsonString t)

theorem indented_jsonBreak (level : Nat) : Indented (jsonBreak (level + 1)) := by
  have spaces : Indented (Text.run Code.space (4 * level + 3)) := by
    refine indented_of_not_mem fun inside => ?_
    exact absurd (List.eq_of_mem_replicate inside) (by decide)
  have first : Indented [Code.newline, Code.space] :=
    Text.eachBehind_cons_iff.2 ⟨fun _ => List.prefix_refl _, indented_of_not_mem (by decide)⟩
  have whole : jsonBreak (level + 1) =
      [Code.newline, Code.space] ++ Text.run Code.space (4 * level + 3) := by
    rw [jsonBreak, Nat.mul_add, Text.run, List.replicate_succ]
    rfl
  rw [whole]
  exact first.append spaces

theorem indented_jsonArray (level : Nat) (ts : List Text) :
    Indented (jsonArray (level + 1) ts) := by
  have items : Indented (Text.join (Code.comma :: jsonBreak (level + 1 + 1))
      (ts.map jsonString)) := by
    apply indented_join
    · exact (indented_jsonBreak (level + 1)).cons (by decide)
    · intro p member
      obtain ⟨t, -, rfl⟩ := List.mem_map.1 member
      exact indented_jsonString t
  have stop : Indented [Code.closeBracket] := indented_of_not_mem (by decide)
  rw [jsonArray]
  exact ((((indented_jsonBreak (level + 1)).cons (by decide)).append items).append
    (indented_jsonBreak level)).append stop

theorem indented_jsonMember (key : Text) {value : Text} (hvalue : Indented value) :
    Indented (jsonMember key value) := by
  rw [jsonMember]
  exact (indented_jsonString key).append ((hvalue.cons (by decide)).cons (by decide))

/-- The members of an object with what opens them. -/
theorem indented_jsonMembers (level : Nat) {members : List Text}
    (each : ∀ m ∈ members, Indented m) :
    Indented (Code.openBrace :: jsonBreak (level + 1) ++
      Text.join (Code.comma :: jsonBreak (level + 1)) members) := by
  have comma : Indented (Code.comma :: jsonBreak (level + 1)) :=
    (indented_jsonBreak level).cons (by decide)
  have brace : Indented (Code.openBrace :: jsonBreak (level + 1)) :=
    (indented_jsonBreak level).cons (by decide)
  exact brace.append (indented_join comma each)

theorem indented_jsonObject (level : Nat) {members : List Text}
    (each : ∀ m ∈ members, Indented m) : Indented (jsonObject (level + 1) members) := by
  have stop : Indented [Code.closeBrace] := indented_of_not_mem (by decide)
  rw [jsonObject]
  exact ((indented_jsonMembers (level + 1) each).append (indented_jsonBreak level)).append stop

/-- **The document of a snippet ends once**: it is an indented text and the line that closes it. -/
theorem json_eq (d : Definition) : ∃ front, Indented front ∧ d.json = front ++ closing := by
  refine ⟨_, indented_jsonMembers 0 ?_, by rw [Definition.json, jsonObject, List.append_assoc]; rfl⟩
  rw [List.forall_mem_singleton]
  apply indented_jsonMember
  apply indented_jsonObject
  simp only [List.mem_cons, List.not_mem_nil, or_false]
  rintro m (rfl | rfl | rfl | rfl)
  · exact indented_jsonMember _ (indented_jsonString _)
  · exact indented_jsonMember _ (indented_jsonArray 1 _)
  · exact indented_jsonMember _ (indented_jsonArray 1 _)
  · exact indented_jsonMember _ (indented_jsonString _)

end Document

/-- Behind the first end of a document stands what is commented out. -/
theorem behindFirst?_content (d : Definition) (source eol : Text) :
    behindFirst? (closing ++ eol ++ eol) (content d source eol) = some (commented source) := by
  obtain ⟨front, indented, document⟩ := json_eq d
  have whole : content d source eol =
      front ++ (closing ++ eol ++ eol ++ commented source) := by
    simp only [content, document, List.append_assoc]
  rw [whole]
  apply behindFirst?_append
  intro x y split filled begins
  rw [split] at indented
  have suffix : Indented y := Text.EachBehind.suffix indented
  have absent := suffix.not_closing_prefix filled (eol ++ eol) (eol ++ eol ++ commented source)
  simp only [List.append_assoc] at absent begins
  exact absent begins

/-- The marks of comments come off again. -/
theorem replace_after?_commented (source : Text) :
    (Text.after? commentMark (commented source)).map
      (Text.replace (Code.newline :: commentMark) [Code.newline]) = some source := by
  have marked : Text.after? commentMark (commented source) =
      some (Text.replaceCode Code.newline (Code.newline :: commentMark) source) :=
    Text.after?_eq_some_iff.2 rfl
  rw [marked, Option.map_some, Text.replace_replaceCode]

/-- **The definition can be recovered from the content of its file**, whatever the snippet and the
definition are. So a definition that was read is read from its file again, as the same snippet. -/
theorem recovered?_content (d : Definition) (source eol : Text) :
    recovered? eol (content d source eol) = some source ∧
    ∀ name, (parse source name).result = .ok d →
      ∀ (ε : Type) (user : Text) (portable name' : Option Text),
        ∃ f : File, (prepareFile d source user portable eol : Outcome ε File).result = .ok f ∧
          ∃ t, recovered? eol f.content = some t ∧ (parse t name').result = .ok d := by
  have recovers : recovered? eol (content d source eol) = some source := by
    rw [recovered?, behindFirst?_content]
    exact replace_after?_commented source
  constructor
  · exact recovers
  · intro name read ε user portable name'
    have document := (result_eq_ok_iff source name d).1 read
    have again := (result_eq_ok_iff source name' d).2 document
    exact ⟨_, rfl, source, recovers, again⟩

/-- A snippet whose body looks like the end of a document with a comment behind it. -/
def braces : Definition :=
  ⟨Text.ofString "hi", none, Text.ofString "h", Text.ofString "x\n\x7d\n\n// x"⟩

/-- The definition of the snippet, with both endings of lines. -/
def bracesSource : Text :=
  Text.ofString "// Name: hi\r\n// Prefix: h\n// -\n" ++ braces.body

theorem recovered?_content_braces :
    (parse bracesSource none).result = .ok braces ∧
    ∃ f : File, (prepareFile braces bracesSource (Text.ofString "u") none [Code.newline] :
        Outcome ParseError File).result = .ok f ∧
      ∃ t, recovered? [Code.newline] f.content = some t ∧ (parse t none).result = .ok braces := by
  have read : (parse bracesSource none).result = .ok braces := by rfl
  obtain ⟨-, again⟩ := recovered?_content braces bracesSource [Code.newline]
  exact ⟨read, again none read ParseError (Text.ofString "u") none none⟩

end EditorText.Snippet
