import EditorText.Pattern.Dialect
import EditorText.Proofs.Pattern.Nesting

/-!
# What becomes of a pattern

A pattern is read, or reported as malformed, or it meets a limit whose cause stands in its text
(`compile_cases`). The rounds that a pattern is read with are never too few. The names in one that is
read are names of its groups (`numbered_of_ofText`).
-/

set_option autoImplicit false

namespace EditorText.Pattern

variable [Platform] {pattern : Text} {flags : Flags}

/-- A platform has room for the groups of a pattern, or the pattern has more than that. -/
theorem hasRoom_calls (pattern : Text) :
    Reader.HasRoom pattern (pattern.count Code.openParen) Platform.calls :=
  (Nat.lt_or_ge _ _).symm.imp_right fun many => .groups (by omega)

/-- The reader of a whole pattern, from its start. The pattern may stand behind more text. -/
theorem serves_pattern {source : Text} (behind : pattern <:+ source) (on : Switched source flags) :
    Reader.Serves source (· = { rest := pattern, flags := flags })
      (Reader.whole pattern flags.verbose) fun root s => FitsWays (source.count Code.openParen) root ∧
        Reader.At source (source.count Code.openParen) [] pattern.length s := by
  have start : Reader.At source (source.count Code.openParen) [] pattern.length
      { rest := pattern, flags := flags } :=
    ⟨behind, Nat.le_refl _, behind.sublist.count_le _, on, nofun⟩
  have whole : Reader.Serves source
      (Reader.At source (source.count Code.openParen) [] pattern.length)
      (Reader.whole pattern flags.verbose) fun root s => FitsWays (source.count Code.openParen) root ∧
        Reader.At source (source.count Code.openParen) [] pattern.length s :=
    Reader.serves_checkEnd.bind fun _ => (Reader.nested source (4 * pattern.length + 4)).branches
      (hasRoom_calls source) (by omega) _ _ _
  exact whole.from fun _ same => same ▸ start

/-- A tree is read, with names for groups that there are, or it cannot be read for a fault of the
pattern or for a limit that is met. -/
theorem ofText_cases {source : Text} (behind : pattern <:+ source) (on : Switched source flags) :
    (∃ tree, Tree.ofText pattern flags = .ok tree ∧ Numbered tree.names tree.groups) ∨
      ∃ e, Tree.ofText pattern flags = .error e ∧ Excused source e := by
  have served := serves_pattern behind on _ rfl
  unfold Tree.ofText
  dsimp only [StateT.run]
  cases run : Reader.whole pattern flags.verbose { rest := pattern, flags := flags } with
  | error e =>
    rw [run] at served
    exact .inr ⟨e, rfl, served⟩
  | ok made =>
    obtain ⟨root, s⟩ := made
    rw [run] at served
    obtain ⟨fits, served⟩ := served
    change (∃ tree, (if s.flags.ascii && s.flags.unicode then _ else _) = _ ∧ _) ∨
      ∃ e, (if s.flags.ascii && s.flags.unicode then _ else _) = _ ∧ _
    split
    case isTrue both =>
      obtain ⟨ascii, unicode⟩ := Bool.and_eq_true_iff.1 both
      exact .inr ⟨_, rfl,
        .inr (.classes (served.switched.ascii ascii) (served.switched.unicode unicode))⟩
    split
    · exact .inr ⟨_, rfl, .inl ⟨_, rfl⟩⟩
    split
    · exact .inr ⟨_, rfl, .inl ⟨_, rfl⟩⟩
    split
    · exact .inr ⟨_, rfl, .inl ⟨_, rfl⟩⟩
    split
    case isTrue deep =>
      exact .inr ⟨_, rfl, .inr (.groups (Nat.lt_of_lt_of_le deep fits.levels_le))⟩
    · exact .inl ⟨_, rfl, served.numbered⟩

omit [Platform] in
/-- Some text that switches on every way to choose the character classes. -/
theorem exists_switched (pattern : Text) (flags : Flags) :
    ∃ source, pattern <:+ source ∧ Switched source flags := by
  have front {letter : Char} (known : letter.toNat ∈ Text.ofChars ['a', 'u']) :
      SwitchesOn (Text.ofChars ['(', '?', 'a', 'u', ')'] ++ pattern) letter :=
    ⟨Text.ofChars ['a', 'u'], (List.prefix_append _ pattern).isInfix, by decide, known⟩
  exact ⟨_, List.suffix_append _ pattern, fun _ => front (by decide), fun _ => front (by decide)⟩

/-- **The names in a pattern are names of its groups**, whatever the flags are. -/
theorem numbered_of_ofText {tree : Tree} (h : Tree.ofText pattern flags = .ok tree) :
    Numbered tree.names tree.groups := by
  -- The flags may choose the character classes though the pattern does not, so that the pattern is
  -- taken as the end of a text that does.
  obtain ⟨source, behind, on⟩ := exists_switched pattern flags
  rcases ofText_cases behind on with ⟨tree', read, numbered⟩ | ⟨e, failed, -⟩
  · rw [h] at read
    cases read
    exact numbered
  · rw [h] at failed
    cases failed

/-- A reading ends in one of three ways. -/
theorem read_cases (p : Text) (flags : Flags) (plain : flags.choosesClasses = false) :
    (∃ q, read p flags = .ok q) ∨ (∃ reason, read p flags = .error (.invalid p reason)) ∨
      ∃ f, Limits (convert p) f ∧ read p flags = .error (.limit f) := by
  obtain ⟨ascii, unicode⟩ := Bool.or_eq_false_iff.1 plain
  have none : Switched (convert p) flags :=
    ⟨fun on => by simp [ascii] at on, fun on => by simp [unicode] at on⟩
  unfold read Engine.read treeEngine readTree
  dsimp only
  rcases ofText_cases (List.suffix_refl _) none with ⟨tree, run, -⟩ | ⟨e, run, excused⟩
  · rw [run]
    exact .inl ⟨_, rfl⟩
  · rw [run]
    rcases excused with ⟨fault, rfl⟩ | limits
    · exact .inr (.inl ⟨_, rfl⟩)
    · refine .inr (.inr ⟨e, limits, ?_⟩)
      cases limits <;> rfl

/-- **A pattern is read, or reported as malformed under its own name, or it meets a limit**, and then
nothing is reported. -/
theorem compile_cases (p : Text) (flags : Flags) (plain : flags.choosesClasses = false) :
    (∃ q, compile p flags = .ok q) ∨
    (∃ reason, compile p flags =
      ⟨[.notice (.patternRejected p reason)], .error (.invalid p reason)⟩) ∨
    ∃ f, Limits (convert p) f ∧ compile p flags = .fail (.limit f) := by
  unfold compile
  rcases read_cases p flags plain with ⟨q, read⟩ | ⟨reason, read⟩ | ⟨f, limits, read⟩
  · exact .inl ⟨q, by rw [read]⟩
  · exact .inr (.inl ⟨reason, by rw [read]⟩)
  · exact .inr (.inr ⟨f, limits, by rw [read]⟩)

end EditorText.Pattern
