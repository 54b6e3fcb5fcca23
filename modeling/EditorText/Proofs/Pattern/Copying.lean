import EditorText.Proofs.Pattern.Taking

/-!
# Classes are copied

A class is copied exactly if no token stands in it (`convert_classes`), and a class is what the reader
of sets takes. A class in which a whole token stands gains a letter (`convert_wholeToken_ne`).
-/

set_option autoImplicit false

namespace EditorText.Pattern

section Engine

variable [Engine]

/-- Reads a pattern as it is written, without respelling it. -/
def readAsWritten (pattern : Text) (flags : Flags) : Except Rejection Pattern :=
  match Engine.read pattern flags with
  | .ok p => .ok p
  | .error (.malformed reason) => .error (.invalid pattern reason)
  | .error (.limit failure) => .error (.limit failure)

theorem read_of_convert_eq {pattern : Text} (same : convert pattern = pattern) (flags : Flags) :
    read pattern flags = readAsWritten pattern flags := by
  rw [read, same]
  rfl

theorem source_of_read {pattern : Text} {flags : Flags} {p : Pattern}
    (h : read pattern flags = .ok p) : p.source = convert pattern := by
  unfold read at h
  split at h
  next answer =>
    cases h
    exact Engine.source_of_read answer
  · cases h
  · cases h

end Engine

/-- **A class is copied exactly if no token stands in it.** Every class of a pattern is respelt by
itself, whatever stands before and behind it. A pattern without tokens is read as it is written, and
one that can be read is only then the pattern that was written. What the reader of sets takes behind
an opening bracket is a class, and there is no other that it could take. -/
theorem convert_classes [Platform] (pattern : Text) :
    (∀ u k v, pattern = u ++ k ++ v → Outside u → IsClass k →
      convert pattern = convert u ++ convert k ++ convert v ∧
      (convert pattern = convert u ++ k ++ convert v ↔ ¬ Holds k)) ∧
    (∀ flags, (¬ Holds pattern → read pattern flags = readAsWritten pattern flags) ∧
      ∀ p, read pattern flags = .ok p → (p.source = pattern ↔ ¬ Holds pattern)) ∧
    ∀ s node s', Reader.charSet s = .ok (node, s') →
      (∃ k, IsClass k ∧ Code.openBracket :: s.rest = k ++ s'.rest) ∧
      ∀ k r, IsClass k → Code.openBracket :: s.rest = k ++ r → s'.rest = r := by
  refine ⟨?_, ?_, fun _ _ _ read => Reader.rest_charSet read⟩
  · rintro u k v rfl outside cls
    have parts := convert_class outside cls v
    refine ⟨parts, ?_⟩
    rw [parts, ← convert_eq_self_iff, List.append_left_inj, List.append_right_inj]
  · intro flags
    refine ⟨fun none => read_of_convert_eq (convert_eq_self_iff.2 none) flags, fun p h => ?_⟩
    rw [source_of_read h]
    exact convert_eq_self_iff

/-- A class that begins with its closing bracket and in which a token begins that has no end. -/
def openToken : Text := Text.ofString "[])(?<a]"

/-- A class in which the head of a named group stands. -/
def wholeToken : Text := Text.ofString "[(?<a>]"

theorem convert_classes_openToken :
    Outside (Text.ofString "(?<n>") ∧ IsClass openToken ∧ ¬ Holds openToken ∧
      convert (Text.ofString "(?<n>" ++ openToken ++ Text.ofString "\\]?)") =
        convert (Text.ofString "(?<n>") ++ openToken ++ convert (Text.ofString "\\]?)") ∧
      read openToken {} = readAsWritten openToken {} ∧
      ∃ p, read openToken {} = .ok p ∧ p.source = openToken := by
  have outside : Outside (Text.ofString "(?<n>") := by
    refine .code ?_ ?_ <| .code ?_ ?_ <| .code ?_ ?_ <| .code ?_ ?_ <| .code ?_ ?_ .nil <;> decide
  have cls : IsClass openToken := by
    refine .plain (by decide) <| .code (by decide) ?_
    refine .code ?_ ?_ <| .code ?_ ?_ <| .code ?_ ?_ <| .code ?_ ?_ <| .code ?_ ?_ .done <;> decide
  have none : ¬ Holds openToken := convert_eq_self_iff.1 (by decide)
  have copied := ((convert_classes _).1 _ _ (Text.ofString "\\]?)") rfl outside cls).2.2 none
  have alone := (convert_classes openToken).2.1 {}
  cases answer : read openToken {} with
  | error e =>
    have served : (read openToken {}).toOption.isSome = true := by decide +kernel
    rw [answer] at served
    cases served
  | ok p =>
    exact ⟨outside, cls, none, copied, answer ▸ alone.1 none, p, rfl, (alone.2 p answer).2 none⟩

/-- **A class in which the head of a named group stands is not copied.** It gains a letter, so that
the pattern finds a text that it does not find as it is written. -/
theorem convert_wholeToken_ne :
    IsClass wholeToken ∧ Code.backslash ∉ wholeToken ∧
      convert wholeToken = Text.ofString "[(?P<a>]" ∧ convert wholeToken ≠ wholeToken ∧
      (read wholeToken {}).toOption.map (·.findAll (Text.ofString "P") |>.length) = some 1 ∧
      (readAsWritten wholeToken {}).toOption.map (·.findAll (Text.ofString "P") |>.length) =
        some 0 := by
  refine ⟨.plain (by decide) <| .code (by decide) ?_, ?_, ?_, ?_, ?_, ?_⟩
  · refine .code ?_ ?_ <| .code ?_ ?_ <| .code ?_ ?_ <| .code ?_ ?_ .done <;> decide
  · decide
  · decide
  · decide
  · decide +kernel
  · decide +kernel

end EditorText.Pattern
