import EditorText.Proofs.Choice.Items

/-!
# The interior of a choice

A choice that is written is known for one again, and its interior is what was written
(`interior?_choice`). Lines that are joined with line feeds and hold no line ending are the lines of
their text (`lines_join`).
-/

set_option autoImplicit false

namespace EditorText.Choice

open Text

section Number

theorem isDigit_of_mem_ofNat {n : Nat} {c : Code} (h : c ∈ ofNat n) : isDigit c = true := by
  obtain ⟨d, digit, rfl⟩ := List.mem_map.1 h
  have decimal := Nat.isDigit_of_mem_toDigits (by decide) (by decide) digit
  have bounds : 48 ≤ d.toNat ∧ d.toNat ≤ 57 := by
    simpa [Char.isDigit, UInt32.le_iff_toNat_le] using decimal
  have small : d.toNat < 128 := by omega
  simp [isDigit, digitValue?, small, bounds]

theorem ofNat_ne_nil (n : Nat) : ofNat n ≠ [] := by
  simp [ofNat, Nat.toDigits_ne_nil]

/-- Digits in front of a code that is none are all the digits there. -/
theorem digits_append {n : Nat} {c : Code} {t : Text} (other : isDigit c = false) :
    (ofNat n ++ c :: t).takeWhile isDigit = ofNat n ∧
      (ofNat n ++ c :: t).dropWhile isDigit = c :: t := by
  have digits : ∀ d ∈ ofNat n, isDigit d = true := fun d => isDigit_of_mem_ofNat
  rw [List.takeWhile_append_of_pos digits, List.dropWhile_append_of_pos digits]
  simp [other]

end Number

section Interior

variable {inner ending : Text} {n : Int}

/-- What stands before an ending is what was put there. -/
theorem before?_append (filled : ending ≠ []) (t : Text) :
    before? ending (t ++ ending) = some t := by
  induction t with
  | nil =>
    obtain ⟨c, tail, rfl⟩ := List.exists_cons_of_ne_nil filled
    rw [List.nil_append, before?, if_pos rfl]
  | cons c t ih =>
    have longer : c :: (t ++ ending) ≠ ending := by
      intro same
      have length := congrArg List.length same
      rw [List.length_cons, List.length_append] at length
      omega
    rw [List.cons_append, before?, if_neg longer, ih]
    rfl

/-- **A written choice has the interior that was written.** -/
theorem interior?_choice (nonneg : 0 ≤ n) (filled : inner ≠ []) (oneLine : Code.newline ∉ inner) :
    interior? (choice inner n) = some inner := by
  obtain ⟨m, rfl⟩ := Int.eq_ofNat_of_zero_le nonneg
  have opened : after? tabStopOpening (choice inner m) =
      some (ofNat m ++ Code.pipe :: (inner ++ choiceEnd)) := by
    rw [after?_eq_some_iff]
    simp [choice, ofInt]
  have pipe : isDigit Code.pipe = false := by decide
  obtain ⟨digits, rest⟩ := digits_append (n := m) (t := inner ++ choiceEnd) pipe
  obtain ⟨d, ds, some⟩ := List.exists_cons_of_ne_nil (ofNat_ne_nil m)
  have ended := before?_append (by decide : choiceEnd ≠ []) inner
  rw [interior?, opened]
  simp only [digits, rest]
  simp only [some, ended]
  rw [if_pos ⟨filled, oneLine⟩]

/-- **A written choice is read** as the lines that its items stand for. -/
theorem result_decode_choice (nonneg : 0 ≤ n) (filled : inner ≠ [])
    (oneLine : Code.newline ∉ inner) (eol : Text) :
    (decode (choice inner n) eol).result = .ok (join eol ((items inner).filterMap lineOf?)) := by
  rw [decode, interior?_choice nonneg filled oneLine]

end Interior

section Lines

variable {l t : Text} {ls : List Text}

/-- There is no line ending in the text. -/
def OneLine (t : Text) : Prop := Code.carriageReturn ∉ t ∧ Code.newline ∉ t

instance (t : Text) : Decidable (OneLine t) := inferInstanceAs (Decidable (_ ∧ _))

theorem lines_cons {c : Code} (carriageReturn : c ≠ Code.carriageReturn)
    (newline : c ≠ Code.newline) (t : Text) : lines (c :: t) = consFirst c (lines t) := by
  rw [lines]
  · intro r single
    exact absurd single carriageReturn
  · exact newline

theorem lines_of_oneLine (h : OneLine l) : lines l = [l] := by
  induction l with
  | nil => rfl
  | cons c l ih =>
    obtain ⟨carriageReturn, newline⟩ := h
    simp only [List.mem_cons, not_or] at carriageReturn newline
    rw [lines_cons (Ne.symm carriageReturn.1) (Ne.symm newline.1),
      ih ⟨carriageReturn.2, newline.2⟩]
    rfl

theorem lines_append (h : OneLine l) (t : Text) :
    lines (l ++ Code.newline :: t) = l :: lines t := by
  induction l with
  | nil => rw [List.nil_append, lines]
  | cons c l ih =>
    obtain ⟨carriageReturn, newline⟩ := h
    simp only [List.mem_cons, not_or] at carriageReturn newline
    rw [List.cons_append, lines_cons (Ne.symm carriageReturn.1) (Ne.symm newline.1),
      ih ⟨carriageReturn.2, newline.2⟩]
    rfl

/-- **Joined lines are the lines of their text.** -/
theorem lines_join (some : ls ≠ []) (each : ∀ l ∈ ls, OneLine l) :
    lines (join [Code.newline] ls) = ls := by
  induction ls with
  | nil => exact absurd rfl some
  | cons l ls ih =>
    obtain ⟨first, others⟩ := List.forall_mem_cons.1 each
    cases ls with
    | nil => simpa [join] using lines_of_oneLine first
    | cons m ls =>
      have step := lines_append first (join [Code.newline] (m :: ls))
      rw [join_cons_cons, List.append_assoc, List.singleton_append, step,
        ih (List.cons_ne_nil m ls) others]

end Lines

end EditorText.Choice
