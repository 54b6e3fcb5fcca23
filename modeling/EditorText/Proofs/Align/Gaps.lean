import EditorText.Align.Line
import EditorText.Proofs.Text.Trimming

/-!
# Gaps

A text between separators is blanks, a text without blanks at its ends, and blanks again
(`exists_firm`). Trimming leaves a space of the blanks, or nothing where there are none (`gap`), and
what is left in front goes to the separator (`lead`). Spaces put behind the separator and behind the
text and trimmed again make a gap where there was none (`lead_narrow_again`, `body_narrow_again`).
-/

set_option autoImplicit false

namespace EditorText.Align

open Text

/-- What trimming leaves of blanks. -/
def gap (b : Text) : Text :=
  if b = [] then [] else [Code.space]

/-- A text without blanks at its ends. -/
structure Firm (t : Text) : Prop where
  ne_nil : t ≠ []
  trimStart_eq : trimStart t = t
  trimEnd_eq : trimEnd t = t

/-- A text between separators, trimmed. -/
def narrow (t : Text) : Text := narrowEnd (narrowStart t)

/-- The text behind the last separator, trimmed. -/
def narrowLast (t : Text) : Text := trimEnd (narrowStart t)

/-- The blanks before a text that go to the separator. -/
def lead (t : Text) : Text :=
  if trimStart t = [] then [] else t.take (t.length - (trimStart t).length)

/-- The text that stays where its gap goes to the separator. -/
def body (t : Text) : Text :=
  if trimStart t = [] then t else trimStart t

/-- The same text, or one with a space more where there is room. -/
def Longer (room : Prop) (s t : Text) : Prop :=
  t = s ∨ t = s ++ [Code.space] ∧ room

section Parts

variable {t b x y e : Text}

theorem Firm.not_allBlank (firm : Firm y) : ¬ AllBlank y := by
  rw [← trimStart_eq_nil_iff, firm.trimStart_eq]
  exact firm.ne_nil

/-- A text that is not blank is a firm one between blanks. -/
theorem exists_firm (some : ¬ AllBlank t) :
    ∃ b y e, AllBlank b ∧ Firm y ∧ AllBlank e ∧ t = b ++ (y ++ e) := by
  obtain ⟨b, hb, front⟩ := exists_blanks_trimStart t
  obtain ⟨e, he, back⟩ := exists_blanks_trimEnd (trimStart t)
  refine ⟨b, trimEnd (trimStart t), e, hb, ⟨?_, ?_, trimEnd_trimEnd _⟩, he, by rw [← back, ← front]⟩
  · intro none
    rw [none, List.nil_append] at back
    refine some ?_
    rw [front, allBlank_append, back]
    exact ⟨hb, he⟩
  · exact trimStart_trimEnd_of_eq (trimStart_trimStart t)

@[simp] theorem gap_nil : gap [] = [] := rfl

theorem gap_of_ne_nil (filled : b ≠ []) : gap b = [Code.space] := if_neg filled

theorem allBlank_gap (b : Text) : AllBlank (gap b) := by
  rw [gap]
  split <;> simp

theorem gap_gap (b : Text) : gap (gap b) = gap b := by
  by_cases empty : b = []
  · rw [empty]
    rfl
  · rw [gap_of_ne_nil empty]
    rfl

/-- Spaces behind a gap and trimmed again make it a gap if it was none. -/
theorem gap_append_run (b : Text) (n : Nat) :
    Longer (0 < n) (gap b) (gap (gap b ++ run Code.space n)) := by
  cases n with
  | zero =>
    left
    rw [run, List.replicate_zero, List.append_nil, gap_gap]
  | succ n =>
    have filled : gap b ++ run Code.space (n + 1) ≠ [] := by simp [run, List.replicate_succ]
    rw [gap_of_ne_nil filled]
    by_cases empty : b = []
    · right
      rw [empty]
      exact ⟨rfl, Nat.succ_pos n⟩
    · left
      exact (gap_of_ne_nil empty).symm

theorem narrowStart_append (hb : AllBlank b) (begins : trimStart x = x) :
    narrowStart (b ++ x) = gap b ++ x := by
  rw [narrowStart, trimStart_append_of_allBlank hb, begins]
  by_cases empty : b = []
  · simp [empty]
  · rw [if_neg (by simpa using empty), gap_of_ne_nil empty]
    rfl

theorem narrowEnd_append (he : AllBlank e) (ends : trimEnd x = x) :
    narrowEnd (x ++ e) = x ++ gap e := by
  rw [narrowEnd, trimEnd_append_of_allBlank he, ends]
  by_cases empty : e = []
  · simp [empty]
  · rw [if_neg (by simpa using empty), gap_of_ne_nil empty]

theorem narrow_of_allBlank (ht : AllBlank t) : narrow t = gap t := by
  have start := narrowStart_append ht trimStart_nil
  have stop := narrowEnd_append (allBlank_gap t) trimEnd_nil
  rw [List.append_nil, List.append_nil] at start
  rw [List.nil_append, List.nil_append, gap_gap] at stop
  rw [narrow, start, stop]

theorem narrowLast_of_allBlank (ht : AllBlank t) : narrowLast t = [] := by
  have start := narrowStart_append ht trimStart_nil
  rw [List.append_nil, List.append_nil] at start
  rw [narrowLast, start, trimEnd_eq_nil_iff]
  exact allBlank_gap t

theorem Firm.trimStart_append (firm : Firm y) (e : Text) : trimStart (y ++ e) = y ++ e := by
  rw [trimStart_eq_self_iff]
  intro c r split
  obtain ⟨d, z, rfl⟩ := List.exists_cons_of_ne_nil firm.ne_nil
  obtain ⟨rfl, -⟩ := List.cons.inj split
  exact trimStart_eq_self_iff.1 firm.trimStart_eq d z rfl

theorem Firm.trimEnd_append (firm : Firm y) (b : Text) : trimEnd (b ++ y) = b ++ y := by
  rw [trimEnd_append_of_not_allBlank firm.not_allBlank, firm.trimEnd_eq]

theorem narrow_firm (hb : AllBlank b) (firm : Firm y) (he : AllBlank e) :
    narrow (b ++ (y ++ e)) = gap b ++ (y ++ gap e) := by
  have stop := narrowEnd_append he (firm.trimEnd_append (gap b))
  rw [List.append_assoc, List.append_assoc] at stop
  rw [narrow, narrowStart_append hb (firm.trimStart_append e), stop]

theorem narrowLast_firm (hb : AllBlank b) (firm : Firm y) (he : AllBlank e) :
    narrowLast (b ++ (y ++ e)) = gap b ++ y := by
  rw [narrowLast, narrowStart_append hb (firm.trimStart_append e), ← List.append_assoc,
    trimEnd_append_of_allBlank he, firm.trimEnd_append]

theorem lead_of_allBlank (ht : AllBlank t) : lead t = [] := if_pos (trimStart_eq_nil_iff.2 ht)

theorem body_of_allBlank (ht : AllBlank t) : body t = t := if_pos (trimStart_eq_nil_iff.2 ht)

theorem lead_append (hb : AllBlank b) (begins : trimStart x = x) (filled : x ≠ []) :
    lead (b ++ x) = b := by
  rw [lead, trimStart_append_of_allBlank hb, begins, if_neg filled, List.length_append,
    Nat.add_sub_cancel, List.take_left]

theorem body_append (hb : AllBlank b) (begins : trimStart x = x) (filled : x ≠ []) :
    body (b ++ x) = x := by
  rw [body, trimStart_append_of_allBlank hb, begins, if_neg filled]

theorem Firm.append_ne_nil (firm : Firm y) (e : Text) : y ++ e ≠ [] := by
  simp [firm.ne_nil]

theorem lead_firm (hb : AllBlank b) (firm : Firm y) (e : Text) : lead (b ++ (y ++ e)) = b :=
  lead_append hb (firm.trimStart_append e) (firm.append_ne_nil e)

theorem body_firm (hb : AllBlank b) (firm : Firm y) (e : Text) : body (b ++ (y ++ e)) = y ++ e :=
  body_append hb (firm.trimStart_append e) (firm.append_ne_nil e)

theorem lead_append_body (t : Text) : lead t ++ body t = t := by
  by_cases blank : AllBlank t
  · rw [lead_of_allBlank blank, body_of_allBlank blank, List.nil_append]
  · obtain ⟨b, y, e, hb, firm, -, rfl⟩ := exists_firm blank
    rw [lead_firm hb firm, body_firm hb firm]

/-- Only a text that is not empty has a gap to give. -/
theorem lead_eq_nil_or_body_ne_nil (t : Text) : lead t = [] ∨ body t ≠ [] := by
  by_cases blank : AllBlank t
  · exact .inl (lead_of_allBlank blank)
  · obtain ⟨b, y, e, hb, firm, -, rfl⟩ := exists_firm blank
    rw [body_firm hb firm]
    exact .inr (firm.append_ne_nil e)

/-- The gap in front of a text goes to the separator. -/
theorem Cell.claimGap_eq (c : Cell) : c.claimGap = ⟨c.separator ++ lead c.text, body c.text⟩ := by
  rw [claimGap, lead, body]
  by_cases blank : trimStart c.text = []
  · simp [blank]
  · by_cases same : trimStart c.text = c.text
    · simp [same, show c.text ≠ [] from fun h => blank (same.trans h)]
    · simp [blank, same]

end Parts

section Again

variable (t : Text) (m k : Nat)

/-- The separator, padded and trimmed again, has at most a gap more. -/
theorem lead_narrow_again :
    Longer (0 < m) (lead (narrow t)) (lead (narrow (lead (narrow t) ++ run Code.space m ++
      (body (narrow t) ++ run Code.space k)))) := by
  by_cases blank : AllBlank t
  · left
    rw [narrow_of_allBlank blank, lead_of_allBlank (allBlank_gap t),
      body_of_allBlank (allBlank_gap t)]
    have still : AllBlank ([] ++ run Code.space m ++ (gap t ++ run Code.space k)) := by
      simp [allBlank_gap]
    rw [narrow_of_allBlank still, lead_of_allBlank (allBlank_gap _)]
  · obtain ⟨b, y, e, hb, firm, he, rfl⟩ := exists_firm blank
    rw [narrow_firm hb firm he, lead_firm (allBlank_gap b) firm, body_firm (allBlank_gap b) firm,
      List.append_assoc y, narrow_firm (by simp [allBlank_gap]) firm (by simp [allBlank_gap]),
      lead_firm (allBlank_gap _) firm]
    exact gap_append_run b m

/-- The text, padded and trimmed again, has at most a gap more. If it is empty the gap may come from
the padding of the separator. -/
theorem body_narrow_again :
    Longer (0 < k ∨ body (narrow t) = [] ∧ 0 < m) (body (narrow t))
      (body (narrow (lead (narrow t) ++ run Code.space m ++
        (body (narrow t) ++ run Code.space k)))) := by
  by_cases blank : AllBlank t
  · rw [narrow_of_allBlank blank, lead_of_allBlank (allBlank_gap t),
      body_of_allBlank (allBlank_gap t)]
    have still : AllBlank ([] ++ run Code.space m ++ (gap t ++ run Code.space k)) := by
      simp [allBlank_gap]
    rw [narrow_of_allBlank still, body_of_allBlank (allBlank_gap _)]
    by_cases empty : t = []
    · subst empty
      have spaces : ([] ++ run Code.space m ++ (gap [] ++ run Code.space k) : Text) =
          run Code.space (m + k) := by
        simp [run, List.replicate_append_replicate]
      rw [spaces]
      rcases gap_append_run [] (m + k) with same | ⟨more, room⟩
      · exact .inl same
      · refine .inr ⟨more, ?_⟩
        rcases Nat.eq_zero_or_pos k with none | some
        · exact .inr ⟨rfl, by omega⟩
        · exact .inl some
    · left
      rw [gap_of_ne_nil empty, gap_of_ne_nil (by simp)]
  · obtain ⟨b, y, e, hb, firm, he, rfl⟩ := exists_firm blank
    rw [narrow_firm hb firm he, lead_firm (allBlank_gap b) firm, body_firm (allBlank_gap b) firm,
      List.append_assoc y, narrow_firm (by simp [allBlank_gap]) firm (by simp [allBlank_gap]),
      body_firm (allBlank_gap _) firm]
    rcases gap_append_run e k with same | ⟨more, room⟩
    · exact .inl (by rw [same])
    · exact .inr ⟨by rw [more, List.append_assoc], .inl room⟩

/-- The gap of an empty text is room of its own unless it comes from the padding of the separator
alone. -/
theorem longer_body_narrow_iff :
    Longer (0 < k) (body (narrow t)) (body (narrow (lead (narrow t) ++ run Code.space m ++
        (body (narrow t) ++ run Code.space k)))) ↔ (body (narrow t) = [] → 0 < k ∨ m = 0) := by
  constructor
  · intro longer empty
    have blank : AllBlank t := by
      refine Classical.byContradiction fun filled => ?_
      obtain ⟨b, y, e, hb, firm, he, rfl⟩ := exists_firm filled
      rw [narrow_firm hb firm he, body_firm (allBlank_gap b) firm] at empty
      exact firm.append_ne_nil _ empty
    -- Behind the separator stand spaces only, which are trimmed to a gap if there are any.
    rw [empty, narrow_of_allBlank blank, lead_of_allBlank (allBlank_gap t)] at longer
    have still : AllBlank ([] ++ run Code.space m ++ ([] ++ run Code.space k)) := by simp
    rw [narrow_of_allBlank still, body_of_allBlank (allBlank_gap _)] at longer
    rcases longer with same | ⟨-, room⟩
    · refine .inr (Nat.eq_zero_of_not_pos fun some => ?_)
      have filled : ([] ++ run Code.space m ++ ([] ++ run Code.space k) : Text) ≠ [] := by
        simp [run]
        omega
      rw [gap_of_ne_nil filled] at same
      cases same
    · exact .inl room
  · intro settled
    rcases body_narrow_again t m k with same | ⟨more, room | ⟨empty, padded⟩⟩
    · exact .inl same
    · exact .inr ⟨more, room⟩
    · rcases settled empty with room | none
      · exact .inr ⟨more, room⟩
      · omega

/-- The last separator, padded and trimmed again, has at most a gap more. -/
theorem lead_narrowLast_again :
    Longer (0 < m) (lead (narrowLast t)) (lead (narrowLast (lead (narrowLast t) ++
      run Code.space m ++ body (narrowLast t)))) := by
  by_cases blank : AllBlank t
  · left
    rw [narrowLast_of_allBlank blank, lead_of_allBlank allBlank_nil, body_of_allBlank allBlank_nil,
      narrowLast_of_allBlank (by simp), lead_of_allBlank allBlank_nil]
  · obtain ⟨b, y, e, hb, firm, he, rfl⟩ := exists_firm blank
    have last := narrowLast_firm (b := gap b ++ run Code.space m) (by simp [allBlank_gap]) firm
      allBlank_nil
    have front := lead_firm (allBlank_gap b) firm []
    have back := body_firm (allBlank_gap b) firm []
    have front' := lead_firm (allBlank_gap (gap b ++ run Code.space m)) firm []
    rw [List.append_nil] at last front back front'
    rw [narrowLast_firm hb firm he, front, back, last, front']
    exact gap_append_run b m

/-- The last text, trimmed again, is the same. -/
theorem body_narrowLast_again :
    body (narrowLast (lead (narrowLast t) ++ run Code.space m ++ body (narrowLast t))) =
      body (narrowLast t) := by
  by_cases blank : AllBlank t
  · rw [narrowLast_of_allBlank blank, lead_of_allBlank allBlank_nil, body_of_allBlank allBlank_nil,
      narrowLast_of_allBlank (by simp), body_of_allBlank allBlank_nil]
  · obtain ⟨b, y, e, hb, firm, he, rfl⟩ := exists_firm blank
    have last := narrowLast_firm (b := gap b ++ run Code.space m) (by simp [allBlank_gap]) firm
      allBlank_nil
    have front := lead_firm (allBlank_gap b) firm []
    have back := body_firm (allBlank_gap b) firm []
    have back' := body_firm (allBlank_gap (gap b ++ run Code.space m)) firm []
    rw [List.append_nil] at last front back back'
    rw [narrowLast_firm hb firm he, front, back, last, back']

/-- The head, padded and trimmed again, has at most a gap more. -/
theorem narrowEnd_again :
    Longer (0 < k) (narrowEnd t) (narrowEnd (narrowEnd t ++ run Code.space k)) := by
  obtain ⟨e, he, split⟩ := exists_blanks_trimEnd t
  rw [split, narrowEnd_append he (trimEnd_trimEnd t), List.append_assoc,
    narrowEnd_append (by simp [allBlank_gap]) (trimEnd_trimEnd t)]
  rcases gap_append_run e k with same | ⟨more, room⟩
  · exact .inl (by rw [same])
  · exact .inr ⟨by rw [more, List.append_assoc], room⟩

end Again

end EditorText.Align
