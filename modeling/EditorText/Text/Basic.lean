/-!
# Text

Text is a list of Unicode code points. Lone surrogates count as code points: an escape in a
replacement can write one, and it is kept as it is. `Text.split` and `Text.join` cut a text at a
separator and put it together again; `Text.join_split` says that nothing is lost in between.
-/

set_option autoImplicit false

namespace EditorText

/-- A Unicode code point, surrogates included. -/
abbrev Code := Nat

/-- A sequence of code points. -/
abbrev Text := List Code

namespace Code

@[match_pattern] abbrev tab : Code := 9
@[match_pattern] abbrev newline : Code := 10
@[match_pattern] abbrev carriageReturn : Code := 13
@[match_pattern] abbrev space : Code := 32
@[match_pattern] abbrev quote : Code := 34
@[match_pattern] abbrev hash : Code := 35
@[match_pattern] abbrev dollar : Code := 36
@[match_pattern] abbrev percent : Code := 37
@[match_pattern] abbrev ampersand : Code := 38
@[match_pattern] abbrev apostrophe : Code := 39
@[match_pattern] abbrev openParen : Code := 40
@[match_pattern] abbrev closeParen : Code := 41
@[match_pattern] abbrev asterisk : Code := 42
@[match_pattern] abbrev plus : Code := 43
@[match_pattern] abbrev comma : Code := 44
@[match_pattern] abbrev dash : Code := 45
@[match_pattern] abbrev dot : Code := 46
@[match_pattern] abbrev slash : Code := 47
@[match_pattern] abbrev colon : Code := 58
@[match_pattern] abbrev less : Code := 60
@[match_pattern] abbrev equals : Code := 61
@[match_pattern] abbrev greater : Code := 62
@[match_pattern] abbrev question : Code := 63
@[match_pattern] abbrev openBracket : Code := 91
@[match_pattern] abbrev backslash : Code := 92
@[match_pattern] abbrev closeBracket : Code := 93
@[match_pattern] abbrev caret : Code := 94
@[match_pattern] abbrev underscore : Code := 95
@[match_pattern] abbrev backtick : Code := 96
@[match_pattern] abbrev openBrace : Code := 123
@[match_pattern] abbrev pipe : Code := 124
@[match_pattern] abbrev closeBrace : Code := 125

/-- A code of a surrogate pair, which stands for no character of its own. -/
def isSurrogate (c : Code) : Bool :=
  0xD800 ≤ c && c ≤ 0xDFFF

end Code

namespace Text

/-- The code points of a string. -/
def ofString (s : String) : Text :=
  s.toList.map Char.toNat

/-- A string stands for its code points where a text is expected. -/
instance : Coe String Text := ⟨ofString⟩

/-- A text of listed characters. -/
def ofChars (cs : List Char) : Text :=
  cs.map Char.toNat

/-- What follows `lead` in a text that begins with it. -/
def after? : Text → Text → Option Text
  | [], t => some t
  | _ :: _, [] => none
  | a :: lead, b :: t => if a = b then after? lead t else none

/-- The text begins with `lead`. -/
def startsWith (t lead : Text) : Bool :=
  (after? lead t).isSome

/-- The texts in order with `sep` between neighbours. -/
def join (sep : Text) (parts : List Text) : Text :=
  match parts with
  | [] => []
  | p :: rest => p ++ rest.flatMap (sep ++ ·)

/-- Puts a code in front of the first piece. -/
def consFirst (c : Code) : List Text → List Text
  | [] => [[c]]
  | p :: rest => (c :: p) :: rest

/-- The pieces between occurrences of `sep`, found from the left; `skip` codes of an occurrence are
still to be passed over. -/
def splitFrom (sep : Text) : Nat → Text → List Text
  | _, [] => [[]]
  | skip + 1, _ :: t => splitFrom sep skip t
  | 0, c :: t =>
    if startsWith (c :: t) sep then [] :: splitFrom sep (sep.length - 1) t
    else consFirst c (splitFrom sep 0 t)

/-- The pieces of a text between the occurrences of a non-empty separator. -/
def split (sep t : Text) : List Text :=
  splitFrom sep 0 t

/-- How often `part` occurs without overlap; the empty part occurs before every code and at the
end. -/
def occurrences (part t : Text) : Nat :=
  if part = [] then t.length + 1 else (split part t).length - 1

/-- Every occurrence of a code replaced by a text. -/
def replaceCode (c : Code) (new t : Text) : Text :=
  t.flatMap fun x => if x = c then new else [x]

/-- Every occurrence of a non-empty part, found from the left, replaced. -/
def replace (part new t : Text) : Text :=
  join new (split part t)

/-- A run of one code. -/
abbrev run (c : Code) (n : Nat) : Text :=
  List.replicate n c

/-- The decimal digits of a number. -/
def ofNat (n : Nat) : Text :=
  (Nat.toDigits 10 n).map Char.toNat

/-- The decimal digits of an integer, behind a minus sign if it is negative. -/
def ofInt : Int → Text
  | .ofNat n => ofNat n
  | .negSucc n => Code.dash :: ofNat (n + 1)

/-- The digit of a value below sixteen, in small letters. -/
def hexDigit (n : Nat) : Code :=
  if n < 10 then 48 + n else 87 + n

/-- The lowest `width` hexadecimal digits of a number. -/
def hex : Nat → Nat → Text
  | 0, _ => []
  | width + 1, n => hex width (n / 16) ++ [hexDigit (n % 16)]

/-- The lowest `width` hexadecimal digits of a number, in capitals. -/
def hexCapital (width n : Nat) : Text :=
  (hex width n).map fun c => if 97 ≤ c then c - 32 else c

/-- Code-point order: the first difference decides, and a shorter text comes before its
extensions. -/
def le : Text → Text → Bool
  | [], _ => true
  | _ :: _, [] => false
  | a :: s, b :: t => a < b || (a == b && le s t)

theorem le_cons_cons {a b : Code} {s t : Text} :
    le (a :: s) (b :: t) = true ↔ a < b ∨ a = b ∧ le s t = true := by
  simp [le]

protected theorem le_total (s t : Text) : le s t = true ∨ le t s = true := by
  induction s generalizing t with
  | nil => exact .inl rfl
  | cons a s ih =>
    cases t with
    | nil => exact .inr rfl
    | cons b t =>
      rw [le_cons_cons, le_cons_cons]
      rcases Nat.lt_trichotomy a b with less | rfl | greater
      · exact .inl (.inl less)
      · exact (ih t).imp (.inr ⟨rfl, ·⟩) (.inr ⟨rfl, ·⟩)
      · exact .inr (.inl greater)

protected theorem le_antisymm {s t : Text} (h : le s t = true) (h' : le t s = true) : s = t := by
  induction s generalizing t with
  | nil =>
    cases t with
    | nil => rfl
    | cons b t => cases h'
  | cons a s ih =>
    cases t with
    | nil => cases h
    | cons b t =>
      rcases le_cons_cons.1 h with less | ⟨rfl, le⟩
      · rcases le_cons_cons.1 h' with greater | ⟨rfl, -⟩
        · exact absurd greater (Nat.lt_asymm less)
        · exact absurd less (Nat.lt_irrefl _)
      · rcases le_cons_cons.1 h' with less | ⟨-, le'⟩
        · exact absurd less (Nat.lt_irrefl _)
        · rw [ih le le']

protected theorem le_trans {s t u : Text} (h : le s t = true) (h' : le t u = true) :
    le s u = true := by
  induction s generalizing t u with
  | nil => rfl
  | cons a s ih =>
    cases t with
    | nil => cases h
    | cons b t =>
      cases u with
      | nil => cases h'
      | cons c u =>
        rw [le_cons_cons]
        rcases le_cons_cons.1 h with less | ⟨rfl, le⟩
        · rcases le_cons_cons.1 h' with less' | ⟨rfl, -⟩
          · exact .inl (Nat.lt_trans less less')
          · exact .inl less
        · exact (le_cons_cons.1 h').imp id fun ⟨same, le'⟩ => ⟨same, ih le le'⟩

theorem after?_eq_some_iff {lead t r : Text} : after? lead t = some r ↔ t = lead ++ r := by
  induction lead generalizing t with
  | nil => simp [after?, eq_comm]
  | cons a lead ih =>
    cases t with
    | nil => simp [after?]
    | cons b t =>
      by_cases h : a = b
      · simp [after?, h, ih]
      · simp [after?, h, Ne.symm h]

theorem startsWith_iff {t lead : Text} : startsWith t lead = true ↔ ∃ r, t = lead ++ r := by
  simp only [startsWith, Option.isSome_iff_exists, after?_eq_some_iff]

theorem splitFrom_ne_nil (sep : Text) (n : Nat) (t : Text) : splitFrom sep n t ≠ [] := by
  fun_induction splitFrom sep n t with
  | case1 => simp
  | case2 _ _ _ ih => exact ih
  | case3 => simp
  | case4 c t _ ih => cases h : splitFrom sep 0 t <;> simp [consFirst]

theorem split_ne_nil (sep t : Text) : split sep t ≠ [] :=
  splitFrom_ne_nil sep 0 t

theorem join_cons_cons (sep p q : Text) (rest : List Text) :
    join sep (p :: q :: rest) = p ++ sep ++ join sep (q :: rest) := by
  simp [join]

theorem join_consFirst (sep : Text) (c : Code) {ps : List Text} (h : ps ≠ []) :
    join sep (consFirst c ps) = c :: join sep ps := by
  cases ps with
  | nil => exact absurd rfl h
  | cons p rest => simp [consFirst, join]

theorem join_nil_cons (sep : Text) {ps : List Text} (h : ps ≠ []) :
    join sep ([] :: ps) = sep ++ join sep ps := by
  cases ps with
  | nil => exact absurd rfl h
  | cons p rest => simp [join]

theorem join_splitFrom (sep : Text) (n : Nat) (t : Text) (h : sep ≠ []) :
    join sep (splitFrom sep n t) = t.drop n := by
  fun_induction splitFrom sep n t with
  | case1 => simp [join]
  | case2 _ _ _ ih => simpa using ih
  | case3 c t hs ih =>
    obtain ⟨r, hr⟩ := startsWith_iff.1 hs
    rw [join_nil_cons _ (splitFrom_ne_nil _ _ _), ih]
    cases sep with
    | nil => exact absurd rfl h
    | cons a sep =>
      simp only [List.cons_append, List.cons.injEq] at hr
      simp [hr.1, hr.2]
  | case4 c t _ ih => rw [join_consFirst _ _ (splitFrom_ne_nil _ _ _), ih]; simp

/-- Splitting and joining again gives the text back. -/
theorem join_split {sep : Text} (h : sep ≠ []) (t : Text) : join sep (split sep t) = t :=
  by simpa [split] using join_splitFrom sep 0 t h

end Text

end EditorText
