import EditorText.Proofs.Json.Uniqueness
import EditorText.Proofs.Snippet.Triggers
import Mathlib.Data.List.Forall2

/-!
# What the JSON of a snippet says

The JSON document of a snippet denotes one value, the object with what was parsed in it
(`Definition.json_exactly`). Each of the writers is shown to write by the grammar; that the document
denotes nothing else is then a matter of the grammar alone.
-/

set_option autoImplicit false

namespace EditorText.Snippet

open Json (Encodes EncodesAll Quotes Spaces Listed Member Writes Denotes joinPairs)

section Strings

/-- The four digits that a control character is written with are read as its number. -/
theorem hex_of_control : ∀ c < 32, (Text.hex 4 c).length = 4 ∧
    (∀ d ∈ Text.hex 4 c, isHexDigit d = true) ∧ Text.natOf 16 (Text.hex 4 c) = c := by
  decide

/-- A character is spelled as itself, and only a control character by its number. -/
theorem encodes_jsonCode (c : Code) :
    ∃ numbered, Encodes (jsonCode c) (c, numbered) ∧ (numbered = true → c < 32) := by
  have letter {e : Code} (listed : (e, c) ∈ Json.escapeLetters) :
      ∃ numbered, Encodes [Code.backslash, e] (c, numbered) ∧ (numbered = true → c < 32) :=
    ⟨false, .letter listed, nofun⟩
  unfold jsonCode
  split_ifs with sign line carriage tab feed back control
  · exact letter (by rcases sign with rfl | rfl <;> decide)
  · exact letter (by subst line; decide)
  · exact letter (by subst carriage; decide)
  · exact letter (by subst tab; decide)
  · exact letter (by subst feed; decide)
  · exact letter (by subst back; decide)
  · obtain ⟨four, digits, number⟩ := hex_of_control c control
    have encodes := Encodes.number four digits
    rw [number] at encodes
    exact ⟨true, encodes, fun _ => control⟩
  · rw [not_or] at sign
    exact ⟨false, .plain (Nat.not_lt.1 control) sign.1 sign.2, nofun⟩

/-- Characters that are no halves of a pair stay as they are. -/
theorem joinPairs_eq_map {us : List (Code × Bool)} (single : ∀ u ∈ us, u.2 = true → u.1 < 32) :
    joinPairs us = us.map Prod.fst := by
  fun_induction joinPairs us with
  | case1 => rfl
  | case2 high low us pair _ =>
    have small : high < 32 := single _ List.mem_cons_self rfl
    simp only [Json.isHighSurrogate, Bool.and_eq_true, decide_eq_true_eq] at pair
    exact absurd (Nat.lt_of_le_of_lt pair.1.1 small) (by decide)
  | case3 high low us _ ih =>
    rw [ih fun u inside => single u (List.mem_cons_of_mem _ inside)]
    rfl
  | case4 c numbered us _ ih =>
    rw [ih fun u inside => single u (List.mem_cons_of_mem _ inside)]
    rfl

theorem encodesAll_jsonCode (t : Text) :
    ∃ us, EncodesAll (t.flatMap jsonCode) us ∧ us.map Prod.fst = t ∧
      ∀ u ∈ us, u.2 = true → u.1 < 32 := by
  induction t with
  | nil => exact ⟨[], .nil, rfl, nofun⟩
  | cons c t ih =>
    obtain ⟨us, all, rfl, small⟩ := ih
    obtain ⟨numbered, first, control⟩ := encodes_jsonCode c
    exact ⟨(c, numbered) :: us, .cons first all, rfl, List.forall_mem_cons.2 ⟨control, small⟩⟩

theorem quotes_jsonString (t : Text) : Quotes (jsonString t) t := by
  obtain ⟨us, all, same, small⟩ := encodesAll_jsonCode t
  exact ⟨_, us, all, (joinPairs_eq_map small).trans same, rfl⟩

end Strings

section Layout

variable {α : Type} {P : Text → α → Prop}

theorem spaces_nil : Spaces [] := fun _ none => nomatch none

theorem spaces_jsonBreak (level : Nat) : Spaces (jsonBreak level) := by
  refine List.forall_mem_cons.2 ⟨rfl, fun c inside => ?_⟩
  rw [List.eq_of_mem_replicate inside]
  rfl

/-- Items that are joined by a comma and spaces are listed. -/
theorem listed_join {w w' : Text} {parts : List Text} {xs : List α}
    (each : List.Forall₂ P parts xs) (some : parts ≠ []) (behind : Spaces w) (last : Spaces w') :
    Listed P (Text.join (Code.comma :: w) parts ++ w') xs := by
  induction each with
  | nil => exact absurd rfl some
  | @cons p x parts xs first others ih =>
    cases others with
    | nil =>
      rw [Text.join, List.flatMap_nil, List.append_nil]
      exact .one first last
    | @cons q y parts xs _ _ =>
      have listed := Listed.more first spaces_nil behind (ih (List.cons_ne_nil _ _))
      rw [Text.join_cons_cons]
      simpa only [List.append_assoc, List.cons_append, List.nil_append] using listed

theorem forall₂_jsonString (ts : List Text) :
    List.Forall₂ Writes (ts.map jsonString) (ts.map .string) := by
  rw [List.forall₂_map_left_iff, List.forall₂_map_right_iff, List.forall₂_same]
  exact fun t _ => .string (quotes_jsonString t)

theorem writes_jsonArray {ts : List Text} (some : ts ≠ []) (level : Nat) :
    Writes (jsonArray level ts) (.array (ts.map .string)) := by
  have listed := listed_join (forall₂_jsonString ts) (by simpa using some)
    (spaces_jsonBreak (level + 1)) (spaces_jsonBreak level)
  have array := Writes.array (spaces_jsonBreak (level + 1)) (.some listed)
  simpa only [jsonArray, List.append_assoc, List.cons_append] using array

theorem writes_jsonObject {members : List Text} {ms : List (Text × Json)}
    (each : List.Forall₂ (Member Writes) members ms) (some : members ≠ []) (level : Nat) :
    Writes (jsonObject level members) (.object ms) := by
  have listed := listed_join each some (spaces_jsonBreak (level + 1)) (spaces_jsonBreak level)
  have object := Writes.object (spaces_jsonBreak (level + 1)) (.some listed)
  simpa only [jsonObject, List.append_assoc, List.cons_append] using object

theorem member_jsonMember {value : Text} {x : α} (h : P value x) (key : Text) :
    Member P (jsonMember key value) (key, x) := by
  have space : Spaces [Code.space] := by simp [Spaces, Json.isSpace]
  have member := Member.mk (quotes_jsonString key) spaces_nil space h
  simpa only [jsonMember, List.nil_append, List.cons_append] using member

end Layout

namespace Definition

variable (d : Definition)

/-- What the document of a snippet with these triggers is to say. -/
def content (ts : List Text) : Json :=
  .object [(d.name, .object [
    ("scope", .string (d.scope.getD [])),
    ("prefix", .array (ts.map .string)),
    ("body", .array [.string d.body]),
    ("description", .string d.name)])]

theorem content_inj {d e : Definition} {ts us : List Text} :
    d.content ts = e.content us ↔ d.name = e.name ∧ d.body = e.body ∧
      d.scope.getD [] = e.scope.getD [] ∧ ts = us := by
  have strings : ts.map Json.string = us.map Json.string ↔ ts = us :=
    List.map_inj_right fun _ _ same => Json.string.inj same
  simp only [content, Json.object.injEq, Json.array.injEq, Json.string.injEq, List.cons.injEq,
    Prod.mk.injEq, strings]
  tauto

theorem denotes_json : Denotes d.json (d.content (triggers d.trigger)) := by
  have string (t : Text) : Writes (jsonString t) (.string t) := .string (quotes_jsonString t)
  have array {ts : List Text} (some : ts ≠ []) := writes_jsonArray some 2
  have fields := writes_jsonObject
    (.cons (member_jsonMember (string (d.scope.getD [])) "scope")
      (.cons (member_jsonMember (array (triggers_ne_nil d.trigger)) "prefix")
        (.cons (member_jsonMember (array (List.cons_ne_nil d.body [])) "body")
          (.cons (member_jsonMember (string d.name) "description") .nil)))) (List.cons_ne_nil _ _) 1
  have document := writes_jsonObject (.cons (member_jsonMember fields d.name) .nil)
    (List.cons_ne_nil _ _) 0
  exact ⟨[], _, [], spaces_nil, document, spaces_nil, by simp [json]⟩

/-- **The JSON of a snippet says what was parsed** and nothing else. It denotes the object with the
name as its only key, for which it has the scope, the pieces of the trigger list, the body and the
name again. So two snippets have the same JSON exactly if they agree in these. -/
theorem json_exactly : ∃ ts, (∀ us, Pieces d.trigger us ↔ us = ts) ∧
    (∀ v, Denotes d.json v ↔ v = d.content ts) ∧
    ∀ (e : Definition) us, Pieces e.trigger us → (d.json = e.json ↔
      d.name = e.name ∧ d.body = e.body ∧ d.scope.getD [] = e.scope.getD [] ∧ ts = us) := by
  refine ⟨triggers d.trigger, fun us => pieces_iff, fun v => ?_, fun e us pieces => ?_⟩
  · constructor
    · exact fun denotes => denotes.unique d.denotes_json
    · rintro rfl
      exact d.denotes_json
  · obtain rfl := pieces.eq_triggers
    constructor
    · intro same
      have denotes := d.denotes_json
      rw [same] at denotes
      exact content_inj.1 (denotes.unique e.denotes_json)
    · rintro ⟨name, body, scope, pieces⟩
      rw [json, json, name, body, scope, pieces]

end Definition

end EditorText.Snippet
