import EditorText.Proofs.Choice.Commas

/-!
# Items of a choice

An item goes on up to a comma that no backslash goes with (`itemAt?_append`). Whole items that are
joined with commas are found again, but for an empty one at the end (`items_join`), and every item
that is found is whole (`whole_of_mem_items`).
-/

set_option autoImplicit false

namespace EditorText.Choice

open Text

variable {item p rest t : Text} {fuel : Nat}

theorem itemAt?_backslash (c : Code) (t : Text) : itemAt? (Code.backslash :: c :: t) =
    (itemAt? t).map fun (item, rest) => (Code.backslash :: c :: item, rest) := by
  rw [itemAt?]

theorem itemAt?_cons {c : Code} (comma : c ≠ Code.comma) (backslash : c ≠ Code.backslash) :
    itemAt? (c :: t) = (itemAt? t).map fun (item, rest) => (c :: item, rest) := by
  rw [itemAt?]
  · exact comma
  · intro single
    exact absurd single backslash
  · intro d r single
    exact absurd single backslash

/-- A whole item ends at the comma behind it. -/
theorem itemAt?_append (whole : Whole p) (t : Text) :
    itemAt? (p ++ Code.comma :: t) = some (p, t) := by
  induction whole with
  | nil => rfl
  | pair c _ ih => rw [List.cons_append, List.cons_append, itemAt?_backslash, ih]; rfl
  | plain comma backslash _ ih => rw [List.cons_append, itemAt?_cons comma backslash, ih]; rfl

/-- A whole item ends at the end. -/
theorem itemAt?_of_whole (whole : Whole p) : itemAt? p = some (p, []) := by
  induction whole with
  | nil => rfl
  | pair c _ ih => rw [itemAt?_backslash, ih]; rfl
  | plain comma backslash _ ih => rw [itemAt?_cons comma backslash, ih]; rfl

/-- What is taken for an item is whole, and what follows it stands behind a comma or is nothing. -/
theorem of_itemAt? (h : itemAt? t = some (item, rest)) :
    Whole item ∧ (t = item ∧ rest = [] ∨ t = item ++ Code.comma :: rest) := by
  fun_induction itemAt? t generalizing item rest with
  | case1 =>
    cases h
    exact ⟨.nil, .inl ⟨rfl, rfl⟩⟩
  | case2 t =>
    cases h
    exact ⟨.nil, .inr rfl⟩
  | case3 => cases h
  | case4 c t ih =>
    obtain ⟨⟨first, behind⟩, found, same⟩ := Option.map_eq_some_iff.1 h
    cases same
    obtain ⟨whole, split⟩ := ih found
    refine ⟨.pair c whole, ?_⟩
    rcases split with ⟨rfl, rfl⟩ | rfl
    · exact .inl ⟨rfl, rfl⟩
    · exact .inr rfl
  | case5 c t comma single backslash ih =>
    obtain ⟨⟨first, behind⟩, found, same⟩ := Option.map_eq_some_iff.1 h
    cases same
    obtain ⟨whole, split⟩ := ih found
    have other : c ≠ Code.backslash := by
      rintro rfl
      cases t with
      | nil => exact single rfl rfl
      | cons d t => exact backslash d t rfl rfl
    refine ⟨.plain comma other whole, ?_⟩
    rcases split with ⟨rfl, rfl⟩ | rfl
    · exact .inl ⟨rfl, rfl⟩
    · exact .inr rfl

/-- **A text is whole exactly if it is one item.** -/
theorem whole_iff : Whole t ↔ itemAt? t = some (t, []) :=
  ⟨itemAt?_of_whole, fun h => (of_itemAt? h).1⟩

instance (t : Text) : Decidable (Whole t) := decidable_of_iff _ whole_iff.symm

instance (line : Text) : Decidable (EvenBackslashes line) :=
  decidable_of_iff _ whole_escapeCommas_iff

/-- Where an item begins the items go on behind it. -/
theorem itemsFrom_of_some (filled : t ≠ []) (h : itemAt? t = some (item, rest)) :
    itemsFrom (fuel + 1) t = item :: itemsFrom fuel rest := by
  obtain ⟨c, t, rfl⟩ := List.exists_cons_of_ne_nil filled
  rw [itemsFrom, h]

@[simp] theorem itemsFrom_nil (fuel : Nat) : itemsFrom fuel [] = [] := by
  cases fuel <;> rfl

/-- Every item found is whole, and its codes come from the interior. -/
theorem of_mem_itemsFrom (found : item ∈ itemsFrom fuel t) : Whole item ∧ item ⊆ t := by
  induction fuel generalizing t with
  | zero => cases found
  | succ fuel ih =>
    cases t with
    | nil => simp at found
    | cons c t =>
      rw [itemsFrom] at found
      split at found
      next first rest here =>
        obtain ⟨whole, split⟩ := of_itemAt? here
        have inside : first ⊆ c :: t ∧ rest ⊆ c :: t := by
          rcases split with ⟨same, rfl⟩ | same
          · rw [same]
            exact ⟨List.Subset.refl _, List.nil_subset _⟩
          · rw [same]
            exact ⟨List.subset_append_left .., fun d member =>
              List.mem_append_right _ (List.mem_cons_of_mem _ member)⟩
        rcases List.mem_cons.1 found with rfl | later
        · exact ⟨whole, inside.1⟩
        · obtain ⟨whole', part⟩ := ih later
          exact ⟨whole', List.Subset.trans part inside.2⟩
      next =>
        obtain ⟨whole, part⟩ := ih found
        exact ⟨whole, List.Subset.trans part (List.subset_cons_self c t)⟩

/-- **Every item is whole.** -/
theorem whole_of_mem_items {interior : Text} (found : item ∈ items interior) : Whole item :=
  (of_mem_itemsFrom found).1

/-- Whole items joined with commas are found from the left, an empty one at the end excepted. -/
theorem itemsFrom_join {ps : List Text} (whole : ∀ p ∈ ps, Whole p)
    (enough : (join [Code.comma] ps).length ≤ fuel) :
    itemsFrom fuel (join [Code.comma] ps) =
      if ps.getLast? = some [] then ps.dropLast else ps := by
  induction ps generalizing fuel with
  | nil => exact itemsFrom_nil fuel
  | cons p ps ih =>
    obtain ⟨first, others⟩ := List.forall_mem_cons.1 whole
    cases ps with
    | nil =>
      have one : join [Code.comma] [p] = p := by simp [join]
      rw [one] at enough ⊢
      by_cases empty : p = []
      · simp [empty]
      · have long := List.length_pos_iff.2 empty
        obtain ⟨fuel, rfl⟩ : ∃ f, fuel = f + 1 := ⟨fuel - 1, by omega⟩
        rw [itemsFrom_of_some empty (itemAt?_of_whole first), itemsFrom_nil]
        simp [empty]
    | cons q ps =>
      have split : join [Code.comma] (p :: q :: ps) =
          p ++ Code.comma :: join [Code.comma] (q :: ps) := by
        rw [join_cons_cons]
        simp
      rw [split] at enough ⊢
      rw [List.length_append, List.length_cons] at enough
      obtain ⟨fuel, rfl⟩ : ∃ f, fuel = f + 1 := ⟨fuel - 1, by omega⟩
      have filled : p ++ Code.comma :: join [Code.comma] (q :: ps) ≠ [] := by simp
      rw [itemsFrom_of_some filled (itemAt?_append first _), ih others (by omega),
        List.getLast?_cons_cons, List.dropLast_cons_cons]
      split <;> rfl

/-- **Joined items are found again**, but for an empty one at the end. -/
theorem items_join {ps : List Text} (whole : ∀ p ∈ ps, Whole p) :
    items (join [Code.comma] ps) = if ps.getLast? = some [] then ps.dropLast else ps :=
  itemsFrom_join whole (Nat.le_refl _)

/-- **Joined items are found again exactly** if they are whole and the last is not empty. -/
theorem items_join_eq_iff {ps : List Text} (some : ps ≠ []) :
    items (join [Code.comma] ps) = ps ↔ (∀ p ∈ ps, Whole p) ∧ ps.getLast? ≠ Option.some [] := by
  constructor
  · intro same
    have whole : ∀ p ∈ ps, Whole p := fun p member => whole_of_mem_items (same ▸ member)
    refine ⟨whole, fun last => ?_⟩
    have shorter := items_join whole
    rw [if_pos last, same] at shorter
    have long := List.length_pos_iff.2 some
    have length := congrArg List.length shorter
    rw [List.length_dropLast] at length
    omega
  · rintro ⟨whole, last⟩
    rw [items_join whole, if_neg last]

end EditorText.Choice
