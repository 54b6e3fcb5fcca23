import EditorText.Proofs.Pattern.Rounds
import EditorText.Proofs.Choice.Pieces
import Mathlib.Data.List.TakeWhile

/-!
# Items by a pattern

The items of an interior can be found with a regular expression: plain codes, and pairs of a
backslash with the code behind it, up to a comma or the end (`itemPattern`, which `itemSource` is read
as, `read_itemSource`). All that stands in an item is taken in the first way that is tried, and the
comma behind it is reached at once (`matchAt_itemTree`). So the matches stand one behind the other and
give the items, which are the pieces between the commas (`findAll_itemPattern`).
-/

set_option autoImplicit false

namespace EditorText.Choice

open Pattern

/-- The pattern of an item: `(?=.)([^,\\]*(?:\\.[^,\\]*)*)(?:,|$)`. -/
def itemSource : Text :=
  Text.ofChars ['(', '?', '=', '.', ')', '(', '[', '^', ',', '\\', '\\', ']', '*', '(', '?', ':',
    '\\', '\\', '.', '[', '^', ',', '\\', '\\', ']', '*', ')', '*', ')', '(', '?', ':', ',', '|',
    '$', ')']

/-- The switches of the pattern. -/
def itemFlags : Flags := { multiline := true }

/-- Codes that are neither commas nor backslashes. -/
def plainCodes : Node := .rep .greedy 0 none (.set true [.code Code.comma, .code Code.backslash])

/-- A backslash with the code behind it, and plain codes. -/
def pairAndPlain : Node := .flagged {} {} (.seq (.code Code.backslash) (.seq .any plainCodes))

/-- The end of an item. -/
def itemEnd : Node := .flagged {} {} (.alt (.code Code.comma) (.anchor .lineEnd))

/-- The pattern as a tree. -/
def itemNode : Node :=
  .seq (.look .ahead false .any)
    (.seq (.group 1 (.seq plainCodes (.rep .greedy 0 none pairAndPlain))) itemEnd)

/-- The pattern of an item, once read. -/
def itemTree : Tree := ⟨itemNode, itemFlags, 1, []⟩

/-- The pattern of an item. -/
def itemPattern : Pattern := .ofTree itemSource itemTree

/-- The pattern is what its text is read as. -/
theorem read_itemSource : Engine.read itemSource itemFlags = .ok itemPattern := by
  have answer : (Tree.ofText itemSource itemFlags).toOption = some itemTree := by
    decide +kernel
  cases tree : Tree.ofText itemSource itemFlags with
  | error failure =>
    rw [tree] at answer
    cases answer
  | ok tree' =>
    rw [tree] at answer
    obtain rfl : tree' = itemTree := Option.some.inj answer
    exact readTree_of_ofText tree

/-- The code stands for itself in an item. -/
def isPlain (c : Code) : Bool := c != Code.comma && c != Code.backslash

/-- What stands behind an item: nothing, or a comma. -/
def EndsItem (rest : Text) : Prop := rest = [] ∨ ∃ t, rest = Code.comma :: t

section Item

variable {text : Array Code} {p fuel : Nat} {c : Captures} {next : Next} {r : Reached}
  {x : Code} {item s t rest : Text}

theorem EndsItem.first (ends : EndsItem rest) : ∀ x ∈ rest.head?, x = Code.comma := by
  rcases ends with rfl | ⟨t, rfl⟩
  · nofun
  · exact fun x first => (Option.some.inj first).symm

theorem setHolds_plain :
    setHolds itemFlags true [.code Code.comma, .code Code.backslash] = isPlain := by
  funext x
  have comma : (Code.comma == x) = (x == Code.comma) := BEq.comm
  have backslash : (Code.backslash == x) = (x == Code.backslash) := BEq.comm
  simp [setHolds, SetItem.holds, sameCode, itemFlags, isPlain, bne, comma, backslash]

/-- Plain codes are taken up to one that is not plain. -/
theorem match?_plainCodes (here : text.toList.drop p = s ++ rest)
    (plain : ∀ x ∈ s, isPlain x = true) (stop : ∀ x ∈ rest.head?, isPlain x = false)
    (after : next (p + s.length) c = some r) :
    plainCodes.match? text itemFlags p c next = some r := by
  have long := congrArg List.length here
  rw [List.length_drop, List.length_append, Array.length_toList] at long
  show asMany (takeOne text (setHolds itemFlags true _)) (text.size + 1 - p) none p c next = some r
  rw [setHolds_plain]
  exact asMany_takeOne here plain stop (by omega) after

/-- An item with what follows it is plain codes, and something that begins with none. -/
theorem exists_plain (ends : EndsItem rest) (item : Text) :
    ∃ back, item ++ rest = item.takeWhile isPlain ++ back ∧
      ∀ x ∈ back.head?, isPlain x = false := by
  refine ⟨item.dropWhile isPlain ++ rest, ?_, ?_⟩
  · rw [← List.append_assoc, List.takeWhile_append_dropWhile]
  · intro x first
    cases behind : item.dropWhile isPlain with
    | nil =>
      rw [behind] at first
      rw [ends.first x first]
      rfl
    | cons y t =>
      rw [behind] at first
      cases first
      have stops := List.head?_dropWhile_not isPlain item
      rw [behind] at stops
      exact stops

theorem match?_pairAndPlain (text : Array Code) (p : Nat) (c : Captures) (next : Next) :
    pairAndPlain.match? text itemFlags p c next =
      takeOne text (sameCode itemFlags Code.backslash) p c fun q d =>
        takeOne text (fun x => itemFlags.dotAll || x != Code.newline) q d fun q d =>
          plainCodes.match? text itemFlags q d next := rfl

/-- A pair is taken with the plain codes behind it. -/
theorem match?_pair {x : Code} (inLine : x ≠ Code.newline)
    (here : text.toList.drop p = Code.backslash :: x :: (s ++ rest))
    (plain : ∀ x ∈ s, isPlain x = true) (stop : ∀ x ∈ rest.head?, isPlain x = false)
    (after : next (p + 2 + s.length) c = some r) :
    pairAndPlain.match? text itemFlags p c next = some r := by
  have second : text.toList.drop (p + 1) = x :: (s ++ rest) :=
    drop_add (s := [Code.backslash]) here
  have behind : text.toList.drop (p + 1 + 1) = s ++ rest := drop_add (s := [x]) second
  rw [match?_pairAndPlain, takeOne_cons here rfl, takeOne_cons second (by simp [inLine])]
  exact match?_plainCodes behind plain stop after

/-- No pair is taken behind an item. -/
theorem match?_pair_eq_none (ends : EndsItem rest) (here : text.toList.drop p = rest)
    (next : Next) : pairAndPlain.match? text itemFlags p c next = none := by
  rw [match?_pairAndPlain]
  refine takeOne_eq_none here fun x first => ?_
  rw [ends.first x first]
  rfl

/-- Behind its plain codes, the pairs of an item are taken up to its end. -/
theorem asMany_pairAndPlain (whole : Whole item) (ends : EndsItem rest)
    (oneLine : Code.newline ∉ item) (here : text.toList.drop p = item ++ rest)
    (enough : item.length ≤ (item.takeWhile isPlain).length + fuel)
    (after : next (p + item.length) c = some r) :
    asMany (pairAndPlain.match? text itemFlags) fuel none
      (p + (item.takeWhile isPlain).length) c next = some r := by
  induction whole generalizing p fuel with
  | nil =>
    rw [List.takeWhile_nil, List.length_nil, Nat.add_zero, asMany_over]
    · exact after
    · exact match?_pair_eq_none ends here
  | @plain x t comma backslash _ ih =>
    have plain : isPlain x = true := by simp [isPlain, comma, backslash]
    have behind : text.toList.drop (p + 1) = t ++ rest := drop_add (s := [x]) here
    have place (s : Text) : p + (x :: s).length = p + 1 + s.length := by
      rw [List.length_cons]
      omega
    rw [List.takeWhile_cons_of_pos plain, List.length_cons, List.length_cons] at enough
    rw [place] at after
    rw [List.takeWhile_cons_of_pos plain, place]
    exact ih (List.not_mem_of_not_mem_cons oneLine) behind (by omega) after
  | @pair x t _ ih =>
    have begins : ¬ isPlain Code.backslash = true := by decide
    rw [List.takeWhile_cons_of_neg begins, List.length_cons, List.length_cons, List.length_nil]
      at enough
    obtain ⟨fuel, rfl⟩ : ∃ f, fuel = f + 1 := ⟨fuel - 1, by omega⟩
    obtain ⟨inLine, free⟩ : Code.newline ≠ x ∧ Code.newline ∉ t := by
      simpa only [List.mem_cons, not_or] using (List.not_mem_of_not_mem_cons oneLine)
    obtain ⟨back, split, stop⟩ := exists_plain ends t
    have behind : text.toList.drop (p + 2) = t ++ rest :=
      drop_add (s := [Code.backslash, x]) here
    have place : p + (Code.backslash :: x :: t).length = p + 2 + t.length := by
      rw [List.length_cons, List.length_cons]
      omega
    have here' : text.toList.drop p = Code.backslash :: x :: (t.takeWhile isPlain ++ back) := by
      rw [here, ← split]
      rfl
    rw [place] at after
    refine asMany_more (match?_pair (Ne.symm inLine) here' ?_ stop ?_)
    · exact fun _ => List.mem_takeWhile_imp
    · rw [if_pos (by omega)]
      exact ih free behind (by omega) after

/-- The group of an item takes all of it. -/
theorem match?_group (whole : Whole item) (ends : EndsItem rest) (oneLine : Code.newline ∉ item)
    (here : text.toList.drop p = item ++ rest)
    (after : next (p + item.length) [(1, p, p + item.length)] = some r) :
    (Node.group 1 (.seq plainCodes (.rep .greedy 0 none pairAndPlain))).match? text itemFlags p []
      next = some r := by
  show plainCodes.match? text itemFlags p [] (fun q d =>
    asMany (pairAndPlain.match? text itemFlags) (text.size + 1 - q) none q d fun q d =>
      next q ((1, p, q) :: d)) = some r
  obtain ⟨back, split, stop⟩ := exists_plain ends item
  have long := congrArg List.length here
  have short := (List.takeWhile_prefix isPlain (l := item)).length_le
  rw [List.length_drop, List.length_append, Array.length_toList] at long
  refine match?_plainCodes (here.trans split) (fun _ => List.mem_takeWhile_imp) stop ?_
  exact asMany_pairAndPlain whole ends oneLine here (by omega) after

/-- Behind an item its comma is taken, or the end is found. -/
theorem match?_itemEnd (ends : EndsItem rest) (here : text.toList.drop p = rest)
    (within : p ≤ text.size) :
    itemEnd.match? text itemFlags p c done = some (p + (rest.take 1).length, c) := by
  show (takeOne text (sameCode itemFlags Code.comma) p c done).or
    (if Anchor.lineEnd.holds text itemFlags p then done p c else none) = _
  rcases ends with rfl | ⟨t, rfl⟩
  · have atEnd : p = text.size := by
      have long := List.drop_eq_nil_iff.1 here
      rw [Array.length_toList] at long
      omega
    have holds : Anchor.lineEnd.holds text itemFlags p = true := by
      simp [Anchor.holds, itemFlags, atEnd]
    rw [takeOne_eq_none here nofun, holds]
    rfl
  · rw [takeOne_cons here rfl]
    rfl

/-- The match of an item with the comma behind it. -/
def itemMatch (start : Nat) (item rest : Text) : Match :=
  ⟨⟨start, start + item.length + (rest.take 1).length⟩, [(1, start, start + item.length)]⟩

/-- What an item begins with is only looked at. -/
theorem match?_itemNode (text : Array Code) (p : Nat) (c : Captures) (next : Next) :
    itemNode.match? text itemFlags p c next =
      (Node.any.match? text itemFlags p c done).bind fun q =>
        (Node.group 1 (.seq plainCodes (.rep .greedy 0 none pairAndPlain))).match? text itemFlags p
          q.2 fun q d => itemEnd.match? text itemFlags q d next := by
  rw [itemNode, match?_seq, match?_ahead]
  rfl

/-- **The pattern matches an item** with the comma behind it. -/
theorem matchAt_itemTree (whole : Whole item) (ends : EndsItem rest)
    (oneLine : Code.newline ∉ item) (here : text.toList.drop p = item ++ rest)
    (filled : item ++ rest ≠ []) :
    itemTree.matchAt text false p = some (itemMatch p item rest) := by
  obtain ⟨x, t, front⟩ := List.exists_cons_of_ne_nil filled
  have inLine : x ≠ Code.newline := by
    cases item with
    | nil =>
      rw [ends.first x (congrArg List.head? front)]
      decide
    | cons y item =>
      obtain ⟨rfl, -⟩ := List.cons.inj front
      exact Ne.symm (List.ne_of_not_mem_cons oneLine)
  have ahead : Node.any.match? text itemFlags p [] done = some (p + 1, []) :=
    takeOne_cons (here.trans front) (by simp [inLine])
  have size : text.toList.length = text.size := Array.length_toList
  have long := add_length_of_drop here filled
  rw [List.length_append, size] at long
  have short : (rest.take 1).length ≤ rest.length := List.length_take_le' ..
  refine Tree.matchAt_of_match? ?_ (by omega) (by omega)
  show itemNode.match? text itemFlags p [] done = _
  rw [match?_itemNode, ahead, Option.bind_some]
  refine match?_group whole ends oneLine here ?_
  exact match?_itemEnd ends (drop_add here) (by omega)

/-- The pattern does not match at the end. -/
theorem matchAt_itemTree_eq_none (here : text.toList.drop p = []) :
    itemTree.matchAt text false p = none := by
  have ahead : Node.any.match? text itemFlags p [] done = none := takeOne_eq_none here nofun
  refine Tree.matchAt_eq_none ?_
  show itemNode.match? text itemFlags p [] done = none
  rw [match?_itemNode, ahead]
  rfl

end Item

/-- Matches that have these items as their groups, and stand one behind the other from a place up to
the end of the text. -/
structure Finds (t : Text) (start : Nat) (items : List Text) (found : List Match) : Prop where
  groups : found.map (·.group? t 1) = items.map some
  spans : found.flatMap (fun m => t.slice m.span) = t.drop start

section Items

variable {p fuel : Nat} {item t rest : Text} {ps : List Text} {found : List Match}

/-- The group of a match is the item. -/
theorem group?_itemMatch (here : t.drop p = item ++ rest) :
    (itemMatch p item rest).group? t 1 = some item := by
  have group : (itemMatch p item rest).groupSpan? 1 = some ⟨p, p + item.length⟩ := by
    simp [Match.groupSpan?, itemMatch, Captures.span?]
  rw [Match.group?, group, Option.map_some, Text.slice, here, Nat.add_sub_cancel_left,
    List.take_left]

/-- Behind an item the next match is sought. -/
theorem findAllFrom_item (whole : Whole item) (ends : EndsItem rest)
    (oneLine : Code.newline ∉ item) (here : t.drop p = item ++ rest)
    (filled : item ++ rest ≠ []) :
    itemTree.findAllFrom t.toArray (fuel + 1) p false = itemMatch p item rest ::
      itemTree.findAllFrom t.toArray fuel (itemMatch p item rest).span.stop false := by
  have long := add_length_of_drop here filled
  have some := List.length_pos_iff.2 filled
  have inText : t.toArray.toList.drop p = item ++ rest := here
  have found := Tree.searchIn_of_matchAt (by rw [List.size_toArray]; omega)
    (matchAt_itemTree whole ends oneLine inText filled)
  have forward : (itemMatch p item rest).isEmpty = false := by
    refine beq_false_of_ne ?_
    rcases ends with rfl | ⟨u, rfl⟩
    · rw [List.append_nil] at some
      simp only [itemMatch, List.take_nil, List.length_nil]
      omega
    · simp only [itemMatch, List.take_succ_cons, List.length_cons]
      omega
  rw [Tree.findAllFrom, found]
  dsimp only
  rw [forward]

/-- Nothing is found at the end. -/
theorem findAllFrom_end (here : t.drop p = []) :
    itemTree.findAllFrom t.toArray fuel p false = [] := by
  have none : itemTree.searchIn t.toArray p false = none := by
    refine Tree.searchIn_eq_none fun q behind => matchAt_itemTree_eq_none ?_
    obtain ⟨n, rfl⟩ := Nat.exists_eq_add_of_le behind
    rw [List.toList_toArray, ← List.drop_drop, here, List.drop_nil]
  cases fuel with
  | zero => rfl
  | succ fuel => rw [Tree.findAllFrom, none]

theorem Finds.cons (here : t.drop p = item ++ rest)
    (others : Finds t (itemMatch p item rest).span.stop ps found) :
    Finds t p (item :: ps) (itemMatch p item rest :: found) := by
  have forward : (itemMatch p item rest).span.start ≤ (itemMatch p item rest).span.stop := by
    simp only [itemMatch]
    omega
  refine ⟨?_, ?_⟩
  · rw [List.map_cons, group?_itemMatch here, others.groups]
    rfl
  · rw [List.flatMap_cons, others.spans, Text.slice_append_drop t _ forward]
    rfl

/-- Behind a match stands what is behind the comma. -/
theorem drop_itemMatch (here : t.drop p = item ++ rest) :
    t.drop (itemMatch p item rest).span.stop = rest.drop 1 := by
  have behind : t.drop (p + item.length) = rest := by rw [← List.drop_drop, here, List.drop_left]
  rw [itemMatch]
  dsimp only
  rw [← List.drop_drop, behind]
  cases rest <;> rfl

/-- Whole items that are joined with commas are found one after another, an empty one at the end
excepted. -/
theorem findAllFrom_join (whole : ∀ q ∈ ps, Whole q) (oneLine : Code.newline ∉ t)
    (here : t.drop p = Text.join [Code.comma] ps) (enough : (t.drop p).length ≤ fuel) :
    Finds t p (withoutEmptyEnd ps) (itemTree.findAllFrom t.toArray fuel p false) := by
  induction ps generalizing p fuel with
  | nil =>
    rw [findAllFrom_end here]
    exact ⟨rfl, here.symm⟩
  | cons item ps ih =>
    obtain ⟨first, others⟩ := List.forall_mem_cons.1 whole
    cases ps with
    | nil =>
      have one : t.drop p = item ++ [] := by simpa [Text.join] using here
      by_cases empty : item = []
      · subst empty
        rw [findAllFrom_end one]
        exact ⟨rfl, one.symm⟩
      · have long := List.length_pos_iff.2 empty
        rw [one, List.append_nil] at enough
        obtain ⟨fuel, rfl⟩ : ∃ f, fuel = f + 1 := ⟨fuel - 1, by omega⟩
        have free : Code.newline ∉ item := fun inside =>
          oneLine (List.mem_of_mem_drop (one ▸ List.mem_append_left [] inside))
        have last := drop_itemMatch one
        have stays : [item].getLast? ≠ some [] := by simpa using empty
        rw [withoutEmptyEnd, if_neg stays,
          findAllFrom_item first (.inl rfl) free one (by simpa using empty), findAllFrom_end last]
        exact .cons one ⟨rfl, last.symm⟩
    | cons q ps =>
      have split : t.drop p = item ++ Code.comma :: Text.join [Code.comma] (q :: ps) := by
        rw [here, Text.join_cons_cons, List.append_assoc]
        rfl
      rw [split, List.length_append, List.length_cons] at enough
      obtain ⟨fuel, rfl⟩ : ∃ f, fuel = f + 1 := ⟨fuel - 1, by omega⟩
      have free : Code.newline ∉ item := fun inside =>
        oneLine (List.mem_of_mem_drop (split ▸ List.mem_append_left _ inside))
      have behind := drop_itemMatch split
      rw [findAllFrom_item first (.inr ⟨_, rfl⟩) free split (by simp), withoutEmptyEnd_cons_cons]
      refine .cons split (ih others behind ?_)
      rw [behind, List.drop_one, List.tail_cons]
      omega

/-- **The pattern finds the items**, and these are the pieces of the interior between its commas but
for an empty one at the end. What is matched is the whole interior. The pattern is the one that its
text is read as. -/
theorem findAll_itemPattern {interior : Text} (oneLine : Code.newline ∉ interior)
    (paired : waits interior = false) :
    Engine.read itemSource itemFlags = .ok itemPattern ∧
    let found := itemPattern.findAll interior
    found.map (·.group? interior 1) = (items interior).map some ∧
      items interior = withoutEmptyEnd (pieces interior) ∧
      found.flatMap (fun m => interior.slice m.span) = interior := by
  have cut : interior.drop 0 = Text.join [Code.comma] (pieces interior) := by
    rw [List.drop_zero, join_pieces]
  have enough : (interior.drop 0).length ≤ 2 * interior.length + 3 := by
    rw [List.drop_zero]
    omega
  have finds := findAllFrom_join (whole_of_mem_pieces paired) oneLine cut enough
  rw [items_eq paired]
  exact ⟨read_itemSource, finds.groups, rfl, finds.spans⟩

/-- The last of four pieces is empty and no item; the third has its comma behind a pair. -/
theorem findAll_itemPattern_emptyPieces :
    let interior := Text.ofChars ['a', '\\', ',', 'b', ',', ',', 'c', '\\', '\\', ',']
    (Code.newline ∉ interior ∧ waits interior = false ∧
      items interior = [Text.ofChars ['a', '\\', ',', 'b'], [], Text.ofChars ['c', '\\', '\\']]) ∧
      let found := itemPattern.findAll interior
      found.map (·.group? interior 1) = (items interior).map some ∧
        items interior = withoutEmptyEnd (pieces interior) ∧
        found.flatMap (fun m => interior.slice m.span) = interior := by
  refine ⟨⟨by decide, by decide, by decide⟩, ?_⟩
  exact (findAll_itemPattern (by decide) (by decide)).2

end Items

end EditorText.Choice
