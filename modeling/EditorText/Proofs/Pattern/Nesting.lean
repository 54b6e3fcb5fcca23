import EditorText.Proofs.Pattern.Serving

/-!
# Branches, items and groups

The readers that call each other answer, or fail for faults and limits alone, as long as their
rounds outnumber the characters that are left four times, and what they answer is no deeper than the
parentheses that were left allow (`nested`). What carries it is one step for each of them: it hands
fewer characters or fewer rounds on, and never too few.
-/

set_option autoImplicit false

namespace EditorText.Pattern.Reader

variable [Platform] {source : Text} {m n fuel room : Nat}

/-- There is room for the calls that `m` parentheses can ask for, or the pattern has too many. -/
def HasRoom (source : Text) (m room : Nat) : Prop :=
  2 * m ≤ room ∨ Limits source .tooDeep

/-- A group has room for what is inside it. -/
theorem serves_within {α : Type} {calls : Nat} {read : Nat → Reader α} {P : Reading → Prop}
    {Q : α → Reading → Prop} (roomy : HasRoom source (m + 1) room) (few : calls ≤ 2)
    (inside : ∀ room, HasRoom source m room → Serves source P (read room) Q) :
    Serves source P (within calls room read) Q := by
  refine serves_ite (fun short => serves_throw ?_) fun _ => inside _ ?_
  · rcases roomy with enough | deep
    · omega
    · exact deep
  · exact roomy.imp_left fun enough => by omega

/-- With so many rounds the readers that call each other serve a pattern. -/
structure Nested (source : Text) (fuel : Nat) : Prop where
  branches {m n room : Nat} (roomy : HasRoom source m room) (enough : 4 * n + 2 ≤ fuel)
    (top first verbose : Bool) :
    Serves source (At source m [] n) (branches top first verbose room fuel) fun ways s =>
      FitsWays m ways ∧ At source m [] n s
  items {m n room : Nat} (roomy : HasRoom source m room) (enough : 4 * n + 1 ≤ fuel)
    (verbose first : Bool) {sofar : List Node} (fits : ∀ x ∈ sofar, Fits m x) :
    Serves source (At source m [] n) (items verbose first sofar room fuel) fun branch s =>
      branch.levels ≤ 3 * m + 1 ∧ At source m [] n s
  group {m n room : Nat} (roomy : HasRoom source (m + 1) room) (enough : 4 * n + 4 ≤ fuel)
    (verbose first : Bool) {sofar : List Node} (fits : ∀ x ∈ sofar, Fits (m + 1) x) :
    Serves source (At source m [Code.openParen] n) (group verbose first sofar room fuel)
      fun made s => (∀ x ∈ made.2, Fits (m + 1) x) ∧ At source m [] n s
  capture {m n room : Nat} (roomy : HasRoom source (m + 1) room) (enough : 4 * n + 3 ≤ fuel)
    (start : Nat) (name : Option Text) (verbose : Bool) :
    Serves source (At source m [] n) (capture start name verbose room fuel) fun item s =>
      Fits (m + 1) item ∧ At source m [] n s

theorem serves_branches (h : Nested source fuel) (roomy : HasRoom source m room)
    (enough : 4 * n + 2 ≤ fuel + 1) (top first verbose : Bool) :
    Serves source (At source m [] n) (branches top first verbose room (fuel + 1)) fun ways s =>
      FitsWays m ways ∧ At source m [] n s := by
  rw [branches]
  refine (h.items roomy (by omega) _ _ (by simp)).bind_and fun branch fits => ?_
  refine (serves_accept _).bind fun bar => ?_
  cases bar with
  | false => exact serves_pure fun _ h => ⟨.of_le fits, h⟩
  | true =>
    refine serves_of_forall (fun _ h => h.1) fun positive => ?_
    have others (verbose : Bool) : Serves source (At source m [] (n - 1))
        (do return Node.alt branch (← branches top false verbose room fuel)) fun ways s =>
          FitsWays m ways ∧ At source m [] n s := by
      refine (h.branches roomy (by omega) _ _ _).bind_and fun rest more => ?_
      exact serves_pure fun _ h => ⟨.alt fits more, h.le (Nat.sub_le n 1)⟩
    refine Serves.from (P := At source m [] (n - 1)) ?_ fun _ h => h.2.forget
    rw [if_pos rfl]
    refine serves_ite (fun _ => serves_get_bind fun s h => ?_) fun _ => others _
    exact (others _).from fun _ same => same ▸ h

/-- The branches in a group. -/
theorem serves_inside (h : Nested source fuel) (roomy : HasRoom source (m + 1) room)
    (enough : 4 * n + 2 ≤ fuel) (verbose : Bool) :
    Serves source (At source m [] n)
      (within 2 room fun room => branches false true verbose room fuel) fun body s =>
        FitsWays m body ∧ At source m [] n s :=
  serves_within roomy (Nat.le_refl 2) fun _ roomy => h.branches roomy enough _ _ _

theorem serves_capture (h : Nested source fuel) (roomy : HasRoom source (m + 1) room)
    (enough : 4 * n + 3 ≤ fuel + 1) (start : Nat) (name : Option Text) (verbose : Bool) :
    Serves source (At source m [] n) (capture start name verbose room (fuel + 1)) fun item s =>
      Fits (m + 1) item ∧ At source m [] n s := by
  rw [capture]
  refine (serves_openGroup name).bind fun number => ?_
  refine (serves_inside h roomy (by omega) verbose).bind_and fun body fits => ?_
  refine (serves_groupEnd start).bind fun _ => ?_
  refine (serves_closeGroup number body).bind fun _ => serves_pure fun _ h => ⟨?_, h⟩
  exact .of_levels_le fits (Nat.le_refl _)

/-- An opening parenthesis is one fewer for what is behind it. -/
theorem serves_opening {α : Type} {m : Reader α} {Q : α → Reading → Prop} {k : Nat}
    (inside : ∀ j, k = j + 1 → Serves source (At source j [Code.openParen] n) m Q) :
    Serves source (fun s => At source k [Code.openParen] n s ∧
      [Code.openParen].count Code.openParen + s.rest.count Code.openParen ≤ k) m Q := by
  cases k with
  | zero => exact serves_of_forall (p := False) (fun _ h => by simpa using h.2) fun never => never.elim
  | succ j =>
    refine (inside j rfl).from fun s h => { h.1 with parens := ?_ }
    have counted := h.2
    rw [List.count_singleton_self] at counted
    omega

theorem serves_items (h : Nested source fuel) (roomy : HasRoom source m room)
    (enough : 4 * n + 1 ≤ fuel + 1) (verbose first : Bool) {sofar : List Node}
    (fits : ∀ x ∈ sofar, Fits m x) :
    Serves source (At source m [] n) (items verbose first sofar room (fuel + 1)) fun branch s =>
      branch.levels ≤ 3 * m + 1 ∧ At source m [] n s := by
  have next (positive : 0 < n) (verbose : Bool) {sofar : List Node} (fits : ∀ x ∈ sofar, Fits m x) :
      Serves source (At source m [] (n - 1)) (items verbose first sofar room fuel)
        fun branch s => branch.levels ≤ 3 * m + 1 ∧ At source m [] n s :=
    (h.items roomy (by omega) _ _ fits).imp fun _ _ h => ⟨h.1, h.2.le (Nat.sub_le n 1)⟩
  have cons {item : Node} (leaf : item.levels = 0) : ∀ x ∈ item :: sofar, Fits m x :=
    List.forall_mem_cons.2 ⟨.of_leaf leaf, fits⟩
  rw [items]
  refine serves_peek.bind fun r => ?_
  rcases r with _ | c | c
  · exact serves_pure fun _ h => ⟨levels_ofList_reverse fits, h.1⟩
  · refine serves_ite (fun _ => serves_pure fun _ h => ⟨levels_ofList_reverse fits, h.1⟩) fun _ => ?_
    refine serves_take_counted.bind fun _ => ?_
    refine serves_of_forall (fun _ h => h.2.1.1) fun positive => ?_
    -- The character is taken, and with it one of the parentheses that were left if it is one.
    refine Serves.from (P := fun s => At source m [c] (n - 1) s ∧
      [c].count Code.openParen + s.rest.count Code.openParen ≤ m) ?_
      fun _ h => ⟨h.2.1.2, h.2.2 _ rfl⟩
    have at_once {sofar : List Node} (fits : ∀ x ∈ sofar, Fits m x) :=
      (next positive verbose fits).from fun s
        (h : At source m [c] (n - 1) s ∧
          [c].count Code.openParen + s.rest.count Code.openParen ≤ m) => h.1.forget
    refine serves_ite (fun _ => at_once fits) fun _ => ?_
    refine serves_ite (fun _ => ?_) fun _ => ?_
    · refine Serves.from (P := At source m [c] (n - 1)) ?_ fun _ h => h.1
      refine serves_get_bind_rest fun s less => ?_
      refine Serves.bind (Q := fun _ => At source m [] (n - 1)) ?_ fun _ => next positive _ fits
      exact (serves_lineComment (Nat.lt_succ_self s.rest.length)).imp fun _ _ h => h.le less
    refine serves_ite (fun _ => ?_) fun _ => ?_
    · refine (serves_charSet.from fun _ h => h.1).bind_and fun item leaf => ?_
      exact next positive _ (cons leaf)
    refine serves_ite (fun mark => ?_) fun _ => ?_
    · refine ((serves_repetition mark fits).from fun _ h => h.1).bind_and fun _ more => ?_
      exact next positive _ more
    refine serves_ite (fun opening => ?_) fun _ => ?_
    · subst opening
      refine serves_opening fun j more => ?_
      subst more
      refine (h.group (n := n - 1) roomy (by omega) _ _ fits).bind_and fun _ more => ?_
      exact (next positive _ more).from fun _ h => h.more (Nat.le_succ j)
    refine serves_ite (fun _ => at_once (cons rfl)) fun _ => ?_
    refine serves_ite (fun _ => at_once (cons rfl)) fun _ => ?_
    exact serves_ite (fun _ => at_once (cons rfl)) fun _ => at_once (cons rfl)
  · refine serves_take_of_first.bind fun _ => ?_
    refine serves_of_forall (fun _ h => h.2.1) fun positive => ?_
    refine Serves.bind_and ((serves_escape c).from fun _ h => h.2.2) fun item leaf => ?_
    exact next positive _ (cons leaf)

/-- The body of a group and the parenthesis behind it are read, and then what follows from them. -/
theorem serves_body {α : Type} {l : Text} {f : Node → Reader α} {Q : α → Reading → Prop}
    (h : Nested source fuel) (roomy : HasRoom source (m + 1) room) (enough : 4 * n + 2 ≤ fuel)
    (start : Nat) (verbose : Bool)
    (next : ∀ body, FitsWays m body → Serves source (At source m [] n) (f body) Q) :
    Serves source (At source m l n)
      (within 2 room (fun room => branches false true verbose room fuel) >>= fun body =>
        groupEnd start >>= fun _ => f body) Q :=
  Serves.bind_and ((serves_inside h roomy enough verbose).from fun _ h => h.forget)
    fun body fits => (serves_groupEnd start).bind fun _ => next body fits

/-- The body of a group that looks behind: what was known of lookbehinds holds again after it. -/
theorem serves_behind {α : Type} {f : Node → Width → Reader α} {Q : α → Reading → Prop}
    (h : Nested source fuel) (roomy : HasRoom source (m + 1) room) (enough : 4 * n + 2 ≤ fuel)
    (outer : Option Nat) (start : Nat) (verbose : Bool)
    (next : ∀ body w, FitsWays m body → Serves source (At source m [] n) (f body w) Q) :
    Serves source (At source m [] n) (do
      let body ← within 2 room fun room => branches false true verbose room fuel
      modify fun s => { s with lookbehind := outer }
      groupEnd start
      let w ← widthNow body
      f body w) Q := by
  refine (serves_inside h roomy enough verbose).bind_and fun body fits => ?_
  refine Serves.bind (serves_modify (Q := fun _ => At source m [] n) ?_) fun _ => ?_
  · exact fun _ h => { h with }
  exact (serves_groupEnd _).bind fun _ => (serves_widthNow body).bind fun w => next body w fits

/-- A group that looks behind, from the sign that says whether it looks for the body or for its
absence. -/
theorem serves_lookbehind {α : Type} {l : Text} {f : Piece → Node → Width → Reader α}
    {Q : α → Reading → Prop} (h : Nested source fuel) (roomy : HasRoom source (m + 1) room)
    (enough : 4 * n + 2 ≤ fuel) (start : Nat) (verbose : Bool)
    (next : ∀ p body w, FitsWays m body → Serves source (At source m [] n) (f p body w) Q) :
    Serves source (At source m l n) (do
      match ← take with
      | none => fail .unexpectedEnd
      | some p =>
        if p ≠ .plain Code.equals ∧ p ≠ .plain '!'.toNat then
          failBack (p.length + 2) (.unknownExtension (Code.question :: Code.less :: p.text))
        let outer := (← get).lookbehind
        if outer.isNone then modify fun s => { s with lookbehind := some (s.opened + 1) }
        let body ← within 2 room fun room => branches false true verbose room fuel
        modify fun s => { s with lookbehind := outer }
        groupEnd start
        let w ← widthNow body
        f p body w) Q := by
  refine serves_take.bind fun r => ?_
  cases r with
  | none => exact serves_fail _
  | some p =>
    refine Serves.from (P := At source m [] n) ?_ fun _ h => h.2.forget.le (Nat.sub_le _ 1)
    refine serves_ite (fun _ => (serves_failBack _ _).bind_false) fun _ => ?_
    refine serves_get_bind fun s here => ?_
    have look := serves_behind h roomy enough s.lookbehind start verbose (next p)
    refine Serves.from (P := At source m [] n) ?_ fun _ same => same ▸ here
    refine serves_ite (fun _ => ?_) fun _ => look
    refine Serves.bind (serves_modify (Q := fun _ => At source m [] n) ?_) fun _ => look
    exact fun _ h => { h with }

/-- A group with a name or a reference by name. -/
theorem serves_named {α : Type} {l : Text} {f : Node → Reader α} {Q : α → Reading → Prop}
    (h : Nested source fuel) (roomy : HasRoom source (m + 1) room) (enough : 4 * n + 3 ≤ fuel)
    (start : Nat) (verbose : Bool)
    (next : ∀ item, Fits (m + 1) item → Serves source (At source m [] n) (f item) Q) :
    Serves source (At source m l n) (do
      if ← accept Code.less then
        let n ← name Code.greater "group name"
        checkName n
        f (← capture start (some n) verbose room fuel)
      else if ← accept Code.equals then
        f (← namedBackref)
      else match ← take with
        | none => fail .unexpectedEnd
        | some p =>
          failBack (p.length + 2) (.unknownExtension (Code.question :: 'P'.toNat :: p.text))) Q := by
  have shorter (item : Node) (fits : Fits (m + 1) item) :
      Serves source (At source m [] (n - 1)) (f item) Q :=
    (next item fits).from fun _ h => h.le (Nat.sub_le n 1)
  refine (serves_accept _).bind fun less => ?_
  cases less with
  | true =>
    refine Serves.bind ((serves_name _ _).from fun _ h => h.2) fun name => ?_
    refine (serves_checkName name).bind fun _ => ?_
    have enough' : 4 * (n - 1) + 3 ≤ fuel := by omega
    exact (h.capture roomy enough' _ _ _).bind_and shorter
  | false =>
  refine (serves_accept _).bind fun equals => ?_
  cases equals with
  | true =>
    refine Serves.bind_and (serves_namedBackref.from fun _ h => h.2) fun item leaf => ?_
    exact shorter item (.of_leaf leaf)
  | false =>
  refine Serves.bind (serves_take.from fun _ h => h) fun r => ?_
  cases r with
  | none => exact serves_fail _
  | some p => exact serves_failBack _ _

/-- The one or two branches behind a condition. -/
theorem serves_condition {α : Type} {f : Node → Node → Reader α} {Q : α → Reading → Prop}
    (h : Nested source fuel) (roomy : HasRoom source (m + 1) room) (enough : 4 * n + 1 ≤ fuel)
    (start : Nat) (verbose : Bool)
    (next : ∀ yes no : Node, yes.levels ≤ 3 * m + 1 → no.levels ≤ 3 * m + 1 →
      Serves source (At source m [] n) (f yes no) Q) :
    Serves source (At source m [] n) (do
      let yes ← within 1 room fun room => items verbose false [] room fuel
      let no ← if ← accept Code.pipe then do
          let no ← within 1 room fun room => items verbose false [] room fuel
          if (← peek) = some (.plain Code.pipe) then fail .thirdBranch
          pure no
        else pure .empty
      groupEnd start
      f yes no) Q := by
  have branch := serves_within roomy (by omega : 1 ≤ 2) fun _ roomy =>
    h.items (n := n) roomy enough verbose false (List.forall_mem_nil _)
  refine branch.bind_and fun yes fits => (serves_accept _).bind fun bar => ?_
  have close (no : Node) (fits' : no.levels ≤ 3 * m + 1) : Serves source (At source m [] n)
      (do groupEnd start; f yes no) Q :=
    (serves_groupEnd _).bind fun _ => next yes no fits fits'
  cases bar with
  | false => exact (close .empty (Nat.zero_le _)).from fun _ h => h
  | true =>
    refine Serves.from (P := At source m [] n) ?_ fun _ h => h.2.forget.le (Nat.sub_le _ 1)
    refine branch.bind_and fun no fits' => serves_peek.bind fun next => ?_
    refine serves_ite (fun _ => (serves_fail _).bind_false) fun _ => ?_
    exact (close no fits').from fun _ h => h.1

theorem serves_group (h : Nested source fuel) (roomy : HasRoom source (m + 1) room)
    (enough : 4 * n + 4 ≤ fuel + 1) (verbose first : Bool) {sofar : List Node}
    (fits : ∀ x ∈ sofar, Fits (m + 1) x) :
    Serves source (At source m [Code.openParen] n) (group verbose first sofar room (fuel + 1))
      fun made s => (∀ x ∈ made.2, Fits (m + 1) x) ∧ At source m [] n s := by
  have cons {item : Node} (first : Fits (m + 1) item) : ∀ x ∈ item :: sofar, Fits (m + 1) x :=
    List.forall_mem_cons.2 ⟨first, fits⟩
  rw [group]
  refine serves_offset.bind fun start => (serves_accept _).bind fun question => ?_
  cases question with
  | false =>
    have enough' : 4 * n + 3 ≤ fuel := by omega
    refine Serves.bind_and ((h.capture roomy enough' _ _ _).from fun _ h => h.forget)
      fun item first => ?_
    exact serves_pure fun _ h => ⟨cons first, h⟩
  | true =>
  have answer (made : Bool × List Node) (fits : ∀ x ∈ made.2, Fits (m + 1) x) :
      Serves source (At source m [] (n - 1)) (pure made) fun made s =>
        (∀ x ∈ made.2, Fits (m + 1) x) ∧ At source m [] n s :=
    serves_pure fun _ h => ⟨fits, h.le (Nat.sub_le n 1)⟩
  refine Serves.bind (serves_take.from fun _ h => h.2) fun r => ?_
  rcases r with _ | c | c
  · exact serves_fail _
  · refine Serves.from (P := At source m [Code.openParen, Code.question, c] (n - 1)) ?_
      fun _ h => h.2.le (Nat.sub_le _ 1)
    have bodies : 4 * (n - 1) + 2 ≤ fuel := by omega
    have holds {body item : Node} (fits : FitsWays m body) (more : item.levels ≤ body.levels + 1) :=
      cons (.of_levels_le fits more)
    refine serves_ite (fun _ => ?_) fun _ => ?_
    · exact serves_named h roomy (by omega) (start - 1) verbose fun item first =>
        answer (verbose, item :: sofar) (cons first)
    refine serves_ite (fun _ => serves_body h roomy bodies _ _ fun body fits =>
      answer _ (holds fits (levels_flagged {} {} body))) fun _ => ?_
    refine serves_ite (fun _ => serves_get_bind_rest fun s less => ?_) fun _ => ?_
    · refine (serves_comment _ (Nat.lt_succ_self s.rest.length)).bind fun _ => ?_
      exact (answer _ fits).from fun _ h => h.le less
    refine serves_ite (fun _ => serves_body h roomy bodies _ _ fun body fits =>
      answer _ (holds fits (Nat.le_refl _))) fun _ => ?_
    refine serves_ite (fun _ => ?_) fun _ => ?_
    · exact serves_lookbehind h roomy bodies (start - 1) verbose fun p body w fits =>
        answer (verbose, .look (.behind w) (p == .plain '!'.toNat) body :: sofar)
          (holds fits (Nat.le_refl _))
    refine serves_ite (fun _ => serves_conditionGroup.bind fun number => ?_) fun _ => ?_
    · exact serves_condition h roomy (by omega) (start - 1) verbose fun yes no fits fits' =>
        answer (verbose, .cond number yes no :: sofar) (cons (.cond fits fits' number))
    refine serves_ite (fun _ => serves_body h roomy bodies _ _ fun body fits =>
      answer _ (holds fits (Nat.le_refl _))) fun _ => ?_
    refine serves_ite (fun _ => (serves_flagChange c).bind fun change => ?_) fun _ =>
      serves_failBack _ _
    split
    · refine Serves.bind (serves_modify (Q := fun _ => At source m [] (n - 1)) ?_) fun _ => ?_
      · exact fun _ h => { h.1 with switched := h.1.switched.union (h.2 _ rfl) }
      refine serves_ite (fun _ => (serves_failAt _ _).bind_false) fun _ => ?_
      exact serves_get_bind fun s here => (answer _ fits).from fun _ same => same ▸ here
    · refine Serves.from ?_ fun _ h => h.1
      exact serves_body h roomy bodies _ _ fun body fits =>
        answer _ (holds fits (levels_flagged _ _ body))
  · exact serves_failBack _ _

theorem nested (source : Text) : ∀ fuel, Nested source fuel
  | 0 => ⟨by omega, by omega, by omega, by omega⟩
  | fuel + 1 =>
    have h := nested source fuel
    ⟨serves_branches h, serves_items h, serves_group h, serves_capture h⟩

end EditorText.Pattern.Reader
