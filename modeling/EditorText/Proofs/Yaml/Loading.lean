import EditorText.Proofs.Yaml.Nodes

/-!
# The value of a document without tags

Collections are made in rounds. What was made of a node is final and so are its parts, except for
those that wait for a later round; these have greater numbers than all that went before, so that the
rounds come to an end. A document of orderly nodes has the value that its topmost node shows.
-/

set_option autoImplicit false

namespace EditorText.Yaml

namespace Nodes

variable {ns : Nodes} {id : Nat} {n : Node} {t : Text} {es : List Entry} {keys : List Text}

theorem modify_eq_self {f : Node → Node} (here : ns[id]? = some n) (same : f n = n) :
    ns.modify id f = ns := by
  refine Array.ext (Array.size_modify ..) fun i inside inside' => ?_
  rw [Array.getElem_modify]
  split
  case isTrue hit =>
    subst hit
    rw [Array.getElem?_eq_getElem inside'] at here
    rw [Option.some.inj here, same]
  case isFalse => rfl

/-- Keys that are texts merge nothing. -/
theorem takeMerge?_eq_none
    (texts : ∀ e ∈ es, ∃ k, ns[e.1]? = some ⟨.text, .scalar k⟩) : ns.takeMerge? es = none := by
  induction es with
  | nil => rfl
  | cons e es ih =>
    obtain ⟨⟨k, text⟩, others⟩ := List.forall_mem_cons.1 texts
    have tag : ns.tagOf e.1 = .text := by simp only [tagOf, text]
    rw [takeMerge?, tag, if_neg (by decide), ih others]
    rfl

theorem foldl_plainKey (texts : ∀ e ∈ es, ∃ k, ns[e.1]? = some ⟨.text, .scalar k⟩) :
    es.foldl (fun ns e => ns.plainKey e.1) ns = ns := by
  induction es with
  | nil => rfl
  | cons e es ih =>
    obtain ⟨⟨k, text⟩, others⟩ := List.forall_mem_cons.1 texts
    have other : Tag.text ≠ Tag.default_ := by decide
    have same : ns.plainKey e.1 = ns := modify_eq_self text (if_neg other)
    rw [List.foldl_cons, same, ih others]

/-- **A mapping whose keys are texts is merged with nothing.** -/
theorem merge_eq (here : ns[id]? = some ⟨.mapping, .mapping es⟩)
    (texts : ∀ e ∈ es, ∃ k, ns[e.1]? = some ⟨.text, .scalar k⟩) : ns.merge id = .ok ns := by
  have entries : ns.entriesOf id = es := by
    simp only [entriesOf, contentOf, here]
  have own : ns.setEntries id ([] ++ ns.entriesOf id) = ns := by
    rw [entries]
    exact modify_eq_self here rfl
  have rounds : (ns.entryCount + 1) * (ns.size + ns.entryCount + 3) ≠ 0 :=
    Nat.mul_ne_zero (Nat.succ_ne_zero _) (Nat.succ_ne_zero _)
  obtain ⟨fuel, more⟩ := Nat.exists_eq_succ_of_ne_zero rounds
  have none : ns.takeMerge? (ns.entriesOf id) = none := by
    rw [entries]
    exact takeMerge?_eq_none texts
  rw [merge, more, mergeFrom, none]
  dsimp only
  rw [own, entries, foldl_plainKey texts]

end Nodes

namespace Loader

open Nodes

/-- What is made of a node in the end. -/
def final (n : Node) : Made :=
  match n.content with
  | .scalar t => .scalar (.text t)
  | .sequence ids => .list ids
  | .mapping es => .mapping es

/-- The parts of a node. -/
def parts (n : Node) : List NodeId :=
  match n.content with
  | .scalar _ => []
  | .sequence ids => ids
  | .mapping es => es.flatMap fun e => [e.1, e.2]

/-- Something was made of a node. -/
def IsMade (s : Loading) (id : Nat) : Prop :=
  ∃ m, s.made[id]? = some (some m)

/-- What was made stays made. -/
def Advances (s s' : Loading) : Prop :=
  ∀ id, IsMade s id → IsMade s' id

/-- What was made is final, and so are its parts, unless it waits for a later round or for its turn
in this one. Numbers from `low` on wait for a later round. -/
structure Sound (ns : Nodes) (batch : List NodeId) (low : Nat) (s : Loading) : Prop where
  nodes : s.nodes = ns
  size : s.made.size = ns.size
  texts : ∀ (id : Nat) t m, ns[id]? = some ⟨.text, .scalar t⟩ → s.made[id]? = some (some m) →
    m = .scalar (.text t)
  done : ∀ (id : Nat) n, ns[id]? = some n → IsMade s id → id ∉ s.waiting → id ∉ batch →
    s.made[id]? = some (some (final n)) ∧ ∀ p ∈ parts n, IsMade s p
  later : ∀ id ∈ s.waiting, low ≤ id ∧ id < ns.size ∧ ns.tagOf id ≠ .text

variable {ns : Nodes} {batch batch' w : List NodeId} {low id : Nat} {s s' : Loading} {n : Node}
  {m : Made}

/-- Recording what is made of a node keeps all that is known of the others. -/
theorem Sound.record (sound : Sound ns batch low s) (here : ns[id]? = some n)
    (text : ∀ t, n = ⟨.text, .scalar t⟩ → m = .scalar (.text t))
    (waits : ∀ j ∈ s.waiting, j ∈ w) (turns : ∀ j ∈ batch, j ≠ id → j ∈ batch')
    (made : id ∉ w → id ∉ batch' → m = final n ∧ ∀ p ∈ parts n, IsMade s p)
    (later : ∀ j ∈ w, low ≤ j ∧ j < ns.size ∧ ns.tagOf j ≠ .text) :
    Sound ns batch' low { s with made := s.made.setIfInBounds id (some m), waiting := w } ∧
      IsMade { s with made := s.made.setIfInBounds id (some m), waiting := w } id ∧
      Advances s { s with made := s.made.setIfInBounds id (some m), waiting := w } := by
  have inside : id < s.made.size := by
    rw [sound.size]
    exact (Array.getElem?_eq_some_iff.1 here).1
  have self : (s.made.setIfInBounds id (some m))[id]? = some (some m) :=
    Array.getElem?_setIfInBounds_self_of_lt inside
  have other {j : Nat} (apart : j ≠ id) : (s.made.setIfInBounds id (some m))[j]? = s.made[j]? :=
    Array.getElem?_setIfInBounds_ne (Ne.symm apart)
  have advances : Advances s { s with made := s.made.setIfInBounds id (some m), waiting := w } := by
    rintro j ⟨m', found⟩
    by_cases same : j = id
    · subst same
      exact ⟨m, self⟩
    · exact ⟨m', (other same).trans found⟩
  refine ⟨⟨sound.nodes, ?_, ?_, ?_, later⟩, ⟨m, self⟩, advances⟩
  · exact (Array.size_setIfInBounds ..).trans sound.size
  · intro j t m' leaf found
    by_cases same : j = id
    · subst same
      dsimp only at found
      rw [self] at found
      obtain rfl := Option.some.inj (Option.some.inj found)
      rw [here] at leaf
      exact text t (Option.some.inj leaf)
    · dsimp only at found
      rw [other same] at found
      exact sound.texts j t m' leaf found
  · intro j n' there isMade unwaiting unturned
    by_cases same : j = id
    · subst same
      rw [here] at there
      obtain rfl := Option.some.inj there
      obtain ⟨rfl, known⟩ := made unwaiting unturned
      exact ⟨self, fun p member => advances p (known p member)⟩
    · have before : IsMade s j := by
        obtain ⟨m', found⟩ := isMade
        exact ⟨m', (other same).symm.trans found⟩
      obtain ⟨found, known⟩ := sound.done j n' there before (fun wait => unwaiting (waits j wait))
        fun turn => unturned (turns j turn same)
      exact ⟨(other same).trans found, fun p member => advances p (known p member)⟩

theorem Advances.trans {s'' : Loading} (h : Advances s s') (h' : Advances s' s'') :
    Advances s s'' :=
  fun id made => h' id (h id made)

theorem run_meet_of_isMade (made : IsMade s id) : (meet id).run s = .ok ((), s) := by
  obtain ⟨m, found⟩ := made
  have seen : (made? id).run s = .ok (some m, s) :=
    congrArg (fun found : Option (Option Made) => Except.ok (found.join, s)) found
  rw [meet, run_bind_ok seen]
  rfl

/-- A node that was not met is made if it is a scalar, and waits if it is a collection. -/
theorem run_meet_of_not_isMade (sound : Sound ns batch low s) (new : ¬ IsMade s id)
    (here : ns[id]? = some n) (fits : Fits ns id n) :
    (meet id).run s = .ok ((), match n.content with
      | .scalar t => { s with made := s.made.setIfInBounds id (some (.scalar (.text t))) }
      | .sequence _ =>
        { s with made := s.made.setIfInBounds id (some (.list [])), waiting := id :: s.waiting }
      | .mapping _ =>
        { s with
          made := s.made.setIfInBounds id (some (.mapping [])), waiting := id :: s.waiting }) := by
  have missing : s.made[id]?.join = none := by
    cases found : s.made[id]? with
    | none => rfl
    | some m =>
      cases m with
      | none => rfl
      | some m => exact absurd ⟨m, found⟩ new
  have seen : (made? id).run s = .ok (none, s) :=
    congrArg (fun found : Option Made => Except.ok (found, s)) missing
  have state : (get : Loader Loading).run s = .ok (s, s) := rfl
  have tag : s.nodes.tagOf id = n.tag := by
    rw [sound.nodes]
    simp only [tagOf, here]
  rw [meet, run_bind_ok seen, if_neg (by simp), run_bind_ok state]
  dsimp only
  rw [tag]
  cases fits with
  | text t =>
    have value : (liftM (scalar s.nodes id fun t => .ok (.text t)) : Loader Value).run s =
        .ok (.text t, s) := by
      have read : scalar s.nodes id (fun t => .ok (.text t)) = .ok (.text t) := by
        simp [scalar, scalarText, sound.nodes, contentOf, tagOf, here, bind, Except.bind]
      rw [read]
      rfl
    exact run_bind_ok value
  | sequence later => rfl
  | mapping later named once => rfl

/-- **Meeting a node.** It may wait only for a later round. -/
theorem run_meet (orderly : Orderly ns) (sound : Sound ns batch low s) (inside : id < ns.size)
    (behind : low ≤ id) :
    ∃ s', (meet id).run s = .ok ((), s') ∧ Sound ns batch low s' ∧ IsMade s' id ∧ Advances s s' := by
  by_cases made : IsMade s id
  · exact ⟨s, run_meet_of_isMade made, sound, made, fun j known => known⟩
  · obtain ⟨n, here⟩ : ∃ n, ns[id]? = some n := ⟨_, Array.getElem?_eq_getElem inside⟩
    have fits := orderly id n here
    have run := run_meet_of_not_isMade sound made here fits
    have turns : ∀ j ∈ batch, j ≠ id → j ∈ batch := fun j turn _ => turn
    have waits : ∀ j ∈ s.waiting, j ∈ id :: s.waiting := fun j wait => List.mem_cons_of_mem id wait
    have later (collection : n.tag ≠ .text) :
        ∀ j ∈ id :: s.waiting, low ≤ j ∧ j < ns.size ∧ ns.tagOf j ≠ .text := by
      refine List.forall_mem_cons.2 ⟨⟨behind, inside, ?_⟩, sound.later⟩
      simpa only [tagOf, here] using collection
    cases fits with
    | text t =>
      refine ⟨_, run, sound.record here ?_ (fun j wait => wait) turns ?_ sound.later⟩
      · rintro t' ⟨⟩
        rfl
      · intro _ _
        exact ⟨rfl, List.forall_mem_nil _⟩
    | sequence parts =>
      refine ⟨_, run, sound.record here ?_ waits turns ?_ (later fun same => by cases same)⟩
      · rintro t' ⟨⟩
      · exact fun waits => absurd List.mem_cons_self waits
    | mapping parts named once =>
      refine ⟨_, run, sound.record here ?_ waits turns ?_ (later fun same => by cases same)⟩
      · rintro t' ⟨⟩
      · exact fun waits => absurd List.mem_cons_self waits

theorem run_meetAll (orderly : Orderly ns) {ids : List NodeId}
    (inside : ∀ id ∈ ids, low ≤ id ∧ id < ns.size) (sound : Sound ns batch low s) :
    ∃ s', (meetAll ids).run s = .ok ((), s') ∧ Sound ns batch low s' ∧ (∀ id ∈ ids, IsMade s' id) ∧
      Advances s s' := by
  induction ids generalizing s with
  | nil => exact ⟨s, rfl, sound, List.forall_mem_nil _, fun j known => known⟩
  | cons id ids ih =>
    obtain ⟨⟨behind, before⟩, others⟩ := List.forall_mem_cons.1 inside
    obtain ⟨s', run, sound', made, advances⟩ := run_meet orderly sound before behind
    obtain ⟨s'', runs, sound'', all, advances'⟩ := ih others sound'
    refine ⟨s'', ?_, sound'', List.forall_mem_cons.2 ⟨advances' id made, all⟩,
      advances.trans advances'⟩
    rw [meetAll, run_bind_ok run, runs]

/-- A key that is not there yet comes last. -/
theorem insert_of_notMem {k : Text} {e : Entry} {sofar : List (Value × Entry)}
    (new : ∀ x ∈ sofar, x.1.sameKey (.text k) = false) :
    insert (.text k) e sofar = sofar ++ [(.text k, e)] := by
  induction sofar with
  | nil => rfl
  | cons x sofar ih =>
    obtain ⟨first, others⟩ := List.forall_mem_cons.1 new
    rw [insert, first, if_neg Bool.false_ne_true, ih others]
    rfl

/-- **Meeting the entries of a mapping.** None is lost, since no key occurs twice. -/
theorem run_entries (orderly : Orderly ns) {es : List Entry} {keys seen : List Text}
    {sofar : List (Value × Entry)} (inside : ∀ e ∈ es, low ≤ e.1 ∧ low ≤ e.2 ∧ e.2 < ns.size)
    (named : es.map (fun e => ns[e.1]?) = keys.map fun k => some ⟨.text, .scalar k⟩)
    (known : sofar.map (·.1) = seen.map .text) (once : (seen ++ keys).Nodup)
    (sound : Sound ns batch low s) :
    ∃ s', (entries sofar es).run s = .ok (sofar.map (·.2) ++ es, s') ∧ Sound ns batch low s' ∧
      (∀ e ∈ es, IsMade s' e.1 ∧ IsMade s' e.2) ∧ Advances s s' := by
  induction es generalizing s keys seen sofar with
  | nil =>
    refine ⟨s, ?_, sound, List.forall_mem_nil _, fun j known => known⟩
    rw [List.append_nil]
    rfl
  | cons e es ih =>
    obtain ⟨⟨behind, behind', before⟩, others⟩ := List.forall_mem_cons.1 inside
    cases keys with
    | nil => cases named
    | cons k keys =>
      obtain ⟨text, names⟩ := List.cons.inj named
      obtain ⟨s', run, sound', made, advances⟩ :=
        run_meet orderly sound (Array.getElem?_eq_some_iff.1 text).1 behind
      have name : (key e.1).run s' = .ok (.text k, s') := by
        obtain ⟨m, found⟩ := made
        obtain rfl := sound'.texts e.1 k m text found
        have seen : (made? e.1).run s' = .ok (some (.scalar (.text k)), s') :=
          congrArg (fun found : Option (Option Made) => Except.ok (found.join, s')) found
        rw [key, run_bind_ok seen]
        rfl
      obtain ⟨s'', run', sound'', made', advances'⟩ := run_meet orderly sound' before behind'
      have new : ∀ x ∈ sofar, x.1.sameKey (.text k) = false := by
        intro x member
        have inside : x.1 ∈ sofar.map (·.1) := List.mem_map_of_mem member
        rw [known] at inside
        obtain ⟨t, before, same⟩ := List.mem_map.1 inside
        have apart : t ≠ k := (List.nodup_append.1 once).2.2 t before k List.mem_cons_self
        rw [← same]
        exact beq_eq_false_iff_ne.2 apart
      have known' : (sofar ++ [(Value.text k, e)]).map (·.1) = (seen ++ [k]).map Value.text := by
        simp [known]
      have once' : ((seen ++ [k]) ++ keys).Nodup := by simpa using once
      obtain ⟨last, runs, sound''', all, advances''⟩ := ih others names known' once' sound''
      refine ⟨last, ?_, sound''', ?_, (advances.trans advances').trans advances''⟩
      · rw [entries, run_bind_ok run, run_bind_ok name, run_bind_ok run', insert_of_notMem new, runs]
        simp
      · exact List.forall_mem_cons.2
          ⟨⟨advances'' _ (advances' _ made), advances'' _ made'⟩, all⟩

theorem run_items {ids : List NodeId} (nodes : s.nodes = ns)
    (here : ns[id]? = some ⟨.sequence, .sequence ids⟩) : (items id).run s = .ok (ids, s) := by
  have state : (get : Loader Loading).run s = .ok (s, s) := rfl
  have content : s.nodes.contentOf id = .sequence ids := by
    rw [nodes]
    simp only [contentOf, here]
  rw [items, run_bind_ok state, content]
  rfl

/-- The entries of a mapping are its own, since there is nothing to merge. -/
theorem run_mappingEntries {es : List Entry} (nodes : s.nodes = ns)
    (here : ns[id]? = some ⟨.mapping, .mapping es⟩)
    (texts : ∀ e ∈ es, ∃ k, ns[e.1]? = some ⟨.text, .scalar k⟩) :
    (mappingEntries id).run s = (entries [] es).run s := by
  have state : (get : Loader Loading).run s = .ok (s, s) := rfl
  have content : ns.contentOf id = .mapping es := by simp only [contentOf, here]
  have own : ns.entriesOf id = es := by simp only [entriesOf, content]
  have merged : (liftM (s.nodes.merge id) : Loader Nodes).run s = .ok (ns, s) := by
    rw [nodes, merge_eq here texts]
    rfl
  have same : (set { s with nodes := ns } : Loader Unit).run s = .ok ((), s) := by
    rw [← nodes]
    rfl
  rw [mappingEntries, run_bind_ok state, nodes, content, ← nodes]
  dsimp only
  rw [run_bind_ok merged, run_bind_ok same, own]

/-- **A collection whose turn has come is final.** -/
theorem run_makeCollection (orderly : Orderly ns) (here : ns[id]? = some n)
    (collection : n.tag ≠ .text) (sound : Sound ns (id :: batch) low s) (behind : low ≤ id + 1) :
    ∃ s', (makeCollection id).run s = .ok ((), s') ∧ Sound ns batch low s' ∧ Advances s s' := by
  have state : (get : Loader Loading).run s = .ok (s, s) := rfl
  have tag : s.nodes.tagOf id = n.tag := by
    rw [sound.nodes]
    simp only [tagOf, here]
  have turns : ∀ j ∈ id :: batch, j ≠ id → j ∈ batch := fun j turn apart =>
    (List.mem_cons.1 turn).resolve_left apart
  rw [makeCollection, run_bind_ok state, tag]
  cases orderly id n here with
  | text t => exact absurd rfl collection
  | @sequence ids later =>
    obtain ⟨s', run, sound', made, advances⟩ := run_meetAll orderly
      (fun j member => ⟨Nat.le_trans behind (later j member).1, (later j member).2⟩) sound
    obtain ⟨last, -, advances'⟩ := sound'.record (m := .list ids) (w := s'.waiting) here
      (by rintro t ⟨⟩) (fun j wait => wait) turns (fun _ _ => ⟨rfl, made⟩) sound'.later
    refine ⟨_, ?_, last, advances.trans advances'⟩
    dsimp only
    rw [run_bind_ok (run_items sound.nodes here), run_bind_ok run]
    rfl
  | @mapping es keys later named once =>
    have begun := run_mappingEntries sound.nodes here fun e member => exists_key named member
    have none : ([] : List (Value × Entry)).map (·.1) = ([] : List Text).map .text := rfl
    obtain ⟨s', run, sound', made, advances⟩ := run_entries orderly
      (fun e member => ⟨Nat.le_trans behind (later e member).1,
        Nat.le_trans behind (later e member).2.1, (later e member).2.2⟩) named none once sound
    have parts : ∀ p ∈ parts ⟨.mapping, .mapping es⟩, IsMade s' p := by
      intro p member
      obtain ⟨e, entry, part⟩ := List.mem_flatMap.1 member
      simp only [List.mem_cons, List.not_mem_nil, or_false] at part
      rcases part with rfl | rfl
      · exact (made e entry).1
      · exact (made e entry).2
    obtain ⟨last, -, advances'⟩ := sound'.record (m := .mapping es) (w := s'.waiting) here
      (by rintro t ⟨⟩) (fun j wait => wait) turns (fun _ _ => ⟨rfl, parts⟩) sound'.later
    refine ⟨_, ?_, last, advances.trans advances'⟩
    dsimp only
    rw [run_bind_ok (begun.trans run)]
    rfl

theorem run_makeAll (orderly : Orderly ns) (sound : Sound ns batch low s)
    (turns : ∀ id ∈ batch, low ≤ id + 1 ∧ id < ns.size ∧ ns.tagOf id ≠ .text) :
    ∃ s', (makeAll batch).run s = .ok ((), s') ∧ Sound ns [] low s' ∧ Advances s s' := by
  induction batch generalizing s with
  | nil => exact ⟨s, rfl, sound, fun j known => known⟩
  | cons id batch ih =>
    obtain ⟨⟨behind, inside, tag⟩, others⟩ := List.forall_mem_cons.1 turns
    have here := Array.getElem?_eq_getElem inside
    have collection : ns[id].tag ≠ .text := by simpa only [tagOf, here] using tag
    obtain ⟨s', run, sound', advances⟩ := run_makeCollection orderly here collection sound behind
    obtain ⟨s'', runs, sound'', advances'⟩ := ih sound' others
    exact ⟨s'', by rw [makeAll, run_bind_ok run, runs], sound'', advances.trans advances'⟩

/-- **The rounds end.** A round is left only with collections of greater numbers to be made. -/
theorem run_rounds (orderly : Orderly ns) (fuel : Nat) (sound : Sound ns [] low s)
    (enough : ns.size ≤ fuel + low) :
    ∃ s' low', (rounds (fuel + 1)).run s = .ok ((), s') ∧ Sound ns [] low' s' ∧ s'.waiting = [] ∧
      Advances s s' := by
  have state : (get : Loader Loading).run s = .ok (s, s) := rfl
  induction fuel generalizing low s with
  | zero =>
    have idle : s.waiting = [] := by
      refine List.eq_nil_iff_forall_not_mem.2 fun id wait => ?_
      obtain ⟨behind, inside, -⟩ := sound.later id wait
      have less : low < ns.size := Nat.lt_of_le_of_lt behind inside
      omega
    refine ⟨s, low, ?_, sound, idle, fun j known => known⟩
    rw [rounds, run_bind_ok state, if_pos idle]
    rfl
  | succ fuel ih =>
    by_cases idle : s.waiting = []
    · refine ⟨s, low, ?_, sound, idle, fun j known => known⟩
      rw [rounds, run_bind_ok state, if_pos idle]
      rfl
    · have begun : Sound ns s.waiting.reverse (low + 1) { s with waiting := [] } :=
        { nodes := sound.nodes
          size := sound.size
          texts := sound.texts
          done := fun id n here made _ unturned =>
            sound.done id n here made (fun wait => unturned (List.mem_reverse.2 wait))
              List.not_mem_nil
          later := List.forall_mem_nil _ }
      obtain ⟨s', run, sound', advances⟩ := run_makeAll orderly begun fun id turn => by
        obtain ⟨behind, rest⟩ := sound.later id (List.mem_reverse.1 turn)
        exact ⟨Nat.succ_le_succ behind, rest⟩
      obtain ⟨last, low', runs, sound'', done, advances'⟩ := ih sound' (by omega) rfl
      have cleared : (set { s with waiting := [] } : Loader Unit).run s =
          .ok ((), { s with waiting := [] }) := rfl
      refine ⟨last, low', ?_, sound'', done, fun j known => advances' j (advances j known)⟩
      rw [rounds, run_bind_ok state, if_neg idle, run_bind_ok cleared, run_bind_ok run, runs]

/-- What is made of a node in the end is what the node shows. -/
theorem tree_eq_shown (orderly : Orderly ns) (sound : Sound ns [] low s) (idle : s.waiting = [])
    (depth : Nat) (made : IsMade s id) (inside : id < ns.size) :
    Made.tree s.made id depth = ns.shown depth id := by
  have finished {id : Nat} {n : Node} (here : ns[id]? = some n) (made : IsMade s id) :
      s.made[id]? = some (some (final n)) ∧ ∀ p ∈ parts n, IsMade s p :=
    sound.done id n here made (by rw [idle]; exact List.not_mem_nil) List.not_mem_nil
  induction depth generalizing id with
  | zero =>
    obtain ⟨n, here⟩ : ∃ n, ns[id]? = some n := ⟨_, Array.getElem?_eq_getElem inside⟩
    have content : ns.contentOf id = n.content := by simp only [contentOf, here]
    rw [Made.tree, (finished here made).1, shown, content]
    cases orderly id n here <;> rfl
  | succ depth ih =>
    obtain ⟨n, here⟩ : ∃ n, ns[id]? = some n := ⟨_, Array.getElem?_eq_getElem inside⟩
    obtain ⟨found, known⟩ := finished here made
    have content : ns.contentOf id = n.content := by simp only [contentOf, here]
    rw [Made.tree, found, shown, content]
    cases orderly id n here with
    | text t => rfl
    | sequence later =>
      refine congrArg Value.list (List.map_congr_left fun i member => ?_)
      exact ih (known i member) (later i member).2
    | mapping later named once =>
      refine congrArg Value.mapping (List.map_congr_left fun e member => ?_)
      obtain ⟨k, text⟩ := exists_key named member
      have parts : ∀ p ∈ [e.1, e.2], IsMade s p := fun p part =>
        known p (List.mem_flatMap.2 ⟨e, member, part⟩)
      rw [ih (parts e.1 (by simp)) (Array.getElem?_eq_some_iff.1 text).1,
        ih (parts e.2 (by simp)) (later e member).2.2]

end Loader

/-- **A document of orderly nodes has a value, which is what its topmost node shows.** -/
theorem value_eq_shown {ns : Nodes} {top : Nat} (orderly : ns.Orderly) (inside : top < ns.size)
    (depth : Nat) : Document.value ⟨ns, top⟩ depth = .ok (ns.shown depth top) := by
  have begun : Loader.Sound ns [] 0 { nodes := ns, made := Array.replicate ns.size none } :=
    { nodes := rfl
      size := Array.size_replicate
      texts := fun id t m _ found => by
        obtain ⟨inside, same⟩ := Array.getElem?_eq_some_iff.1 found
        simp at same
      done := fun id n _ made _ _ => by
        obtain ⟨m, found⟩ := made
        obtain ⟨inside, same⟩ := Array.getElem?_eq_some_iff.1 found
        simp at same
      later := List.forall_mem_nil _ }
  obtain ⟨s, run, sound, made, -⟩ := Loader.run_meet orderly begun inside (Nat.zero_le top)
  obtain ⟨last, low, runs, sound', idle, advances⟩ :=
    Loader.run_rounds orderly ns.size sound (Nat.le_add_right _ _)
  have tree := Loader.tree_eq_shown orderly sound' idle depth (advances top made) inside
  unfold Document.value
  dsimp only
  rw [run_bind_ok run, runs, ← tree]
  rfl

end EditorText.Yaml
