import EditorText.Proofs.Yaml.Plain
import EditorText.Yaml.Load

/-!
# The nodes of a document

A reader of nodes only adds nodes, and the parts of a collection have greater numbers than it has.
`Orderly` says so of all nodes; then what a node shows depends on it and on nodes behind it alone.
`Makes` says which value a reader makes of some tokens; each kind of collection has one lemma that
puts it together from its parts.
-/

set_option autoImplicit false

namespace EditorText.Yaml

/-- A step that succeeds hands its answer and its state over. -/
theorem run_bind_ok {σ ε α β : Type} {m : StateT σ (Except ε) α} {f : α → StateT σ (Except ε) β}
    {s s' : σ} {a : α} (run : m.run s = .ok (a, s')) : (m >>= f).run s = (f a).run s' := by
  rw [StateT.run_bind, run]
  rfl

namespace Nodes

/-- A node with the tag that its form has without a written one. Parts stand behind it, and the keys
of a mapping are texts of which none occurs twice. -/
inductive Fits (ns : Nodes) (id : Nat) : Node → Prop
  | text (t : Text) : Fits ns id ⟨.text, .scalar t⟩
  | sequence {ids : List NodeId} (later : ∀ i ∈ ids, id < i ∧ i < ns.size) :
    Fits ns id ⟨.sequence, .sequence ids⟩
  | mapping {es : List Entry} {keys : List Text}
    (later : ∀ e ∈ es, id < e.1 ∧ id < e.2 ∧ e.2 < ns.size)
    (named : es.map (fun e => ns[e.1]?) = keys.map fun k => some ⟨.text, .scalar k⟩)
    (once : keys.Nodup) : Fits ns id ⟨.mapping, .mapping es⟩

/-- All nodes fit. -/
def Orderly (ns : Nodes) : Prop :=
  ∀ (id : Nat) (n : Node), ns[id]? = some n → Fits ns id n

/-- What a node shows down to a depth, below which collections are shown empty. -/
def shown (ns : Nodes) : Nat → NodeId → Value
  | 0, id =>
    match ns.contentOf id with
    | .scalar t => .text t
    | .sequence _ => .list []
    | .mapping _ => .mapping []
  | depth + 1, id =>
    match ns.contentOf id with
    | .scalar t => .text t
    | .sequence ids => .list (ids.map (ns.shown depth))
    | .mapping es => .mapping (es.map fun e => (ns.shown depth e.1, ns.shown depth e.2))

/-- The nodes from a number on are kept. -/
def Keeps (ns ns' : Nodes) (id : Nat) : Prop :=
  ∀ (j : Nat) (n : Node), id ≤ j → ns[j]? = some n → ns'[j]? = some n

variable {ns ns' : Nodes} {id : Nat} {n : Node}

theorem Keeps.size_le (keeps : Keeps ns ns' id) {j : Nat} (behind : id ≤ j) (inside : j < ns.size) :
    j < ns'.size := by
  have kept := keeps j ns[j] behind (Array.getElem?_eq_getElem inside)
  exact (Array.getElem?_eq_some_iff.1 kept).1

theorem Keeps.mono (keeps : Keeps ns ns' id) {j : Nat} (behind : id ≤ j) : Keeps ns ns' j :=
  fun i n le => keeps i n (Nat.le_trans behind le)

/-- Every key is a text. -/
theorem exists_key {es : List Entry} {keys : List Text} {e : Entry}
    (named : es.map (fun e => ns[e.1]?) = keys.map fun k => some ⟨.text, .scalar k⟩)
    (member : e ∈ es) :
    ∃ k, ns[e.1]? = some ⟨.text, .scalar k⟩ := by
  have inside : ns[e.1]? ∈ es.map fun e => ns[e.1]? := List.mem_map_of_mem member
  rw [named] at inside
  obtain ⟨k, -, same⟩ := List.mem_map.1 inside
  exact ⟨k, same.symm⟩

/-- A node still fits where the nodes behind it are kept. -/
theorem Fits.keep (fits : Fits ns id n) (keeps : Keeps ns ns' (id + 1)) : Fits ns' id n := by
  cases fits with
  | text t => exact .text t
  | sequence later =>
    exact .sequence fun i member =>
      ⟨(later i member).1, keeps.size_le (later i member).1 (later i member).2⟩
  | mapping later named once =>
    refine .mapping (fun e member => ?_) ?_ once
    · obtain ⟨key, value, inside⟩ := later e member
      exact ⟨key, value, keeps.size_le value inside⟩
    · rw [← named]
      refine List.map_congr_left fun e member => ?_
      obtain ⟨k, text⟩ := exists_key named member
      rw [text]
      exact keeps e.1 _ (later e member).1 text

/-- What a node shows depends on the nodes from it on. -/
theorem shown_eq (orderly : Orderly ns) (depth : Nat) (inside : id < ns.size)
    (keeps : Keeps ns ns' id) : ns'.shown depth id = ns.shown depth id := by
  obtain ⟨n, here⟩ : ∃ n, ns[id]? = some n := ⟨_, Array.getElem?_eq_getElem inside⟩
  have made : ns.contentOf id = n.content := by simp only [contentOf, here]
  have same : ns'.contentOf id = n.content := by
    simp only [contentOf, keeps id n (Nat.le_refl id) here]
  induction depth generalizing id n with
  | zero => simp only [shown, made, same]
  | succ depth ih =>
    have shows : ∀ j, id < j → j < ns.size → ns'.shown depth j = ns.shown depth j := by
      intro j behind inside
      have kept := keeps.mono (Nat.le_of_lt behind)
      have here := Array.getElem?_eq_getElem inside
      exact ih inside kept _ here (by simp only [contentOf, here])
        (by simp only [contentOf, kept j _ (Nat.le_refl j) here])
    rw [shown, shown, made, same]
    cases orderly id n here with
    | text t => rfl
    | sequence later =>
      refine congrArg Value.list (List.map_congr_left fun i member => ?_)
      exact shows i (later i member).1 (later i member).2
    | mapping later named once =>
      refine congrArg Value.mapping (List.map_congr_left fun e member => ?_)
      obtain ⟨key, value, inside⟩ := later e member
      obtain ⟨k, text⟩ := exists_key named member
      rw [shows e.1 key (Array.getElem?_eq_some_iff.1 text).1, shows e.2 value inside]

theorem shown_of_text {t : Text} (here : ns[id]? = some ⟨.text, .scalar t⟩) (depth : Nat) :
    ns.shown depth id = .text t := by
  cases depth <;> simp only [shown, contentOf, here]

/-- Keys show their texts. -/
theorem map_shown_of_named {es : List Entry} {keys : List Text} (depth : Nat)
    (named : es.map (fun e => ns[e.1]?) = keys.map fun k => some ⟨.text, .scalar k⟩) :
    es.map (fun e => ns.shown depth e.1) = keys.map .text := by
  induction es generalizing keys with
  | nil =>
    obtain rfl := List.map_eq_nil_iff.1 named.symm
    rfl
  | cons e es ih =>
    cases keys with
    | nil => cases named
    | cons k keys =>
      obtain ⟨first, others⟩ := List.cons.inj named
      rw [List.map_cons, List.map_cons, ih others, shown_of_text first]

/-- Nodes are added, and all of them fit. -/
structure Grows (ns ns' : Nodes) : Prop where
  orderly : Orderly ns'
  keeps : Keeps ns ns' 0

theorem Grows.refl (orderly : Orderly ns) : Grows ns ns :=
  ⟨orderly, fun _ _ _ here => here⟩

theorem Grows.trans {ns'' : Nodes} (h : Grows ns ns') (h' : Grows ns' ns'') : Grows ns ns'' :=
  ⟨h'.orderly, fun j n le here => h'.keeps j n le (h.keeps j n le here)⟩

theorem Grows.size_le (grows : Grows ns ns') : ns.size ≤ ns'.size := by
  by_contra less
  have inside := grows.keeps.size_le (Nat.zero_le ns'.size) (by omega)
  omega

theorem keeps_push (n : Node) : Keeps ns (ns.push n) id := by
  intro j m _ here
  have inside := (Array.getElem?_eq_some_iff.1 here).1
  rw [Array.getElem?_push_lt inside, ← here]
  exact (Array.getElem?_eq_getElem inside).symm

theorem getElem?_push (ns : Nodes) (n : Node) : (ns.push n)[ns.size]? = some n := by simp

/-- A node that fits may be added. -/
theorem grows_push (orderly : Orderly ns) (fits : Fits (ns.push n) ns.size n) :
    Grows ns (ns.push n) := by
  refine ⟨fun j m here => ?_, keeps_push n⟩
  have inside := (Array.getElem?_eq_some_iff.1 here).1
  rw [Array.size_push] at inside
  by_cases last : j = ns.size
  · subst last
    rw [getElem?_push] at here
    obtain rfl := Option.some.inj here
    exact fits
  · have before : j < ns.size := by omega
    rw [Array.getElem?_push_lt before, ← Array.getElem?_eq_getElem before] at here
    exact (orderly j m here).keep (keeps_push n)

/-- A collection that was added without parts gets parts that were added behind it. -/
theorem grows_fill {p : Node} (orderly : Orderly ns) (grows : Grows (ns.push p) ns')
    (fits : Fits ns' ns.size n) :
    Grows ns (ns'.setIfInBounds ns.size n) ∧ (ns'.setIfInBounds ns.size n)[ns.size]? = some n ∧
      Keeps ns' (ns'.setIfInBounds ns.size n) (ns.size + 1) := by
  have room : ns.size < ns'.size := by
    have le := grows.size_le
    rw [Array.size_push] at le
    omega
  have other {j : Nat} (apart : j ≠ ns.size) : (ns'.setIfInBounds ns.size n)[j]? = ns'[j]? :=
    Array.getElem?_setIfInBounds_ne (Ne.symm apart)
  have here : (ns'.setIfInBounds ns.size n)[ns.size]? = some n :=
    Array.getElem?_setIfInBounds_self_of_lt room
  have behind : Keeps ns' (ns'.setIfInBounds ns.size n) (ns.size + 1) := by
    intro j m le found
    rw [other (by omega)]
    exact found
  have before : Keeps ns (ns'.setIfInBounds ns.size n) 0 := by
    intro j m _ found
    have inside := (Array.getElem?_eq_some_iff.1 found).1
    have pushed : Keeps ns (ns.push p) 0 := keeps_push p
    rw [other (by omega)]
    exact grows.keeps j m (Nat.zero_le j) (pushed j m (Nat.zero_le j) found)
  refine ⟨⟨fun j m found => ?_, before⟩, here, behind⟩
  rcases Nat.lt_trichotomy j ns.size with less | rfl | more
  · have kept := before j _ (Nat.zero_le j) (Array.getElem?_eq_getElem less)
    rw [found] at kept
    obtain rfl := Option.some.inj kept
    exact (orderly j _ (Array.getElem?_eq_getElem less)).keep (before.mono (Nat.zero_le _))
  · rw [here] at found
    obtain rfl := Option.some.inj found
    exact fits.keep behind
  · rw [other (by omega)] at found
    exact (grows.orderly j m found).keep (behind.mono (by omega))

end Nodes

namespace Reader

open Nodes

/-- A reader of nodes with tokens left and nodes made, in a document without anchors. -/
def start (ns : Nodes) (ts : List Token) : Reading :=
  { left := ⟨ts, none⟩, nodes := ns, handles := usualHandles }

section Tokens

variable {ns : Nodes} {ts : List Token} {fuel : Nat} {block unindented : Bool}

/-- A scalar without properties. -/
theorem run_node_scalar (text : Text) (plain : Bool) :
    (node block unindented (fuel + 1)).run (start ns (.scalar text plain :: ts)) =
      .ok (ns.size, start (ns.push ⟨if plain then plainTag text else .text, .scalar text⟩) ts) := rfl

theorem run_node_dashes :
    (node block true (fuel + 1)).run (start ns (.blockEntry :: ts)) =
      (do
        let ids ← dashedItems [] fuel
        fill ns.size .sequence (.sequence ids) : Reader NodeId).run
        (start (ns.push ⟨.sequence, .sequence []⟩) (.blockEntry :: ts)) := rfl

theorem run_node_sequence :
    (node true unindented (fuel + 1)).run (start ns (.blockSequenceStart :: ts)) =
      (do
        let ids ← blockItems [] fuel
        fill ns.size .sequence (.sequence ids) : Reader NodeId).run
        (start (ns.push ⟨.sequence, .sequence []⟩) ts) := rfl

theorem run_node_mapping :
    (node true unindented (fuel + 1)).run (start ns (.blockMappingStart :: ts)) =
      (do
        let es ← blockEntries [] fuel
        fill ns.size .mapping (.mapping es) : Reader NodeId).run
        (start (ns.push ⟨.mapping, .mapping []⟩) ts) := rfl

theorem run_blockItems_item (sofar : List NodeId) :
    (blockItems sofar (fuel + 1)).run (start ns (.blockEntry :: .blockMappingStart :: ts)) =
      (do
        let id ← node true false fuel
        blockItems (id :: sofar) fuel : Reader (List NodeId)).run
        (start ns (.blockMappingStart :: ts)) := rfl

theorem run_blockItems_end (sofar : List NodeId) :
    (blockItems sofar (fuel + 1)).run (start ns (.blockEnd :: ts)) =
      .ok (sofar.reverse, start ns ts) := rfl

theorem run_dashedItems_item (sofar : List NodeId) :
    (dashedItems sofar (fuel + 1)).run (start ns (.blockEntry :: .blockMappingStart :: ts)) =
      (do
        let id ← node true false fuel
        dashedItems (id :: sofar) fuel : Reader (List NodeId)).run
        (start ns (.blockMappingStart :: ts)) := rfl

theorem run_dashedItems_end (sofar : List NodeId) :
    (dashedItems sofar (fuel + 1)).run (start ns (.blockEnd :: ts)) =
      .ok (sofar.reverse, start ns (.blockEnd :: ts)) := rfl

/-- The value of a key is not left out. -/
def Begun (ts : List Token) : Prop :=
  ∃ t rest, ts = t :: rest ∧ t ≠ .key ∧ t ≠ .value ∧ t ≠ .blockEnd

theorem run_blockPart (begun : Begun ts) :
    (blockPart (fuel + 1)).run (start ns ts) = (node true true fuel).run (start ns ts) := by
  obtain ⟨t, rest, rfl, key, value, end_⟩ := begun
  cases t <;> first | rfl | contradiction

theorem run_blockEntries_entry (sofar : List Entry) (key : Text) :
    (blockEntries sofar (fuel + 3)).run (start ns (.key :: .scalar key true :: .value :: ts)) =
      (do
        let v ← blockPart (fuel + 2)
        blockEntries ((ns.size, v) :: sofar) (fuel + 2) : Reader (List Entry)).run
        (start (ns.push ⟨plainTag key, .scalar key⟩) ts) := rfl

theorem run_blockEntries_end (sofar : List Entry) :
    (blockEntries sofar (fuel + 1)).run (start ns (.blockEnd :: ts)) =
      .ok (sofar.reverse, start ns ts) := rfl

end Tokens

section Making

variable {ns : Nodes} {ts rest : List Token} {depth fuel : Nat} {v : Value}

/-- A reader takes some tokens and makes a node of them that shows a value. -/
def Makes (m : Reader NodeId) (ts rest : List Token) (depth : Nat) (v : Value) : Prop :=
  ∀ ns, Orderly ns → ∃ ns', m.run (start ns (ts ++ rest)) = .ok (ns.size, start ns' rest) ∧
    Grows ns ns' ∧ ns.size < ns'.size ∧ ns'.shown depth ns.size = v

/-- A reader takes some tokens and makes nodes of them, behind the nodes that it made before. -/
def MakesAll (m : List NodeId → Reader (List NodeId)) (ts rest : List Token) (depth : Nat)
    (vs : List Value) : Prop :=
  ∀ ns sofar, Orderly ns → ∃ ns' ids,
    (m sofar).run (start ns (ts ++ rest)) = .ok (sofar.reverse ++ ids, start ns' rest) ∧
    Grows ns ns' ∧ (∀ i ∈ ids, ns.size ≤ i ∧ i < ns'.size) ∧ ids.map (ns'.shown depth) = vs

/-- A reader takes some tokens and makes entries of them. -/
def MakesEntries (m : List Entry → Reader (List Entry)) (ts rest : List Token) (depth : Nat)
    (vs : List (Text × Value)) : Prop :=
  ∀ ns sofar, Orderly ns → ∃ ns' es,
    (m sofar).run (start ns (ts ++ rest)) = .ok (sofar.reverse ++ es, start ns' rest) ∧
    Grows ns ns' ∧ (∀ e ∈ es, ns.size ≤ e.1 ∧ ns.size ≤ e.2 ∧ e.2 < ns'.size) ∧
    es.map (fun e => ns'[e.1]?) = vs.map (fun v => some ⟨.text, .scalar v.1⟩) ∧
    es.map (fun e => ns'.shown depth e.2) = vs.map (·.2)

/-- A scalar that is text by its form or by its quotes. -/
theorem makes_text {text : Text} {plain : Bool} (isText : plain = true → plainTag text = .text)
    (block unindented : Bool) :
    Makes (node block unindented (fuel + 1)) [.scalar text plain] rest depth (.text text) := by
  intro ns orderly
  have tag : (if plain then plainTag text else .text) = Tag.text := by
    split
    case isTrue plain => exact isText plain
    case isFalse => rfl
  have grows := grows_push orderly (n := ⟨.text, .scalar text⟩) (.text text)
  refine ⟨ns.push ⟨.text, .scalar text⟩, ?_, grows, by simp, ?_⟩
  · rw [List.singleton_append, run_node_scalar, tag]
  · exact shown_of_text (getElem?_push ns _) depth

/-- Items behind an item. -/
theorem MakesAll.cons {m : List NodeId → Reader (List NodeId)} {one : Reader NodeId}
    {ts us : List Token} {vs : List Value} (first : Makes one ts (us ++ rest) depth v)
    (further : MakesAll m us rest depth vs) :
    MakesAll (fun sofar => do
      let id ← one
      m (id :: sofar)) (ts ++ us) rest depth (v :: vs) := by
  intro ns sofar orderly
  obtain ⟨ns', run, grows, room, shows⟩ := first ns orderly
  obtain ⟨ns'', ids, runs, grows', inside, show_⟩ := further ns' (ns.size :: sofar) grows.orderly
  refine ⟨ns'', ns.size :: ids, ?_, grows.trans grows', ?_, ?_⟩
  · rw [List.append_assoc, run_bind_ok run, runs]
    simp
  · have le := grows'.size_le
    refine List.forall_mem_cons.2 ⟨⟨Nat.le_refl _, Nat.lt_of_lt_of_le room le⟩, fun i member => ?_⟩
    obtain ⟨behind, before⟩ := inside i member
    exact ⟨Nat.le_trans (Nat.le_of_lt room) behind, before⟩
  · rw [List.map_cons, show_, shown_eq grows.orderly depth room (grows'.keeps.mono (Nat.zero_le _)),
      shows]

/-- No items, where the reader stops at once. -/
theorem MakesAll.nil {m : List NodeId → Reader (List NodeId)} {ts : List Token}
    (ends : ∀ ns sofar, (m sofar).run (start ns (ts ++ rest)) = .ok (sofar.reverse, start ns rest)) :
    MakesAll m ts rest depth [] := by
  intro ns sofar orderly
  refine ⟨ns, [], ?_, .refl orderly, List.forall_mem_nil _, rfl⟩
  rw [List.append_nil]
  exact ends ns sofar

theorem makesAll_blockItems_end :
    MakesAll (blockItems · (fuel + 1)) [.blockEnd] rest depth [] :=
  .nil fun _ sofar => run_blockItems_end sofar

theorem makesAll_dashedItems_end :
    MakesAll (dashedItems · (fuel + 1)) [] (.blockEnd :: rest) depth [] :=
  .nil fun _ sofar => run_dashedItems_end sofar

/-- A collection of nodes is put together from its parts. -/
theorem Makes.sequence {m : List NodeId → Reader (List NodeId)} {one : Reader NodeId}
    {ts us : List Token} {vs : List Value} (parts : MakesAll m us rest depth vs)
    (opens : ∀ ns, one.run (start ns (ts ++ rest)) =
      (do
        let ids ← m []
        fill ns.size .sequence (.sequence ids) : Reader NodeId).run
        (start (ns.push ⟨.sequence, .sequence []⟩) (us ++ rest))) :
    Makes one ts rest (depth + 1) (.list vs) := by
  intro ns orderly
  have empty : Fits (ns.push ⟨.sequence, .sequence []⟩) ns.size ⟨.sequence, .sequence []⟩ :=
    .sequence (List.forall_mem_nil _)
  obtain ⟨ns', ids, run, grows, inside, shows⟩ :=
    parts _ [] (grows_push orderly empty).orderly
  rw [Array.size_push] at inside
  obtain ⟨grows', here, keeps⟩ := grows_fill orderly grows
    (.sequence fun i member => ⟨(inside i member).1, (inside i member).2⟩)
  refine ⟨_, ?_, grows', (Array.getElem?_eq_some_iff.1 here).1, ?_⟩
  · rw [opens, run_bind_ok run]
    rfl
  · rw [← shows]
    have content : contentOf (ns'.setIfInBounds ns.size ⟨.sequence, .sequence ids⟩) ns.size =
        .sequence ids := by
      simp only [contentOf, here]
    rw [shown, content]
    refine congrArg Value.list (List.map_congr_left fun i member => ?_)
    exact shown_eq grows.orderly depth (inside i member).2 (keeps.mono (inside i member).1)

/-- Brackets that hold nothing. -/
theorem makes_brackets (block unindented : Bool) :
    Makes (node block unindented (fuel + 2)) [.flowSequenceStart, .flowSequenceEnd] rest (depth + 1)
      (.list []) := by
  have parts : MakesAll (flowItems true · (fuel + 1)) [.flowSequenceEnd] rest depth [] :=
    .nil fun _ _ => rfl
  exact Makes.sequence parts fun _ => rfl

/-- A mapping as the first item of a block sequence. -/
theorem makesAll_blockItems_cons {ts us : List Token} {vs : List Value}
    (item : Makes (node true false fuel) (.blockMappingStart :: ts) (us ++ rest) depth v)
    (further : MakesAll (blockItems · fuel) us rest depth vs) :
    MakesAll (blockItems · (fuel + 1)) (.blockEntry :: .blockMappingStart :: (ts ++ us)) rest depth
      (v :: vs) := by
  intro ns sofar orderly
  obtain ⟨ns', ids, run, made⟩ := MakesAll.cons item further ns sofar orderly
  exact ⟨ns', ids, (run_blockItems_item sofar).trans run, made⟩

/-- A mapping as the first item of a sequence that is not indented deeper. -/
theorem makesAll_dashedItems_cons {ts us : List Token} {vs : List Value}
    (item : Makes (node true false fuel) (.blockMappingStart :: ts) (us ++ rest) depth v)
    (further : MakesAll (dashedItems · fuel) us rest depth vs) :
    MakesAll (dashedItems · (fuel + 1)) (.blockEntry :: .blockMappingStart :: (ts ++ us)) rest depth
      (v :: vs) := by
  intro ns sofar orderly
  obtain ⟨ns', ids, run, made⟩ := MakesAll.cons item further ns sofar orderly
  exact ⟨ns', ids, (run_dashedItems_item sofar).trans run, made⟩

theorem makes_dashes {ts : List Token} {vs : List Value} (block : Bool)
    (items : MakesAll (dashedItems · fuel) (.blockEntry :: ts) rest depth vs) :
    Makes (node block true (fuel + 1)) (.blockEntry :: ts) rest (depth + 1) (.list vs) :=
  Makes.sequence items fun _ => run_node_dashes

theorem makes_blockSequence {ts : List Token} {vs : List Value} (unindented : Bool)
    (items : MakesAll (blockItems · fuel) ts rest depth vs) :
    Makes (node true unindented (fuel + 1)) (.blockSequenceStart :: ts) rest (depth + 1) (.list vs) :=
  Makes.sequence items fun _ => run_node_sequence

/-- An entry before entries. -/
theorem makesEntries_cons {key : Text} {ts us : List Token} {vs : List (Text × Value)}
    (text : plainTag key = .text) (begun : Begun (ts ++ (us ++ rest)))
    (value : Makes (node true true (fuel + 1)) ts (us ++ rest) depth v)
    (further : MakesEntries (blockEntries · (fuel + 2)) us rest depth vs) :
    MakesEntries (blockEntries · (fuel + 3)) (.key :: .scalar key true :: .value :: (ts ++ us)) rest
      depth ((key, v) :: vs) := by
  intro ns sofar orderly
  have grows := grows_push orderly (n := ⟨.text, .scalar key⟩) (.text key)
  obtain ⟨ns', run, grows', room, shows⟩ := value _ grows.orderly
  obtain ⟨ns'', es, runs, grows'', inside, names, show_⟩ :=
    further ns' ((ns.size, ns.size + 1) :: sofar) grows'.orderly
  rw [Array.size_push] at run room shows
  have le := grows''.size_le
  refine ⟨ns'', (ns.size, ns.size + 1) :: es, ?_, (grows.trans grows').trans grows'', ?_, ?_, ?_⟩
  · simp only [List.cons_append, List.append_assoc]
    have part : (blockPart (fuel + 2)).run _ = _ := (run_blockPart begun).trans run
    rw [run_blockEntries_entry, text, run_bind_ok part, runs]
    simp
  · refine List.forall_mem_cons.2 ⟨⟨Nat.le_refl _, Nat.le_succ _, Nat.lt_of_lt_of_le room le⟩,
      fun e member => ?_⟩
    obtain ⟨key, value, last⟩ := inside e member
    have less : ns.size ≤ ns'.size := by omega
    exact ⟨Nat.le_trans less key, Nat.le_trans less value, last⟩
  · rw [List.map_cons, List.map_cons, names]
    have there := (grows'.trans grows'').keeps ns.size _ (Nat.zero_le _)
      (getElem?_push ns ⟨.text, .scalar key⟩)
    rw [there]
  · rw [List.map_cons, List.map_cons, show_,
      shown_eq grows'.orderly depth room (grows''.keeps.mono (Nat.zero_le _)), shows]

theorem makesEntries_end :
    MakesEntries (blockEntries · (fuel + 1)) [.blockEnd] rest depth [] := by
  intro ns sofar orderly
  refine ⟨ns, [], ?_, .refl orderly, List.forall_mem_nil _, rfl, rfl⟩
  rw [List.append_nil]
  exact run_blockEntries_end sofar

/-- A mapping is put together from its entries. -/
theorem makes_mapping {ts : List Token} {vs : List (Text × Value)} (unindented : Bool)
    (entries : MakesEntries (blockEntries · fuel) ts rest depth vs) (once : (vs.map (·.1)).Nodup) :
    Makes (node true unindented (fuel + 1)) (.blockMappingStart :: ts) rest (depth + 1)
      (.mapping (vs.map fun v => (.text v.1, v.2))) := by
  intro ns orderly
  have empty : Fits (ns.push ⟨.mapping, .mapping []⟩) ns.size ⟨.mapping, .mapping []⟩ :=
    .mapping (List.forall_mem_nil _) (List.map_nil.trans List.map_nil.symm)
      (List.nodup_nil : ([] : List Text).Nodup)
  obtain ⟨ns', es, run, grows, inside, names, shows⟩ :=
    entries _ [] (grows_push orderly empty).orderly
  rw [Array.size_push] at inside
  have named : es.map (fun e => ns'[e.1]?) =
      (vs.map (·.1)).map fun k => some ⟨.text, .scalar k⟩ := by
    rw [names, List.map_map]
    rfl
  obtain ⟨grows', here, keeps⟩ := grows_fill orderly grows (.mapping inside named once)
  refine ⟨_, ?_, grows', (Array.getElem?_eq_some_iff.1 here).1, ?_⟩
  · rw [List.cons_append, run_node_mapping, run_bind_ok run]
    rfl
  · have content : contentOf (ns'.setIfInBounds ns.size ⟨.mapping, .mapping es⟩) ns.size =
        .mapping es := by
      simp only [contentOf, here]
    have keys := map_shown_of_named depth named
    have kept : ∀ e ∈ es, (shown (ns'.setIfInBounds ns.size ⟨.mapping, .mapping es⟩) depth e.1,
        shown (ns'.setIfInBounds ns.size ⟨.mapping, .mapping es⟩) depth e.2) =
        (ns'.shown depth e.1, ns'.shown depth e.2) := by
      intro e member
      obtain ⟨key, value, last⟩ := inside e member
      obtain ⟨k, text⟩ := exists_key named member
      rw [shown_eq grows.orderly depth (Array.getElem?_eq_some_iff.1 text).1 (keeps.mono key),
        shown_eq grows.orderly depth last (keeps.mono value)]
    rw [shown, content]
    refine congrArg Value.mapping ?_
    rw [List.map_congr_left kept, ← List.zip_map', keys, shows, List.map_map, List.zip_map']
    rfl

/-- A document without a head begins with its topmost node. -/
theorem run_stream {ns : Nodes} {id : NodeId}
    (top : (node true false (fuel + 1)).run (start #[] (.blockSequenceStart :: ts)) =
      .ok (id, start ns [.streamEnd])) :
    (stream (fuel + 1)).run { left := ⟨.blockSequenceStart :: ts, none⟩ } =
      .ok (some id, start ns [.streamEnd]) := by
  have seen : peek.run { left := ⟨.blockSequenceStart :: ts, none⟩ } =
      .ok (.blockSequenceStart, { left := ⟨.blockSequenceStart :: ts, none⟩ }) := rfl
  have handles : (modify fun s => { s with handles := usualHandles } : Reader Unit).run
      { left := ⟨.blockSequenceStart :: ts, none⟩ } =
      .ok ((), start #[] (.blockSequenceStart :: ts)) := rfl
  rw [stream, run_bind_ok seen]
  dsimp only
  rw [run_bind_ok handles, run_bind_ok top]
  rfl

end Making

end Reader

/-- **The nodes of a stream of one document.** The document begins with a block sequence. -/
theorem ofTokens_of_makes {ts : List Token} {depth : Nat} {v : Value}
    (makes : Reader.Makes (Reader.node true false (4 * ts.length + 16)) (.blockSequenceStart :: ts)
      [.streamEnd] depth v) :
    ∃ ns : Nodes, Document.ofTokens ⟨.blockSequenceStart :: (ts ++ [.streamEnd]), none⟩ =
      .ok (some ⟨ns, 0⟩) ∧ ns.Orderly ∧ 0 < ns.size ∧ ns.shown depth 0 = v := by
  have none : Nodes.Orderly #[] := by
    intro id n here
    simp at here
  obtain ⟨ns, run, grows, filled, shows⟩ := makes #[] none
  refine ⟨ns, ?_, grows.orderly, filled, shows⟩
  have rounds : 4 * (Token.blockSequenceStart :: (ts ++ [.streamEnd])).length + 8 =
      4 * ts.length + 16 := by
    simp only [List.length_cons, List.length_append, List.length_nil]
    omega
  have stream : (Reader.stream (4 * ts.length + 15 + 1)).run _ = _ := Reader.run_stream run
  unfold Document.ofTokens
  dsimp only
  rw [rounds]
  exact congrArg (Except.map fun made : Option NodeId × Reading =>
    made.1.map fun id => (⟨made.2.nodes, id⟩ : Document)) stream

end EditorText.Yaml
