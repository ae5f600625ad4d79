import Mathlib.Data.Finset.Card
import Mathlib.Logic.Relation
import SmartForm.Cells.Network

/-!
# What happens in a network

When a cell is set, reactions are given its value, which write to other cells, whose reactions
are given values in turn. `SmartForm.CellNetwork.Does` says in which order all this happens: a
task is done by doing what it consists of, and the **events** of the one are put together from
the events of the others. There is no bound to how deep tasks may nest, and a task that would
never come to an end has no events at all.

Whether a task comes to an end is a matter of **links**. If every reaction sets only cells that
its own cell is linked to (`SmartForm.CellNetwork.LinkedBy`), and no cell is linked to itself,
be it over others, then what is set on behalf of a cell never comes back to it; so no more tasks
are open at a time than there are cells, every set ends
(`SmartForm.CellNetwork.exists_set`), and the bound that the program keeps is never met.
-/

namespace SmartForm

/-! ### Events and tasks -/

/-- What happens in a network. -/
inductive CellEvent where
  /-- A set of a cell begins. -/
  | called (i : Nat) (v : Json)
  /-- The reaction of a cell that has the given place among them is given a value. -/
  | reacted (i k : Nat) (r : Reaction) (v : Json)
  /-- A set of a cell ends. -/
  | returned (i : Nat) (v : Json)
  /-- A value is published in a cell. -/
  | published (i : Nat) (v : Json)
  /-- A cell gets one more reaction. -/
  | added (i : Nat) (r : Reaction)
  /-- A value is noted under a tag. -/
  | noted (tag : String) (v : Json)

/-- What there is to do in a network. -/
inductive CellTask where
  /-- A cell is set. -/
  | set (i : Nat) (v : Json)
  /-- Some reactions of a cell, the first of them in the given place, are given a value. -/
  | react (i : Nat) (v : Json) (k : Nat) (rs : List Reaction)
  /-- A script is carried out on behalf of a cell. -/
  | perform (i : Nat) (x : Script)

namespace CellNetwork

variable {n n' n'' : CellNetwork} {i j k : Nat} {v : Json} {r : Reaction} {x : Script}
  {t : CellTask} {events events' : List CellEvent}

/-- **What happens when a task is done**, and the network that it leaves behind. -/
inductive Does : CellTask → CellNetwork → List CellEvent → CellNetwork → Prop
  /-- The reactions of a cell are those that it has when it is set. -/
  | set {n n' : CellNetwork} {i : Nat} {v : Json} {events : List CellEvent} :
    Does (.react i v 0 (n.reactionsOf i)) (n.publish i v) events n' →
      Does (.set i v) n (.called i v :: events ++ [.returned i v]) n'
  | settled {n : CellNetwork} {i k : Nat} {v : Json} : Does (.react i v k []) n [] n
  /-- A reaction is over before the next one begins. -/
  | react {n n' n'' : CellNetwork} {i k : Nat} {v : Json} {r : Reaction} {rs : List Reaction}
      {events events' : List CellEvent} :
    Does (.perform i (r v)) n events n' → Does (.react i v (k + 1) rs) n' events' n'' →
      Does (.react i v k (r :: rs)) n (.reacted i k r v :: events ++ events') n''
  | done {n : CellNetwork} {i : Nat} : Does (.perform i .done) n [] n
  | note {n n' : CellNetwork} {i : Nat} {tag : String} {v : Json} {next : Script}
      {events : List CellEvent} :
    Does (.perform i next) { n with notes := (tag, v) :: n.notes } events n' →
      Does (.perform i (.note tag v next)) n (.noted tag v :: events) n'
  /-- The set of another cell is over before the script goes on. -/
  | setOther {n n' n'' : CellNetwork} {i target : Nat} {v : Json} {next : Script}
      {events events' : List CellEvent} :
    n.isAlive target = true → Does (.set target v) n events n' →
      Does (.perform i next) n' events' n'' →
      Does (.perform i (.set target v next)) n (events ++ events') n''
  | setGone {n n' : CellNetwork} {i target : Nat} {v : Json} {next : Script}
      {events : List CellEvent} :
    n.isAlive target = false → Does (.perform i next) n events n' →
      Does (.perform i (.set target v next)) n events n'
  | publish {n n' : CellNetwork} {i target : Nat} {v : Json} {next : Script}
      {events : List CellEvent} :
    n.isAlive target = true → Does (.perform i next) (n.publish target v) events n' →
      Does (.perform i (.publish target v next)) n (.published target v :: events) n'
  | publishGone {n n' : CellNetwork} {i target : Nat} {v : Json} {next : Script}
      {events : List CellEvent} :
    n.isAlive target = false → Does (.perform i next) n events n' →
      Does (.perform i (.publish target v next)) n events n'
  | grow {n n' : CellNetwork} {i : Nat} {r : Reaction} {next : Script}
      {events : List CellEvent} :
    i < n.nodes.size → Does (.perform i next) (n.addReaction i r) events n' →
      Does (.perform i (.grow r next)) n (.added i r :: events) n'
  | look {n n' : CellNetwork} {i target : Nat} {next : Option Cell → Script}
      {events : List CellEvent} :
    Does (.perform i (next (if n.isAlive target then n.cell? target else none))) n events n' →
      Does (.perform i (.look target next)) n events n'

/-- A task is done in one way only. -/
theorem Does.unique (h : Does t n events n') (h' : Does t n events' n'') :
    events' = events ∧ n'' = n' := by
  induction h generalizing events' n'' with
  | set _ ih =>
    cases h' with
    | set h' =>
      obtain ⟨rfl, rfl⟩ := ih h'
      exact ⟨rfl, rfl⟩
  | settled =>
    cases h'
    exact ⟨rfl, rfl⟩
  | react _ _ ih ihrest =>
    cases h' with
    | react h' hrest' =>
      obtain ⟨rfl, rfl⟩ := ih h'
      obtain ⟨rfl, rfl⟩ := ihrest hrest'
      exact ⟨rfl, rfl⟩
  | done =>
    cases h'
    exact ⟨rfl, rfl⟩
  | note _ ih =>
    cases h' with
    | note h' =>
      obtain ⟨rfl, rfl⟩ := ih h'
      exact ⟨rfl, rfl⟩
  | setOther halive _ _ ih ihrest =>
    cases h' with
    | setOther _ h' hrest' =>
      obtain ⟨rfl, rfl⟩ := ih h'
      obtain ⟨rfl, rfl⟩ := ihrest hrest'
      exact ⟨rfl, rfl⟩
    | setGone hgone => cases halive.symm.trans hgone
  | setGone hgone _ ih =>
    cases h' with
    | setOther halive => cases halive.symm.trans hgone
    | setGone _ h' => exact ih h'
  | publish halive _ ih =>
    cases h' with
    | publish _ h' =>
      obtain ⟨rfl, rfl⟩ := ih h'
      exact ⟨rfl, rfl⟩
    | publishGone hgone => cases halive.symm.trans hgone
  | publishGone hgone _ ih =>
    cases h' with
    | publish halive => cases halive.symm.trans hgone
    | publishGone _ h' => exact ih h'
  | grow _ _ ih =>
    cases h' with
    | grow _ h' =>
      obtain ⟨rfl, rfl⟩ := ih h'
      exact ⟨rfl, rfl⟩
  | look _ ih =>
    cases h' with
    | look h' => exact ih h'

/-! ### What stays as it is -/

@[simp] theorem names_publish (n : CellNetwork) (i : Nat) (v : Json) :
    (n.publish i v).names = n.names := rfl

@[simp] theorem names_addReaction (n : CellNetwork) (i : Nat) (r : Reaction) :
    (n.addReaction i r).names = n.names := rfl

@[simp] theorem size_publish (n : CellNetwork) (i : Nat) (v : Json) :
    (n.publish i v).nodes.size = n.nodes.size := Array.size_modify

@[simp] theorem size_addReaction (n : CellNetwork) (i : Nat) (r : Reaction) :
    (n.addReaction i r).nodes.size = n.nodes.size := Array.size_modify

@[simp] theorem reactionsOf_publish (n : CellNetwork) (i j : Nat) (v : Json) :
    (n.publish i v).reactionsOf j = n.reactionsOf j := by
  rw [reactionsOf, reactionsOf, publish, modify, Array.getElem?_modify]
  split
  · rw [Option.map_map]
    rfl
  · rfl

/-- A cell that is there gets its new reaction behind those that it has. -/
theorem reactionsOf_addReaction (hi : i < n.nodes.size) (r : Reaction) (j : Nat) :
    (n.addReaction i r).reactionsOf j =
      if i = j then n.reactionsOf j ++ [r] else n.reactionsOf j := by
  rw [reactionsOf, reactionsOf, addReaction, modify, Array.getElem?_modify]
  by_cases hij : i = j
  · subst hij
    rw [if_pos rfl, if_pos rfl, Array.getElem?_eq_getElem hi]
    rfl
  · rw [if_neg hij, if_neg hij]

/-- Cells that are not there have no reactions. -/
theorem reactionsOf_of_size_le (hi : n.nodes.size ≤ i) : n.reactionsOf i = [] := by
  rw [reactionsOf, Array.getElem?_eq_none hi]
  rfl

/-- No task makes a cell or gives one a name. -/
theorem Does.frame (h : Does t n events n') :
    n'.names = n.names ∧ n'.nodes.size = n.nodes.size := by
  induction h with
  | set _ ih => simpa using ih
  | settled => exact ⟨rfl, rfl⟩
  | react _ _ ih ihrest => exact ⟨ihrest.1.trans ih.1, ihrest.2.trans ih.2⟩
  | done => exact ⟨rfl, rfl⟩
  | note _ ih => exact ih
  | setOther _ _ _ ih ihrest => exact ⟨ihrest.1.trans ih.1, ihrest.2.trans ih.2⟩
  | setGone _ _ ih => exact ih
  | publish _ _ ih => simpa using ih
  | publishGone _ _ ih => exact ih
  | grow _ _ ih => simpa using ih
  | look _ ih => exact ih

/-! ### Links -/

end CellNetwork

/-- A script, and every reaction that it adds, sets only certain cells. -/
def Script.SetsOnly (p : Nat → Prop) : Script → Prop
  | .done => True
  | .note _ _ next => next.SetsOnly p
  | .set target _ next => p target ∧ next.SetsOnly p
  | .publish _ _ next => next.SetsOnly p
  | .grow r next => (∀ v, (r v).SetsOnly p) ∧ next.SetsOnly p
  | .look _ next => ∀ c, (next c).SetsOnly p

/-- A reaction, whatever the value, sets only certain cells. -/
def Reaction.SetsOnly (p : Nat → Prop) (r : Reaction) : Prop := ∀ v, (r v).SetsOnly p

namespace Reaction

variable {p : Nat → Prop}

@[simp] theorem setsOnly_note (tag : String) : (note tag).SetsOnly p := fun _ => trivial

@[simp] theorem setsOnly_set {target : Nat} : (set target).SetsOnly p ↔ p target :=
  ⟨fun h => (h .null).1, fun h _ => ⟨h, trivial⟩⟩

@[simp] theorem setsOnly_grow (tag : String) : (grow tag).SetsOnly p :=
  fun _ => ⟨setsOnly_note tag, trivial⟩

end Reaction

variable {link : Nat → Nat → Prop}

/-- A task keeps to the links: what it does on behalf of a cell sets only cells that this cell
is linked to. -/
def CellTask.LinkedBy (link : Nat → Nat → Prop) : CellTask → Prop
  | .set _ _ => True
  | .react i _ _ rs => ∀ r ∈ rs, r.SetsOnly (link i)
  | .perform i x => x.SetsOnly (link i)

namespace CellNetwork

variable {n n' : CellNetwork} {i j k : Nat} {v : Json} {r : Reaction} {x : Script}
  {t : CellTask} {events : List CellEvent}

/-- **All reactions keep to the links**: they set only cells that their own cell is linked
to. -/
def LinkedBy (link : Nat → Nat → Prop) (n : CellNetwork) : Prop :=
  ∀ i, ∀ r ∈ n.reactionsOf i, r.SetsOnly (link i)

theorem LinkedBy.publish (hn : n.LinkedBy link) (i : Nat) (v : Json) :
    (n.publish i v).LinkedBy link := by
  intro j r hr
  rw [reactionsOf_publish] at hr
  exact hn j r hr

theorem LinkedBy.addReaction (hn : n.LinkedBy link) (hi : i < n.nodes.size)
    (hr : r.SetsOnly (link i)) : (n.addReaction i r).LinkedBy link := by
  intro j r' hr'
  rw [reactionsOf_addReaction hi] at hr'
  split at hr'
  · next hij =>
    rcases List.mem_append.mp hr' with hr' | hr'
    · exact hn j r' hr'
    · rw [List.mem_singleton.mp hr', ← hij]
      exact hr
  · exact hn j r' hr'

/-- A task that keeps to the links leaves a network that does. -/
theorem Does.linkedBy (h : Does t n events n') (ht : t.LinkedBy link) (hn : n.LinkedBy link) :
    n'.LinkedBy link := by
  induction h with
  | set _ ih => exact ih (hn _) (hn.publish _ _)
  | settled => exact hn
  | react _ _ ih ihrest =>
    obtain ⟨hr, hrs⟩ := List.forall_mem_cons.mp ht
    exact ihrest hrs (ih (hr _) hn)
  | done => exact hn
  | note _ ih => exact ih ht hn
  | setOther _ _ _ ih ihrest => exact ihrest ht.2 (ih trivial hn)
  | setGone _ _ ih => exact ih ht.2 hn
  | publish _ _ ih => exact ih ht (hn.publish _ _)
  | publishGone _ _ ih => exact ih ht hn
  | grow hi _ ih => exact ih ht.2 (hn.addReaction hi ht.1)
  | look _ ih => exact ih (ht _) hn

/-! ### Every set ends -/

section Ends

variable {size : Nat} {set : CellNetwork → Nat → Json → CellNetwork}

/-- A script ends if all sets do on its way. -/
theorem exists_perform
    (hset : ∀ n j v, link i j → n.LinkedBy link → n.nodes.size = size →
      ∃ events, Does (.set j v) n events (set n j v))
    (hi : i < size) (hx : x.SetsOnly (link i)) (hn : n.LinkedBy link)
    (hsize : n.nodes.size = size) :
    ∃ events, Does (.perform i x) n events (perform set i x n) := by
  induction x generalizing n with
  | done => exact ⟨[], .done⟩
  | note tag v next ih =>
    obtain ⟨events, h⟩ := ih (n := { n with notes := (tag, v) :: n.notes }) hx hn hsize
    exact ⟨.noted tag v :: events, .note h⟩
  | set target v next ih =>
    cases halive : n.isAlive target with
    | true =>
      obtain ⟨events, h⟩ := hset n target v hx.1 hn hsize
      obtain ⟨events', h'⟩ := ih hx.2 (h.linkedBy trivial hn) (h.frame.2.trans hsize)
      refine ⟨events ++ events', ?_⟩
      rw [perform, if_pos halive]
      exact .setOther halive h h'
    | false =>
      obtain ⟨events, h⟩ := ih hx.2 hn hsize
      refine ⟨events, ?_⟩
      rw [perform, halive, if_neg Bool.false_ne_true]
      exact .setGone halive h
  | publish target v next ih =>
    cases halive : n.isAlive target with
    | true =>
      obtain ⟨events, h⟩ := ih hx (hn.publish target v) ((size_publish ..).trans hsize)
      refine ⟨.published target v :: events, ?_⟩
      rw [perform, if_pos halive]
      exact .publish halive h
    | false =>
      obtain ⟨events, h⟩ := ih hx hn hsize
      refine ⟨events, ?_⟩
      rw [perform, halive, if_neg Bool.false_ne_true]
      exact .publishGone halive h
  | grow r next _ ih =>
    have hi' : i < n.nodes.size := hsize.symm ▸ hi
    obtain ⟨events, h⟩ := ih hx.2 (hn.addReaction hi' hx.1) ((size_addReaction ..).trans hsize)
    exact ⟨.added i r :: events, .grow hi' h⟩
  | look target next ih =>
    obtain ⟨events, h⟩ := ih _ (hx _) hn hsize
    exact ⟨events, .look h⟩

/-- Reactions end if all sets do on their way. -/
theorem exists_react
    (hset : ∀ n j v, link i j → n.LinkedBy link → n.nodes.size = size →
      ∃ events, Does (.set j v) n events (set n j v))
    (hi : i < size) {rs : List Reaction} (hrs : ∀ r ∈ rs, r.SetsOnly (link i))
    (hn : n.LinkedBy link) (hsize : n.nodes.size = size) (k : Nat) :
    ∃ events, Does (.react i v k rs) n events
      (rs.foldl (fun n r => perform set i (r v) n) n) := by
  induction rs generalizing n k with
  | nil => exact ⟨[], .settled⟩
  | cons r rs ih =>
    obtain ⟨hr, hrest⟩ := List.forall_mem_cons.mp hrs
    obtain ⟨events, h⟩ := exists_perform hset hi (hr v) hn hsize
    obtain ⟨events', h'⟩ :=
      ih hrest (h.linkedBy (hr v) hn) (h.frame.2.trans hsize) (k + 1)
    exact ⟨.reacted i k r v :: events ++ events', .react h h'⟩

/-- Different cells of a network are no more than the network has. -/
theorem length_le_of_nodup {path : List Nat} (hnodup : path.Nodup) {size : Nat}
    (hpath : ∀ p ∈ path, p < size) : path.length ≤ size := by
  rw [← List.toFinset_card_of_nodup hnodup, ← Finset.card_range size]
  exact Finset.card_le_card fun p hp => by simpa using hpath p (List.mem_toFinset.mp hp)

/-- A set ends within the bound if the cells over which it has come, all of them different, make
up for what the bound is less than the number of cells. -/
theorem exists_setWithin (hacyclic : ∀ i, ¬Relation.TransGen link i i) {depth : Nat}
    {path : List Nat} (hnodup : path.Nodup)
    (hpath : ∀ p ∈ path, p < n.nodes.size ∧ Relation.TransGen link p i)
    (hdepth : n.nodes.size < depth + path.length) (hn : n.LinkedBy link) :
    ∃ events, Does (.set i v) n events (setWithin depth n i v) := by
  induction depth generalizing n i v path with
  | zero =>
    have hlength := length_le_of_nodup hnodup fun p hp => (hpath p hp).1
    omega
  | succ depth ih =>
    suffices ∃ events, Does (.react i v 0 (n.reactionsOf i)) (n.publish i v) events
        (setWithin (depth + 1) n i v) by
      obtain ⟨events, h⟩ := this
      exact ⟨.called i v :: events ++ [.returned i v], .set h⟩
    -- The path grows by the cell that is set. A cell that is not there has no place on it, but no
    -- reactions either.
    rcases Nat.lt_or_ge i n.nodes.size with hi | hi
    · refine exists_react (fun m j w hij hm hsize => ?_) hi (hn i) (hn.publish i v)
        (size_publish n i v) 0
      have hfresh : i ∉ path := fun hmem => hacyclic i (hpath i hmem).2
      refine ih (List.nodup_cons.mpr ⟨hfresh, hnodup⟩) ?_ ?_ hm
      · rw [hsize]
        exact List.forall_mem_cons.mpr
          ⟨⟨hi, .single hij⟩, fun p hp => ⟨(hpath p hp).1, (hpath p hp).2.tail hij⟩⟩
      · rw [hsize, List.length_cons]
        omega
    · rw [setWithin, reactionsOf_of_size_le hi]
      exact ⟨[], .settled⟩

/-- **Every set ends** on links without a cycle, and the program does all that happens. -/
theorem exists_set (hacyclic : ∀ i, ¬Relation.TransGen link i i) (hn : n.LinkedBy link)
    (i : Nat) (v : Json) : ∃ events, Does (.set i v) n events (n.set i v) :=
  exists_setWithin hacyclic List.nodup_nil (fun _ hp => nomatch hp)
    (Nat.lt_succ_self _) hn

end Ends

end CellNetwork

/-! ### Runs -/

/-- What somebody does with a cell, through one of the names that stand for it. -/
inductive CellOp where
  /-- The cell is set. -/
  | set (name : String) (v : Json)
  /-- The cell is set to the value that it started with. -/
  | reset (name : String)
  /-- A value is published in the cell. -/
  | publish (name : String) (v : Json)
  /-- The cell gets one more reaction. -/
  | onChange (name : String) (r : Reaction)

namespace CellOp

/-- The name through which something is done. -/
def name : CellOp → String
  | set name _ => name
  | reset name => name
  | publish name _ => name
  | onChange name _ => name

/-- A reaction that a cell gets keeps to the links of the cell. -/
def LinkedBy (link : Nat → Nat → Prop) (n : CellNetwork) : CellOp → Prop
  | onChange name r => ∀ i, n.find? name = some i → r.SetsOnly (link i)
  | _ => True

end CellOp

namespace CellNetwork

variable {n n' n'' : CellNetwork} {i : Nat} {c : Cell} {op : CellOp} {ops : List CellOp}
  {events events' : List CellEvent}

/-- The cell that a name stands for, with its number. -/
def at? (n : CellNetwork) (name : String) : Option (Nat × Cell) :=
  (n.find? name).bind fun i => (n.cell? i).map fun c => (i, c)

/-- Does one thing with a cell. Nothing can be done through a name that stands for no cell. -/
def handle (n : CellNetwork) (op : CellOp) : CellNetwork :=
  match n.at? op.name with
  | none => n
  | some (i, _) =>
    match op with
    | .set _ v => n.set i v
    | .reset _ => n.reset i
    | .publish _ v => n.publish i v
    | .onChange _ r => n.addReaction i r

/-- Does one thing after the other. -/
def handleAll (n : CellNetwork) (ops : List CellOp) : CellNetwork := ops.foldl handle n

/-- **What happens when something is done with a cell.** -/
inductive Answers : CellNetwork → CellOp → List CellEvent → CellNetwork → Prop
  | unknown {n : CellNetwork} {op : CellOp} : n.at? op.name = none → Answers n op [] n
  | set {n n' : CellNetwork} {name : String} {v : Json} {i : Nat} {c : Cell}
      {events : List CellEvent} :
    n.at? name = some (i, c) → Does (.set i v) n events n' → Answers n (.set name v) events n'
  | reset {n n' : CellNetwork} {name : String} {i : Nat} {c : Cell} {events : List CellEvent} :
    n.at? name = some (i, c) → Does (.set i c.initial) n events n' →
      Answers n (.reset name) events n'
  | publish {n : CellNetwork} {name : String} {v : Json} {i : Nat} {c : Cell} :
    n.at? name = some (i, c) → Answers n (.publish name v) [.published i v] (n.publish i v)
  | onChange {n : CellNetwork} {name : String} {r : Reaction} {i : Nat} {c : Cell} :
    n.at? name = some (i, c) → Answers n (.onChange name r) [.added i r] (n.addReaction i r)

/-- **What happens in a run**, one operation after the other. -/
inductive Happens : CellNetwork → List CellOp → List CellEvent → CellNetwork → Prop
  | nil {n : CellNetwork} : Happens n [] [] n
  | cons {n n' n'' : CellNetwork} {op : CellOp} {ops : List CellOp}
      {events events' : List CellEvent} :
    Answers n op events n' → Happens n' ops events' n'' →
      Happens n (op :: ops) (events ++ events') n''

theorem at?_eq_some {name : String} :
    n.at? name = some (i, c) ↔ n.find? name = some i ∧ n.cell? i = some c := by
  simp only [at?, Option.bind_eq_some_iff, Option.map_eq_some_iff, Prod.mk.injEq]
  constructor
  · rintro ⟨j, hj, d, hd, rfl, rfl⟩
    exact ⟨hj, hd⟩
  · rintro ⟨hi, hc⟩
    exact ⟨i, hi, c, hc, rfl, rfl⟩

theorem lt_size_of_cell?_eq_some (hc : n.cell? i = some c) : i < n.nodes.size := by
  obtain ⟨node, hnode, -⟩ := Option.map_eq_some_iff.mp hc
  exact (Array.getElem?_eq_some_iff.mp hnode).1

theorem Answers.unique (h : Answers n op events n') (h' : Answers n op events' n'') :
    events' = events ∧ n'' = n' := by
  cases h with
  | unknown hname =>
    cases h' with
    | unknown => exact ⟨rfl, rfl⟩
    | _ hname' => cases hname.symm.trans hname'
  | set hname h =>
    cases h' with
    | unknown hname' => cases hname.symm.trans hname'
    | set hname' h' =>
      cases hname.symm.trans hname'
      exact h.unique h'
  | reset hname h =>
    cases h' with
    | unknown hname' => cases hname.symm.trans hname'
    | reset hname' h' =>
      cases hname.symm.trans hname'
      exact h.unique h'
  | publish hname =>
    cases h' with
    | unknown hname' => cases hname.symm.trans hname'
    | publish hname' =>
      cases hname.symm.trans hname'
      exact ⟨rfl, rfl⟩
  | onChange hname =>
    cases h' with
    | unknown hname' => cases hname.symm.trans hname'
    | onChange hname' =>
      cases hname.symm.trans hname'
      exact ⟨rfl, rfl⟩

theorem Answers.names (h : Answers n op events n') : n'.names = n.names := by
  cases h with
  | set _ h => exact h.frame.1
  | reset _ h => exact h.frame.1
  | _ => rfl

theorem Answers.linkedBy (h : Answers n op events n') (hop : op.LinkedBy link n)
    (hn : n.LinkedBy link) : n'.LinkedBy link := by
  cases h with
  | unknown => exact hn
  | set _ h => exact h.linkedBy trivial hn
  | reset _ h => exact h.linkedBy trivial hn
  | publish => exact hn.publish _ _
  | onChange hname =>
    obtain ⟨hfind, hcell⟩ := at?_eq_some.mp hname
    exact hn.addReaction (lt_size_of_cell?_eq_some hcell) (hop _ hfind)

theorem exists_answers (hacyclic : ∀ i, ¬Relation.TransGen link i i) (hn : n.LinkedBy link)
    (op : CellOp) : ∃ events, Answers n op events (n.handle op) := by
  cases hname : n.at? op.name with
  | none =>
    rw [handle, hname]
    exact ⟨[], .unknown hname⟩
  | some cell =>
    obtain ⟨i, c⟩ := cell
    rw [handle, hname]
    cases op with
    | set name v =>
      obtain ⟨events, h⟩ := exists_set hacyclic hn i v
      exact ⟨events, .set hname h⟩
    | reset name =>
      obtain ⟨events, h⟩ := exists_set hacyclic hn i c.initial
      have hreset : n.reset i = n.set i c.initial := by rw [reset, (at?_eq_some.mp hname).2]
      refine ⟨events, .reset hname ?_⟩
      change Does (.set i c.initial) n events (n.reset i)
      rw [hreset]
      exact h
    | publish name v => exact ⟨[.published i v], .publish hname⟩
    | onChange name r => exact ⟨[.added i r], .onChange hname⟩

theorem Happens.unique (h : Happens n ops events n') (h' : Happens n ops events' n'') :
    events' = events ∧ n'' = n' := by
  induction h generalizing events' n'' with
  | nil =>
    cases h'
    exact ⟨rfl, rfl⟩
  | cons hop _ ih =>
    cases h' with
    | cons hop' h' =>
      obtain ⟨rfl, rfl⟩ := hop.unique hop'
      obtain ⟨rfl, rfl⟩ := ih h'
      exact ⟨rfl, rfl⟩

/-- Operations that keep to the links do so after another operation. -/
theorem Answers.linkedBy_ops (h : Answers n op events n')
    (hops : ∀ op ∈ ops, op.LinkedBy link n) : ∀ op ∈ ops, op.LinkedBy link n' := by
  intro op hop
  have hlinked := hops op hop
  cases op with
  | onChange name r =>
    intro i hi
    rw [find?, h.names] at hi
    exact hlinked i hi
  | _ => trivial

/-- **Every run ends** on links without a cycle, and the program does all that happens. -/
theorem exists_happens (hacyclic : ∀ i, ¬Relation.TransGen link i i) (hn : n.LinkedBy link)
    (hops : ∀ op ∈ ops, op.LinkedBy link n) :
    ∃ events, Happens n ops events (n.handleAll ops) := by
  induction ops generalizing n with
  | nil => exact ⟨[], .nil⟩
  | cons op ops ih =>
    obtain ⟨hop, hrest⟩ := List.forall_mem_cons.mp hops
    obtain ⟨events, h⟩ := exists_answers hacyclic hn op
    obtain ⟨events', h'⟩ := ih (h.linkedBy hop hn) (h.linkedBy_ops hrest)
    exact ⟨events ++ events', .cons h h'⟩

end CellNetwork

end SmartForm
