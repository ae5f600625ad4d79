import Mathlib.Tactic.IntervalCases
import SmartForm.Proofs.Cells.Course

/-!
# What the reactions of a cell are given

The events of a run tell of every cell which sets of it began, which of its reactions were given
what, and when it got more reactions. `SmartForm.CellNetwork.Delivers` says how the three go
together: a set that begins gives its value to the reactions that the cell has at that moment,
one after the other, and to no others, before it ends; so over a run every reaction is given the
values of the sets that began after it was added, each of them once.

What makes this true is that on links without a cycle a cell is never set while it is being set
(`SmartForm.CellNetwork.Does.reaches`). The sets of one cell then follow one another, whatever
the sets of other cells do in between, and a course of events can be looked at for one cell at a
time (`SmartForm.CellEvent.OrderlyAt`): put together from orderly parts it is orderly.
-/

namespace SmartForm

namespace CellEvent

variable {i j k m : Nat} {v : Json} {rs : List Reaction} {e : CellEvent}
  {events events' : List CellEvent}

/-! ### What events tell of a cell -/

/-- The event is part of a set of a cell. -/
def isOf (i : Nat) : CellEvent → Bool
  | called j _ | reacted j _ _ _ | returned j _ => j = i
  | published _ _ | added _ _ | noted _ _ => false

/-- The value of a set of a cell that begins. -/
def begun? (i : Nat) : CellEvent → Option Json
  | called j v => if j = i then some v else none
  | _ => none

/-- What a reaction of a cell is given. -/
def received? (i k : Nat) : CellEvent → Option Json
  | reacted j l _ v => if j = i ∧ l = k then some v else none
  | _ => none

/-- The reaction that a cell gets. -/
def grown? (i : Nat) : CellEvent → Option Reaction
  | added j r => if j = i then some r else none
  | _ => none

/-- What is noted. -/
def noted? : CellEvent → Option (String × Json)
  | noted tag v => some (tag, v)
  | _ => none

/-- The values of the sets of a cell, in the order in which they begin. -/
def begun (i : Nat) (events : List CellEvent) : List Json := events.filterMap (begun? i)

/-- The values that a reaction of a cell is given, one after the other. -/
def received (i k : Nat) (events : List CellEvent) : List Json := events.filterMap (received? i k)

/-- The reactions that a cell gets, one after the other. -/
def grown (i : Nat) (events : List CellEvent) : List Reaction := events.filterMap (grown? i)

/-- All that is noted, one after the other. -/
def log (events : List CellEvent) : List (String × Json) := events.filterMap noted?

@[simp] theorem begun_append (i : Nat) (events events' : List CellEvent) :
    begun i (events ++ events') = begun i events ++ begun i events' := List.filterMap_append

@[simp] theorem received_append (i k : Nat) (events events' : List CellEvent) :
    received i k (events ++ events') = received i k events ++ received i k events' :=
  List.filterMap_append

@[simp] theorem grown_append (i : Nat) (events events' : List CellEvent) :
    grown i (events ++ events') = grown i events ++ grown i events' := List.filterMap_append

@[simp] theorem log_append (events events' : List CellEvent) :
    log (events ++ events') = log events ++ log events' := List.filterMap_append

theorem begun_cons (i : Nat) (e : CellEvent) (events : List CellEvent) :
    begun i (e :: events) = begun i [e] ++ begun i events := begun_append i [e] events

theorem received_cons (i k : Nat) (e : CellEvent) (events : List CellEvent) :
    received i k (e :: events) = received i k [e] ++ received i k events :=
  received_append i k [e] events

theorem grown_cons (i : Nat) (e : CellEvent) (events : List CellEvent) :
    grown i (e :: events) = grown i [e] ++ grown i events := grown_append i [e] events

/-- Sets of a cell begin with its own events. -/
theorem begun_filter (i : Nat) (events : List CellEvent) :
    begun i (events.filter (isOf i)) = begun i events := by
  rw [begun, begun, List.filterMap_filter]
  congr
  funext e
  cases e <;> simp +contextual [isOf, begun?]

/-- The reactions of a cell are given values in its own events. -/
theorem received_filter (i k : Nat) (events : List CellEvent) :
    received i k (events.filter (isOf i)) = received i k events := by
  rw [received, received, List.filterMap_filter]
  congr
  funext e
  cases e <;> simp +contextual [isOf, received?, ite_and]

/-- The values of those sets of a cell that begin when it has more than `k` reactions, if it has
`m` of them at first. -/
def sent (i k : Nat) : Nat → List CellEvent → List Json
  | _, [] => []
  | m, e :: events =>
    (if k < m then begun i [e] else []) ++ sent i k (m + (grown i [e]).length) events

theorem sent_append (i k m : Nat) (events events' : List CellEvent) :
    sent i k m (events ++ events') =
      sent i k m events ++ sent i k (m + (grown i events).length) events' := by
  induction events generalizing m with
  | nil => rfl
  | cons e events ih =>
    rw [List.cons_append, sent, sent, ih, grown_cons i e events, List.length_append,
      Nat.add_assoc, List.append_assoc]

/-- A reaction that is there is sent the values of all sets. -/
theorem sent_of_lt (hk : k < m) (events : List CellEvent) : sent i k m events = begun i events := by
  induction events generalizing m with
  | nil => rfl
  | cons e events ih => rw [sent, if_pos hk, ih (by omega), ← begun_cons]

/-- A reaction that is not there is sent nothing. -/
theorem sent_of_le (hk : m + (grown i events).length ≤ k) : sent i k m events = [] := by
  induction events generalizing m with
  | nil => rfl
  | cons e events ih =>
    rw [grown_cons, List.length_append] at hk
    rw [sent, if_neg (by omega), ih (by omega), List.nil_append]

/-- Where no set begins nothing is sent. -/
theorem sent_of_begun_eq_nil (h : begun i events = []) (k m : Nat) : sent i k m events = [] := by
  induction events generalizing m with
  | nil => rfl
  | cons e events ih =>
    rw [begun_cons, List.append_eq_nil_iff] at h
    rw [sent, ih h.2, h.1, ite_self, List.nil_append]

/-- A reaction that is added is sent the values of all sets that begin from then on. -/
theorem sent_of_added (i m : Nat) (r : Reaction) (before after : List CellEvent) :
    sent i (m + (grown i before).length) m (before ++ added i r :: after) = begun i after := by
  rw [sent_append, sent_of_le (Nat.le_refl _), List.nil_append, sent, if_neg (Nat.lt_irrefl _),
    List.nil_append]
  refine sent_of_lt ?_ after
  have hgrown : grown i [added i r] = [r] := by simp [grown, grown?]
  rw [hgrown]
  exact Nat.lt_succ_self _

/-- A cell's reactions are given a value, one after the other, the first of them being in the
given place. -/
def round (i : Nat) (v : Json) (k : Nat) (rs : List Reaction) : List CellEvent :=
  (rs.zipIdx k).map fun e => reacted i e.2 e.1 v

/-- A round of reactions begins no set. -/
theorem begun_round (i : Nat) (v : Json) (k : Nat) (rs : List Reaction) :
    begun i (round i v k rs) = [] := by
  rw [begun, round, List.filterMap_map, List.filterMap_eq_nil_iff]
  exact fun _ _ => rfl

/-- In a round each of the reactions is given the value once. -/
theorem received_round (i : Nat) (v : Json) (k l : Nat) (rs : List Reaction) :
    received i k (round i v l rs) = if l ≤ k ∧ k < l + rs.length then [v] else [] := by
  induction rs generalizing l with
  | nil => rw [if_neg (by simp)]; rfl
  | cons r rs ih =>
    rw [round, List.zipIdx_cons, List.map_cons, received_cons, ← round, ih]
    rcases Nat.lt_trichotomy l k with hl | rfl | hl
    · simp [received, received?, hl.ne, show l ≤ k ∧ l + 1 ≤ k by omega, Nat.add_right_comm,
        Nat.add_assoc]
    · simp [received, received?]
    · simp [received, received?, hl.ne', show ¬l ≤ k ∧ ¬l + 1 ≤ k by omega]

/-! ### Orderly courses -/

/-- **A course of events is orderly at a cell** that has certain reactions at first. -/
structure OrderlyAt (i : Nat) (rs : List Reaction) (events : List CellEvent) : Prop where
  /-- A set that begins ends, and meanwhile the cell does nothing but give the value to the
  reactions that it had, in their order. -/
  call : ∀ before v after, events = before ++ called i v :: after →
    ∃ during rest, after = during ++ returned i v :: rest ∧
      during.filter (isOf i) = round i v 0 (rs ++ grown i before)
  /-- A reaction is given what it is sent. -/
  receives : ∀ k, received i k events = sent i k rs.length events

namespace OrderlyAt

/-- A course without events of the cell is orderly. -/
theorem of_quiet (h : ∀ e ∈ events, e.isOf i = false) (rs : List Reaction) :
    OrderlyAt i rs events where
  call before v after hevents := by
    have hcalled := h (called i v) (by simp [hevents])
    simp [isOf] at hcalled
  receives k := by
    have hfilter : events.filter (isOf i) = [] := by simpa using h
    rw [sent_of_begun_eq_nil (by rw [← begun_filter, hfilter]; rfl), ← received_filter, hfilter]
    rfl

theorem nil (i : Nat) (rs : List Reaction) : OrderlyAt i rs [] :=
  of_quiet (fun _ he => by cases he) rs

/-- Two orderly courses follow one another. -/
theorem append (h : OrderlyAt i rs events) (h' : OrderlyAt i (rs ++ grown i events) events') :
    OrderlyAt i rs (events ++ events') where
  call before v after hevents := by
    -- The set begins in the second course or in the first, and in the first it ends, too.
    rcases List.append_eq_append_iff.mp hevents with ⟨between, rfl, hsplit⟩ | ⟨between, rfl, hsplit⟩
    · obtain ⟨during, rest, hafter, hduring⟩ := h'.call between v after hsplit
      refine ⟨during, rest, hafter, ?_⟩
      rw [hduring, grown_append, List.append_assoc]
    · cases between with
      | nil =>
        obtain ⟨during, rest, hafter, hduring⟩ := h'.call [] v after hsplit.symm
        refine ⟨during, rest, hafter, ?_⟩
        rw [hduring, List.append_nil, List.append_assoc, ← grown_append, List.append_nil]
      | cons e between =>
        obtain ⟨rfl, rfl⟩ := List.cons.inj hsplit
        obtain ⟨during, rest, rfl, hduring⟩ := h.call before v between rfl
        exact ⟨during, rest ++ events', by simp, hduring⟩
  receives k := by
    rw [received_append, sent_append, h.receives, h'.receives, List.length_append]

/-- A reaction is added before an orderly course. -/
theorem added (j : Nat) (r : Reaction)
    (h : OrderlyAt i (rs ++ grown i [CellEvent.added j r]) events) :
    OrderlyAt i rs (CellEvent.added j r :: events) :=
  (of_quiet (by simp [isOf]) rs).append h

/-- Another event that is not of the cell comes before an orderly course. -/
theorem cons (he : e.isOf i = false) (hgrown : grown i [e] = []) (h : OrderlyAt i rs events) :
    OrderlyAt i rs (e :: events) := by
  have hquiet : OrderlyAt i rs [e] := of_quiet (by simpa using he) rs
  refine hquiet.append ?_
  rwa [hgrown, List.append_nil]

/-- A set of another cell is orderly if what happens meanwhile is. -/
theorem other (hji : j ≠ i) (v : Json) (h : OrderlyAt i rs events) :
    OrderlyAt i rs (called j v :: events ++ [returned j v]) :=
  cons (decide_eq_false hji) rfl (h.append (of_quiet (by simpa [isOf] using hji) _))

/-- **A set of the cell is orderly** if meanwhile its reactions are given the value. -/
theorem own (h : events.filter (isOf i) = round i v 0 rs) :
    OrderlyAt i rs (called i v :: events ++ [returned i v]) where
  call before w after hevents := by
    cases before with
    | nil =>
      obtain ⟨hcalled, hafter⟩ := List.cons.inj hevents
      cases hcalled
      refine ⟨events, [], hafter.symm, ?_⟩
      rw [h, show grown i [] = [] from rfl, List.append_nil]
    | cons e before =>
      have hmem : called i w ∈ events ++ [returned i v] := by
        rw [show events ++ [returned i v] = _ from (List.cons.inj hevents).2]
        exact List.mem_append_right before List.mem_cons_self
      have hof : called i w ∈ events.filter (isOf i) := by simpa [isOf] using hmem
      simp [h, round] at hof
  receives k := by
    have hbegun : begun i (events ++ [returned i v]) = [] := by
      rw [begun_append, ← begun_filter, h, begun_round]
      rfl
    have hreceived : received i k events = if k < rs.length then [v] else [] := by
      rw [← received_filter, h, received_round]
      simp
    have hcalled : begun i [called i v] = [v] := by simp [begun, begun?]
    calc received i k (called i v :: events ++ [returned i v])
        = received i k events ++ received i k [returned i v] := received_append i k events _
      _ = if k < rs.length then [v] else [] := by rw [hreceived]; exact List.append_nil _
      _ = sent i k rs.length (called i v :: events ++ [returned i v]) := by
        rw [List.cons_append, sent, sent_of_begun_eq_nil hbegun, hcalled, List.append_nil]

end OrderlyAt

end CellEvent

/-! ### Tasks -/

variable {link : Nat → Nat → Prop}

/-- The cell on whose behalf a task is done, unless it is the set of a cell. -/
def CellTask.owner? : CellTask → Option Nat
  | .set _ _ => none
  | .react i _ _ _ => some i
  | .perform i _ => some i

/-- A task may come to a cell: links lead there, at least one of them if what is done is what a
reaction does. -/
def CellTask.Reaches (link : Nat → Nat → Prop) (j : Nat) : CellTask → Prop
  | .set i _ => Relation.ReflTransGen link i j
  | .react i _ _ _ => Relation.ReflTransGen link i j
  | .perform i _ => Relation.TransGen link i j

namespace CellNetwork

open CellEvent

variable {n n' : CellNetwork} {i j k : Nat} {v : Json} {rs : List Reaction} {t : CellTask}
  {op : CellOp} {ops : List CellOp} {events events' : List CellEvent}

/-- A cell that is there gets its new reaction behind those that it has, no other cell does. -/
theorem reactionsOf_addReaction_eq (hi : i < n.nodes.size) (r : Reaction) (j : Nat) :
    (n.addReaction i r).reactionsOf j = n.reactionsOf j ++ grown j [added i r] := by
  rw [reactionsOf_addReaction hi]
  split
  · next hij => simp [grown, grown?, hij]
  · next hij => simp [grown, grown?, hij]

/-- **What is done keeps to the links**: all that happens is part of the set of a cell that the
task may come to. -/
theorem Does.reaches (h : Does t n events n') (ht : t.LinkedBy link) (hn : n.LinkedBy link) :
    ∀ e ∈ events, e.isOf j = true → t.Reaches link j := by
  induction h with
  | set _ ih =>
    have hin := ih (hn _) (hn.publish _ _)
    simp only [List.cons_append, List.forall_mem_cons, List.forall_mem_append, List.not_mem_nil,
      false_implies, implies_true, and_true]
    exact ⟨fun he => of_decide_eq_true he ▸ .refl, hin, fun he => of_decide_eq_true he ▸ .refl⟩
  | settled => exact fun _ he => by cases he
  | react h _ ih ihrest =>
    obtain ⟨hr, hrs⟩ := List.forall_mem_cons.mp ht
    simp only [List.cons_append, List.forall_mem_cons, List.forall_mem_append]
    exact ⟨fun he => of_decide_eq_true he ▸ .refl,
      fun e he hof => (ih (hr _) hn e he hof).to_reflTransGen,
      ihrest hrs (h.linkedBy (hr _) hn)⟩
  | done => exact fun _ he => by cases he
  | note _ ih =>
    exact List.forall_mem_cons.mpr ⟨fun he => (Bool.false_ne_true he).elim, ih ht hn⟩
  | setOther _ h _ ih ihrest =>
    refine List.forall_mem_append.mpr
      ⟨fun e he hof => ?_, ihrest ht.2 (h.linkedBy trivial hn)⟩
    exact .head' ht.1 (ih trivial hn e he hof)
  | setGone _ _ ih => exact ih ht.2 hn
  | publish _ _ ih =>
    exact List.forall_mem_cons.mpr
      ⟨fun he => (Bool.false_ne_true he).elim, ih ht (hn.publish _ _)⟩
  | publishGone _ _ ih => exact ih ht hn
  | grow hi _ ih =>
    exact List.forall_mem_cons.mpr
      ⟨fun he => (Bool.false_ne_true he).elim, ih ht.2 (hn.addReaction hi ht.1)⟩
  | look _ ih => exact ih (ht _) hn

/-- The reactions of a cell are those that it had, followed by those that it got. -/
theorem Does.reactionsOf_eq (h : Does t n events n') (j : Nat) :
    n'.reactionsOf j = n.reactionsOf j ++ grown j events := by
  induction h with
  | set _ ih =>
    rw [ih, reactionsOf_publish, List.cons_append, grown_cons, grown_append]
    exact congrArg _ (List.append_nil _).symm
  | settled => exact (List.append_nil _).symm
  | react _ _ ih ihrest =>
    rw [ihrest, ih, List.append_assoc, ← grown_append]
    rfl
  | done => exact (List.append_nil _).symm
  | note _ ih => exact ih
  | setOther _ _ _ ih ihrest => rw [ihrest, ih, List.append_assoc, ← grown_append]
  | setGone _ _ ih => exact ih
  | publish _ _ ih =>
    rw [ih, reactionsOf_publish]
    rfl
  | publishGone _ _ ih => exact ih
  | grow hi _ ih => rw [ih, reactionsOf_addReaction_eq hi, List.append_assoc, ← grown_cons]
  | look _ ih => exact ih

/-- The notes are those that there were, on top of them what is noted. -/
theorem Does.notes_eq (h : Does t n events n') : n'.notes = (log events).reverse ++ n.notes := by
  induction h with
  | set _ ih =>
    rw [ih, log_append, show log [returned _ _] = [] from rfl, List.append_nil]
    rfl
  | settled => rfl
  | react _ _ ih ihrest =>
    rw [ihrest, ih, log_append, List.reverse_append, List.append_assoc]
    rfl
  | done => rfl
  | @note _ _ _ tag v _ events _ ih =>
    rw [ih, show log (noted tag v :: events) = (tag, v) :: log events from rfl,
      List.reverse_cons, List.append_assoc]
    rfl
  | setOther _ _ _ ih ihrest =>
    rw [ihrest, ih, log_append, List.reverse_append, List.append_assoc]
  | setGone _ _ ih => exact ih
  | publish _ _ ih => exact ih
  | publishGone _ _ ih => exact ih
  | grow _ _ ih => exact ih
  | look _ ih => exact ih

section Acyclic

variable (hacyclic : ∀ i, ¬Relation.TransGen link i i)
include hacyclic

/-- **While the reactions of a cell are run, nothing else of that cell is done**: each of them is
given the value, in their order. -/
theorem Does.filter_react (h : Does (.react i v k rs) n events n')
    (hrs : ∀ r ∈ rs, r.SetsOnly (link i)) (hn : n.LinkedBy link) :
    events.filter (isOf i) = round i v k rs := by
  induction rs generalizing n events k with
  | nil =>
    cases h
    rfl
  | cons r rs ih =>
    obtain ⟨hr, hrest⟩ := List.forall_mem_cons.mp hrs
    cases h with
    | @react _ _ _ _ _ _ _ _ during after h hafter =>
      -- What a reaction sets lies behind links from the cell, where the cell itself is not.
      have hquiet : during.filter (isOf i) = [] := by
        rw [List.filter_eq_nil_iff]
        exact fun e he hof => hacyclic i (h.reaches (hr v) hn e he hof)
      have hself : isOf i (reacted i k r v) = true := decide_eq_true rfl
      rw [List.cons_append, List.filter_cons_of_pos hself, List.filter_append, hquiet,
        ih hafter hrest (h.linkedBy (hr v) hn)]
      rfl

/-- **All that happens is orderly** at every cell, except that a task may be part of the set of
one. -/
theorem Does.orderly (h : Does t n events n') (ht : t.LinkedBy link) (hn : n.LinkedBy link)
    (hi : t.owner? ≠ some i) : OrderlyAt i (n.reactionsOf i) events := by
  induction h with
  | @set n _ j v _ h ih =>
    -- The events of the cell that is set are one round; those of another cell are as orderly
    -- as what its reactions do.
    by_cases hj : j = i
    · subst hj
      exact .own (h.filter_react hacyclic (hn j) (hn.publish j v))
    · have hin := ih (hn j) (hn.publish j v) fun howner => hj (Option.some.inj howner)
      rw [reactionsOf_publish] at hin
      exact .other hj v hin
  | settled => exact .nil _ _
  | react h _ ih ihrest =>
    obtain ⟨hr, hrs⟩ := List.forall_mem_cons.mp ht
    have hafter := ihrest hrs (h.linkedBy (hr _) hn) hi
    rw [h.reactionsOf_eq] at hafter
    have hother := decide_eq_false fun howner => hi (congrArg some howner)
    exact .cons hother rfl ((ih (hr _) hn hi).append hafter)
  | done => exact .nil _ _
  | note _ ih => exact .cons rfl rfl (ih ht hn hi)
  | setOther _ h _ ih ihrest =>
    have hafter := ihrest ht.2 (h.linkedBy trivial hn) hi
    rw [h.reactionsOf_eq] at hafter
    exact (ih trivial hn fun hnone => by cases hnone).append hafter
  | setGone _ _ ih => exact ih ht.2 hn hi
  | publish _ _ ih =>
    have hin := ih ht (hn.publish _ _) hi
    rw [reactionsOf_publish] at hin
    exact .cons rfl rfl hin
  | publishGone _ _ ih => exact ih ht hn hi
  | grow hlt _ ih =>
    have hin := ih ht.2 (hn.addReaction hlt ht.1) hi
    rw [reactionsOf_addReaction_eq hlt] at hin
    exact .added _ _ hin
  | look _ ih => exact ih (ht _) hn hi

end Acyclic

/-! ### Runs -/

/-- The reactions of a cell are those that it had, followed by those that it got. -/
theorem Answers.reactionsOf_eq (h : Answers n op events n') (j : Nat) :
    n'.reactionsOf j = n.reactionsOf j ++ grown j events := by
  cases h with
  | unknown => exact (List.append_nil _).symm
  | set _ h => exact h.reactionsOf_eq j
  | reset _ h => exact h.reactionsOf_eq j
  | publish =>
    rw [reactionsOf_publish]
    exact (List.append_nil _).symm
  | onChange hname =>
    exact reactionsOf_addReaction_eq (lt_size_of_cell?_eq_some (at?_eq_some.mp hname).2) _ j

theorem Happens.reactionsOf_eq (h : Happens n ops events n') (j : Nat) :
    n'.reactionsOf j = n.reactionsOf j ++ grown j events := by
  induction h with
  | nil => exact (List.append_nil _).symm
  | cons hop _ ih => rw [ih, hop.reactionsOf_eq, List.append_assoc, ← grown_append]

theorem Answers.notes_eq (h : Answers n op events n') :
    n'.notes = (log events).reverse ++ n.notes := by
  cases h with
  | set _ h => exact h.notes_eq
  | reset _ h => exact h.notes_eq
  | _ => rfl

theorem Happens.notes_eq (h : Happens n ops events n') :
    n'.notes = (log events).reverse ++ n.notes := by
  induction h with
  | nil => rfl
  | cons hop _ ih =>
    rw [ih, hop.notes_eq, log_append, List.reverse_append, List.append_assoc]

theorem Answers.orderly (hacyclic : ∀ i, ¬Relation.TransGen link i i)
    (h : Answers n op events n') (hn : n.LinkedBy link) (i : Nat) :
    OrderlyAt i (n.reactionsOf i) events := by
  cases h with
  | unknown => exact .nil _ _
  | set _ h => exact h.orderly hacyclic trivial hn fun hnone => by cases hnone
  | reset _ h => exact h.orderly hacyclic trivial hn fun hnone => by cases hnone
  | publish => exact .of_quiet (by simp [isOf]) _
  | onChange => exact .of_quiet (by simp [isOf]) _

/-- **A run is orderly** at every cell. -/
theorem Happens.orderly (hacyclic : ∀ i, ¬Relation.TransGen link i i)
    (h : Happens n ops events n') (hn : n.LinkedBy link)
    (hops : ∀ op ∈ ops, op.LinkedBy link n) (i : Nat) :
    OrderlyAt i (n.reactionsOf i) events := by
  induction h with
  | nil => exact .nil _ _
  | cons hop _ ih =>
    obtain ⟨hlinked, hrest⟩ := List.forall_mem_cons.mp hops
    have hafter := ih (hop.linkedBy hlinked hn) (hop.linkedBy_ops hrest)
    rw [hop.reactionsOf_eq] at hafter
    exact (hop.orderly hacyclic hn i).append hafter

/-- **Reactions are given what the sets of their cell bring**, each of it once, and nothing
else. -/
structure Delivers (n : CellNetwork) (events : List CellEvent) : Prop where
  /-- A set that begins ends. In between the reactions that the cell had when it began are given
  its value, in the order in which they were added; no other reaction of the cell is given
  anything, nor does another set of the cell begin. -/
  call : ∀ i before v after, events = before ++ .called i v :: after →
    ∃ during rest, after = during ++ .returned i v :: rest ∧
      during.filter (isOf i) = round i v 0 (n.reactionsOf i ++ grown i before)
  /-- A reaction that is there from the start is given the values of all sets of its cell. -/
  initial : ∀ i k, k < (n.reactionsOf i).length → received i k events = begun i events
  /-- A reaction that is added is given the values of those sets of its cell that begin from then
  on. -/
  later : ∀ i before r after, events = before ++ .added i r :: after →
    received i (n.reactionsOf i ++ grown i before).length events = begun i after
  /-- Nothing is given to a reaction that has not been added. -/
  none : ∀ i k, (n.reactionsOf i ++ grown i events).length ≤ k → received i k events = []

/-- Reactions are given what they should be if the course of events is orderly at every cell. -/
theorem delivers_of_orderlyAt (h : ∀ i, OrderlyAt i (n.reactionsOf i) events) :
    n.Delivers events where
  call i := (h i).call
  initial i k hk := by rw [(h i).receives, sent_of_lt hk]
  later i before r after hevents := by
    rw [(h i).receives, List.length_append, hevents, sent_of_added]
  none i k hk := by
    rw [List.length_append] at hk
    rw [(h i).receives, sent_of_le hk]

/-- **What the reactions of a network are given in a run.** The reactions keep to links without a
cycle, those that are there as well as those that are added on the way. Then the run comes to its
end, which is where the program gets, in one way only; every reaction is given what the sets of
its cell bring; the reactions of a cell are, in order, those that it had and those that it got;
and what was noted on the way is on top of the notes. -/
theorem reactions_receive (hacyclic : ∀ i, ¬Relation.TransGen link i i) (hn : n.LinkedBy link)
    (hops : ∀ op ∈ ops, op.LinkedBy link n) :
    ∃ events, Happens n ops events (n.handleAll ops) ∧
      (∀ events' n', Happens n ops events' n' → events' = events ∧ n' = n.handleAll ops) ∧
      n.Delivers events ∧
      (∀ i, (n.handleAll ops).reactionsOf i = n.reactionsOf i ++ grown i events) ∧
      (n.handleAll ops).notes = (log events).reverse ++ n.notes := by
  obtain ⟨events, h⟩ := exists_happens hacyclic hn hops
  exact ⟨events, h, fun _ _ h' => h.unique h',
    delivers_of_orderlyAt (h.orderly hacyclic hn hops), h.reactionsOf_eq, h.notes_eq⟩

/-- Four cells, the first of which goes by two names. -/
def fourCells : CellNetwork where
  nodes := .replicate 4 { cell := .start .null [] }
  names := [("first", 0), ("clone", 0), ("left", 1), ("right", 2), ("last", 3)]

/-- Whatever the value, the first cell is emptied. -/
def blank : Reaction := fun _ => .publish 0 .null .done

/-- Two ways lead from the first cell to the last one. The first cell is emptied before it sets
others, and it gets more reactions. -/
def diamond : CellNetwork :=
  fourCells
    |>.addReaction 0 blank
    |>.addReaction 0 (.set 1)
    |>.addReaction 0 (.grow "late")
    |>.addReaction 0 (.set 2)
    |>.addReaction 1 (.set 3)
    |>.addReaction 2 (.set 3)
    |>.addReaction 3 (.note "last")

theorem diamond_linkedBy : diamond.LinkedBy (· < ·) := by
  have hcells : fourCells.LinkedBy (· < ·) := by
    intro i r hr
    have hnone : fourCells.reactionsOf i = [] := by
      rcases Nat.lt_or_ge i 4 with hi | hi
      · interval_cases i <;> rfl
      · exact reactionsOf_of_size_le hi
    rw [hnone] at hr
    cases hr
  refine hcells
    |>.addReaction ?_ (r := blank) (fun _ => trivial)
    |>.addReaction ?_ (Reaction.setsOnly_set.mpr (by decide))
    |>.addReaction ?_ (Reaction.setsOnly_grow _)
    |>.addReaction ?_ (Reaction.setsOnly_set.mpr (by decide))
    |>.addReaction ?_ (Reaction.setsOnly_set.mpr (by decide))
    |>.addReaction ?_ (Reaction.setsOnly_set.mpr (by decide))
    |>.addReaction ?_ (Reaction.setsOnly_note _)
  all_goals simp [fourCells]

/-- The first cell is set, gets one more reaction and is reset, by either name. -/
def diamondRun : List CellOp :=
  [.set "first" (.bool true), .onChange "clone" (.set 3), .reset "clone"]

theorem diamondRun_linkedBy : ∀ op ∈ diamondRun, op.LinkedBy (· < ·) diamond := by
  have hclone : ∀ i, diamond.find? "clone" = some i → (Reaction.set 3).SetsOnly (i < ·) := by
    intro i hi
    have hfind : diamond.find? "clone" = some 0 := rfl
    obtain rfl : 0 = i := Option.some.inj (hfind.symm.trans hi)
    exact Reaction.setsOnly_set.mpr (by decide)
  simpa [diamondRun, CellOp.LinkedBy] using hclone

/-- The last cell is set over both ways, then over the reaction that was added as well. -/
theorem reactions_receive_diamond :
    (∀ i : Nat, ¬Relation.TransGen (· < ·) i i) ∧ diamond.LinkedBy (· < ·) ∧
    (∀ op ∈ diamondRun, op.LinkedBy (· < ·) diamond) ∧
    ∃ events, Happens diamond diamondRun events (diamond.handleAll diamondRun) ∧
      diamond.Delivers events ∧
      (diamond.handleAll diamondRun).notes = (log events).reverse := by
  have hacyclic : ∀ i : Nat, ¬Relation.TransGen (· < ·) i i := by
    intro i hi
    rw [Relation.transGen_eq_self] at hi
    exact Nat.lt_irrefl i hi
  obtain ⟨events, h, -, hdelivers, -, hnotes⟩ :=
    reactions_receive hacyclic diamond_linkedBy diamondRun_linkedBy
  rw [show diamond.notes = [] from rfl, List.append_nil] at hnotes
  exact ⟨hacyclic, diamond_linkedBy, diamondRun_linkedBy, events, h, hdelivers, hnotes⟩

example : (diamond.handleAll diamondRun).notes.reverse =
    [("last", .bool true), ("last", .bool true), ("last", .null), ("last", .null),
      ("late", .null), ("last", .null)] := by rfl

end CellNetwork

end SmartForm
