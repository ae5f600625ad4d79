import Mathlib.Data.List.Basic
import Mathlib.Data.List.Pairwise
import SmartForm.Proofs.Search.Timed

/-!
# When searches begin

Which searches a session in time begins, and when, is said by the typed texts alone
(`SmartForm.SearchTimeline.begins_after_quiet`). A text is emitted when the quiet time after
it is over, if no other text has been typed by then (`SmartForm.TimedText.still`), and its
search begins unless it is the text that was emitted before (`SmartForm.TimedText.changes`).
What the collaborator does, and how long it takes, has no part in it.

The clock of a session stops at whatever comes next, which is the emission of the waiting
text or the end of the search under way, and three stops are always enough to reach the next
text that is typed. The one thing to know is that the ends of searches do not count: how a
session stands (`SmartForm.SearchTimeline.Stands`) is said without the search under way, and
its end changes nothing of it (`SmartForm.SearchTimeline.Stands.complete`).
-/

namespace SmartForm

/-- A text and a time. -/
structure TimedText where
  /-- The time. -/
  time : Nat
  /-- The text. -/
  text : String
deriving DecidableEq, Repr

namespace TimedText

/-- The texts that stand still, each at the time when its quiet time is over: those behind
which the next one is typed later. -/
def still (quiet : Nat) : List TimedText → List TimedText
  | [] => []
  | [k] => [⟨k.time + quiet, k.text⟩]
  | k :: l :: rest =>
    if k.time + quiet < l.time then ⟨k.time + quiet, k.text⟩ :: still quiet (l :: rest)
    else still quiet (l :: rest)

/-- The texts that are not equal to the one before, `last` being the one before the first. -/
def changes (last : Option String) : List TimedText → List TimedText
  | [] => []
  | k :: rest => if last = some k.text then changes last rest else k :: changes (some k.text) rest

section Order

variable {quiet : Nat}

theorem still_of_lt {k l : TimedText} (h : k.time + quiet < l.time) (rest : List TimedText) :
    still quiet (k :: l :: rest) = ⟨k.time + quiet, k.text⟩ :: still quiet (l :: rest) := if_pos h

theorem still_of_not_lt {k l : TimedText} (h : ¬k.time + quiet < l.time)
    (rest : List TimedText) : still quiet (k :: l :: rest) = still quiet (l :: rest) := if_neg h

theorem filter_eq_nil_of_lt {ks : List TimedText} {time : Nat} (h : ∀ k ∈ ks, time < k.time) :
    ks.filter (·.time ≤ time) = [] := by
  refine List.filter_eq_nil_iff.mpr fun k hk => ?_
  have hlt := h k hk
  simp only [decide_eq_true_eq]
  omega

/-- The quiet time is over for no text before it is over for the first one. -/
theorem le_of_mem_still {time : Nat} {l : TimedText} {ks : List TimedText}
    (hks : ∀ k ∈ ks, time ≤ k.time) (hl : l ∈ still quiet ks) : time + quiet ≤ l.time := by
  fun_induction still quiet ks with
  | case1 => cases hl
  | case2 k =>
    obtain rfl := List.mem_singleton.mp hl
    exact Nat.add_le_add_right (hks k List.mem_cons_self) quiet
  | case3 k l' rest h ih =>
    rcases List.mem_cons.mp hl with rfl | hl
    · exact Nat.add_le_add_right (hks k List.mem_cons_self) quiet
    · exact ih (fun m hm => hks m (List.mem_cons_of_mem k hm)) hl
  | case4 k l' rest h ih => exact ih (fun m hm => hks m (List.mem_cons_of_mem k hm)) hl

theorem filter_still_eq_nil_of_lt (quiet : Nat) {ks : List TimedText} {time : Nat}
    (h : ∀ k ∈ ks, time < k.time) : (still quiet ks).filter (·.time ≤ time) = [] := by
  refine filter_eq_nil_of_lt fun l hl => ?_
  have hle : time + 1 + quiet ≤ l.time := le_of_mem_still h hl
  omega

/-- When no further text is typed by some time, what stands still by then is the first text or
nothing. -/
theorem filter_still_of_lt {k l : TimedText} {rest : List TimedText} {time : Nat}
    (hrest : ∀ m ∈ l :: rest, time < m.time) :
    (still quiet (k :: l :: rest)).filter (·.time ≤ time) =
      [⟨k.time + quiet, k.text⟩].filter (·.time ≤ time) := by
  have hl := hrest l List.mem_cons_self
  have hlater := filter_still_eq_nil_of_lt quiet hrest
  by_cases hlt : k.time + quiet < l.time
  · rw [still_of_lt hlt, List.filter_cons, hlater, List.filter_cons, List.filter_nil]
  · rw [still_of_not_lt hlt, hlater, filter_eq_nil_of_lt]
    intro m hm
    obtain rfl := List.mem_singleton.mp hm
    exact Nat.lt_of_lt_of_le hl (Nat.le_of_not_lt hlt)

theorem pairwise_still {ks : List TimedText} (hks : ks.Pairwise fun a b => a.time ≤ b.time) :
    (still quiet ks).Pairwise fun a b => a.time ≤ b.time := by
  fun_induction still quiet ks with
  | case1 => exact .nil
  | case2 => exact List.pairwise_singleton _ _
  | case3 k l rest h ih =>
    obtain ⟨hk, hrest⟩ := List.pairwise_cons.mp hks
    exact List.pairwise_cons.mpr ⟨fun m hm => le_of_mem_still hk hm, ih hrest⟩
  | case4 k l rest h ih => exact ih (List.pairwise_cons.mp hks).2

theorem changes_cons_of_eq {last : Option String} {k : TimedText} (h : last = some k.text)
    (rest : List TimedText) : changes last (k :: rest) = changes last rest := if_pos h

theorem changes_cons_of_ne {last : Option String} {k : TimedText} (h : last ≠ some k.text)
    (rest : List TimedText) : changes last (k :: rest) = k :: changes (some k.text) rest :=
  if_neg h

/-- Of texts in the order of their times, those up to some time are dropped or not regardless
of the others. -/
theorem filter_changes {ks : List TimedText} (hks : ks.Pairwise fun a b => a.time ≤ b.time)
    (last : Option String) (time : Nat) :
    (changes last ks).filter (·.time ≤ time) = changes last (ks.filter (·.time ≤ time)) := by
  induction ks generalizing last with
  | nil => rfl
  | cons k rest ih =>
    obtain ⟨hk, hrest⟩ := List.pairwise_cons.mp hks
    by_cases hle : k.time ≤ time
    · rw [List.filter_cons_of_pos (by simpa using hle)]
      by_cases hlast : last = some k.text
      · rw [changes_cons_of_eq hlast, changes_cons_of_eq hlast, ih hrest]
      · rw [changes_cons_of_ne hlast, changes_cons_of_ne hlast,
          List.filter_cons_of_pos (by simpa using hle), ih hrest]
    · -- Nothing is left on either side.
      have hall : (rest.filter (·.time ≤ time)) = [] :=
        filter_eq_nil_of_lt fun m hm => Nat.lt_of_lt_of_le (Nat.lt_of_not_le hle) (hk m hm)
      rw [List.filter_cons_of_neg (by simpa using hle), hall]
      by_cases hlast : last = some k.text
      · rw [changes_cons_of_eq hlast, ih hrest, hall]
      · rw [changes_cons_of_ne hlast, List.filter_cons_of_neg (by simpa using hle), ih hrest, hall]
        rfl

end Order

end TimedText

namespace SearchTimeline

open SearchSession

/-! ### How a session stands -/

/-- **How a session stands**: which searches it has begun, with the calls that they have made,
and which text waits for its quiet time to be over. -/
structure Stands (source : SearchSource) (quiet : Nat) (begun : List TimedText)
    (waiting : Option TimedText) (t : SearchTimeline) : Prop where
  /-- The source stays. -/
  source_eq : t.session.source = source
  /-- The quiet time stays. -/
  debounce_eq : t.debounce = quiet
  /-- A search under way has been begun. -/
  asking : ∀ task, t.session.task = some task → task.stage = .asking
  /-- The text that waits, with the time when it is emitted. -/
  pending : t.pending = waiting.map fun k => (k.text, k.time)
  /-- Every search has a request number. -/
  latest : t.session.latest = begun.length
  /-- The text of the last search is the one that was emitted last. -/
  emitted : t.session.emitted = begun.getLast?.map TimedText.text
  /-- Every search has made one call or none. -/
  calls : t.calls.reverse = begun.filterMap fun k => call? source k.text

variable {source : SearchSource} {quiet : Nat} {begun : List TimedText}
  {waiting : Option TimedText} {t t' : SearchTimeline}

theorem stands_start (source : SearchSource) (searcher : Searcher) (quiet : Nat)
    (timeout : Option Nat) :
    Stands source quiet [] none
      { session := { source }, searcher, debounce := quiet, timeout } where
  source_eq := rfl
  debounce_eq := rfl
  asking := fun task htask => by cases htask
  pending := rfl
  latest := rfl
  emitted := rfl
  calls := rfl

theorem Stands.update (h : Stands source quiet begun waiting t) (text : String) :
    Stands source quiet begun (some ⟨t.now + quiet, text⟩) (t.update text) where
  source_eq := h.source_eq
  debounce_eq := h.debounce_eq
  asking := h.asking
  pending := by rw [← h.debounce_eq]; rfl
  latest := h.latest
  emitted := h.emitted
  calls := h.calls

theorem task_of_finish {s : SearchSession} {request : Nat} {outcome : SearchOutcome}
    {task : SearchTask} (h : (s.finish request outcome).task = some task) :
    s.task = some task := by
  rw [finish] at h
  split at h
  · split at h
    · simp only [writeFor, write] at h
      split at h <;> cases h
    · exact h
  · exact h

/-- The end of a search begins none. -/
theorem Stands.complete (h : Stands source quiet begun waiting t) (e : SearchEnd) :
    Stands source quiet begun waiting (t.complete e) := by
  have hheading := heading_finish t.session e.request e.outcome
  simp only [heading, Prod.mk.injEq] at hheading
  obtain ⟨hsource, hlatest, hemitted, -⟩ := hheading
  exact ⟨hsource.trans h.source_eq, h.debounce_eq,
    fun task htask => h.asking task (task_of_finish htask), h.pending, hlatest.trans h.latest,
    hemitted.trans h.emitted, h.calls⟩

theorem calls_emit_of_new {text : String} (h : t.session.emitted ≠ some text) (time : Nat) :
    (t.emit text time).calls = (call? t.session.source text).toList ++ t.calls := by
  have hemit : t.session.emit text =
      { t.session with
        emitted := some text
        latest := t.session.latest + 1
        task := some ⟨t.session.latest + 1, text, .queued⟩ } := if_neg h
  rw [SearchTimeline.emit, hemit]
  cases hcall : call? t.session.source text <;> simp [begin, hcall]

/-- A text that is emitted begins a search unless it is the text that was emitted before. -/
theorem Stands.emit {k : TimedText} (h : Stands source quiet begun (some k) t) :
    Stands source quiet
      (begun ++ TimedText.changes (begun.getLast?.map TimedText.text) [k]) none
      (t.emit k.text k.time) := by
  have hdebounce : (t.emit k.text k.time).debounce = t.debounce := by
    rw [SearchTimeline.emit]
    cases (t.session.emit k.text).begin with
    | mk session call => cases call <;> rfl
  have hpending : (t.emit k.text k.time).pending = none := by
    rw [SearchTimeline.emit]
    cases (t.session.emit k.text).begin with
    | mk session call => cases call <;> rfl
  have hasking : ∀ task, (t.emit k.text k.time).session.task = some task →
      task.stage = .asking := by
    intro task htask
    rw [session_emit] at htask
    exact asking_of_begin htask
  rw [← h.emitted]
  by_cases hsame : t.session.emitted = some k.text
  · rw [TimedText.changes_cons_of_eq hsame, TimedText.changes, List.append_nil]
    rw [emit_of_same h.asking hsame]
    exact ⟨h.source_eq, h.debounce_eq, h.asking, rfl, h.latest, h.emitted, h.calls⟩
  · rw [TimedText.changes_cons_of_ne hsame, TimedText.changes]
    have hheading : (t.emit k.text k.time).session.heading = (t.session.emit k.text).heading := by
      rw [session_emit, heading_begin]
    rw [SearchSession.emit, if_neg hsame] at hheading
    simp only [heading, Prod.mk.injEq] at hheading
    obtain ⟨hsource, hlatest, hemitted, -⟩ := hheading
    refine ⟨hsource.trans h.source_eq, hdebounce.trans h.debounce_eq, hasking, hpending, ?_, ?_,
      ?_⟩
    · rw [hlatest, h.latest, List.length_append, List.length_singleton]
    · rw [hemitted, List.getLast?_concat, Option.map_some]
    · rw [calls_emit_of_new hsame, List.reverse_append, h.calls, h.source_eq,
        List.filterMap_append]
      cases hcall : call? source k.text <;> simp [hcall]

/-! ### Until a deadline -/

section Deadline

variable {deadline : Nat} {k : TimedText}

/-- When no text waits, none is emitted. -/
theorem Stands.run_of_none (h : Stands source quiet begun none t) (fuel : Nat) :
    Stands source quiet begun none (run (some deadline) (fun _ => true) fuel t) := by
  induction fuel generalizing t with
  | zero => exact h
  | succ fuel ih =>
    cases hstep : t.step? (some deadline) with
    | none => rwa [run_of_step?_eq_none hstep]
    | some t₁ =>
      rw [run_of_step? rfl hstep]
      rcases step?_cases hstep with ⟨e, hcoming, rfl⟩ | ⟨text, time, hpending, -, -⟩
      · exact ih (h.complete e)
      · rw [h.pending] at hpending
        cases hpending

/-- A text that waits beyond the deadline goes on waiting. -/
theorem Stands.run_of_lt (h : Stands source quiet begun (some k) t) (hlt : deadline < k.time)
    (fuel : Nat) :
    Stands source quiet begun (some k) (run (some deadline) (fun _ => true) fuel t) := by
  induction fuel generalizing t with
  | zero => exact h
  | succ fuel ih =>
    cases hstep : t.step? (some deadline) with
    | none => rwa [run_of_step?_eq_none hstep]
    | some t₁ =>
      rw [run_of_step? rfl hstep]
      rcases step?_cases hstep with ⟨e, hcoming, rfl⟩ | ⟨text, time, hpending, hwithin, -⟩
      · exact ih (h.complete e)
      · rw [h.pending] at hpending
        cases hpending
        simp only [isWithin, Option.all_some, decide_eq_true_eq] at hwithin
        omega

theorem Stands.step?_of_le (h : Stands source quiet begun (some k) t) (hle : k.time ≤ deadline) :
    (∃ e, t.coming = some e ∧ t.step? (some deadline) = some (t.complete e)) ∨
      t.step? (some deadline) = some (t.emit k.text k.time) := by
  have hpending : t.pending = some (k.text, k.time) := h.pending
  rw [step?, hpending]
  cases hcoming : t.coming with
  | none => exact Or.inr (if_pos (by simpa [isWithin] using hle))
  | some e =>
    by_cases hlt : k.time < e.time
    · right
      simp only [if_pos hlt]
      exact if_pos (by simpa [isWithin] using hle)
    · left
      refine ⟨e, rfl, ?_⟩
      simp only [if_neg hlt]
      refine if_pos ?_
      simp only [isWithin, Option.all_some, decide_eq_true_eq]
      omega

/-- A text that waits no longer than to the deadline is emitted. The search under way may come
to its end before that, and the new one after it. -/
theorem Stands.run_of_le (h : Stands source quiet begun (some k) t) (hle : k.time ≤ deadline) :
    Stands source quiet
      (begun ++ TimedText.changes (begun.getLast?.map TimedText.text) [k]) none
      (run (some deadline) (fun _ => true) mostSteps t) := by
  rw [mostSteps]
  rcases h.step?_of_le hle with ⟨e, hcoming, hstep⟩ | hstep
  · rw [run_of_step? rfl hstep]
    rcases (h.complete e).step?_of_le hle with ⟨e', hcoming', -⟩ | hstep'
    · cases hcoming'
    · rw [run_of_step? rfl hstep']
      exact (h.complete e).emit.run_of_none 1
  · rw [run_of_step? rfl hstep]
    exact h.emit.run_of_none 2

end Deadline

/-! ### Texts at their times -/

section Sleep

variable {k : TimedText} {ms : Nat}

theorem Stands.withNow (h : Stands source quiet begun waiting t) (now : Nat) :
    Stands source quiet begun waiting { t with now } :=
  ⟨h.source_eq, h.debounce_eq, h.asking, h.pending, h.latest, h.emitted, h.calls⟩

/-- Which collaborator will be asked is no matter of what has been begun. -/
theorem Stands.withSearcher (h : Stands source quiet begun waiting t) (searcher : Searcher) :
    Stands source quiet begun waiting { t with searcher } :=
  ⟨h.source_eq, h.debounce_eq, h.asking, h.pending, h.latest, h.emitted, h.calls⟩

theorem Stands.sleep_of_none (h : Stands source quiet begun none t) (ms : Nat) :
    Stands source quiet begun none (t.sleep ms) := (h.run_of_none mostSteps).withNow _

theorem Stands.sleep_of_lt (h : Stands source quiet begun (some k) t)
    (hlt : t.now + ms < k.time) : Stands source quiet begun (some k) (t.sleep ms) :=
  (h.run_of_lt hlt mostSteps).withNow _

theorem Stands.sleep_of_le (h : Stands source quiet begun (some k) t)
    (hle : k.time ≤ t.now + ms) :
    Stands source quiet
      (begun ++ TimedText.changes (begun.getLast?.map TimedText.text) [k]) none
      (t.sleep ms) := (h.run_of_le hle).withNow _

end Sleep

/-- A text is typed at its time, when everything has happened that comes before. From then on
the collaborator is the one for the next request. -/
def typeAt (searchers : Nat → Searcher) (t : SearchTimeline) (k : TimedText) : SearchTimeline :=
  let t := t.sleep (k.time - t.now)
  { t with searcher := searchers (t.session.latest + 1) }.update k.text

/-- A session at some time: the texts have been typed whose time has come, and everything has
happened that comes before or at the time. -/
def atTime (searchers : Nat → Searcher) (t : SearchTimeline) (typed : List TimedText)
    (time : Nat) : SearchTimeline :=
  let t := (typed.filter (·.time ≤ time)).foldl (typeAt searchers) t
  t.sleep (time - t.now)

/-- The session in which the latest text has been typed just now. -/
theorem Stands.type (searchers : Nat → Searcher) {k : TimedText}
    (h : Stands source quiet begun waiting (t.sleep (k.time - t.now))) (hnow : t.now ≤ k.time) :
    Stands source quiet begun (some ⟨k.time + quiet, k.text⟩) (typeAt searchers t k) ∧
      (typeAt searchers t k).now = k.time := by
  have htime : (t.sleep (k.time - t.now)).now = k.time := Nat.add_sub_of_le hnow
  have hstands : Stands source quiet begun
      (some ⟨(t.sleep (k.time - t.now)).now + quiet, k.text⟩) (typeAt searchers t k) :=
    (h.withSearcher (searchers ((t.sleep (k.time - t.now)).session.latest + 1))).update k.text
  rw [htime] at hstands
  exact ⟨hstands, htime⟩

/-! ### The whole run -/

section Run

variable {searchers : Nat → Searcher} {time : Nat}

theorem changes_append (last : Option String) (k : TimedText) (rest : List TimedText) :
    TimedText.changes last (k :: rest) =
      TimedText.changes last [k] ++ TimedText.changes (some k.text) rest := by
  by_cases h : last = some k.text
  · rw [TimedText.changes_cons_of_eq h, TimedText.changes_cons_of_eq h, h]
    rfl
  · rw [TimedText.changes_cons_of_ne h, TimedText.changes_cons_of_ne h]
    rfl

/-- The text of the last search, after a further text. -/
theorem getLast?_append_changes (begun : List TimedText) (k : TimedText) :
    (begun ++ TimedText.changes (begun.getLast?.map TimedText.text) [k]).getLast?.map
      TimedText.text = some k.text := by
  by_cases h : begun.getLast?.map TimedText.text = some k.text
  · rw [TimedText.changes_cons_of_eq h, TimedText.changes, List.append_nil, h]
  · rw [TimedText.changes_cons_of_ne h, TimedText.changes, List.getLast?_concat]
    rfl

/-- No further text is typed, and the one that waits is emitted if its time comes. -/
theorem Stands.atTime_of_lt {k : TimedText} {rest : List TimedText}
    (hrest : ∀ m ∈ rest, time < m.time) (hnow : t.now ≤ time)
    (h : Stands source quiet begun (some k) t) :
    ∃ waiting, Stands source quiet
      (begun ++ TimedText.changes (begun.getLast?.map TimedText.text)
        ([k].filter (·.time ≤ time))) waiting (atTime searchers t rest time) := by
  have hat : atTime searchers t rest time = t.sleep (time - t.now) := by
    rw [atTime, TimedText.filter_eq_nil_of_lt hrest]
    rfl
  have hend : t.now + (time - t.now) = time := Nat.add_sub_of_le hnow
  rw [hat]
  by_cases hle : k.time ≤ time
  · rw [List.filter_cons_of_pos (by simpa using hle)]
    exact ⟨none, h.sleep_of_le (hend.symm ▸ hle)⟩
  · rw [List.filter_cons_of_neg (by simpa using hle), List.filter_nil, TimedText.changes,
      List.append_nil]
    exact ⟨some k, h.sleep_of_lt (hend.symm ▸ Nat.lt_of_not_le hle)⟩

/-- **What a session begins while texts are typed**: after a text that has been typed just now,
the searches up to some time are those for the texts that stand still by then. The induction
is on the texts that are still to be typed, and every step goes from one text to the next. -/
theorem Stands.atTime {k : TimedText} {rest : List TimedText}
    (hsorted : (k :: rest).Pairwise fun a b => a.time ≤ b.time ∧ b.time ≠ a.time + quiet)
    (htime : k.time ≤ time) (hnow : t.now = k.time)
    (h : Stands source quiet begun (some ⟨k.time + quiet, k.text⟩) t) :
    ∃ waiting, Stands source quiet
      (begun ++ TimedText.changes (begun.getLast?.map TimedText.text)
        ((TimedText.still quiet (k :: rest)).filter (·.time ≤ time))) waiting
      (atTime searchers t rest time) := by
  induction rest generalizing k t begun with
  | nil => exact h.atTime_of_lt (fun m hm => by cases hm) (hnow ▸ htime)
  | cons l rest ih =>
    obtain ⟨hk, hrest⟩ := List.pairwise_cons.mp hsorted
    obtain ⟨hle, hne⟩ := hk l List.mem_cons_self
    by_cases hl : l.time ≤ time
    · have hat : SearchTimeline.atTime searchers t (l :: rest) time =
          SearchTimeline.atTime searchers (typeAt searchers t l) rest time := by
        rw [SearchTimeline.atTime, List.filter_cons_of_pos (by simpa using hl)]
        rfl
      have hnext : t.now + (l.time - t.now) = l.time := by omega
      rw [hat]
      by_cases hlt : k.time + quiet < l.time
      · -- The text has stood still when the next one is typed.
        obtain ⟨htyped, hnow'⟩ := (h.sleep_of_le (hnext.symm ▸ Nat.le_of_lt hlt)).type
          searchers (hnow ▸ hle)
        obtain ⟨waiting, hall⟩ := ih hrest hl hnow' htyped
        have hdue : k.time + quiet ≤ time := Nat.le_of_lt (Nat.lt_of_lt_of_le hlt hl)
        rw [getLast?_append_changes, List.append_assoc] at hall
        rw [TimedText.still_of_lt hlt, List.filter_cons_of_pos (by simpa using hdue),
          changes_append]
        exact ⟨waiting, hall⟩
      · -- The next text takes its place.
        have hwaits : l.time < k.time + quiet := by omega
        obtain ⟨htyped, hnow'⟩ := (h.sleep_of_lt (hnext.symm ▸ hwaits)).type
          searchers (hnow ▸ hle)
        rw [TimedText.still_of_not_lt hlt]
        exact ih hrest hl hnow' htyped
    · have hlater : ∀ m ∈ l :: rest, time < m.time := by
        intro m hm
        rcases List.mem_cons.mp hm with rfl | hm
        · exact Nat.lt_of_not_le hl
        · exact Nat.lt_of_lt_of_le (Nat.lt_of_not_le hl) ((List.pairwise_cons.mp hrest).1 m hm).1
      rw [TimedText.filter_still_of_lt hlater]
      exact h.atTime_of_lt hlater (hnow ▸ htime)

theorem stands_atTime (source : SearchSource) (searchers : Nat → Searcher) (quiet : Nat)
    (timeout : Option Nat) {typed : List TimedText}
    (htyped : typed.Pairwise fun a b => a.time ≤ b.time ∧ b.time ≠ a.time + quiet)
    (time : Nat) :
    ∃ waiting, Stands source quiet
      (TimedText.changes none ((TimedText.still quiet typed).filter (·.time ≤ time))) waiting
      (atTime searchers
        { session := { source }, searcher := searchers 1, debounce := quiet, timeout } typed
        time) := by
  have hstart := stands_start source (searchers 1) quiet timeout
  cases typed with
  | nil => exact ⟨none, hstart.sleep_of_none _⟩
  | cons k rest =>
    by_cases hk : k.time ≤ time
    · obtain ⟨hfirst, hnow⟩ := (hstart.sleep_of_none _).type searchers
        (Nat.zero_le k.time)
      rw [atTime, List.filter_cons_of_pos (by simpa using hk)]
      exact hfirst.atTime htyped hk hnow
    · have hlater : ∀ m ∈ k :: rest, time < m.time := by
        intro m hm
        rcases List.mem_cons.mp hm with rfl | hm
        · exact Nat.lt_of_not_le hk
        · exact Nat.lt_of_lt_of_le (Nat.lt_of_not_le hk)
            ((List.pairwise_cons.mp htyped).1 m hm).1
      rw [TimedText.filter_still_eq_nil_of_lt quiet hlater, atTime,
        TimedText.filter_eq_nil_of_lt hlater]
      exact ⟨none, hstart.sleep_of_none _⟩

end Run

theorem call?_eq_ite (source : SearchSource) (text : String) :
    call? source text =
      if Text.trim text = "" ∨ source.endpoint = "" ∨ source.fields = [] then none
      else some ⟨Text.trim text, source.baseFilters ++ Query.parse (Text.trim text) source⟩ := by
  rw [call?]
  simp [SearchSource.filters, or_assoc]

/-- **Searches begin after the quiet time.** Let texts be typed at some times, one after the
other and none at the very moment at which the quiet time after another one is over; let the
collaborator answer every request as it likes and after any time. At every time, the searches
that have been begun are those, of the texts that stand still for the quiet time, whose quiet
time is over by then, without those that are equal to the one before. The collaborator has
been called once for each of them that is not blank, in their order, with the text without the
blanks around it, the filters of the source and the filters of the text, and not at all if the
source has no endpoint or no fields. -/
theorem begins_after_quiet (source : SearchSource) (searchers : Nat → Searcher) (quiet : Nat)
    (timeout : Option Nat) {typed : List TimedText}
    (htyped : typed.Pairwise fun a b => a.time ≤ b.time ∧ b.time ≠ a.time + quiet)
    (time : Nat) :
    let t := atTime searchers
      { session := { source }, searcher := searchers 1, debounce := quiet, timeout } typed time
    let begun := (TimedText.changes none (TimedText.still quiet typed)).filter (·.time ≤ time)
    t.session.latest = begun.length ∧
      t.session.emitted = begun.getLast?.map TimedText.text ∧
      t.calls.reverse = begun.filterMap fun k =>
        if Text.trim k.text = "" ∨ source.endpoint = "" ∨ source.fields = [] then none
        else some
          ⟨Text.trim k.text, source.baseFilters ++ Query.parse (Text.trim k.text) source⟩ := by
  intro t begun
  obtain ⟨waiting, hstands⟩ := stands_atTime source searchers quiet timeout htyped time
  have hsorted : typed.Pairwise fun a b => a.time ≤ b.time := htyped.imp And.left
  have hbegun : begun =
      TimedText.changes none ((TimedText.still quiet typed).filter (·.time ≤ time)) :=
    TimedText.filter_changes (TimedText.pairwise_still hsorted) none time
  rw [← hbegun] at hstands
  refine ⟨hstands.latest, hstands.emitted, ?_⟩
  rw [hstands.calls]
  exact List.filterMap_congr fun k _ => call?_eq_ite source k.text

/-- Typing with a pause of half a second, a repetition, a blank, and the repeated text again. -/
def keystrokes : List TimedText :=
  [⟨0, "l"⟩, ⟨100, "li "⟩, ⟨1000, "lim"⟩, ⟨1399, "li "⟩, ⟨3000, " "⟩, ⟨5000, "li "⟩]

/-- Three searches, of which the blank one makes no call. The collaborator answers the first
request long after the second has begun. -/
theorem begins_after_quiet_keystrokes :
    (keystrokes.Pairwise fun a b => a.time ≤ b.time ∧ b.time ≠ a.time + 400) ∧
      let t := atTime (fun n _ => (9000 - n, .ok (.success [])))
        { session :=
            { source := { key := "k", endpoint := "e", fields := [⟨"C", "", "p", none, true⟩] } }
          searcher := fun _ => (8999, .ok (.success []))
          debounce := 400 }
        keystrokes 5400
      t.session.latest = 3 ∧ t.session.emitted = some "li " ∧
        t.calls.reverse =
          [⟨"li", [⟨"p", "C", .and, .contains, "li"⟩]⟩,
            ⟨"li", [⟨"p", "C", .and, .contains, "li"⟩]⟩] := by
  have htyped : keystrokes.Pairwise fun a b => a.time ≤ b.time ∧ b.time ≠ a.time + 400 := by
    decide
  obtain ⟨hlatest, hemitted, hcalls⟩ := begins_after_quiet
    { key := "k", endpoint := "e", fields := [⟨"C", "", "p", none, true⟩] }
    (fun n _ => (9000 - n, .ok (.success []))) 400 none htyped 5400
  exact ⟨htyped, hlatest.trans (by decide), hemitted.trans (by decide), hcalls.trans (by decide)⟩

end SearchTimeline

end SmartForm
