import SmartForm.Proofs.Form.Engine

/-!
# Choices are fresh

The choices of a field that hangs on another one are a matter of the value that its parent
was last **set** to, and of what came of the load that was started then
(`SmartForm.FormEngine.choices_fresh`). What has happened before does not matter, however
many loads it has left behind, and whenever and however these end.

The one thing to know is that the number of times the parent was set is the generation of
the choices (`SmartForm.Form.generation_run`). So it is known which token the last load
has, and that no earlier load has it.
-/

namespace SmartForm

namespace FormEvent

/-- What comes of a load, if the event is its end. -/
def answer? (key : String) (token : Nat) : FormEvent → Option (Option (List Json))
  | finish k t records => if k = key ∧ t = token then some records else none
  | _ => none

/-- How many events set a field. -/
def timesSet (fields : List FieldSpec) (key : String) (es : List FormEvent) : Nat :=
  es.countP fun ev => (ev.value? fields key).isSome

end FormEvent

/-! ### What a lane hears -/

namespace Lane

/-- What a lane hears of an event that does not set the parent: the end of a load of its
own, and nothing else. -/
def hear (key : String) (x : Lane) : FormEvent → Lane
  | .finish k token records => if k = key then x.finish token records else x
  | _ => x

variable {x : Lane} {key : String}

theorem withoutCell_finish (x : Lane) (token : Nat) (records : Option (List Json)) :
    (x.finish token records).withoutCell = x.withoutCell.finish token records := by
  have hloads : x.withoutCell.loads = x.loads := rfl
  rw [finish, finish, hloads]
  cases x.loads.find? fun l => l.token = token <;> rfl

theorem Sound.withoutCell (hx : x.Sound) : x.withoutCell.Sound := ⟨hx.past, hx.quiet_or_busy⟩

theorem hear_of_nil (hx : x.loads = []) (ev : FormEvent) : x.hear key ev = x := by
  cases ev with
  | finish k token records =>
    rw [hear, finish, hx]
    exact ite_self x
  | _ => rfl

/-- Where nothing is under way, nothing happens. -/
theorem foldl_hear_of_nil (hx : x.loads = []) (es : List FormEvent) :
    es.foldl (hear key) x = x := by
  induction es with
  | nil => rfl
  | cons ev es ih => rw [List.foldl_cons, hear_of_nil hx, ih]

/-- Where one load is under way, its end is what is heard. -/
theorem hear_of_load {l : Load} (hx : x.loads = [l]) (ev : FormEvent) :
    x.hear key ev =
      match ev.answer? key l.token with
      | some records =>
        { x with
          slot := x.slot.map (.settle l.token (Board.resultOf l.binding records))
          loads := [] }
      | none => x := by
  cases ev with
  | finish k token records =>
    by_cases hk : k = key
    · by_cases ht : token = l.token
      · simp [hear, finish, FormEvent.answer?, hx, hk, ht]
      · simp [hear, finish, FormEvent.answer?, hx, ht, Ne.symm ht]
    · simp [hear, FormEvent.answer?, hk]
  | _ => rfl

/-- **The first end of the latest load counts**, and nothing else does. -/
theorem slot_foldl_hear {l : Load} {s : ChoiceSlot} (hx : x.loads = [l]) (hs : x.slot = some s)
    (hl : l.token = s.generation) (es : List FormEvent) :
    ((es.foldl (hear key) x).slot.map fun y => y.current.value) =
      some (match es.findSome? (FormEvent.answer? key l.token) with
        | some records => .ofResult (Board.resultOf l.binding records)
        | none => s.current.value) := by
  induction es with
  | nil => rw [List.foldl_nil, hs]; rfl
  | cons ev es ih =>
    rw [List.foldl_cons, hear_of_load hx, List.findSome?_cons]
    cases ev.answer? key l.token with
    | none => exact ih
    | some records =>
      simp only
      rw [foldl_hear_of_nil rfl, hs, Option.map_some, Option.map_some, ChoiceSlot.settle_value,
        if_pos hl.symm]

end Lane

namespace Form

open FieldSpec

variable {fields : List FieldSpec} {f : Form} {k p : String}

/-- What becomes of a lane but for its cell: it is cascaded if the parent is set, and
hears of the end of a load of its own otherwise. -/
theorem withoutCell_handle (hf : f.Steady fields) (ev : FormEvent) (k : String) :
    ((f.handle ev).board.lane k).withoutCell =
      match (hangsOn? fields k).bind (ev.value? fields) with
      | some v => (f.board.lane k).withoutCell.cascade v
      | none => (f.board.lane k).withoutCell.hear k ev := by
  have hboard := board_handle hf ev
  have hset := withoutCell_setAll_writes hf ev k
  cases ev with
  | finish key token records =>
    have hnone : (hangsOn? fields k).bind (FormEvent.value? fields (.finish key token records)) =
        none := by cases hangsOn? fields k <;> rfl
    rw [hboard, hnone, Board.lane_finish]
    simp only [Lane.hear, eq_comm (a := key)]
    split
    · exact Lane.withoutCell_finish ..
    · rfl
  | _ => rw [hboard]; exact hset

/-- Events that do not set the parent. -/
theorem withoutCell_run (hf : f.Steady fields) {es : List FormEvent}
    (hes : ∀ ev ∈ es, (hangsOn? fields k).bind (ev.value? fields) = none) :
    ((f.run es).board.lane k).withoutCell =
      es.foldl (Lane.hear k) (f.board.lane k).withoutCell := by
  induction es generalizing f with
  | nil => rfl
  | cons ev es ih =>
    refine (ih (steady_handle hf ev) fun ev' h => hes ev' (List.mem_cons_of_mem ev h)).trans ?_
    rw [withoutCell_handle hf, hes ev List.mem_cons_self]
    rfl

/-! ### Generations -/

theorem generation_cascade (x : Lane) (v : Json) (hx : x.link.isSome) :
    (x.cascade v).slot.map ChoiceSlot.generation = x.slot.map fun s => s.generation + 1 := by
  obtain ⟨l, hl⟩ := Option.isSome_iff_exists.mp hx
  rw [Lane.slot_cascade hl]
  exact Option.map_map ..

theorem generation_hear (x : Lane) (ev : FormEvent) :
    (x.hear k ev).slot.map ChoiceSlot.generation = x.slot.map ChoiceSlot.generation := by
  cases ev with
  | finish key token records =>
    rw [Lane.hear]
    split
    · rw [Lane.finish]
      cases x.loads.find? fun l => l.token = token with
      | none => rfl
      | some l =>
        rw [Option.map_map]
        exact Option.map_congr fun s _ => ChoiceSlot.settle_generation ..
    · rfl
  | _ => rfl

theorem Steady.isSome_link (hf : f.Steady fields) (hp : hangsOn? fields k = some p) :
    (f.board.lane k).link.isSome := by
  have hparent : f.board.parentOf? k = some p := (hf.parentOf?_eq k).trans hp
  rw [Board.parentOf?, Option.map_eq_some_iff] at hparent
  obtain ⟨l, hl, -⟩ := hparent
  exact Option.isSome_iff_exists.mpr ⟨l, hl⟩

/-- The generation of the choices of a field. -/
def generation? (f : Form) (k : String) : Option Nat :=
  (f.board.lane k).slot.map ChoiceSlot.generation

theorem generation?_handle (hf : f.Steady fields) (hp : hangsOn? fields k = some p)
    (ev : FormEvent) :
    (f.handle ev).generation? k =
      (f.generation? k).map fun n => n + if (ev.value? fields p).isSome then 1 else 0 := by
  have hlane := congrArg (fun x : Lane => x.slot.map ChoiceSlot.generation)
    (withoutCell_handle hf ev k)
  refine hlane.trans ?_
  rw [hp, Option.bind_some]
  cases ev.value? fields p with
  | none =>
    refine (generation_hear ..).trans ?_
    exact Option.map_id'.symm
  | some v =>
    refine (generation_cascade (f.board.lane k).withoutCell v (hf.isSome_link hp)).trans ?_
    exact (Option.map_map ..).symm

/-- **The generation of choices** is the number of times that the parent was set. -/
theorem generation_run (hf : f.Steady fields) (hp : hangsOn? fields k = some p)
    (es : List FormEvent) :
    (f.run es).generation? k =
      (f.generation? k).map fun n => n + FormEvent.timesSet fields p es := by
  induction es generalizing f with
  | nil => exact Option.map_id'.symm
  | cons ev es ih =>
    refine (ih (steady_handle hf ev)).trans ?_
    rw [generation?_handle hf hp, Option.map_map]
    refine Option.map_congr fun n _ => ?_
    simp only [Function.comp, FormEvent.timesSet, List.countP_cons]
    omega

/-! ### The last value of the parent -/

section Last

variable {c : FieldSpec} {binding : Binding}

theorem hangsOn?_of_attachment (hc : withKey? fields c.key = some c)
    (hp : attachment? fields c = some (binding, p)) : hangsOn? fields c.key = some p := by
  rw [hangsOn?, hc, Option.bind_some, hp]
  rfl

theorem lane_build_of_attachment (hc : withKey? fields c.key = some c)
    (hp : attachment? fields c = some (binding, p)) :
    (build fields).board.lane c.key =
      ⟨some (cellOf c), some (slotOf c), linkOf? fields c, []⟩ := by
  rw [lane_build, hc, Option.map_some, Option.getD_some]
  refine opened_of_waiting ?_
  cases hb : c.immediateBinding? with
  | none => rfl
  | some b =>
    rw [attachment?_eq_none_of_immediate hb] at hp
    cases hp

/-- Along the link to a field, the choices of that field are loaded. -/
theorem Steady.exists_link (hf : f.Steady fields) (hc : withKey? fields c.key = some c)
    (hp : attachment? fields c = some (binding, p)) :
    ∃ l, (f.board.lane c.key).link = some l ∧ l.child = c.key ∧ l.binding = binding := by
  have hmap := Board.map_linkTo?_of_frame hf.frame_eq c.key
  rw [linkTo?_build, hc, Option.bind_some, linkOf?, hp, Option.map_some, Option.map_some] at hmap
  obtain ⟨l, hl, heq⟩ := Option.map_eq_some_iff.mp hmap
  simp only [Prod.mk.injEq] at heq
  exact ⟨l, hl, heq.2.1, heq.2.2⟩

theorem generation?_build (hc : withKey? fields c.key = some c)
    (hp : attachment? fields c = some (binding, p)) (es : List FormEvent) :
    ((build fields).run es).generation? c.key = some (FormEvent.timesSet fields p es) := by
  rw [generation_run (steady_build fields) (hangsOn?_of_attachment hc hp), generation?,
    lane_build_of_attachment hc hp]
  simp [slotOf]

/-- While the parent has not been set, the choices are those that need not be loaded. -/
theorem state?_of_unset (hc : withKey? fields c.key = some c)
    (hp : attachment? fields c = some (binding, p)) {es : List FormEvent}
    (hes : ∀ ev ∈ es, ev.value? fields p = none) :
    ((build fields).run es).state? c.key = some (.ofChoices c.choices) := by
  have hsilent : ∀ ev ∈ es, (hangsOn? fields c.key).bind (ev.value? fields) = none := by
    rw [hangsOn?_of_attachment hc hp]
    exact hes
  rw [state?_eq_slot, withoutCell_run (steady_build fields) hsilent,
    Lane.foldl_hear_of_nil (by rw [lane_build_of_attachment hc hp]; rfl),
    lane_build_of_attachment hc hp]
  rfl

/-- What a field has at the moment in which its parent is set: a place for new choices,
and the one load that they are to come from. -/
theorem lane_handle_of_set (hf : f.Steady fields) (hc : withKey? fields c.key = some c)
    (hp : attachment? fields c = some (binding, p)) {n : Nat}
    (hn : f.generation? c.key = some n) {ev : FormEvent} {v : Json}
    (hv : ev.value? fields p = some v) :
    (∃ s, ((f.handle ev).board.lane c.key).slot = some s ∧ s.generation = n + 1 ∧
        s.current.value = if v.isEmpty then {} else .underWay) ∧
      ((f.handle ev).board.lane c.key).loads =
        if v.isEmpty then [] else [⟨c.key, n + 1, binding, some v⟩] := by
  obtain ⟨s, hs, rfl⟩ := Option.map_eq_some_iff.mp hn
  obtain ⟨l, hl, hchild, hbinding⟩ := hf.exists_link hc hp
  have hlane := withoutCell_handle hf ev c.key
  rw [hangsOn?_of_attachment hc hp, Option.bind_some, hv] at hlane
  have hslot := Lane.slot_cascade (x := (f.board.lane c.key).withoutCell) hl v
  have hloads := (hf.sound.lanes c.key).withoutCell.loads_cascade hl v
  constructor
  · refine ⟨s.renew (if v.isEmpty then {} else .underWay), ?_, rfl, rfl⟩
    refine (congrArg Lane.slot hlane).trans (hslot.trans ?_)
    exact congrArg (Option.map _) hs
  · refine (congrArg Lane.loads hlane).trans (hloads.trans ?_)
    have hslot' : (f.board.lane c.key).withoutCell.slot = some s := hs
    cases hempty : v.isEmpty <;> simp [Lane.renewal, hempty, hslot', hchild, hbinding]

/-- **The choices are those of the last value of the parent.** -/
theorem state?_of_last (hf : f.Steady fields) (hc : withKey? fields c.key = some c)
    (hp : attachment? fields c = some (binding, p)) {n : Nat}
    (hn : f.generation? c.key = some n) {ev : FormEvent} {v : Json}
    (hv : ev.value? fields p = some v) {after : List FormEvent}
    (hafter : ∀ ev ∈ after, ev.value? fields p = none) :
    (f.run (ev :: after)).state? c.key =
      some (if v.isEmpty then {} else
        match after.findSome? (FormEvent.answer? c.key (n + 1)) with
        | some records => .ofResult (records.map binding.choices)
        | none => .underWay) := by
  obtain ⟨⟨s, hs, hgen, hvalue⟩, hloads⟩ := lane_handle_of_set hf hc hp hn hv
  have hsilent : ∀ ev ∈ after, (hangsOn? fields c.key).bind (ev.value? fields) = none := by
    rw [hangsOn?_of_attachment hc hp]
    exact hafter
  have hrun : ((f.run (ev :: after)).board.lane c.key).withoutCell = _ :=
    withoutCell_run (steady_handle hf ev) hsilent
  have hs' : ((f.handle ev).board.lane c.key).withoutCell.slot = some s := hs
  have hloads' : ((f.handle ev).board.lane c.key).withoutCell.loads = _ := hloads
  rw [state?_eq_slot, hrun]
  generalize ((f.handle ev).board.lane c.key).withoutCell = x at hs' hloads'
  cases hempty : v.isEmpty with
  | true =>
    -- No load was started, so there is none whose end could be heard.
    rw [hempty] at hloads' hvalue
    rw [Lane.foldl_hear_of_nil hloads', hs', Option.map_some, hvalue]
    rfl
  | false =>
    rw [hempty] at hloads' hvalue
    refine (Lane.slot_foldl_hear hloads' hs' hgen.symm after).trans ?_
    rw [hvalue]
    rfl

/-- The loads for a field have the number of times that its parent was set for their
token. -/
theorem token_eq_timesSet (hc : withKey? fields c.key = some c)
    (hp : attachment? fields c = some (binding, p)) {es : List FormEvent} {l : Load}
    (hl : l ∈ ((build fields).run es).board.loads) (hkey : l.key = c.key) :
    l.token = FormEvent.timesSet fields p es := by
  have hgen := generation?_build hc hp es
  have hsound := (steady_run (steady_build fields) es).sound.lanes c.key
  have hmem : l ∈ (((build fields).run es).board.lane c.key).loads :=
    List.mem_filter.mpr ⟨hl, by simpa using hkey⟩
  obtain ⟨s, hs, hsgen⟩ := Option.map_eq_some_iff.mp hgen
  obtain ⟨s', hs', hvalue⟩ := hsound.value_of_mem_loads hmem
  obtain rfl : s' = s := Option.some.inj (hs'.symm.trans hs)
  -- A load is alone on its lane, and its token is the generation.
  obtain ⟨l', hloads, htoken⟩ := hsound.loads_of_loading hs (by rw [hvalue]; rfl)
  rw [hloads, List.mem_singleton] at hmem
  rw [hmem, htoken, hsgen]

end Last

end Form

namespace FormEngine

open FieldSpec

/-- The form that an engine has once it has made it and it was filled in. -/
def filled (e : FormEngine) (fields : List FieldSpec) (es : List FormEvent) : Form :=
  ((e.build fields).run (es.map .fill)).form

theorem filled_eq (e : FormEngine) (fields : List FieldSpec) (es : List FormEvent) :
    e.filled fields es = (Form.build fields).run es := form_run_fill ..

/-- **Choices are fresh.** Let the choices of a field `c` wait for another field `p` of
the form. While `p` has not been set, they are those that need not be loaded. Once it has
been, they are a matter of the value that it was set to last: there are none if the value
is empty, and otherwise they are being loaded, or come from the first answer to the very
load that was started when the value was set. The loads that were started before that have
other tokens, and whatever comes of them is refused. -/
theorem choices_fresh (e : FormEngine) {fields : List FieldSpec} {c : FieldSpec}
    {binding : Binding} {p : String} (hc : withKey? fields c.key = some c)
    (hwaits : c.dependentBinding? = some (binding, p)) (hother : p ≠ c.key)
    (hknown : (withKey? fields p).isSome) (es : List FormEvent) :
    ((∀ ev ∈ es, ev.value? fields p = none) →
        (e.filled fields es).state? c.key = some (.ofChoices c.choices)) ∧
      ∀ before ev after v, es = before ++ ev :: after → ev.value? fields p = some v →
        (∀ ev' ∈ after, ev'.value? fields p = none) →
        ∀ token, token = FormEvent.timesSet fields p before + 1 →
          (e.filled fields es).state? c.key =
              some (if v.isEmpty then {} else
                match after.findSome? (FormEvent.answer? c.key token) with
                | some records => .ofResult (records.map binding.choices)
                | none => .underWay) ∧
            ((e.filled fields (before ++ [ev])).board.loads.filter fun l => l.key = c.key) =
              (if v.isEmpty then [] else [⟨c.key, token, binding, some v⟩]) ∧
            ∀ earlier later, before = earlier ++ later →
              ∀ l ∈ (e.filled fields earlier).board.loads, l.key = c.key →
                l.token < token ∧ ∀ result,
                  (e.filled fields es).board.store.finishLoad c.key l.token result =
                    ((e.filled fields es).board.store, false) := by
  have hp : attachment? fields c = some (binding, p) :=
    attachment?_eq_some.mpr ⟨hwaits, hother, hknown⟩
  simp only [filled_eq]
  refine ⟨Form.state?_of_unset hc hp, ?_⟩
  rintro before ev after v rfl hv hafter token rfl
  have hsteady := Form.steady_run (Form.steady_build fields) before
  have hgen := Form.generation?_build hc hp before
  refine ⟨?_, ?_, ?_⟩
  · rw [Form.run_append]
    exact Form.state?_of_last hsteady hc hp hgen hv hafter
  · rw [Form.run_append]
    exact (Form.lane_handle_of_set hsteady hc hp hgen hv).2
  · rintro earlier later rfl l hl hkey
    have htoken := Form.token_eq_timesSet hc hp hl hkey
    have hlt : l.token < FormEvent.timesSet fields p (earlier ++ later) + 1 := by
      rw [htoken, FormEvent.timesSet, FormEvent.timesSet, List.countP_append]
      omega
    refine ⟨hlt, fun result => ?_⟩
    -- The generation is beyond the token, for the parent was set once more.
    have hfinal := Form.generation?_build hc hp (earlier ++ later ++ ev :: after)
    obtain ⟨s, hs, hsgen⟩ := Option.map_eq_some_iff.mp hfinal
    refine ChoiceStore.finishLoad_of_ne hs ?_ result
    rw [FormEvent.timesSet, List.countP_append, ← FormEvent.timesSet,
      List.countP_cons_of_pos (by rw [hv]; rfl)] at hsgen
    omega

/-- A town that waits for its country. -/
def townField : FieldSpec :=
  { key := "town", binding := some { endpoint := "towns", dependency := some "country" } }

/-- Of two loads for a town the first is answered too late, and the second fails. -/
theorem choices_fresh_town :
    (filled { service := { loader := fun _ _ => (0, .ok []) } } [{ key := "country" }, townField]
      [.set "country" (.string "NO"), .set "country" (.string "SE"), .finish "town" 1 (some []),
        .finish "town" 2 none]).state? "town" = some ⟨false, [], .failed⟩ := by
  have hc : withKey? [{ key := "country" }, townField] townField.key = some townField := rfl
  have hwaits : townField.dependentBinding? =
      some ({ endpoint := "towns", dependency := some "country" }, "country") := rfl
  have hother : "country" ≠ townField.key := by decide
  have hafter : ∀ ev' ∈ [FormEvent.finish "town" 1 (some []), .finish "town" 2 none],
      ev'.value? [{ key := "country" }, townField] "country" = none := by
    simp [FormEvent.value?]
  exact ((choices_fresh _ hc hwaits hother rfl _).2 [.set "country" (.string "NO")]
    (.set "country" (.string "SE")) _ (.string "SE") rfl rfl hafter 2 rfl).1

end FormEngine

end SmartForm
