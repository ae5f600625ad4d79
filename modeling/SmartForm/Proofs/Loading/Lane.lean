import SmartForm.Loading.Board
import SmartForm.Proofs.Loading.Store

/-!
# Lanes

A `SmartForm.Lane` is everything that a board holds for one key: its cell, the place of
its choices, the link that leads to it and the loads under way for it. An operation of
a board is described by what it does to every lane, and most lanes stay as they are.

The one description that all others rest on is that of a set cell
(`SmartForm.Board.lane_set`). The lane of the cell takes the value, the lanes of its
children are **cascaded** (`SmartForm.Lane.cascade`), and nothing else happens. So a
set cell reaches one level down and no further, however cells are linked.

Two things make that true, and `SmartForm.Board.Wired` asks for them: a cell has at
most one link that leads to it, and no link leads from a cell to itself.
-/

namespace SmartForm

/-- What a board holds for one key. -/
@[ext] structure Lane where
  /-- The cell, if it is still there. -/
  cell : Option Cell
  /-- The place of the choices. -/
  slot : Option ChoiceSlot
  /-- The link that leads to the cell. -/
  link : Option Link
  /-- The loads under way. -/
  loads : List Load

namespace Lane

/-- A value is written into the cell. -/
def write (v : Json) (x : Lane) : Lane := { x with cell := x.cell.map fun c => c.write v }

/-- A load is started. -/
def start (key : String) (binding : Binding) (dependency : Option Json) (x : Lane) : Lane :=
  { x with
    slot := x.slot.map (.renew .underWay)
    loads := x.loads ++ (x.slot.map fun s => ⟨key, s.generation + 1, binding, dependency⟩).toList }

/-- A load that may be missing is aborted. -/
def abort (token : Option Nat) (x : Lane) : Lane :=
  { x with loads := x.loads.filter fun l => token ≠ some l.token }

/-- A load comes to its end. -/
def finish (token : Nat) (records : Option (List Json)) (x : Lane) : Lane :=
  match x.loads.find? fun l => l.token = token with
  | some l =>
    { x with
      slot := x.slot.map (.settle token (Board.resultOf l.binding records))
      loads := x.loads.filter fun l => l.token ≠ token }
  | none => x

/-- The load that is started when the parent is set; nothing if it is emptied. -/
def renewal (l : Link) (v : Json) (x : Lane) : Option Load :=
  if v.isEmpty then none
  else x.slot.map fun s => ⟨l.child, s.generation + 1, l.binding, some v⟩

/-- The parent is set: the value is lost, and the choices are emptied or loaded anew in
place of the load that the link has started before. -/
def cascade (v : Json) (x : Lane) : Lane :=
  match x.link with
  | none => x
  | some l =>
    { cell := x.cell.map fun c => c.write .null
      slot := x.slot.map (.renew (if v.isEmpty then {} else .underWay))
      link := some { l with inFlight := (x.renewal l v).map Load.token }
      loads := (x.loads ++ (x.renewal l v).toList).filter fun y => l.inFlight ≠ some y.token }

end Lane

namespace Board

/-- The link that leads to a cell. -/
def linkTo? (b : Board) (key : String) : Option Link := b.links.find? fun l => l.child = key

/-- The loads under way for a key. -/
def loadsOf (b : Board) (key : String) : List Load := b.loads.filter fun l => l.key = key

/-- What the board holds for a key. -/
def lane (b : Board) (key : String) : Lane :=
  ⟨b.cell? key, b.store.slot? key, b.linkTo? key, b.loadsOf key⟩

/-! ### Cells -/

theorem cell?_publish (b : Board) (key : String) (v : Json) (k : String) :
    (b.publish key v).cell? k =
      if k = key then (b.cell? k).map fun c => c.write v else b.cell? k := by
  have hmap : (b.publish key v).cells = b.cells.map fun e =>
      (e.1, if e.1 = key && e.2.isAlive then { e.2 with cell := e.2.cell.write v } else e.2) := by
    refine List.map_congr_left fun e _ => ?_
    by_cases h : (decide (e.1 = key) && e.2.isAlive) = true <;> simp [h]
  have hlook := lookup_map_keyed b.cells (fun j (x : BoardCell) =>
    if j = key && x.isAlive then { x with cell := x.cell.write v } else x) k
  rw [cell?, hmap, hlook, cell?]
  -- A cell that is gone is not written to, but it is not found either.
  cases b.cells.lookup k with
  | none => simp
  | some x =>
    by_cases hk : k = key
    · cases hx : x.isAlive <;> simp [hk, hx, Option.filter]
    · simp [hk]

theorem lane_publish (b : Board) (key : String) (v : Json) (k : String) :
    (b.publish key v).lane k = if k = key then (b.lane k).write v else b.lane k := by
  have hcell := cell?_publish b key v k
  by_cases hk : k = key
  · rw [if_pos hk] at hcell ⊢
    exact Lane.ext hcell rfl rfl rfl
  · rw [if_neg hk] at hcell ⊢
    exact Lane.ext hcell rfl rfl rfl

/-! ### Loads -/

theorem start_token (b : Board) (key : String) (binding : Binding) (dependency : Option Json) :
    (b.start key binding dependency).2 = (b.store.slot? key).map fun s => s.generation + 1 := by
  have htoken := b.store.beginLoad_token key
  rw [start]
  cases hs : b.store.beginLoad key with
  | mk store token =>
    rw [hs] at htoken
    cases token <;> exact htoken

theorem lane_start (b : Board) (key : String) (binding : Binding) (dependency : Option Json)
    (k : String) :
    (b.start key binding dependency).1.lane k =
      if k = key then (b.lane k).start key binding dependency else b.lane k := by
  have htoken := b.store.beginLoad_token key
  have hslot := b.store.slot?_beginLoad key k
  rw [start]
  cases hs : b.store.beginLoad key with
  | mk store token =>
    rw [hs] at htoken hslot
    cases token with
    | none =>
      -- There is no token where there is no place for choices.
      have hnone : b.store.slot? key = none := by
        cases h : b.store.slot? key with
        | none => rfl
        | some s => rw [h] at htoken; simp at htoken
      by_cases hk : k = key
      · subst hk
        simp [lane, Lane.start, hnone]
      · simp [hk]
    | some t =>
      obtain ⟨s, hs', ht⟩ := Option.map_eq_some_iff.mp htoken.symm
      by_cases hk : k = key
      · subst hk
        simp only [if_true] at hslot ⊢
        refine Lane.ext rfl hslot rfl ?_
        simp [lane, Lane.start, loadsOf, hs', ← ht]
      · simp only [hk, if_false] at hslot ⊢
        refine Lane.ext rfl hslot rfl ?_
        simp [lane, loadsOf, Ne.symm hk]

theorem load?_eq_find? (b : Board) (key : String) (token : Nat) :
    b.load? key token = (b.lane key).loads.find? fun l => l.token = token := by
  rw [load?, lane, loadsOf, List.find?_filter]
  refine congrArg (fun p => b.loads.find? p) (funext fun l => ?_)
  simp [isLoad]

theorem loadsOf_removeLoad (b : Board) (key : String) (token : Nat) (k : String) :
    (b.removeLoad key token).loadsOf k =
      if k = key then (b.loadsOf k).filter fun l => l.token ≠ token else b.loadsOf k := by
  rw [removeLoad, loadsOf, loadsOf, List.filter_filter]
  by_cases hk : k = key
  · subst hk
    rw [if_pos rfl, List.filter_filter]
    refine List.filter_congr fun l _ => ?_
    by_cases h : l.key = k <;> simp [isLoad, h]
  · rw [if_neg hk]
    refine List.filter_congr fun l _ => ?_
    by_cases h : l.key = k
    · simp [isLoad, h, hk]
    · simp [h]

theorem lane_abort (b : Board) (key : String) (token : Nat) (k : String) :
    (b.abort key token).lane k =
      if k = key then (b.lane k).abort (some token) else b.lane k := by
  rw [abort]
  cases hl : b.load? key token with
  | some l =>
    have hloads := b.loadsOf_removeLoad key token k
    by_cases hk : k = key
    · rw [if_pos hk] at hloads ⊢
      refine Lane.ext rfl rfl rfl (hloads.trans (List.filter_congr fun y _ => ?_))
      simp [eq_comm]
    · rw [if_neg hk] at hloads ⊢
      exact Lane.ext rfl rfl rfl hloads
  | none =>
    -- There is no such load, so taking it off the lane takes nothing off.
    by_cases hk : k = key
    · subst hk
      rw [load?_eq_find?, List.find?_eq_none] at hl
      rw [if_pos rfl]
      refine Lane.ext rfl rfl rfl (List.filter_eq_self.mpr fun y hy => ?_).symm
      have hne : y.token ≠ token := by simpa using hl y hy
      simpa using hne.symm
    · simp [hk]

theorem lane_abort? (b : Board) (key : String) (token : Option Nat) (k : String) :
    (b.abort? key token).lane k = if k = key then (b.lane k).abort token else b.lane k := by
  cases token with
  | none => simp [abort?, Lane.abort]
  | some t => exact b.lane_abort key t k

theorem lane_finish (b : Board) (key : String) (token : Nat) (records : Option (List Json))
    (k : String) :
    (b.finish key token records).lane k =
      if k = key then (b.lane k).finish token records else b.lane k := by
  have hfind := b.load?_eq_find? key token
  rw [finish]
  cases hl : b.load? key token with
  | none =>
    rw [hl] at hfind
    by_cases hk : k = key
    · subst hk
      rw [if_pos rfl, Lane.finish, ← hfind]
    · rw [if_neg hk]
  | some l =>
    rw [hl] at hfind
    have hslot := b.store.slot?_finishLoad key token (resultOf l.binding records) k
    have hloads := b.loadsOf_removeLoad key token k
    by_cases hk : k = key
    · subst hk
      rw [if_pos rfl] at hslot hloads ⊢
      rw [Lane.finish, ← hfind]
      exact Lane.ext rfl hslot rfl hloads
    · rw [if_neg hk] at hslot hloads ⊢
      exact Lane.ext rfl hslot rfl hloads

/-! ### Links -/

theorem lane_clear (b : Board) (key k : String) :
    ({ b with store := b.store.clear key } : Board).lane k =
      if k = key then { b.lane k with slot := (b.lane k).slot.map (.renew {}) } else b.lane k := by
  have hslot := b.store.slot?_clear key k
  by_cases hk : k = key
  · rw [if_pos hk] at hslot ⊢
    exact Lane.ext rfl hslot rfl rfl
  · rw [if_neg hk] at hslot ⊢
    exact Lane.ext rfl hslot rfl rfl

theorem lane_applyParent (b : Board) (l : Link) (v : Json) (k : String) :
    (b.applyParent l.child l.binding v).1.lane k =
      if k = l.child then
        { b.lane k with
          cell := (b.lane k).cell.map fun c => c.write .null
          slot := (b.lane k).slot.map (.renew (if v.isEmpty then {} else .underWay))
          loads := (b.lane k).loads ++ ((b.lane k).renewal l v).toList }
      else b.lane k := by
  have hpublish := b.lane_publish l.child .null k
  rw [applyParent]
  cases hv : v.isEmpty with
  | true =>
    refine ((b.publish l.child .null).lane_clear l.child k).trans ?_
    rw [hpublish]
    by_cases hk : k = l.child <;> simp [hk, Lane.write, Lane.renewal, hv]
  | false =>
    refine ((b.publish l.child .null).lane_start l.child l.binding (some v) k).trans ?_
    rw [hpublish]
    by_cases hk : k = l.child <;> simp [hk, Lane.write, Lane.start, Lane.renewal, hv]

theorem applyParent_token (b : Board) (l : Link) (v : Json) :
    (b.applyParent l.child l.binding v).2 =
      ((b.lane l.child).renewal l v).map Load.token := by
  rw [applyParent, Lane.renewal]
  cases hv : v.isEmpty with
  | true => rfl
  | false =>
    refine ((b.publish l.child .null).start_token l.child l.binding (some v)).trans ?_
    rw [if_neg (by simp), Option.map_map]
    rfl

theorem start_links (b : Board) (key : String) (binding : Binding) (dependency : Option Json) :
    (b.start key binding dependency).1.links = b.links := by
  rw [start]
  cases b.store.beginLoad key with
  | mk store token => cases token <;> rfl

theorem applyParent_links (b : Board) (child : String) (binding : Binding) (v : Json) :
    (b.applyParent child binding v).1.links = b.links := by
  rw [applyParent]
  cases v.isEmpty with
  | true => rfl
  | false => exact start_links ..

theorem abort?_links (b : Board) (key : String) (token : Option Nat) :
    (b.abort? key token).links = b.links := by
  cases token with
  | none => rfl
  | some t =>
    rw [abort?, abort]
    split <;> rfl

/-- **What the description of a set cell asks of a board**: at most one link leads to a
cell, the cell is there, and the link does not come from the cell itself. -/
structure Wired (b : Board) : Prop where
  /-- At most one link leads to a cell. -/
  children : (b.links.map Link.child).Nodup
  /-- Links lead to cells. -/
  alive : ∀ l ∈ b.links, b.isAlive l.child = true
  /-- No link leads from a cell to itself. -/
  apart : ∀ l ∈ b.links, l.parent ≠ l.child

section Links

variable {b : Board} {l : Link} {k : String} {i : Nat}

theorem linkTo?_eq_some (hb : (b.links.map Link.child).Nodup) :
    b.linkTo? k = some l ↔ l ∈ b.links ∧ l.child = k := find?_key_eq_some hb

/-- Changing one link is changing the link that leads to its child. -/
theorem modify_links_eq_map (hb : (b.links.map Link.child).Nodup) (hi : b.links[i]? = some l)
    (f : Link → Link) :
    b.links.modify i f = b.links.map fun x => if x.child = l.child then f x else x := by
  refine List.ext_getElem? fun j => ?_
  rw [List.getElem?_modify, List.getElem?_map]
  cases hj : b.links[j]? with
  | none => rfl
  | some x =>
    by_cases hij : i = j
    · subst hij
      obtain rfl : l = x := Option.some.inj (hi.symm.trans hj)
      simp
    · -- Another link with the same child would be a second one that leads to it.
      have hne : x.child ≠ l.child := by
        intro hc
        have hlt : i < (b.links.map Link.child).length := by
          rw [List.length_map]
          exact (List.getElem?_eq_some_iff.mp hi).1
        refine hij ((List.getElem?_inj hlt hb).mp ?_)
        rw [List.getElem?_map, List.getElem?_map, hi, hj, Option.map_some, Option.map_some, hc]
      simp [hij, hne]

theorem find?_modify_links (hb : (b.links.map Link.child).Nodup) (hi : b.links[i]? = some l)
    (token : Option Nat) :
    ((b.links.modify i fun l => { l with inFlight := token }).find? fun x => x.child = k) =
      if k = l.child then some { l with inFlight := token } else b.linkTo? k := by
  have hsame : ((fun x : Link => decide (x.child = k)) ∘
      fun x => if x.child = l.child then { x with inFlight := token } else x) =
        fun x => decide (x.child = k) := by
    funext x
    by_cases hx : x.child = l.child <;> simp [hx]
  rw [modify_links_eq_map hb hi, List.find?_map, hsame]
  by_cases hk : k = l.child
  · have hl : b.linkTo? k = some l :=
      (linkTo?_eq_some hb).mpr ⟨List.mem_of_getElem? hi, hk.symm⟩
    rw [← linkTo?, hl]
    simp [hk]
  · rw [if_neg hk, ← linkTo?]
    cases hx : b.linkTo? k with
    | none => rfl
    | some x =>
      have hne : x.child ≠ l.child := fun h => hk (((linkTo?_eq_some hb).mp hx).2.symm.trans h)
      simp [hne]

theorem lane_withLinks (b : Board) (links : List Link) (k : String) :
    ({ b with links } : Board).lane k =
      { b.lane k with link := links.find? fun l => l.child = k } := rfl

/-- **A value goes along one link**: the child at its end is cascaded, and nothing else
happens. -/
theorem lane_follow (hb : b.Wired) (hi : b.links[i]? = some l) (v : Json) (k : String) :
    (follow v b i).lane k = if k = l.child then (b.lane k).cascade v else b.lane k := by
  have hmem := List.mem_of_getElem? hi
  have hlink : (b.lane l.child).link = some l :=
    (linkTo?_eq_some hb.children).mpr ⟨hmem, rfl⟩
  rw [follow, hi]
  simp only [hb.alive l hmem, Bool.not_true, Bool.false_eq_true, if_false, applyParent_token]
  -- From the last to the first: the link notes the new load, the old one is aborted, and
  -- the child has lost its value and its choices.
  rw [lane_withLinks, lane_abort?, lane_applyParent, abort?_links, applyParent_links,
    find?_modify_links hb.children hi]
  by_cases hk : k = l.child
  · subst hk
    simp only [if_true]
    rw [Lane.cascade, hlink]
    rfl
  · simp only [hk, if_false]
    rfl

end Links

/-! ### What stays as it is

The links of a board are walked one by one, and each step changes the link that it walks
along. What no step changes is the **frame** of the board. -/

/-- The cells with whether they are still there and with what they start with. -/
def roster (b : Board) : List (String × Bool × Json × List Validator) :=
  b.cells.map fun e => (e.1, e.2.isAlive, e.2.cell.initial, e.2.cell.chain)

/-- Where the links come from, where they lead, and what is loaded along them. -/
def wiring (b : Board) : List (String × String × Binding) :=
  b.links.map fun l => (l.parent, l.child, l.binding)

/-- What stays as it is while values are written and loads come to their end. -/
structure Frame where
  /-- Which cells there are. -/
  roster : List (String × Bool × Json × List Validator)
  /-- Which keys have a place for choices. -/
  slots : List String
  /-- Which links there are. -/
  wiring : List (String × String × Binding)

/-- What stays as it is on a board. -/
def frame (b : Board) : Frame := ⟨b.roster, b.store.keys, b.wiring⟩

theorem isAlive_eq_isSome (b : Board) (key : String) :
    b.isAlive key = (b.lane key).cell.isSome := rfl

/-- What a cell starts with can be told from the roster. -/
theorem map_cell?_eq_roster (b : Board) (k : String) :
    (b.cell? k).map (fun c => (c.initial, c.chain)) =
      ((b.roster.lookup k).filter fun x => x.1).map fun x => x.2 := by
  have hlook : b.roster.lookup k =
      (b.cells.lookup k).map fun x => (x.isAlive, x.cell.initial, x.cell.chain) :=
    lookup_map_keyed b.cells (fun _ x => (x.isAlive, x.cell.initial, x.cell.chain)) k
  rw [hlook, cell?]
  cases b.cells.lookup k with
  | none => rfl
  | some x => cases hx : x.isAlive <;> simp [Option.filter, hx]

/-- Where a link leads to a cell from can be told from the wiring. -/
theorem map_linkTo?_eq_wiring (b : Board) (k : String) :
    (b.linkTo? k).map (fun l => (l.parent, l.child, l.binding)) =
      b.wiring.find? fun w => w.2.1 = k := by
  rw [wiring, List.find?_map]
  rfl

section Frame

variable {b b' : Board}

theorem roster_of_frame (h : b'.frame = b.frame) : b'.roster = b.roster :=
  congrArg Frame.roster h

theorem keys_of_frame (h : b'.frame = b.frame) : b'.store.keys = b.store.keys :=
  congrArg Frame.slots h

theorem wiring_of_frame (h : b'.frame = b.frame) : b'.wiring = b.wiring :=
  congrArg Frame.wiring h

theorem map_cell?_of_frame (h : b'.frame = b.frame) (k : String) :
    (b'.cell? k).map (fun c => (c.initial, c.chain)) =
      (b.cell? k).map fun c => (c.initial, c.chain) := by
  rw [map_cell?_eq_roster, map_cell?_eq_roster, roster_of_frame h]

theorem map_linkTo?_of_frame (h : b'.frame = b.frame) (k : String) :
    (b'.linkTo? k).map (fun l => (l.parent, l.child, l.binding)) =
      (b.linkTo? k).map fun l => (l.parent, l.child, l.binding) := by
  rw [map_linkTo?_eq_wiring, map_linkTo?_eq_wiring, wiring_of_frame h]

theorem isAlive_of_frame (h : b'.frame = b.frame) (k : String) :
    b'.isAlive k = b.isAlive k := by
  have hs := congrArg Option.isSome (map_cell?_of_frame h k)
  rwa [Option.isSome_map, Option.isSome_map] at hs

theorem initial_of_frame (h : b'.frame = b.frame) (k : String) :
    (b'.cell? k).map Cell.initial = (b.cell? k).map Cell.initial := by
  have hi := congrArg (Option.map Prod.fst) (map_cell?_of_frame h k)
  rwa [Option.map_map, Option.map_map] at hi

theorem isSome_slot_of_frame (h : b'.frame = b.frame) (k : String) :
    (b'.lane k).slot.isSome = (b.lane k).slot.isSome := by
  rw [Bool.eq_iff_iff]
  refine (ChoiceStore.isSome_slot?_iff b'.store k).trans ?_
  rw [keys_of_frame h]
  exact (ChoiceStore.isSome_slot?_iff b.store k).symm

/-- Where a link leads is a matter of the frame. -/
theorem child_of_frame (h : b'.frame = b.frame) (i : Nat) :
    b'.links[i]?.map Link.child = b.links[i]?.map Link.child := by
  have hw := congrArg (fun ws => ws[i]?.map fun w => w.2.1) (wiring_of_frame h)
  simpa [wiring, List.getElem?_map, Option.map_map, Function.comp_def] using hw

/-- Being wired is a matter of the frame. -/
theorem Wired.of_frame (hb : b.Wired) (h : b'.frame = b.frame) : b'.Wired := by
  have hw : b'.wiring = b.wiring := wiring_of_frame h
  have hmem : ∀ l' ∈ b'.links, ∃ l ∈ b.links, l.parent = l'.parent ∧ l.child = l'.child := by
    intro l' hl'
    have hin : (l'.parent, l'.child, l'.binding) ∈ b.wiring := hw ▸ List.mem_map_of_mem hl'
    obtain ⟨l, hl, heq⟩ := List.mem_map.mp hin
    simp only [Prod.mk.injEq] at heq
    exact ⟨l, hl, heq.1, heq.2.1⟩
  refine ⟨?_, fun l' hl' => ?_, fun l' hl' => ?_⟩
  · have hc := congrArg (List.map fun w => w.2.1) hw
    rw [wiring, wiring, List.map_map, List.map_map] at hc
    exact (congrArg List.Nodup hc).mpr hb.children
  · obtain ⟨l, hl, -, hc⟩ := hmem l' hl'
    rw [isAlive_of_frame h, ← hc]
    exact hb.alive l hl
  · obtain ⟨l, hl, hp, hc⟩ := hmem l' hl'
    rw [← hp, ← hc]
    exact hb.apart l hl

end Frame

theorem roster_publish (b : Board) (key : String) (v : Json) :
    (b.publish key v).roster = b.roster := by
  refine List.map_map.trans (List.map_congr_left fun e _ => ?_)
  simp only [Function.comp]
  split <;> rfl

@[simp] theorem frame_publish (b : Board) (key : String) (v : Json) :
    (b.publish key v).frame = b.frame := by
  rw [frame, roster_publish]
  rfl

@[simp] theorem frame_start (b : Board) (key : String) (binding : Binding)
    (dependency : Option Json) : (b.start key binding dependency).1.frame = b.frame := by
  have hkeys := b.store.keys_beginLoad key
  rw [start]
  cases hs : b.store.beginLoad key with
  | mk store token =>
    rw [hs] at hkeys
    cases token with
    | none => rfl
    | some t => exact congrArg (fun keys => Frame.mk b.roster keys b.wiring) hkeys

theorem frame_clear (b : Board) (key : String) :
    ({ b with store := b.store.clear key } : Board).frame = b.frame :=
  congrArg (fun keys => Frame.mk b.roster keys b.wiring) (b.store.keys_modify key _)

theorem frame_applyParent (b : Board) (child : String) (binding : Binding) (v : Json) :
    (b.applyParent child binding v).1.frame = b.frame := by
  rw [applyParent]
  cases v.isEmpty with
  | true => exact (frame_clear ..).trans (frame_publish b child .null)
  | false => exact (frame_start ..).trans (frame_publish b child .null)

theorem frame_abort? (b : Board) (key : String) (token : Option Nat) :
    (b.abort? key token).frame = b.frame := by
  cases token with
  | none => rfl
  | some t =>
    rw [abort?, abort]
    split <;> rfl

/-- What a link has started is no matter of the frame. -/
theorem frame_withLinks (b : Board) (i : Nat) (token : Option Nat) :
    ({ b with links := b.links.modify i fun l => { l with inFlight := token } } : Board).frame =
      b.frame := by
  have hwiring : ({ b with
      links := b.links.modify i fun l => { l with inFlight := token } } : Board).wiring =
        b.wiring := by
    change List.map _ (List.modify ..) = List.map _ _
    refine List.ext_getElem? fun j => ?_
    rw [List.getElem?_map, List.getElem?_map, List.getElem?_modify]
    cases b.links[j]? with
    | none => rfl
    | some x => by_cases hij : i = j <;> simp [hij]
  exact congrArg (Frame.mk b.roster b.store.keys) hwiring

theorem frame_follow (b : Board) (v : Json) (i : Nat) : (follow v b i).frame = b.frame := by
  rw [follow]
  cases hi : b.links[i]? with
  | none => rfl
  | some l =>
    cases hl : b.isAlive l.child with
    | false => simp [hl]
    | true =>
      simp only [hl, Bool.not_true, Bool.false_eq_true, if_false]
      exact (frame_withLinks ..).trans ((frame_abort? ..).trans (frame_applyParent ..))

theorem frame_foldl_follow (b : Board) (v : Json) (is : List Nat) :
    (is.foldl (follow v) b).frame = b.frame := by
  induction is generalizing b with
  | nil => rfl
  | cons i is ih => exact (ih _).trans (frame_follow b v i)

@[simp] theorem frame_set (b : Board) (p : String) (v : Json) : (b.set p v).frame = b.frame :=
  (frame_foldl_follow ..).trans (frame_publish b p v)

@[simp] theorem frame_finish (b : Board) (key : String) (token : Nat)
    (records : Option (List Json)) : (b.finish key token records).frame = b.frame := by
  rw [finish]
  cases b.load? key token with
  | none => rfl
  | some l =>
    exact congrArg (fun keys => Frame.mk b.roster keys b.wiring) (b.store.keys_finishLoad ..)

/-! ### A set cell -/

section Set

variable {b : Board}

theorem lane_follow_of_ne (hb : b.Wired) {i : Nat} {k : String}
    (hne : b.links[i]?.map Link.child ≠ some k) (v : Json) :
    (follow v b i).lane k = b.lane k := by
  cases hi : b.links[i]? with
  | none => rw [follow, hi]
  | some l =>
    rw [hi] at hne
    rw [lane_follow hb hi, if_neg fun hk => hne (congrArg some hk.symm)]

/-- Values along links to other cells leave a lane as it is. -/
theorem lane_foldl_follow_of_ne (hb : b.Wired) {is : List Nat} {k : String}
    (hne : ∀ i ∈ is, b.links[i]?.map Link.child ≠ some k) (v : Json) :
    (is.foldl (follow v) b).lane k = b.lane k := by
  induction is generalizing b with
  | nil => rfl
  | cons i is ih =>
    have hrest : ∀ j ∈ is, (follow v b i).links[j]?.map Link.child ≠ some k := by
      intro j hj
      rw [child_of_frame (frame_follow b v i)]
      exact hne j (List.mem_cons_of_mem i hj)
    have hb' := hb.of_frame (frame_follow b v i)
    exact (ih hb' hrest).trans (lane_follow_of_ne hb (hne i List.mem_cons_self) v)

/-- **Values along several links**: the child at the end of one of them is cascaded
once, for no other of them leads to it. -/
theorem lane_foldl_follow_of_mem (hb : b.Wired) {is : List Nat} (his : is.Nodup) {i : Nat}
    (hmem : i ∈ is) {l : Link} (hi : b.links[i]? = some l) (v : Json) :
    (is.foldl (follow v) b).lane l.child = (b.lane l.child).cascade v := by
  -- The walk is split at the link, for what comes before and after it leads elsewhere.
  obtain ⟨before, after, rfl⟩ := List.append_of_mem hmem
  have hother : ∀ j, j ≠ i → b.links[j]?.map Link.child ≠ some l.child := by
    intro j hj hc
    have hlt : i < (b.links.map Link.child).length := by
      rw [List.length_map]
      exact (List.getElem?_eq_some_iff.mp hi).1
    refine hj ((List.getElem?_inj hlt hb.children).mp ?_).symm
    rw [List.getElem?_map, List.getElem?_map, hc, hi, Option.map_some]
  have hnodup := List.nodup_append.mp his
  have hbefore : ∀ j ∈ before, j ≠ i := fun j hj => hnodup.2.2 j hj i List.mem_cons_self
  have hafter : ∀ j ∈ after, j ≠ i := fun j hj h =>
    (List.nodup_cons.mp hnodup.2.1).1 (h ▸ hj)
  have hframe := frame_foldl_follow b v before
  have hb' := hb.of_frame hframe
  have hi' : ∃ l', (before.foldl (follow v) b).links[i]? = some l' ∧ l'.child = l.child := by
    have h := child_of_frame hframe i
    rw [hi] at h
    exact Option.map_eq_some_iff.mp h
  obtain ⟨l', hl', hc⟩ := hi'
  rw [List.foldl_append, List.foldl_cons,
    lane_foldl_follow_of_ne (hb'.of_frame (frame_follow _ v i)), lane_follow hb' hl',
    if_pos hc.symm, lane_foldl_follow_of_ne hb fun j hj => hother j (hbefore j hj)]
  intro j hj
  rw [child_of_frame (frame_follow _ v i), child_of_frame hframe]
  exact hother j (hafter j hj)

theorem mem_linksOf (b : Board) (p : String) (i : Nat) :
    i ∈ b.linksOf p ↔ ∃ l, b.links[i]? = some l ∧ l.parent = p := by
  rw [linksOf, List.mem_filter, List.mem_range, decide_eq_true_iff, Option.map_eq_some_iff]
  constructor
  · rintro ⟨-, l, hl, hp⟩
    exact ⟨l, hl, hp⟩
  · rintro ⟨l, hl, hp⟩
    exact ⟨(List.getElem?_eq_some_iff.mp hl).1, l, hl, hp⟩

/-- **What happens when a cell is set**: its lane takes the value, the lanes of its
children are cascaded, and all others stay as they are. -/
theorem lane_set (hb : b.Wired) (p : String) (v : Json) (k : String) :
    (b.set p v).lane k =
      if k = p then (b.lane k).write v
      else if (b.lane k).link.map Link.parent = some p then (b.lane k).cascade v
      else b.lane k := by
  have hpub : (b.publish p v).Wired := hb.of_frame (frame_publish b p v)
  have hlinks : (b.publish p v).links = b.links := rfl
  have hnodup : (b.linksOf p).Nodup := List.nodup_range.filter _
  rw [set]
  by_cases hkid : (b.lane k).link.map Link.parent = some p
  · -- The cell is a child of the set one, so it is not the set one itself.
    obtain ⟨l, hl, hp⟩ := Option.map_eq_some_iff.mp hkid
    obtain ⟨hmem, rfl⟩ := (linkTo?_eq_some hb.children).mp hl
    obtain ⟨i, hi⟩ := List.mem_iff_getElem?.mp hmem
    have hne : l.child ≠ p := fun h => hb.apart l hmem (hp.trans h.symm)
    rw [if_neg hne, if_pos hkid,
      lane_foldl_follow_of_mem hpub hnodup ((mem_linksOf b p i).mpr ⟨l, hi, hp⟩) hi,
      lane_publish, if_neg hne]
  · rw [lane_foldl_follow_of_ne hpub, lane_publish, if_neg hkid]
    intro i hi hc
    obtain ⟨l, hl, hp⟩ := (mem_linksOf b p i).mp hi
    rw [hlinks, hl, Option.map_some, Option.some.injEq] at hc
    refine hkid (Option.map_eq_some_iff.mpr ⟨l, ?_, hp⟩)
    exact (linkTo?_eq_some hb.children).mpr ⟨List.mem_of_getElem? hl, hc⟩

end Set

end Board

end SmartForm
