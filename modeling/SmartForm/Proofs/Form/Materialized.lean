import SmartForm.Proofs.Form.Patching
import SmartForm.Proofs.Form.Rebuild
import SmartForm.Proofs.Schema.Places

/-!
# From a schema to a form

Of all fields of a schema those **count** whose key stands at no earlier place of the half
of the schema that is shown (`SmartForm.FieldSpec.CountsAt`). A form that is loaded from the
schema is made of them and of nothing else (`SmartForm.FormEngine.load_of_counting`): its keys,
its controls, its choices, the loads it begins with and the links in it are theirs, and
the keys are the same in all of its parts from then on.

The one thing to know is that leaving out repeated keys and the order of places go together.
A walk in the order of places meets a key first where it stands first, so what
`SmartForm.FieldSpec.firsts` keeps of the walk can be told from the places alone
(`SmartForm.FieldSpec.counting_firsts`).
-/

namespace SmartForm

namespace FieldSpec

/-! ### The fields that count -/

/-- A field stands at a place of some rows, and its key at no earlier one. -/
def CountsAt (rows : List (Row FieldSpec)) (f : FieldSpec) (p : Place) : Prop :=
  atPlace? rows p = some f ∧ ∀ q < p, ∀ g, atPlace? rows q = some g → g.key ≠ f.key

/-- **Fields are those that count** in some rows, in the order of the document. -/
def Counting (rows : List (Row FieldSpec)) (ds : List FieldSpec) : Prop :=
  ∃ ps : List Place, ps.Pairwise (· < ·) ∧ (∀ p, p ∈ ps ↔ ∃ f, CountsAt rows f p) ∧
    ps.map (atPlace? rows) = ds.map some

/-- Of fields that are met at places, those are kept whose key was met at no earlier one. -/
theorem exists_sublist_firsts {zs : List (Place × FieldSpec)}
    (hzs : zs.Pairwise fun z w => z.1 < w.1) :
    ∃ ys : List (Place × FieldSpec), ys.Sublist zs ∧ ys.map Prod.snd = firsts (zs.map Prod.snd) ∧
      ∀ z, z ∈ ys ↔ z ∈ zs ∧ ∀ w ∈ zs, w.1 < z.1 → w.2.key ≠ z.2.key := by
  induction zs with
  | nil => exact ⟨[], List.Sublist.slnil, rfl, fun z => by simp⟩
  | cons z zs ih =>
    obtain ⟨hz, hrest⟩ := List.pairwise_cons.mp hzs
    obtain ⟨ys, hsub, hmap, hmem⟩ := ih hrest
    refine ⟨z :: ys.filter fun w => w.2.key ≠ z.2.key, (List.filter_sublist.trans hsub).cons_cons z,
      ?_, fun w => ?_⟩
    · rw [List.map_cons, List.map_cons, firsts, ← hmap, List.filter_map]
      rfl
    · rw [List.mem_cons, List.mem_filter, hmem]
      constructor
      · rintro (rfl | ⟨⟨hw, hfirst⟩, hne⟩)
        · refine ⟨List.mem_cons_self, fun x hx hlt => ?_⟩
          rcases List.mem_cons.mp hx with rfl | hx
          · exact absurd hlt (List.lt_irrefl _)
          · exact absurd hlt (List.lt_asymm (hz x hx))
        · refine ⟨List.mem_cons_of_mem z hw, fun x hx hlt => ?_⟩
          rcases List.mem_cons.mp hx with rfl | hx
          · exact fun hkey => of_decide_eq_true hne hkey.symm
          · exact hfirst x hx hlt
      · rintro ⟨hw, hfirst⟩
        rcases List.mem_cons.mp hw with rfl | hw
        · exact Or.inl rfl
        · have hne := hfirst z List.mem_cons_self (hz w hw)
          exact Or.inr ⟨⟨hw, fun x hx => hfirst x (List.mem_cons_of_mem z hx)⟩,
            decide_eq_true (Ne.symm hne)⟩

variable {rows : List (Row FieldSpec)} {ds : List FieldSpec}

/-- **The fields that count are the first ones of the walk.** -/
theorem counting_firsts (rows : List (Row FieldSpec)) :
    Counting rows (firsts (leavesOfRows rows)) := by
  obtain ⟨ps, hps, hmem, hmap⟩ := lists_leavesOfRows rows
  -- All places of fields, each with its field.
  let zs := ps.filterMap fun p => (atPlace? rows p).map fun f => (p, f)
  have hzmem : ∀ z : Place × FieldSpec, z ∈ zs ↔ atPlace? rows z.1 = some z.2 := by
    rintro ⟨p, f⟩
    constructor
    · intro hz
      obtain ⟨q, -, hq⟩ := List.mem_filterMap.mp hz
      obtain ⟨g, hg, heq⟩ := Option.map_eq_some_iff.mp hq
      cases heq
      exact hg
    · intro hf
      have hp : p ∈ ps := (hmem p).mpr (Option.isSome_iff_exists.mpr ⟨f, hf⟩)
      refine List.mem_filterMap.mpr ⟨p, hp, ?_⟩
      rw [hf]
      rfl
  have hzs : zs.Pairwise fun z w => z.1 < w.1 := by
    refine List.pairwise_filterMap.mpr (hps.imp fun hlt z hz w hw => ?_)
    obtain ⟨-, -, rfl⟩ := Option.map_eq_some_iff.mp hz
    obtain ⟨-, -, rfl⟩ := Option.map_eq_some_iff.mp hw
    exact hlt
  have hfields : zs.map Prod.snd = leavesOfRows rows := by
    have hsnd : zs.map Prod.snd = (ps.map (atPlace? rows)).filterMap id := by
      rw [List.map_filterMap, List.filterMap_map]
      refine List.filterMap_congr fun p _ => ?_
      cases h : atPlace? rows p <;> simp [h]
    rw [hsnd, hmap]
    simp [List.filterMap_map]
  obtain ⟨ys, hsub, hfirsts, hymem⟩ := exists_sublist_firsts hzs
  refine ⟨ys.map Prod.fst, ?_, fun p => ?_, ?_⟩
  · exact List.pairwise_map.mpr (hzs.sublist hsub)
  · rw [List.mem_map]
    constructor
    · rintro ⟨⟨p, f⟩, hz, rfl⟩
      obtain ⟨hz, hfirst⟩ := (hymem _).mp hz
      exact ⟨f, (hzmem _).mp hz, fun q hq g hg => hfirst (q, g) ((hzmem _).mpr hg) hq⟩
    · rintro ⟨f, hf, hfirst⟩
      refine ⟨(p, f), (hymem _).mpr ⟨(hzmem _).mpr hf, ?_⟩, rfl⟩
      exact fun z hz hlt => hfirst z.1 hlt z.2 ((hzmem z).mp hz)
  · rw [← hfields, ← hfirsts, List.map_map, List.map_map]
    exact List.map_congr_left fun z hz => (hzmem z).mp (hsub.subset hz)

/-- There is one list of the fields that count. -/
theorem Counting.unique (h : Counting rows ds) {ds' : List FieldSpec} (h' : Counting rows ds') :
    ds' = ds := by
  obtain ⟨ps, hps, hmem, hmap⟩ := h
  obtain ⟨ps', hps', hmem', hmap'⟩ := h'
  have hne : ∀ {p q : Place}, p < q → p ≠ q := fun hlt heq => List.lt_irrefl _ (heq ▸ hlt)
  have hperm : ps'.Perm ps :=
    (List.perm_ext_iff_of_nodup (hps'.imp hne) (hps.imp hne)).mpr fun p =>
      (hmem' p).trans (hmem p).symm
  have heq : ps' = ps :=
    hperm.eq_of_pairwise (fun p q _ _ hpq hqp => absurd hqp (List.lt_asymm hpq)) hps' hps
  rw [heq, hmap] at hmap'
  exact (List.map_injective_iff.mpr (Option.some_injective _) hmap').symm

theorem Counting.nodup_keys (h : Counting rows ds) : (ds.map FieldSpec.key).Nodup := by
  rw [(counting_firsts rows).unique h]
  exact nodup_keys_firsts _

end FieldSpec

namespace Form

open FieldSpec

variable {ds : List FieldSpec} {f : Form}

/-! ### A new form -/

/-- **What a form is when it has just been made** of fields with different keys. -/
structure MadeOf (ds : List FieldSpec) (f : Form) : Prop where
  /-- Every field has a control with the default value and the rules of the field. -/
  control : ∀ d ∈ ds, f.control? d.key = some (.start d.initial (Validator.ofField d))
  /-- The choices of every field are its own, unless they are being loaded. -/
  choices : ∀ d ∈ ds, f.state? d.key =
    some (if d.immediateBinding?.isSome then .underWay else .ofChoices d.choices)
  /-- The loads under way are those of fields whose choices wait for nothing. -/
  loads : ∀ l, l ∈ f.board.loads ↔
    ∃ d ∈ ds, ∃ b, d.immediateBinding? = some b ∧ l = ⟨d.key, 1, b, none⟩
  /-- The links are those of fields whose choices wait for another field. -/
  links : ∀ l, l ∈ f.board.links ↔ ∃ d ∈ ds, ∃ b p, d.dependentBinding? = some (b, p) ∧
    p ≠ d.key ∧ p ∈ ds.map FieldSpec.key ∧ l = ⟨p, d.key, b, none⟩

theorem linkOf?_eq_some {fields : List FieldSpec} {d : FieldSpec} {l : Link} :
    linkOf? fields d = some l ↔ ∃ b p, d.dependentBinding? = some (b, p) ∧ p ≠ d.key ∧
      p ∈ fields.map FieldSpec.key ∧ l = ⟨p, d.key, b, none⟩ := by
  rw [linkOf?, Option.map_eq_some_iff]
  constructor
  · rintro ⟨⟨b, p⟩, ha, rfl⟩
    obtain ⟨hb, hp, hknown⟩ := attachment?_eq_some.mp ha
    exact ⟨b, p, hb, hp, withKey?_isSome_iff.mp hknown, rfl⟩
  · rintro ⟨b, p, hb, hp, hknown, rfl⟩
    exact ⟨(b, p), attachment?_eq_some.mpr ⟨hb, hp, withKey?_isSome_iff.mpr hknown⟩, rfl⟩

theorem lane_build_of_mem (hds : (ds.map FieldSpec.key).Nodup) {d : FieldSpec} (hd : d ∈ ds) :
    (build ds).board.lane d.key = opened ds d := by
  rw [lane_build, (withKey?_eq_some_iff hds).mpr ⟨hd, rfl⟩]
  rfl

theorem mem_loads_build (hds : (ds.map FieldSpec.key).Nodup) (l : Load) :
    l ∈ (build ds).board.loads ↔
      ∃ d ∈ ds, ∃ b, d.immediateBinding? = some b ∧ l = ⟨d.key, 1, b, none⟩ := by
  have hlane : l ∈ (build ds).board.loads ↔ l ∈ ((build ds).board.lane l.key).loads := by
    simp [Board.lane, Board.loadsOf]
  have hopened : ∀ d, l ∈ (opened ds d).loads ↔
      ∃ b, d.immediateBinding? = some b ∧ l = ⟨d.key, 1, b, none⟩ := by
    intro d
    cases hb : d.immediateBinding? <;> simp [opened, hb]
  constructor
  · rw [hlane, lane_build]
    intro hl
    cases hd : withKey? ds l.key with
    | none =>
      rw [hd] at hl
      cases hl
    | some d =>
      rw [hd] at hl
      exact ⟨d, mem_of_withKey? hd, (hopened d).mp hl⟩
  · rintro ⟨d, hd, b, hb, rfl⟩
    rw [hlane, lane_build_of_mem hds hd]
    exact (hopened d).mpr ⟨b, hb, rfl⟩

theorem madeOf_build (hds : (ds.map FieldSpec.key).Nodup) : MadeOf ds (build ds) := by
  refine ⟨fun d hd => ?_, fun d hd => ?_, mem_loads_build hds, fun l => ?_⟩
  · exact congrArg Lane.cell (lane_build_of_mem hds hd)
  · have hslot := congrArg (fun x : Lane => x.slot.map fun s => s.current.value)
      (lane_build_of_mem hds hd)
    refine hslot.trans ?_
    rw [opened]
    cases d.immediateBinding? <;> rfl
  · rw [mem_links_build, firsts_eq_self hds]
    exact exists_congr fun d => and_congr_right fun _ => linkOf?_eq_some

/-! ### The same keys everywhere -/

/-- **All parts of a form have the same keys**, and they are those of its fields. -/
structure KeyedBy (ds : List FieldSpec) (f : Form) : Prop where
  /-- The keys are those of the fields, in their order. -/
  keys : f.keys = ds.map FieldSpec.key
  /-- No key stands twice. -/
  nodup : f.keys.Nodup
  /-- Values are written together in an order of all keys. -/
  order : f.applyOrder.Perm f.keys
  /-- There is one control for each key, and it has not been taken away. -/
  controls : f.board.cells.map Prod.fst = f.keys ∧ ∀ e ∈ f.board.cells, e.2.isAlive = true
  /-- There is one place for choices for each key. -/
  slots : f.board.store.keys = f.keys
  /-- There is one value for each key. -/
  values : f.value.map Prod.fst = f.keys
  /-- What has a key can be found under it, and nothing else can. -/
  found : ∀ k, ((f.definition? k).isSome ↔ k ∈ f.keys) ∧ ((f.control? k).isSome ↔ k ∈ f.keys) ∧
    ((f.state? k).isSome ↔ k ∈ f.keys)
  /-- What is found under the key of a field is the field, and a control with the default
  value and the rules of it. -/
  own : ∀ d ∈ ds, f.definition? d.key = some d ∧
    (f.control? d.key).map (fun c => (c.initial, c.chain)) =
      some (d.initial, Validator.ofField d)
  /-- A control reacts to another one where the choices of its field wait for that. -/
  reactions : ∀ p c b, (p, c, b) ∈ f.board.wiring ↔ ∃ d ∈ ds, d.key = c ∧
    d.dependentBinding? = some (b, p) ∧ p ≠ c ∧ p ∈ f.keys

theorem mem_wiring_build (hds : (ds.map FieldSpec.key).Nodup) (p c : String) (b : Binding) :
    (p, c, b) ∈ (build ds).board.wiring ↔ ∃ d ∈ ds, d.key = c ∧
      d.dependentBinding? = some (b, p) ∧ p ≠ c ∧ p ∈ ds.map FieldSpec.key := by
  rw [Board.wiring, List.mem_map]
  constructor
  · rintro ⟨l, hl, heq⟩
    obtain ⟨d, hd, b', p', hb, hp, hknown, rfl⟩ := ((madeOf_build hds).links l).mp hl
    cases heq
    exact ⟨d, hd, rfl, hb, hp, hknown⟩
  · rintro ⟨d, hd, rfl, hb, hp, hknown⟩
    exact ⟨_, ((madeOf_build hds).links _).mpr ⟨d, hd, b, p, hb, hp, hknown, rfl⟩, rfl⟩

/-- **A form that stays steady keeps its keys together.** -/
theorem Steady.keyedBy (hds : (ds.map FieldSpec.key).Nodup) (hf : f.Steady ds) :
    KeyedBy ds f := by
  have hfirsts := firsts_eq_self hds
  have hfields : f.fields = ds := hf.fields_eq.trans hfirsts
  have hkeys : f.keys = ds.map FieldSpec.key := congrArg (List.map FieldSpec.key) hfields
  have hroster :
      f.board.roster = ds.map fun d => (d.key, true, d.initial, Validator.ofField d) := by
    rw [Board.roster_of_frame hf.frame_eq, roster_build, hfirsts]
  have hknown : ∀ k, (withKey? ds k).isSome ↔ k ∈ f.keys := fun k => by
    rw [withKey?_isSome_iff, hkeys]
  refine ⟨hkeys, hkeys ▸ hds, ?_, ⟨?_, fun e he => hf.isAlive_of_mem he⟩, ?_, ?_,
    fun k => ⟨?_, ?_, ?_⟩, fun d hd => ⟨?_, ?_⟩, fun p c b => ?_⟩
  · rw [hf.order_eq, hkeys, hfirsts]
    exact applyOrder_perm ds
  · have hcells := congrArg (List.map Prod.fst) hroster
    rw [Board.roster, List.map_map, List.map_map] at hcells
    exact hcells.trans hkeys.symm
  · rw [Board.keys_of_frame hf.frame_eq, keys_build, hfirsts, hkeys]
  · rw [hf.keys_value, hfirsts, hkeys]
  · rw [definition?, hfields]
    exact hknown k
  · have halive : (f.control? k).isSome = (withKey? ds k).isSome := hf.isAlive_eq k
    rw [halive]
    exact hknown k
  · rw [state?_eq_slot, Option.isSome_map]
    have hslot : (f.board.lane k).withoutCell.slot.isSome = (withKey? ds k).isSome :=
      hf.isSome_slot k
    rw [hslot]
    exact hknown k
  · rw [definition?, hfields]
    exact (withKey?_eq_some_iff hds).mpr ⟨hd, rfl⟩
  · have hcontrol := (madeOf_build hds).control d hd
    rw [control?, Board.map_cell?_of_frame hf.frame_eq, ← control?, hcontrol]
    rfl
  · rw [Board.wiring_of_frame hf.frame_eq, mem_wiring_build hds, hkeys]

end Form

namespace FormEngine

open FieldSpec

variable {e : FormEngine} {ds : List FieldSpec}

/-! ### Loading a schema -/

theorem build_firsts (e : FormEngine) (fields : List FieldSpec) :
    e.build (firsts fields) = e.build fields := by
  have hform : Form.build (firsts fields) = Form.build fields := by
    rw [Form.build, firsts_firsts, Form.build]
  rw [build, hform, build]

/-- A form stays steady whatever happens, until another one takes its place. -/
theorem steady_undergo (he : e.form.Steady ds) {h : Happening}
    (hh : ∀ fields, h ≠ .ask (.build fields)) : (e.undergo h).form.Steady ds := by
  cases h with
  | ask ev => exact steady_handle_of_ne he fun fields hev => hh fields (congrArg _ hev)
  | finish r token records =>
    rw [undergo]
    by_cases hr : r.form = e.number
    · rw [modifyForm, if_pos hr]
      exact steady_modify (g := fun b => b.finish r.key token records) he
        (Board.frame_finish ..) (he.sound.finish r.key token records)
    · rw [form_modifyForm_of_ne hr]
      exact he

theorem steady_undergoAll (he : e.form.Steady ds) {hs : List Happening}
    (hhs : ∀ fields, Happening.ask (.build fields) ∉ hs) : (e.undergoAll hs).form.Steady ds := by
  induction hs generalizing e with
  | nil => exact he
  | cons h hs ih =>
    refine ih (steady_undergo he fun fields heq => ?_) fun fields hmem => ?_
    · exact hhs fields (heq ▸ List.mem_cons_self)
    · exact hhs fields (List.mem_cons_of_mem h hmem)

/-- **A form is made of the fields that count**: those of the half of the schema that is
shown, in the order of the document, of which the key stands at no earlier place. Any
other schema in which the same fields count makes the same form in the same engine, so
nothing else in a schema has any effect. When the form is made, the controls, the choices,
the loads and the links are those of these fields. Whatever happens then until another form
takes its place, all parts of the form have the keys of these fields. -/
theorem load_of_counting (e : FormEngine) (s : Schema) :
    ∃ ds, Counting s.activeRows ds ∧
      (∀ s' : Schema, Counting s'.activeRows ds → e.load s' = e.load s) ∧
      e.load s = e.build ds ∧ (e.load s).form.MadeOf ds ∧
      ∀ hs : List Happening, (∀ fields, Happening.ask (.build fields) ∉ hs) →
        ((e.load s).undergoAll hs).form.KeyedBy ds := by
  have hload : ∀ s' : Schema, e.load s' = e.build (firsts s'.fields) := fun s' =>
    (build_firsts e s'.fields).symm
  have hcount : ∀ s' : Schema, Counting s'.activeRows (firsts s'.fields) := fun s' =>
    counting_firsts s'.activeRows
  have hds := (hcount s).nodup_keys
  refine ⟨firsts s.fields, hcount s, fun s' hs' => ?_, hload s, ?_, fun hs hhs => ?_⟩
  · rw [hload, hload, hs'.unique (hcount s')]
  · rw [hload]
    exact Form.madeOf_build hds
  · rw [hload]
    exact (steady_undergoAll (Form.steady_build (firsts s.fields)) hhs).keyedBy hds

end FormEngine

end SmartForm
