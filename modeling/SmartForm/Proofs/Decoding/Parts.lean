import SmartForm.Decoding.Record
import SmartForm.Proofs.Decoding.Stable
import SmartForm.Proofs.Loading.Store

/-!
# Structures that keep what they read

A structure is made of **parts** (`SmartForm.Part`). Each of them can be looked at and be
changed without any change to the others, and what a structure is can be told from its
parts. So a record keeps what it reads as soon as all of its parts do
(`SmartForm.Record.IsMadeOf.keeps`).

Two things have to be arranged for that.

* **A part may be left out.** What is not written is not read again, so a part is left out
  only where it is what the structure has before anything is read.
* **A part may never have been read.** Then it is still what the structure has before
  anything is read, and that is written and read like anything else. So this has to be
  kept as well.

Neither matters where the members of an object stand, nor whether the structure was read
from a list: it is always written as an object.
-/

namespace SmartForm

/-- A part of a structure as it stands in documents. -/
structure Part (α : Type) where
  /-- The name of the member. -/
  name : String
  /-- Whether the member has to be there. -/
  required : Bool
  /-- What kind of value the part is. -/
  kind : Type
  /-- Reads the part. -/
  reader : Reader kind
  /-- The part of a structure. -/
  get : α → kind
  /-- The structure with another part. -/
  set : kind → α → α
  /-- The part as it is written; nothing if it is left out. -/
  write : kind → Option Json

/-- How a member is read: its name, whether it has to be there, and its reader. -/
def Field.reading {α : Type} (f : Field α) : String × Bool × Reader (α → α) :=
  (f.name, f.required, f.read)

namespace Part

variable {α : Type}

/-- How a part is read. -/
def reading (p : Part α) : String × Bool × Reader (α → α) :=
  (p.name, p.required, p.reader.map p.set)

/-- What is written of a part is read again. -/
def Holds (p : Part α) (budget : Nat) (x : p.kind) : Prop :=
  ∀ v, p.write x = some v → p.reader .json budget (.ofJson v) = .ok x

/-- What a part has to keep to, in structures that are `blank` before they are read. -/
structure Lawful (p : Part α) (blank : α) (budget : Nat) : Prop where
  /-- A part is what it was made. -/
  get_set : ∀ x a, p.get (p.set x a) = x
  /-- What is left out need not be there, and is what there is before anything is read. -/
  left_out : ∀ x, p.write x = none → p.required = false ∧ x = p.get blank
  /-- What there is before anything is read is read again. -/
  blank : p.Holds budget (p.get blank)
  /-- What is read is read again. -/
  keeps : ∀ d x, d.Definite → p.reader .json budget d = .ok x → p.Holds budget x

/-- The structure as an object of its parts. -/
def object (parts : List (Part α)) (a : α) : Json :=
  .object (parts.filterMap fun p => (p.write (p.get a)).map fun v => (p.name, v))

end Part

/-- Where no list and no object may be opened, no structure is read. -/
theorem Record.keeps_zero {α : Type} (r : Record α) (write : α → Json) :
    r.read.Keeps write 0 := by
  intro d a hd h
  cases d with
  | bare s => exact hd.elim
  | _ => cases h

/-- **A record is made of parts** that are read like its members. -/
structure Record.IsMadeOf {α : Type} (r : Record α) (parts : List (Part α)) (budget : Nat) :
    Prop where
  /-- The members are read like the parts. -/
  reading : r.fields.map Field.reading = parts.map Part.reading
  /-- No two parts have one name. -/
  names : (parts.map Part.name).Nodup
  /-- All parts are lawful. -/
  lawful : ∀ p ∈ parts, p.Lawful r.blank budget
  /-- No part is changed with another one. -/
  apart : ∀ p ∈ parts, ∀ q ∈ parts, p.name ≠ q.name → ∀ x a, p.get (q.set x a) = p.get a
  /-- Structures with the same parts are the same. -/
  ext : ∀ a b, (∀ p ∈ parts, p.get a = p.get b) → a = b

namespace Record.IsMadeOf

variable {α : Type} {r : Record α} {parts : List (Part α)} {budget : Nat} {a : α}

/-! ### Members and parts -/

theorem exists_part (h : r.IsMadeOf parts budget) {f : Field α} (hf : f ∈ r.fields) :
    ∃ p ∈ parts, p.reading = f.reading :=
  List.mem_map.mp (h.reading ▸ List.mem_map_of_mem hf)

/-- The member that is read for the name of a part. -/
theorem find?_fields (h : r.IsMadeOf parts budget) {p : Part α} (hp : p ∈ parts) :
    ∃ f, (r.fields.find? fun f => f.name = p.name) = some f ∧ f.reading = p.reading := by
  obtain ⟨f, hf, hreading⟩ := List.mem_map.mp (h.reading.symm ▸ List.mem_map_of_mem hp)
  have hnames : r.fields.map Field.name = parts.map Part.name := by
    have := congrArg (List.map Prod.fst) h.reading
    rwa [List.map_map, List.map_map] at this
  have hnodup : (r.fields.map Field.name).Nodup := hnames ▸ h.names
  exact ⟨f, (find?_key_eq_some hnodup).mpr ⟨hf, congrArg Prod.fst hreading⟩, hreading⟩

theorem eq_of_name (h : r.IsMadeOf parts budget) {p q : Part α} (hp : p ∈ parts) (hq : q ∈ parts)
    (hname : p.name = q.name) : p = q := List.inj_on_of_nodup_map h.names hp hq hname

/-! ### Reading -/

/-- All parts of a structure are read again from what is written of them. -/
def Held (parts : List (Part α)) (budget : Nat) (a : α) : Prop :=
  ∀ p ∈ parts, p.Holds budget (p.get a)

/-- A part that has been read is held. -/
theorem held_read (h : r.IsMadeOf parts budget) (ha : Held parts budget a) {f : Field α}
    (hf : f ∈ r.fields) {d : Document} (hd : d.Definite) {set : α → α}
    (hset : f.read .json budget d = .ok set) : Held parts budget (set a) := by
  obtain ⟨p, hp, hreading⟩ := h.exists_part hf
  have hread : f.read = p.reader.map p.set := congrArg (fun x => x.2.2) hreading.symm
  rw [hread] at hset
  obtain ⟨x, hx, rfl⟩ := Reader.map_eq_ok.mp hset
  intro q hq
  by_cases hname : q.name = p.name
  · obtain rfl := h.eq_of_name hq hp hname
    rw [(h.lawful q hq).get_set]
    exact (h.lawful q hq).keeps d x hd hx
  · rw [h.apart q hq p hp hname]
    exact ha q hq

theorem held_readMembers (h : r.IsMadeOf parts budget) {members : List (Option String × Document)}
    (hd : ∀ m ∈ members, m.2.Definite) {met met' : List String} {a' : α}
    (ha : Held parts budget a)
    (hread : r.readMembers .json budget met a members = .ok (met', a')) :
    Held parts budget a' := by
  induction members generalizing met a with
  | nil =>
    cases hread
    exact ha
  | cons m members ih =>
    obtain ⟨hm, hrest⟩ := List.forall_mem_cons.mp hd
    obtain ⟨name, d⟩ := m
    cases name with
    | none => cases hread
    | some name =>
      rw [readMembers] at hread
      split at hread
      · split at hread
        · exact ih hrest ha hread
        · cases hread
      · next f hfind =>
        split at hread
        · cases hread
        · split at hread
          · cases hread
          · next hset =>
            exact ih hrest (h.held_read ha (List.mem_of_find?_eq_some hfind) hm hset) hread

theorem held_readItems (h : r.IsMadeOf parts budget) {fields : List (Field α)}
    (hfields : ∀ f ∈ fields, f ∈ r.fields) {items rest : List Document}
    (hd : ∀ d ∈ items, d.Definite) {closed : Bool} {count : Nat} {a' : α}
    (ha : Held parts budget a)
    (hread : r.readItems .json budget closed count a fields items = .ok (a', rest)) :
    Held parts budget a' := by
  induction fields generalizing items count a with
  | nil =>
    cases hread
    exact ha
  | cons f fields ih =>
    obtain ⟨hf, hfs⟩ := List.forall_mem_cons.mp hfields
    cases items with
    | nil =>
      rw [readItems] at hread
      split at hread
      · cases hread
      · split at hread
        · cases hread
        · exact ih hfs hd ha hread
    | cons d items =>
      obtain ⟨hd, hrest⟩ := List.forall_mem_cons.mp hd
      rw [readItems] at hread
      split at hread
      · cases hread
      · next hset => exact ih hfs hrest (h.held_read ha hf hd hset) hread

/-- **What is read is held**, be it from an object or from a list. -/
theorem held_of_read (h : r.IsMadeOf parts budget) {d : Document} (hd : d.Definite)
    (hread : r.read .json (budget + 1) d = .ok a) : Held parts budget a := by
  have hblank : Held parts budget r.blank := fun p hp => (h.lawful p hp).blank
  cases d with
  | object members closed =>
    rw [Document.Definite, Document.definiteMembers_iff] at hd
    simp only [Record.read, readObject] at hread
    split at hread
    · cases hread
    · next hmembers =>
      split at hread
      · cases hread
      · split at hread
        · cases hread
        · cases hread
          exact h.held_readMembers hd hblank hmembers
  | array items closed =>
    rw [Document.Definite, Document.definiteItems_iff] at hd
    have harray : r.readArray .json budget items closed = .ok a := hread
    rw [readArray] at harray
    split at harray
    · cases harray
    · next hitems =>
      simp only at harray
      split at harray
      · cases harray
        exact h.held_readItems (fun f hf => hf) hd hblank hitems
      · cases harray
  | bare s => exact hd.elim
  | _ => cases hread

/-! ### Reading again -/

/-- The members that are written for some parts. -/
def written (ps : List (Part α)) (a : α) : List (Option String × Document) :=
  Document.ofMembers (ps.filterMap fun p => (p.write (p.get a)).map fun v => (p.name, v))

theorem written_cons (p : Part α) (ps : List (Part α)) (a : α) :
    written (p :: ps) a =
      match p.write (p.get a) with
      | some v => (some p.name, .ofJson v) :: written ps a
      | none => written ps a := by
  rw [written, List.filterMap_cons]
  cases p.write (p.get a) <;> rfl

/-- A written part is read. -/
theorem readMembers_cons (h : r.IsMadeOf parts budget) {p : Part α} (hp : p ∈ parts) {v : Json}
    (hv : p.reader .json budget (.ofJson v) = .ok (p.get a)) {met : List String}
    (hmet : p.name ∉ met) (b : α) (rest : List (Option String × Document)) :
    r.readMembers .json budget met b ((some p.name, .ofJson v) :: rest) =
      r.readMembers .json budget (p.name :: met) (p.set (p.get a) b) rest := by
  obtain ⟨f, hfind, hreading⟩ := h.find?_fields hp
  have hread : f.read .json budget (.ofJson v) = .ok (p.set (p.get a)) := by
    have hreader : f.read = p.reader.map p.set := congrArg (fun x => x.2.2) hreading
    rw [hreader]
    exact Reader.map_eq_ok.mpr ⟨_, hv, rfl⟩
  have hnew : met.contains p.name = false := by simpa using hmet
  rw [readMembers]
  simp only [hfind, hread, hnew, Bool.false_eq_true, if_false]

/-- A structure `b` on the way to the structure `a`: the parts that are still to be read
are what there was before anything was read, and all others are those of `a`. -/
structure Underway (parts ps : List (Part α)) (blank a b : α) : Prop where
  /-- What has not been read. -/
  ahead : ∀ p ∈ ps, p.get b = p.get blank
  /-- What has been read, or left out. -/
  behind : ∀ p ∈ parts, p ∉ ps → p.get b = p.get a

theorem underway_set (h : r.IsMadeOf parts budget) {p : Part α} {ps : List (Part α)} {b : α}
    (hps : ∀ q ∈ p :: ps, q ∈ parts) (hnodup : ((p :: ps).map Part.name).Nodup)
    (hb : Underway parts (p :: ps) r.blank a b) :
    Underway parts ps r.blank a (p.set (p.get a) b) := by
  have hp := hps p List.mem_cons_self
  have hother : ∀ q ∈ parts, q.name ≠ p.name → q.get (p.set (p.get a) b) = q.get b :=
    fun q hq hne => h.apart q hq p hp hne _ _
  refine ⟨fun q hq => ?_, fun q hq hnot => ?_⟩
  · have hne : q.name ≠ p.name := fun hname =>
      (List.nodup_cons.mp hnodup).1 (hname ▸ List.mem_map_of_mem hq)
    rw [hother q (hps q (List.mem_cons_of_mem p hq)) hne]
    exact hb.ahead q (List.mem_cons_of_mem p hq)
  · by_cases hname : q.name = p.name
    · obtain rfl := h.eq_of_name hq hp hname
      exact (h.lawful q hq).get_set _ _
    · rw [hother q hq hname]
      refine hb.behind q hq fun hmem => ?_
      rcases List.mem_cons.mp hmem with rfl | hmem
      · exact hname rfl
      · exact hnot hmem

theorem underway_skip (h : r.IsMadeOf parts budget) {p : Part α} {ps : List (Part α)} {b : α}
    (hps : ∀ q ∈ p :: ps, q ∈ parts) (hnone : p.write (p.get a) = none)
    (hb : Underway parts (p :: ps) r.blank a b) : Underway parts ps r.blank a b := by
  refine ⟨fun q hq => hb.ahead q (List.mem_cons_of_mem p hq), fun q hq hnot => ?_⟩
  by_cases hqp : q = p
  · subst hqp
    rw [hb.ahead q List.mem_cons_self]
    exact (((h.lawful q hq).left_out _ hnone).2).symm
  · exact hb.behind q hq fun hmem => (List.mem_cons.mp hmem).elim hqp hnot

/-- **What is written is read**, part by part. -/
theorem readMembers_written (h : r.IsMadeOf parts budget) (ha : Held parts budget a)
    {ps : List (Part α)} (hps : ∀ p ∈ ps, p ∈ parts) (hnodup : (ps.map Part.name).Nodup)
    {met : List String} (hmet : ∀ p ∈ ps, p.name ∉ met) {b : α}
    (hb : Underway parts ps r.blank a b)
    (hrequired : ∀ p ∈ parts, p ∉ ps → p.required = true → p.name ∈ met) :
    ∃ met', r.readMembers .json budget met b (written ps a) = .ok (met', a) ∧
      ∀ p ∈ parts, p.required = true → p.name ∈ met' := by
  induction ps generalizing met b with
  | nil =>
    obtain rfl : b = a := h.ext b a fun p hp => hb.behind p hp List.not_mem_nil
    exact ⟨met, rfl, fun p hp => hrequired p hp List.not_mem_nil⟩
  | cons p ps ih =>
    obtain ⟨hp, hrest⟩ := List.forall_mem_cons.mp hps
    obtain ⟨hnew, hnodup'⟩ := List.nodup_cons.mp hnodup
    rw [written_cons]
    cases hw : p.write (p.get a) with
    | none =>
      refine ih hrest hnodup' (fun q hq => hmet q (List.mem_cons_of_mem p hq))
        (h.underway_skip hps hw hb) fun q hq hnot hreq => ?_
      refine hrequired q hq (fun hmem => ?_) hreq
      rcases List.mem_cons.mp hmem with rfl | hmem
      · rw [((h.lawful q hq).left_out _ hw).1] at hreq
        cases hreq
      · exact hnot hmem
    | some v =>
      simp only
      rw [h.readMembers_cons hp (ha p hp v hw) (hmet p List.mem_cons_self)]
      refine ih hrest hnodup' (fun q hq => ?_) (h.underway_set hps hnodup hb)
        fun q hq hnot hreq => ?_
      · refine List.not_mem_cons_of_ne_of_not_mem (fun hname => hnew ?_)
          (hmet q (List.mem_cons_of_mem p hq))
        exact hname ▸ List.mem_map_of_mem hq
      · by_cases hqp : q = p
        · exact hqp ▸ List.mem_cons_self
        · refine List.mem_cons_of_mem _ (hrequired q hq (fun hmem => ?_) hreq)
          exact (List.mem_cons.mp hmem).elim hqp hnot

/-- **A record keeps what it reads** as soon as its parts do. -/
theorem keeps (h : r.IsMadeOf parts (budget - 1)) : r.read.Keeps (Part.object parts) budget := by
  intro d a hd hread
  cases budget with
  | zero => exact r.keeps_zero _ d a hd hread
  | succ budget =>
    rw [Nat.add_sub_cancel] at h
    have ha : Held parts budget a := h.held_of_read hd hread
    have hstart : Underway parts parts r.blank a r.blank :=
      ⟨fun p _ => rfl, fun p hp hnot => absurd hp hnot⟩
    obtain ⟨met, hmembers, hmet⟩ := h.readMembers_written ha (fun p hp => hp) h.names
      (fun p _ => List.not_mem_nil) hstart fun p hp hnot => absurd hp hnot
    have hmissing : r.missing? met = none := by
      rw [missing?, Option.map_eq_none_iff, List.find?_eq_none]
      intro f hf hmiss
      obtain ⟨p, hp, hreading⟩ := h.exists_part hf
      have hname : p.name = f.name := congrArg Prod.fst hreading
      have hrequired : p.required = f.required := congrArg (fun x => x.2.1) hreading
      rw [Bool.and_eq_true, ← hrequired, ← hname] at hmiss
      simp [hmet p hp hmiss.1] at hmiss
    have hobject : r.readObject .json budget (written parts a) true = .ok a := by
      rw [readObject, hmembers]
      simp only [hmissing]
      rfl
    exact hobject

end Record.IsMadeOf

/-! ### Kinds of parts -/

namespace Part

variable {α β : Type} {blank : α} {budget : Nat} {name : String}

/-- A part that is always written. -/
def always (name : String) (required : Bool) (reader : Reader β) (get : α → β)
    (set : β → α → α) (write : β → Json) : Part α :=
  ⟨name, required, β, reader, get, set, fun x => some (write x)⟩

/-- A part that is written if there is something. -/
def optional (name : String) (reader : Reader β) (get : α → Option β)
    (set : Option β → α → α) (write : β → Json) : Part α :=
  ⟨name, false, Option β, Reader.option reader, get, set, fun x => x.map write⟩

theorem lawful_always {required : Bool} {reader : Reader β} {get : α → β} {set : β → α → α}
    {write : β → Json} (hkeeps : reader.Keeps write budget)
    (hblank : reader .json budget (.ofJson (write (get blank))) = .ok (get blank))
    (hset : ∀ x a, get (set x a) = x) :
    (always name required reader get set write).Lawful blank budget where
  get_set := hset
  left_out := fun x h => by cases h
  blank := fun v h => by
    cases h
    exact hblank
  keeps := fun d x hd hx v h => by
    cases h
    exact hkeeps d x hd hx

/-- An optional part is lawful if what is read of anything but nothing is something. -/
theorem lawful_optional {reader : Reader β} {get : α → Option β} {set : Option β → α → α}
    {write : β → Json} (hkeeps : reader.Keeps write budget)
    (hnull : ∀ d x, d.Definite → d ≠ .null → reader .json budget d = .ok x → write x ≠ .null)
    (hblank : get blank = none) (hset : ∀ x a, get (set x a) = x) :
    (optional name reader get set write).Lawful blank budget where
  get_set := hset
  left_out := fun x h => ⟨rfl, (Option.map_eq_none_iff.mp h).trans hblank.symm⟩
  blank := fun v h => by
    have hnone : (get blank).map write = none := by rw [hblank]; rfl
    exact absurd (hnone.symm.trans h) (Option.some_ne_none v).symm
  keeps := fun d x hd hx v h => by
    obtain ⟨y, rfl, rfl⟩ := Option.map_eq_some_iff.mp h
    by_cases hnothing : d = .null
    · rw [hnothing] at hx
      cases hx
    · have hread : Reader.option reader .json budget d = .ok (some y) := hx
      rw [Reader.option_of_ne hnothing, Reader.map_eq_ok] at hread
      obtain ⟨z, hz, heq⟩ := hread
      obtain rfl : z = y := Option.some.inj heq
      have hsome := Reader.ofJson_ne_null (hnull d z hd hnothing hz)
      exact (Reader.option_of_ne hsome).trans
        (Reader.map_eq_ok.mpr ⟨z, hkeeps d z hd hz, rfl⟩)

end Part

end SmartForm
