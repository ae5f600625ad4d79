import SmartForm.Proofs.Form.Materialized

/-!
# Fields that are reset

To reset a form is to set all of its fields at once, each to the value that it started with.
What a field holds afterwards is that value, unless its parent is set after it: then it holds
nothing. The fields for which this happens are those that are overtaken
(`SmartForm.FieldSpec.Overtaken`), whatever the form went through before
(`SmartForm.Form.value?_reset_of_overtaken`).

The one thing to know is that this takes a circle. A form in which no field hangs on itself by
way of others is restored as a whole, and so is a field that merely hangs on a field of a
circle. On a circle the field that comes first in the form loses its value, and the form is
restored only if that value was nothing (`SmartForm.FormEngine.reset_restores_iff`).
-/

namespace SmartForm

namespace Form

open FieldSpec

variable {fields : List FieldSpec} {f : Form} {k : String}

/-! ### One field -/

theorem board_reset (hf : f.Steady fields) :
    f.reset.board = f.board.setAll (FormEvent.writes fields .reset) := board_handle hf .reset

theorem steady_reset (hf : f.Steady fields) : f.reset.Steady fields := steady_handle hf .reset

theorem value?_reset_of_not_overtaken (hf : f.Steady fields) (hk : ¬ Overtaken fields k)
    {g : FieldSpec} (hg : withKey? fields k = some g) :
    f.reset.board.value? k = some g.initial := by
  have hv : FormEvent.value? fields .reset k = some g.initial := congrArg (Option.map _) hg
  rw [board_reset hf]
  exact value?_writes_of_set hf hk (by rw [hg]; rfl) hv

theorem value?_reset_of_overtaken (hf : f.Steady fields) (hk : Overtaken fields k) :
    f.reset.board.value? k = some .null := by
  obtain ⟨p, hp, -⟩ := hk.2
  obtain ⟨g, hg⟩ := Option.isSome_iff_exists.mp (known_of_hangsOn? hp)
  have hv : FormEvent.value? fields .reset p = some g.initial := congrArg (Option.map _) hg
  rw [board_reset hf]
  exact value?_writes_of_parent hf (.inr hk) hp hv

/-! ### All fields -/

/-- **A form is restored if and only if no value is overtaken.** -/
theorem value_reset_eq_iff (hf : f.Steady fields) :
    f.reset.value = (build fields).value ↔
      ∀ g, withKey? fields g.key = some g → Overtaken fields g.key → g.initial = .null := by
  have hreset := steady_reset hf
  have hbuild := steady_build fields
  have hlookup : f.reset.value = (build fields).value ↔
      ∀ k, f.reset.board.value? k = (withKey? fields k).map FieldSpec.initial := by
    simp only [← value?_build, ← hreset.lookup_value, ← hbuild.lookup_value]
    refine ⟨fun h k => by rw [h], fun h => ?_⟩
    refine eq_of_lookup_eq (hreset.keys_value.trans hbuild.keys_value.symm) ?_ h
    rw [hreset.keys_value]
    exact nodup_keys_firsts fields
  rw [hlookup]
  constructor
  · intro h g hg hover
    have hnull := (h g.key).symm.trans (value?_reset_of_overtaken hf hover)
    rw [hg] at hnull
    exact Option.some.inj hnull
  · intro h k
    cases hg : withKey? fields k with
    | none =>
      rw [Option.map_none, ← Option.not_isSome_iff_eq_none, hreset.isSome_value?, hg]
      exact Bool.false_ne_true
    | some g =>
      obtain rfl := key_of_withKey? hg
      by_cases hover : Overtaken fields g.key
      · rw [value?_reset_of_overtaken hf hover, Option.map_some, h g hg hover]
      · rw [value?_reset_of_not_overtaken hf hover hg, Option.map_some]

end Form

namespace FormEngine

open FieldSpec

/-- **What resetting does.** Let an engine make a form, and let anything happen until another
form takes its place. When the form is then reset, a field holds the value that its first
description gives it, unless it is overtaken: then it holds nothing. So the form holds what it
held when it was made if and only if the fields that are overtaken started with nothing. No
field is overtaken if and only if no field hangs on itself by way of others. -/
theorem reset_restores_iff (e : FormEngine) (fields : List FieldSpec) {hs : List Happening}
    (hhs : ∀ fs, Happening.ask (.build fs) ∉ hs) :
    let filled := (e.build fields).undergoAll hs
    (∀ k g, withKey? fields k = some g → ¬ Overtaken fields k →
        filled.reset.form.board.value? k = some g.initial) ∧
      (∀ k, Overtaken fields k → filled.reset.form.board.value? k = some .null) ∧
      (filled.reset.form.value = (e.build fields).form.value ↔
        ∀ g, withKey? fields g.key = some g → Overtaken fields g.key → g.initial = .null) ∧
      (Acyclic fields ↔ ∀ k, ¬ Overtaken fields k) := by
  intro filled
  have hfilled : filled.form.Steady fields := steady_undergoAll (Form.steady_build fields) hhs
  exact ⟨fun k g hg hk => Form.value?_reset_of_not_overtaken hfilled hk hg,
    fun k hk => Form.value?_reset_of_overtaken hfilled hk,
    Form.value_reset_eq_iff hfilled, acyclic_iff fields⟩

/-- Of the two fields on a circle the first loses its value, and the second keeps it. So does
the town, although it comes first of all and its country is on the circle. -/
theorem reset_restores_iff_circle :
    let e : FormEngine := { service := { loader := fun _ _ => (0, .ok []) } }
    let filled := (e.build circleFields).undergoAll
      [.ask (.fill (.set "language" (.string "nn"))), .ask .settle]
    filled.reset.form.board.value? "town" = some (.string "Oslo") ∧
      filled.reset.form.board.value? "country" = some .null ∧
      filled.reset.form.board.value? "language" = some (.string "nb") := by
  intro e filled
  have hhs : ∀ fs, Happening.ask (.build fs) ∉
      [.ask (.fill (.set "language" (.string "nn"))), .ask .settle] := by simp
  obtain ⟨hkept, hlost, -, -⟩ := reset_restores_iff e circleFields hhs
  exact ⟨hkept "town" _ rfl not_overtaken_town, hlost "country" overtaken_country,
    hkept "language" _ rfl not_overtaken_language⟩

/-- **A form with a circle is not restored**: resetting it takes a value away that it started
with, even if nothing has happened to it before. -/
theorem reset_loses_value :
    let e : FormEngine := { service := { loader := fun _ _ => (0, .ok []) } }
    (e.build circleFields).reset.form.value ≠ (e.build circleFields).form.value := by
  intro e h
  have hnull := (Form.value_reset_eq_iff (Form.steady_build circleFields)).mp h
  cases hnull countryField rfl overtaken_country

end FormEngine

end SmartForm
