import SmartForm.Schema.Form

/-!
# The fields of a form

A form has one field for each key. Where several fields are given for one key, the
first one counts (`SmartForm.FieldSpec.firsts`).

A field depends on another one if its choices wait for it. Values that are written
together are written in the order of **depth** (`SmartForm.FieldSpec.applyOrder`),
which is the number of steps from a field to its parent, the parent of that, and
so on. The walk ends at a field without a known parent, and where it would go in a
circle. Fields of one depth stay in the order of the form.
-/

namespace SmartForm

namespace FieldSpec

/-- The fields of which none has the key of an earlier one. -/
def firsts : List FieldSpec → List FieldSpec
  | [] => []
  | f :: fs => f :: (firsts fs).filter fun g => g.key ≠ f.key

/-- The field with the given key. -/
def withKey? (fields : List FieldSpec) (key : String) : Option FieldSpec :=
  fields.find? fun f => f.key = key

/-- The key of the field that the field with the given key waits for, if there is
such a field. -/
def knownParent? (fields : List FieldSpec) (key : String) : Option String :=
  ((withKey? fields key).bind parent?).filter fun p => (withKey? fields p).isSome

/-- The number of steps from a field upwards, those in `seen` having been met
before; at most `fuel` steps. -/
def depthFrom (fields : List FieldSpec) : Nat → List String → String → Nat
  | 0, _, _ => 0
  | fuel + 1, seen, key =>
    match knownParent? fields key with
    | none => 0
    | some parent =>
      if seen.contains parent then 0 else depthFrom fields fuel (parent :: seen) parent + 1

/-- The number of steps from a field upwards. No field is met twice, so the number
of fields bounds the walk. -/
def depth (fields : List FieldSpec) (key : String) : Nat :=
  depthFrom fields fields.length [key] key

/-- The keys in the order in which values are written together. -/
def applyOrder (fields : List FieldSpec) : List String :=
  (fields.map FieldSpec.key).mergeSort fun a b => depth fields a ≤ depth fields b

end FieldSpec

end SmartForm
