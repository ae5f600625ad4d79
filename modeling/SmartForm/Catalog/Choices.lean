import SmartForm.Schema.Field

/-!
# Choices made of records

`SmartForm.Binding.choices` turns loaded records into choices. A record that is
an object gives the members that the binding names; a record that is a text, a
number or a truth value is shown and picked as it is. Records of which no choice
can be made are passed over.
-/

namespace SmartForm

namespace Binding

/-- The choice that a record makes. -/
def choice? (b : Binding) : Json → Option Choice
  | .object members => do
    let label ← (← members.lookup b.labelKey).scalarText?
    let value ← ChoiceValue.ofJson? (← members.lookup b.valueKey)
    let text (name : String) : Option String := (members.lookup name).bind Json.string?
    some ⟨label, value, text "icon", text "image", text "description"⟩
  | v => do
    let label ← v.scalarText?
    let value ← ChoiceValue.ofJson? v
    some { label, value }

/-- The choices that records make, in the order of the records. -/
def choices (b : Binding) (records : List Json) : List Choice := records.filterMap b.choice?

end Binding

end SmartForm
