import RunnerCloud.Validation.Scalar

/-!
Contract: the fields of a model, looked up in a document.

Owns:
- `FieldName`, a field with the alias under which the host may send it; of the two the alias wins;
- `required` and `optional`, which check one field and give its issues the path by which its value
  came in, or the alias when it is missing;
- `unknownKeys`, the keys that a closed model does not know, and `closed`, which reports them;
- `record`, a model's check of a document, and what an accepted one is made from.

Does not own: which fields a model has.
-/

namespace RunnerCloud.Validation

structure FieldName where
  name : Text
  alternative : Option Text
deriving DecidableEq, Repr

namespace FieldName

/-- A field with one spelling. -/
def plain (name : Text) : FieldName :=
  ⟨name, none⟩

/-- A field that the host spells `alternative`. -/
def aliased (name alternative : Text) : FieldName :=
  ⟨name, some alternative⟩

/-- The spelling that reports use for a missing field. -/
def preferred (field : FieldName) : Text :=
  field.alternative.getD field.name

/-- The spelling under which `fields` holds the field, and its value. -/
def find? (field : FieldName) (fields : Fields) : Option (Text × Value) :=
  match field.alternative.bind fun spelling => (fields.get? spelling).map (spelling, ·) with
  | some found => some found
  | none => (fields.get? field.name).map (field.name, ·)

end FieldName

variable {α : Type}

/-- Checks a field, `absent` being the outcome when it is not given. -/
def field (fields : Fields) (name : FieldName) (absent : Checked α) (check : Value → Checked α) :
    Checked α :=
  match name.find? fields with
  | some (spelling, value) => (check value).under (.key spelling)
  | none => absent

/-- A field that has to be given. -/
def required (fields : Fields) (name : FieldName) (check : Value → Checked α) : Checked α :=
  field fields name (.rejected [⟨[.key name.preferred], .missing⟩]) check

/-- A field with a default. -/
def optional (fields : Fields) (name : FieldName) (default : α) (check : Value → Checked α) :
    Checked α :=
  field fields name (.accepted default) check

/-- Rejects every key that is not among `known`. -/
def unknownKeys (known : List Text) (fields : Fields) : Checked Unit :=
  match (fields.filter fun entry => !known.contains entry.1).map fun entry =>
      (⟨[.key entry.1], .unknownKey⟩ : Issue) with
  | [] => .accepted ()
  | issues => .rejected issues

/--
Checks a document that may have no other keys. A key with a half of a pair, which no field has, is
reported alone.
-/
def closed (known : List Text) (fields : Fields) (checked : Checked α) : Checked α :=
  if fields.areWhole then checked <* unknownKeys known fields else .reject .brokenText

/-- Where no key is unknown, none has a half, as long as no known one has. -/
theorem closed_eq_accepted_iff {known : List Text} {fields : Fields} {checked : Checked α}
    {value : α} (whole : known.all Text.isPlain = true) :
    closed known fields checked = .accepted value ↔
      checked = .accepted value ∧ unknownKeys known fields = .accepted () := by
  unfold closed
  split
  · rw [Checked.seqLeft_eq_accepted_iff]
    exact and_congr_right fun _ => ⟨fun ⟨_, accepts⟩ => accepts, fun accepts => ⟨(), accepts⟩⟩
  · rename_i halves
    have unknown : unknownKeys known fields ≠ .accepted () := by
      intro accepts
      refine halves (List.all_eq_true.2 fun entry listed => List.all_eq_true.1 whole entry.1 ?_)
      unfold unknownKeys at accepts
      split at accepts
      · rename_i none
        rw [List.map_eq_nil_iff, List.filter_eq_nil_iff] at none
        simpa using none entry listed
      · cases accepts
    simp [Checked.reject, unknown]

/-- Checks the fields of a value that has to be a document. -/
def record (model : Text) (check : Fields → Checked α) : Value → Checked α
  | .dict fields => check fields
  | _ => .reject (.notModel model)

theorem record_eq_accepted_iff {model : Text} {check : Fields → Checked α} {value : Value}
    {read : α} : record model check value = .accepted read ↔
      ∃ fields, value = .dict fields ∧ check fields = .accepted read := by
  cases value <;> simp [record, Checked.reject]

end RunnerCloud.Validation
