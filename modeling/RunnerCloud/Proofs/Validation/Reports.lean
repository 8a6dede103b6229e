import Mathlib.Data.List.Basic
import RunnerCloud.Validation.Record

/-!
Contract: what a report lists.

Owns:
- the issues of every way to put outcomes together: a report lists the issues of all parts;
- where the issues with a field lie, and that a known key is no issue, whatever it is set to.

Does not own: which values are accepted.
-/

namespace RunnerCloud

/-! ## Documents in which a key is set -/

namespace Fields

variable {fields : Fields} {key other : Text}

theorem get?_insert_self (fields : Fields) (key : Text) (value : Value) :
    (fields.insert key value).get? key = some value := by
  unfold get?
  induction fields with
  | nil => exact List.lookup_cons_self
  | cons entry rest inductionHypothesis =>
      rw [insert]
      split
      · exact List.lookup_cons_self
      · rename_i differs
        have later : (key == entry.1) = false := by
          rw [Bool.beq_comm]
          simpa using differs
        rw [List.lookup_cons, later]
        exact inductionHypothesis

theorem get?_insert_of_ne (differs : other ≠ key) (value : Value) :
    (fields.insert key value).get? other = fields.get? other := by
  have elsewhere : (other == key) = false := beq_eq_false_iff_ne.2 differs
  unfold get?
  induction fields with
  | nil =>
      rw [insert, List.lookup_cons, elsewhere]
  | cons entry rest inductionHypothesis =>
      rw [insert]
      split
      · rename_i same
        rw [List.lookup_cons, List.lookup_cons, beq_iff_eq.1 same, elsewhere]
      · rw [List.lookup_cons, List.lookup_cons, inductionHypothesis]

end Fields

/-! ## The issues of outcomes that are put together -/

namespace Checked

variable {α β : Type}

@[simp] theorem issues_map (f : α → β) (checked : Checked α) :
    (f <$> checked).issues = checked.issues := by
  cases checked <;> rfl

@[simp] theorem issues_seq (f : Checked (α → β)) (checked : Checked α) :
    (f <*> checked).issues = f.issues ++ checked.issues := by
  show (apply f checked).issues = _
  cases f <;> cases checked <;> simp [apply, issues]

@[simp] theorem issues_seqLeft (checked : Checked α) (further : Checked β) :
    (checked <* further).issues = checked.issues ++ further.issues := by
  show (apply (map (Function.const β) checked) further).issues = _
  cases checked <;> cases further <;> simp [apply, map, issues]

theorem issues_under (checked : Checked α) (step : PathStep) :
    (checked.under step).issues = checked.issues.map (Issue.under step) := by
  cases checked <;> rfl

theorem mem_issues_under_iff {checked : Checked α} {step : PathStep} {issue : Issue} :
    issue.under step ∈ (checked.under step).issues ↔ issue ∈ checked.issues := by
  have injective : Function.Injective (Issue.under step) := by
    rintro ⟨path, kind⟩ ⟨otherPath, otherKind⟩ same
    simpa [Issue.under] using same
  rw [issues_under]
  exact List.mem_map_of_injective injective

/-- A further test is only made when there is no issue. -/
theorem mem_issues_ensure_iff {checked : Checked α} {test : α → Checked β} {issue : Issue} :
    issue ∈ (checked.ensure test).issues ↔
      issue ∈ checked.issues ∨ ∃ value, checked = .accepted value ∧ issue ∈ (test value).issues := by
  cases checked <;> simp [ensure, issues]

end Checked

/-! ## The issues of a model's fields -/

namespace Validation

variable {α : Type} {fields : Fields} {issue : Issue}

/-- The issues with a field that is given lie under its key. -/
theorem mem_issues_field {name : Text} {absent : Checked α} {check : Value → Checked α}
    (listed : issue ∈ (field fields (.plain name) absent check).issues) :
    issue ∈ absent.issues ∨ ∃ inner : Issue, inner.under (.key name) = issue := by
  have found : (FieldName.plain name).find? fields = (fields.get? name).map (name, ·) := rfl
  unfold field at listed
  rw [found] at listed
  cases held : fields.get? name with
  | none =>
      rw [held] at listed
      exact Or.inl listed
  | some value =>
      rw [held] at listed
      rw [Option.map_some, Checked.issues_under, List.mem_map] at listed
      obtain ⟨inner, -, same⟩ := listed
      exact Or.inr ⟨inner, same⟩

theorem mem_issues_optional {name : Text} {default : α} {check : Value → Checked α}
    (listed : issue ∈ (optional fields (.plain name) default check).issues) :
    ∃ inner : Issue, inner.under (.key name) = issue := by
  rcases mem_issues_field listed with missing | inner
  · cases missing
  · exact inner

theorem mem_issues_required {name : Text} {check : Value → Checked α}
    (listed : issue ∈ (required fields (.plain name) check).issues) :
    ∃ inner : Issue, inner.under (.key name) = issue := by
  rcases mem_issues_field listed with missing | inner
  · exact ⟨.atTop .missing, (List.mem_singleton.1 missing).symm⟩
  · exact inner

theorem kind_of_mem_unknownKeys {known : List Text}
    (listed : issue ∈ (unknownKeys known fields).issues) : issue.kind = .unknownKey := by
  have among : issue ∈ (fields.filter fun entry => !known.contains entry.1).map fun entry =>
      (⟨[.key entry.1], .unknownKey⟩ : Issue) := by
    unfold unknownKeys at listed
    split at listed
    · cases listed
    · exact listed
  obtain ⟨entry, -, rfl⟩ := List.mem_map.1 among
  rfl

/-- Setting a known key makes no other key known or unknown. -/
theorem unknownKeys_insert {known : List Text} {key : Text}
    (isKnown : key ∈ known) (fields : Fields) (value : Value) :
    unknownKeys known (fields.insert key value) = unknownKeys known fields := by
  have kept : (fields.insert key value).filter (fun entry => !known.contains entry.1) =
      fields.filter fun entry => !known.contains entry.1 := by
    induction fields with
    | nil => rw [Fields.insert, List.filter_cons_of_neg (by simp [isKnown])]
    | cons entry rest inductionHypothesis =>
        rw [Fields.insert]
        split
        · rename_i same
          rw [List.filter_cons_of_neg (by simp [isKnown]),
            List.filter_cons_of_neg (by simp [beq_iff_eq.1 same, isKnown])]
        · rw [List.filter_cons, List.filter_cons, inductionHypothesis]
  unfold unknownKeys
  rw [kept]

theorem areWhole_insert {key : Text} (whole : key.isPlain = true) (fields : Fields)
    (value : Value) : (fields.insert key value).areWhole = fields.areWhole := by
  unfold Fields.areWhole
  induction fields with
  | nil => simp [Fields.insert, whole]
  | cons entry rest inductionHypothesis =>
      rw [Fields.insert]
      split
      · rename_i same
        rw [List.all_cons, List.all_cons, beq_iff_eq.1 same]
      · rw [List.all_cons, List.all_cons, inductionHypothesis]

/-- Setting a known key changes nothing about the others. -/
theorem closed_insert {known : List Text} {key : Text} (isKnown : key ∈ known)
    (whole : key.isPlain = true) (fields : Fields) (value : Value) (checked : Checked α) :
    closed known (fields.insert key value) checked = closed known fields checked := by
  unfold closed
  rw [areWhole_insert whole, unknownKeys_insert isKnown]

/-- What a closed model reports on a document whose keys have no half. -/
theorem mem_issues_closed_iff {known : List Text} {checked : Checked α} :
    issue ∈ (closed known fields checked).issues ↔
      if fields.areWhole then issue ∈ checked.issues ∨ issue ∈ (unknownKeys known fields).issues
      else issue = .atTop .brokenText := by
  unfold closed
  split
  · rw [Checked.issues_seqLeft, List.mem_append]
  · exact List.mem_singleton

theorem field_insert_of_ne {name key : Text} (differs : name ≠ key) (value : Value)
    (absent : Checked α) (check : Value → Checked α) :
    field (fields.insert key value) (.plain name) absent check =
      field fields (.plain name) absent check := by
  have found : (FieldName.plain name).find? (fields.insert key value) =
      (FieldName.plain name).find? fields := by
    show (Fields.get? _ name).map (name, ·) = (fields.get? name).map (name, ·)
    rw [Fields.get?_insert_of_ne differs]
  unfold field
  rw [found]

end Validation

end RunnerCloud
