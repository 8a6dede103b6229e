import Mathlib.Data.List.Find
import RunnerCloud.Bootstrap

/-!
Contract: the keys under which a document may hold the fields of a model.

Owns:
- `FieldName.spellings`, the keys of a field, and `FieldName.held?`, what a document holds under any
  of them;
- `Respells`, a change of keys that takes every key of a field to a key of the same field;
- `Checked.Matches`, two outcomes that differ in the paths of their issues at most;
- `Bootstrap.ofFields_respelled`: a request may be spelled either way.

Does not own: documents that hold a field under both of its keys.
-/

namespace RunnerCloud

open Validation

/-! ## Outcomes up to their paths -/

namespace Checked

variable {α β : Type}

/-- Both outcomes are the same value, or issues of the same kinds in the same order. -/
inductive Matches : Checked α → Checked α → Prop where
  | accepted (value : α) : Matches (.accepted value) (.accepted value)
  | rejected {issues others : List Issue} (kinds : issues.map Issue.kind = others.map Issue.kind) :
      Matches (.rejected issues) (.rejected others)

namespace Matches

theorem refl (checked : Checked α) : Matches checked checked := by
  cases checked with
  | accepted value => exact .accepted value
  | rejected issues => exact .rejected rfl

theorem map {checked other : Checked α} (f : α → β) (same : Matches checked other) :
    Matches (f <$> checked) (f <$> other) := by
  cases same with
  | accepted value => exact .accepted (f value)
  | rejected kinds => exact .rejected kinds

theorem seq {f g : Checked (α → β)} {checked other : Checked α} (sameMap : Matches f g)
    (same : Matches checked other) : Matches (f <*> checked) (g <*> other) := by
  cases sameMap with
  | accepted h =>
      cases same with
      | accepted value => exact .accepted (h value)
      | rejected kinds => exact .rejected kinds
  | rejected kinds =>
      cases same with
      | accepted value => exact .rejected kinds
      | rejected further =>
          apply Matches.rejected
          rw [List.map_append, List.map_append, kinds, further]

theorem under (checked : Checked α) (step other : PathStep) :
    Matches (checked.under step) (checked.under other) := by
  cases checked with
  | accepted value => exact .accepted value
  | rejected issues =>
      apply Matches.rejected
      rw [List.map_map, List.map_map]
      rfl

end Matches

end Checked

/-! ## Fields -/

namespace Validation

variable {field : FieldName} {fields : Fields} {rename : Text → Text}

namespace FieldName

/-- The keys under which a document may hold the field. -/
def spellings (field : FieldName) : List Text :=
  field.name :: field.alternative.toList

/-- The document does not hold the field under both of its keys. -/
def GivenOnce (field : FieldName) (fields : Fields) : Prop :=
  ∀ alternative ∈ field.alternative, ¬ (fields.contains field.name ∧ fields.contains alternative)

/-- What a document holds first under a key of the field. -/
def held? (field : FieldName) (fields : Fields) : Option Value :=
  (fields.find? fun entry => field.spellings.contains entry.1).map Prod.snd

end FieldName

theorem get?_eq_find? (fields : Fields) (key : Text) :
    fields.get? key = (fields.find? fun entry => entry.1 == key).map Prod.snd := by
  induction fields with
  | nil => rfl
  | cons entry rest inductionHypothesis =>
      obtain ⟨other, value⟩ := entry
      unfold Fields.get? at inductionHypothesis ⊢
      rw [List.lookup_cons, List.find?_cons, inductionHypothesis]
      by_cases same : key = other
      · simp [same]
      · rw [beq_eq_false_iff_ne.2 same, beq_eq_false_iff_ne.2 (Ne.symm same)]

theorem contains_iff {key : Text} :
    fields.contains key = true ↔ ∃ value, (key, value) ∈ fields := by
  unfold Fields.contains
  rw [get?_eq_find?, Option.isSome_map, List.find?_isSome]
  constructor
  · rintro ⟨⟨other, value⟩, held, same⟩
    have same : other = key := by simpa using same
    exact ⟨value, same ▸ held⟩
  · rintro ⟨value, held⟩
    exact ⟨(key, value), held, by simp⟩

/-- A field that is given once is found whichever key holds it. -/
theorem find?_of_givenOnce (once : field.GivenOnce fields) :
    (field.find? fields).map Prod.snd = field.held? fields := by
  -- No entry has the other key, so that the search for both is the search for one.
  have only : ∀ key ∈ field.spellings,
      (∀ other ∈ field.spellings, other ≠ key → fields.contains other = false) →
      field.held? fields = fields.get? key := by
    intro key listed absent
    rw [get?_eq_find?]
    unfold FieldName.held?
    congr 1
    apply List.find?_congr
    intro entry held
    rw [Bool.eq_iff_iff, List.contains_iff_mem, beq_iff_eq]
    constructor
    · intro listed
      by_contra other
      have given := contains_iff.2 ⟨entry.2, held⟩
      rw [absent _ listed other] at given
      cases given
    · rintro rfl
      exact listed
  have unkeyed : ∀ (key : Text) (held : Option Value),
      (held.map fun value => (key, value)).map Prod.snd = held := by
    intro key held
    cases held <;> rfl
  obtain ⟨name, alternative⟩ := field
  unfold FieldName.find?
  cases alternative with
  | none =>
      rw [only name (List.mem_singleton_self name) (by simp [FieldName.spellings])]
      exact unkeyed name _
  | some alternative =>
      by_cases given : fields.contains alternative = true
      · have absent : fields.contains name = false := by
          simpa [given] using once alternative rfl
        rw [only alternative (by simp [FieldName.spellings])
          (by simp [FieldName.spellings, absent])]
        obtain ⟨value, held⟩ := Option.isSome_iff_exists.1 given
        simp [held]
      · have absent : fields.contains alternative = false := Bool.eq_false_of_not_eq_true given
        have nothing : fields.get? alternative = none := by
          simpa [Fields.contains] using absent
        rw [only name (by simp [FieldName.spellings]) (by simp [FieldName.spellings, absent]),
          Option.bind_some, nothing]
        exact unkeyed name _

/-- The document with its keys changed. -/
def respelled (rename : Text → Text) (fields : Fields) : Fields :=
  fields.map fun entry => (rename entry.1, entry.2)

/-- A change of keys that takes every key of a field to a key of the same field, and leaves the keys
that are of no field. -/
structure Respells (names : List FieldName) (rename : Text → Text) : Prop where
  within : ∀ field ∈ names, ∀ key ∈ field.spellings, rename key ∈ field.spellings
  elsewhere : ∀ key, (∀ field ∈ names, key ∉ field.spellings) → rename key = key

/-- No key belongs to two of these fields. -/
def Distinct (names : List FieldName) : Prop :=
  ∀ field ∈ names, ∀ other ∈ names, ∀ key ∈ field.spellings, key ∈ other.spellings → other = field

section Respelled

variable {names : List FieldName} (distinct : Distinct names) (respells : Respells names rename)
  (listed : field ∈ names)

include distinct respells listed

/-- A key belongs to a field exactly when the new one does. -/
theorem rename_mem_spellings_iff {key : Text} :
    rename key ∈ field.spellings ↔ key ∈ field.spellings := by
  constructor
  · intro renamed
    by_cases known : ∃ owner ∈ names, key ∈ owner.spellings
    · obtain ⟨owner, ownerListed, owned⟩ := known
      have same : field = owner := distinct owner ownerListed field listed _
        (respells.within owner ownerListed key owned) renamed
      rw [same]
      exact owned
    · have fixed : rename key = key := by
        apply respells.elsewhere
        exact fun owner ownerListed owned => known ⟨owner, ownerListed, owned⟩
      rw [← fixed]
      exact renamed
  · exact respells.within field listed key

theorem held?_respelled : field.held? (respelled rename fields) = field.held? fields := by
  unfold FieldName.held? respelled
  rw [List.find?_map, Option.map_map]
  have same : ((fun entry : Text × Value => field.spellings.contains entry.1) ∘
      fun entry : Text × Value => (rename entry.1, entry.2)) =
        fun entry => field.spellings.contains entry.1 := by
    funext entry
    rw [Function.comp_apply, Bool.eq_iff_iff, List.contains_iff_mem, List.contains_iff_mem]
    exact rename_mem_spellings_iff distinct respells listed
  rw [same]
  rfl

theorem givenOnce_respelled (once : field.GivenOnce fields) :
    field.GivenOnce (respelled rename fields) := by
  have origin : ∀ key ∈ field.spellings, (respelled rename fields).contains key = true →
      ∃ given ∈ field.spellings, fields.contains given = true ∧ rename given = key := by
    intro key spelled given
    obtain ⟨value, held⟩ := contains_iff.1 given
    obtain ⟨⟨original, _⟩, heldBefore, same⟩ := List.mem_map.1 held
    cases same
    exact ⟨original, (rename_mem_spellings_iff distinct respells listed).1 spelled,
      contains_iff.2 ⟨_, heldBefore⟩, rfl⟩
  intro alternative spelled
  obtain ⟨name, _⟩ := field
  cases spelled
  rintro ⟨nameGiven, alternativeGiven⟩
  -- The two keys come from two keys that were given, or are the same.
  obtain ⟨first, firstSpelled, firstGiven, toName⟩ :=
    origin name (by simp [FieldName.spellings]) nameGiven
  obtain ⟨second, secondSpelled, secondGiven, toAlternative⟩ :=
    origin alternative (by simp [FieldName.spellings]) alternativeGiven
  have twice : fields.contains name = true ∧ fields.contains alternative = true := by
    simp only [FieldName.spellings, Option.toList_some, List.mem_cons, List.not_mem_nil,
      or_false] at firstSpelled secondSpelled
    grind
  exact once alternative rfl twice

/-- A field is read the same, but for the path of its issues. -/
theorem field_matches {α : Type} (once : field.GivenOnce fields) (absent : Checked α)
    (check : Value → Checked α) :
    (Validation.field fields field absent check).Matches
      (Validation.field (respelled rename fields) field absent check) := by
  have same : (field.find? fields).map Prod.snd =
      (field.find? (respelled rename fields)).map Prod.snd := by
    rw [find?_of_givenOnce once,
      find?_of_givenOnce (givenOnce_respelled distinct respells listed once),
      held?_respelled distinct respells listed]
  unfold Validation.field
  cases before : field.find? fields with
  | none =>
      rw [before, Option.map_none, eq_comm, Option.map_eq_none_iff] at same
      rw [same]
      exact Checked.Matches.refl absent
  | some found =>
      rw [before, Option.map_some, eq_comm, Option.map_eq_some_iff] at same
      obtain ⟨⟨spelling, value⟩, after, rfl⟩ := same
      rw [after]
      exact Checked.Matches.under ..

end Respelled

end Validation

/-! ## Requests -/

namespace Bootstrap

open Validation

/-- The fields of a request. -/
def fieldNames : List FieldName := [
  .plain "name", .plain "tools", .plain "repo_url", .aliased "callback_url" "callback-url",
  .aliased "metadata_url" "metadata-url", .aliased "instance_token" "instance-token",
  .aliased "ssh_keys" "ssh-keys", .plain "extra_specs",
  .aliased "github_runner_group" "github-runner-group",
  .aliased "ca_cert_bundle" "ca-cert-bundle", .plain "os_type", .plain "arch", .plain "flavor",
  .plain "image", .plain "labels", .plain "pool_id", .plain "jit_config_enabled"]

theorem fieldNames_distinct : Distinct fieldNames := by
  unfold Distinct
  decide

theorem ofFields_matches {fields : Fields} {rename : Text → Text}
    (respells : Respells fieldNames rename)
    (once : ∀ field ∈ fieldNames, field.GivenOnce fields) :
    (ofFields fields).Matches (ofFields (respelled rename fields)) := by
  have reads : ∀ {α : Type} {field : FieldName} {absent : Checked α} {check : Value → Checked α},
      field ∈ fieldNames → (Validation.field fields field absent check).Matches
        (Validation.field (respelled rename fields) field absent check) := fun listed =>
    field_matches fieldNames_distinct respells listed (once _ listed) _ _
  unfold ofFields required Validation.optional
  repeat' apply Checked.Matches.seq
  · exact (reads (by decide)).map _
  all_goals exact reads (by decide)

end Bootstrap

end RunnerCloud
