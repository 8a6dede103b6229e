import RunnerCloud.Data.Value

/-!
Contract: equality of values can be decided.

Owns:
- `Value.same`, the comparison part by part, with `Value.same_iff_eq`;
- the instance `DecidableEq Value`.

Does not own: equality of documents up to the order of their entries.
-/

namespace RunnerCloud.Value

mutual

/-- Whether two values are the same, part by part. -/
def same : Value → Value → Bool
  | .null, .null => true
  | .bool left, .bool right => left == right
  | .int left, .int right => left == right
  | .float left, .float right => decide (left = right)
  | .text left, .text right => left == right
  | .moment left, .moment right => left == right
  | .list left, .list right => sameItems left right
  | .dict left, .dict right => sameEntries left right
  | _, _ => false

def sameItems : List Value → List Value → Bool
  | [], [] => true
  | left :: lefts, right :: rights => same left right && sameItems lefts rights
  | _, _ => false

def sameEntries : List (Text × Value) → List (Text × Value) → Bool
  | [], [] => true
  | (leftKey, left) :: lefts, (rightKey, right) :: rights =>
    leftKey == rightKey && same left right && sameEntries lefts rights
  | _, _ => false

end

mutual

theorem same_self (value : Value) : same value value = true := by
  cases value with
  | list items => exact sameItems_self items
  | dict entries => exact sameEntries_self entries
  | _ => simp [same]

theorem sameItems_self (items : List Value) : sameItems items items = true := by
  cases items with
  | nil => rfl
  | cons first rest => simp [sameItems, same_self first, sameItems_self rest]

theorem sameEntries_self (entries : List (Text × Value)) :
    sameEntries entries entries = true := by
  cases entries with
  | nil => rfl
  | cons first rest =>
    obtain ⟨key, value⟩ := first
    simp [sameEntries, same_self value, sameEntries_self rest]

end

mutual

theorem eq_of_same (left right : Value) (holds : same left right = true) : left = right := by
  cases left with
  | list lefts =>
    cases right with
    | list rights => rw [eq_of_sameItems lefts rights holds]
    | _ => simp [same] at holds
  | dict lefts =>
    cases right with
    | dict rights => rw [eq_of_sameEntries lefts rights holds]
    | _ => simp [same] at holds
  | _ => cases right <;> simp_all [same]

theorem eq_of_sameItems (lefts rights : List Value) (holds : sameItems lefts rights = true) :
    lefts = rights := by
  cases lefts with
  | nil => cases rights <;> simp_all [sameItems]
  | cons left lefts =>
    cases rights with
    | nil => simp [sameItems] at holds
    | cons right rights =>
      rw [sameItems, Bool.and_eq_true] at holds
      rw [eq_of_same left right holds.1, eq_of_sameItems lefts rights holds.2]

theorem eq_of_sameEntries (lefts rights : List (Text × Value))
    (holds : sameEntries lefts rights = true) : lefts = rights := by
  cases lefts with
  | nil => cases rights <;> simp_all [sameEntries]
  | cons first lefts =>
    obtain ⟨leftKey, left⟩ := first
    cases rights with
    | nil => simp [sameEntries] at holds
    | cons second rights =>
      obtain ⟨rightKey, right⟩ := second
      rw [sameEntries, Bool.and_eq_true, Bool.and_eq_true, beq_iff_eq] at holds
      rw [holds.1.1, eq_of_same left right holds.1.2, eq_of_sameEntries lefts rights holds.2]

end

theorem same_iff_eq {left right : Value} : same left right = true ↔ left = right :=
  ⟨eq_of_same left right, fun equal => equal ▸ same_self left⟩

instance : DecidableEq Value := fun _ _ =>
  decidable_of_iff _ same_iff_eq

end RunnerCloud.Value
