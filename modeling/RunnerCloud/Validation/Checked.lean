import RunnerCloud.Validation.Issue

/-!
Contract: the outcome of a validation that reports every issue, not only the first.

Owns:
- `Checked`, an accepted value or a list of issues, and its applicative structure, in which two
  rejections report the issues of both;
- `Checked.all`, a list of outcomes turned into the outcome of a list;
- `Checked.ensure`, a further condition that is tested on accepted values only;
- for each of them, what an accepted outcome is made from.

Does not own: what is validated.
-/

namespace RunnerCloud

inductive Checked (α : Type) where
  | accepted (value : α)
  | rejected (issues : List Issue)
deriving DecidableEq, Repr

namespace Checked

variable {α β : Type}

/-- A rejection for one reason. -/
def reject (kind : Issue.Kind) : Checked α :=
  .rejected [.atTop kind]

def map (f : α → β) : Checked α → Checked β
  | .accepted value => .accepted (f value)
  | .rejected issues => .rejected issues

/-- Applies an accepted function to an accepted value; issues of both sides are reported. -/
def apply : Checked (α → β) → Checked α → Checked β
  | .accepted f, .accepted value => .accepted (f value)
  | .accepted _, .rejected issues => .rejected issues
  | .rejected issues, .accepted _ => .rejected issues
  | .rejected issues, .rejected further => .rejected (issues ++ further)

instance : Functor Checked where
  map f checked := map f checked

instance : Applicative Checked where
  pure := .accepted
  seq f checked := apply f (checked ())

/-- The same outcome seen from one step further out. -/
def under (step : PathStep) : Checked α → Checked α
  | .accepted value => .accepted value
  | .rejected issues => .rejected (issues.map (Issue.under step))

/-- Tests an accepted value once more. -/
def ensure (checked : Checked α) (test : α → Checked β) : Checked β :=
  match checked with
  | .accepted value => test value
  | .rejected issues => .rejected issues

/-- All values, or the issues of all rejections in their order. -/
def all : List (Checked α) → Checked (List α)
  | [] => .accepted []
  | first :: rest => apply (map List.cons first) (all rest)

/-- The issues of a rejection; none when the value is accepted. -/
def issues : Checked α → List Issue
  | .accepted _ => []
  | .rejected issues => issues

/-! ## What an accepted outcome is made from -/

theorem map_eq_accepted_iff {f : α → β} {checked : Checked α} {value : β} :
    f <$> checked = .accepted value ↔ ∃ given, checked = .accepted given ∧ f given = value := by
  show map f checked = _ ↔ _
  cases checked <;> simp [map]

theorem seq_eq_accepted_iff {f : Checked (α → β)} {checked : Checked α} {value : β} :
    f <*> checked = .accepted value ↔
      ∃ g given, f = .accepted g ∧ checked = .accepted given ∧ g given = value := by
  show apply f checked = _ ↔ _
  cases f <;> cases checked <;> simp [apply]

theorem seqLeft_eq_accepted_iff {checked : Checked α} {further : Checked β} {value : α} :
    checked <* further = .accepted value ↔
      checked = .accepted value ∧ ∃ other, further = .accepted other := by
  show apply (map (Function.const β) checked) further = _ ↔ _
  cases checked <;> cases further <;> simp [map, apply]

theorem under_eq_accepted_iff {step : PathStep} {checked : Checked α} {value : α} :
    checked.under step = .accepted value ↔ checked = .accepted value := by
  cases checked <;> simp [under]

theorem ensure_eq_accepted_iff {checked : Checked α} {test : α → Checked β} {value : β} :
    checked.ensure test = .accepted value ↔
      ∃ given, checked = .accepted given ∧ test given = .accepted value := by
  cases checked <;> simp [ensure]

theorem all_eq_accepted_iff {outcomes : List (Checked α)} {values : List α} :
    all outcomes = .accepted values ↔ outcomes = values.map .accepted := by
  induction outcomes generalizing values with
  | nil => cases values <;> simp [all]
  | cons first rest inductionHypothesis =>
      have following : all (first :: rest) = .accepted values ↔
          ∃ value others, first = .accepted value ∧ all rest = .accepted others ∧
            value :: others = values := by
        rw [all]
        cases first <;> cases all rest <;> simp [apply, map]
      rw [following]
      simp only [inductionHypothesis]
      cases values <;> simp

end Checked

end RunnerCloud
