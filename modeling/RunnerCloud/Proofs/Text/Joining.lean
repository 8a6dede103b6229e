import RunnerCloud.Text.Basic

/-!
Contract: which texts are joined as they are.

Owns:
- `CodePoint.Paired`, a high half directly before a low one;
- `joined_eq_self_iff`: exactly the texts without such a pair are joined as they are, and
  `joined_plain`, that a text of characters is among them;
- `joined_eq_empty_iff`: only the empty text is joined as the empty one.

Does not own: where texts are written and read again.
-/

namespace RunnerCloud

namespace CodePoint

/-- A high half stands directly before a low one. -/
def Paired (points : List CodePoint) : Prop :=
  ∃ (before : List CodePoint) (high low : Surrogate) (after : List CodePoint),
    points = before ++ .half high :: .half low :: after ∧ high.isHigh = true ∧ low.isHigh = false

theorem not_paired_nil : ¬ Paired [] := by
  rintro ⟨before, high, low, after, split, -⟩
  cases before <;> cases split

/-- Behind what is no high half before a low one, a pair is in the rest. -/
theorem paired_cons_iff {point : CodePoint} {rest : List CodePoint}
    (apart : ∀ high low after, point = .half high → rest = .half low :: after →
      ¬ (high.isHigh = true ∧ low.isHigh = false)) : Paired (point :: rest) ↔ Paired rest := by
  constructor
  · rintro ⟨before, high, low, after, split, isHigh, isLow⟩
    cases before with
    | nil =>
        cases split
        exact absurd ⟨isHigh, isLow⟩ (apart high low after rfl rfl)
    | cons first others =>
        cases split
        exact ⟨others, high, low, after, rfl, isHigh, isLow⟩
  · rintro ⟨before, high, low, after, rfl, isHigh, isLow⟩
    exact ⟨point :: before, high, low, after, rfl, isHigh, isLow⟩

theorem joined_eq_self_iff {points : List CodePoint} : joined points = points ↔ ¬ Paired points := by
  induction points using joined.induct with
  | case1 high low rest pairs inductionHypothesis =>
      rw [joined, if_pos pairs]
      rw [Bool.and_eq_true, Bool.not_eq_true'] at pairs
      refine iff_of_false (fun same => nomatch (List.cons.inj same).1) (not_not_intro ?_)
      exact ⟨[], high, low, rest, rfl, pairs.1, pairs.2⟩
  | case2 high low rest apart inductionHypothesis =>
      have later : Paired (.half high :: .half low :: rest) ↔ Paired (.half low :: rest) := by
        refine paired_cons_iff fun _ _ _ first second => ?_
        cases first
        cases second
        simpa using apart
      rw [joined, if_neg apart, List.cons.injEq, inductionHypothesis, later, and_iff_right rfl]
  | case3 point rest single inductionHypothesis =>
      have later : Paired (point :: rest) ↔ Paired rest :=
        paired_cons_iff fun high low after first second => absurd second (single high low after first)
      rw [joined, List.cons.injEq, inductionHypothesis, later, and_iff_right rfl]
      exact single
  | case4 => exact iff_of_true rfl not_paired_nil

theorem joined_eq_nil_iff {points : List CodePoint} : joined points = [] ↔ points = [] := by
  fun_cases joined points <;> simp

end CodePoint

namespace Text

theorem joined_eq_self_iff {text : Text} : text.joined = text ↔ ¬ CodePoint.Paired text.points := by
  rw [← CodePoint.joined_eq_self_iff, ← points_inj, joined, points_ofPoints]

/-- Characters are joined with nothing. -/
@[simp] theorem joined_plain (written : String) : (plain written).joined = written := by
  rw [joined_eq_self_iff]
  rintro ⟨before, high, low, after, split, -⟩
  have member : CodePoint.half high ∈ written.toList.map .char := by
    rw [← points_plain, split]
    simp
  simp at member

theorem joined_of_isPlain {text : Text} (whole : text.isPlain = true) : text.joined = text := by
  cases text with
  | plain written => exact joined_plain written
  | broken written half rest => cases whole

theorem joined_eq_empty_iff {text : Text} : text.joined = "" ↔ text = "" := by
  rw [← points_eq_nil_iff, joined, points_ofPoints, CodePoint.joined_eq_nil_iff, points_eq_nil_iff]

/-- A pair of halves is joined, and one that stands apart is kept. -/
example : joined (.broken "a" 0 (.broken "" 1024 (.broken "b" 0 ""))) = .broken "a𐀀b" 0 "" := by
  decide

end Text

end RunnerCloud
