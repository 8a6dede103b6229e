import RunnerCloud.Number.DigitLimit

/-!
Contract: why a text is no TOML document.

Owns:
- `Problem`: a breach of the grammar or of an earlier statement, a date that no calendar has, or a
  decimal integer of too many digits. The first one from the start of the text is reported.

Does not own: the position and wording of breaches of the grammar.
-/

namespace RunnerCloud.Toml

inductive Problem where
  | malformed
  | impossibleDate
  | oversized (problem : Number.Oversized)
deriving DecidableEq, Repr

end RunnerCloud.Toml
