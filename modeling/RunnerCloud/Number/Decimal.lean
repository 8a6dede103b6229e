import RunnerCloud.Text.Basic

/-!
Contract: numbers written with ASCII decimal digits.

Owns:
- `digitsValue`, the number that a run of decimal digits writes;
- `spanDigits`, the leading decimal digits of a text and what follows them.

Does not own: signs, separators, and the digits of other scripts.
-/

namespace RunnerCloud.Number

/-- The number that decimal digits write, the most significant first. -/
def digitsValue (digits : List CodePoint) : Nat :=
  digits.foldl (fun value c => value * 10 + (c.toNat - '0'.toNat)) 0

/-- The leading decimal digits, and what follows them. -/
def spanDigits (chars : List CodePoint) : List CodePoint × List CodePoint :=
  (chars.takeWhile CodePoint.isDigit, chars.dropWhile CodePoint.isDigit)

end RunnerCloud.Number
