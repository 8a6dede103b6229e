import RunnerCloud.Text.Basic

/-!
Contract: how many decimal digits an integer may have.

Owns:
- `mostDigits`, the limit;
- `Oversized`, an integer over the limit, with its sentence, and `withinLimit`, which refuses one;
- `fits`, whether a number can be written within the limit, and the sentence about one that cannot.

Does not own: which texts are integers, and integers in bases other than ten, which have no limit.
-/

namespace RunnerCloud.Number

/-- The most decimal digits, leading zeros included, that a text of an integer may have. -/
def mostDigits : Nat := 4300

/-- An integer that is written with too many digits. -/
structure Oversized where
  digits : Nat
deriving DecidableEq, Repr

namespace Oversized

def message (oversized : Oversized) : Text :=
  "Exceeds the limit (" ++ mostDigits.repr ++
    " digits) for integer string conversion: value has " ++ oversized.digits.repr ++
    " digits; use sys.set_int_max_str_digits() to increase the limit"

end Oversized

/-- Accepts a count of digits within the limit. -/
def withinLimit (digits : Nat) : Except Oversized Unit :=
  if mostDigits < digits then .error ⟨digits⟩ else .ok ()

/-- The sentence about a number that is too long to be written. -/
def unwritableMessage : Text :=
  "Exceeds the limit (" ++ mostDigits.repr ++
    " digits) for integer string conversion; use sys.set_int_max_str_digits() to increase the limit"

/-- Whether the number has no more digits than the limit. -/
def fits (number : Int) : Bool :=
  decide (number.natAbs < Nat.pow 10 mostDigits)

end RunnerCloud.Number
