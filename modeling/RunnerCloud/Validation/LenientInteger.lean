import RunnerCloud.Number.Decimal
import RunnerCloud.Number.DigitLimit
import RunnerCloud.Text.Blank

/-!
Contract: the texts that a validation takes for integers.

Owns:
- `IntegerReading.ofChars`, the strict reading: a minus sign or none, and digits without a leading
  zero, to the end of the text;
- `tidied?`, the text with what a person may add around a number removed;
- `IntegerReading.lenient`, the strict reading of a text, and where that fails of the tidied text.

Does not own: integers given as numbers; `Validation.Scalar` reads them.
-/

namespace RunnerCloud.Validation

open Number

/-- What a reading of an integer comes to. -/
inductive IntegerReading where
  | whole (number : Int)
  | oversized
  | malformed
deriving DecidableEq, Repr

/-- Reads digits, at most `mostDigits` of them. -/
def IntegerReading.ofDigits (chars : List CodePoint) : IntegerReading :=
  match spanDigits chars with
  | ([], _) => .malformed
  | (.char '0' :: more, rest) => if more.isEmpty && rest.isEmpty then .whole 0 else .malformed
  | (digits, rest) =>
    if mostDigits < digits.length then .oversized
    else if rest.isEmpty then .whole (digitsValue digits)
    else .malformed

/-- The same reading with the sign of a number changed. -/
def IntegerReading.negated : IntegerReading → IntegerReading
  | .whole number => .whole (-number)
  | .oversized => .oversized
  | .malformed => .malformed

/-- The strict reading. A run of too many digits counts as such, whatever follows it. -/
def IntegerReading.ofChars : List CodePoint → IntegerReading
  | .char '-' :: rest => (IntegerReading.ofDigits rest).negated
  | chars => .ofDigits chars

/-! ## Tidying -/

/-- Drops a plus sign; none may be followed by a minus sign. -/
def withoutPlus? : List CodePoint → Option (List CodePoint)
  | .char '+' :: .char '-' :: _ => none
  | .char '+' :: rest => some rest
  | chars => some chars

/--
Drops the zeros and underscores that lead a number; `last` is the one dropped last. It stays when
nothing else is left, and before a point.
-/
def withoutZerosAfter (last : CodePoint) : List CodePoint → Option (List CodePoint)
  | [] => some [last]
  | c :: rest =>
    if c == '0' || c == '_' then withoutZerosAfter c rest
    else if c == '.' then some (last :: c :: rest)
    else if c == '-' || c.isDigit then some (c :: rest)
    else none

/-- A minus sign or none, and what follows it. -/
def spanMinus : List CodePoint → List CodePoint × List CodePoint
  | .char '-' :: rest => (['-'], rest)
  | chars => ([], chars)

/-- Drops leading zeros; what they lead has to be a digit, a minus sign or a point. -/
def withoutLeadingZeros? : List CodePoint → Option (List CodePoint)
  | [] => none
  | .char '0' :: rest => withoutZerosAfter '0' rest
  | c :: rest => if c == '-' || c.isDigit then some (c :: rest) else none

/-- Drops a fraction that consists of a point and at least one zero. -/
def withoutZeroFraction (chars : List CodePoint) : List CodePoint :=
  let whole := chars.takeWhile (· != .char '.')
  let fraction := chars.drop (whole.length + 1)
  if fraction.isEmpty || fraction.any (· != '0') then chars else whole

/-- Whether two underscores stand side by side. -/
def hasDoubleUnderscore : List CodePoint → Bool
  | .char '_' :: .char '_' :: _ => true
  | _ :: rest => hasDoubleUnderscore rest
  | [] => false

/-- Drops underscores, if each of them stands between two other characters. -/
def withoutUnderscores (chars : List CodePoint) : List CodePoint :=
  if chars.head? == some (.char '_') || chars.getLast? == some (.char '_') ||
      hasDoubleUnderscore chars then chars
  else chars.filter (· != '_')

/--
The text of a number without white space, plus sign, a fraction of zeros and separating underscores,
and without the zeros that lead it, behind a minus sign too. A minus sign that stands behind leading
zeros stays, so `0-5` and `-05` are the same number, and `-0-5` is none.
-/
def tidied? (chars : List CodePoint) : Option (List CodePoint) := do
  let (sign, magnitude) := spanMinus (← withoutPlus? (Text.trimmedChars Text.isWhiteSpace chars))
  let significant ← withoutLeadingZeros? magnitude
  return sign ++ withoutUnderscores (withoutZeroFraction significant)

/-- The strict reading, or that of the tidied text, which is not told to be oversized. -/
def IntegerReading.lenient (chars : List CodePoint) : IntegerReading :=
  match IntegerReading.ofChars chars with
  | .malformed =>
    match (tidied? chars).map IntegerReading.ofChars with
    | some (.whole number) => .whole number
    | _ => .malformed
  | reading => reading

end RunnerCloud.Validation
