import RunnerCloud.Number.DigitLimit
import RunnerCloud.Text.Blank
import RunnerCloud.Text.Digit

/-!
Contract: integers written as text by a person.

Owns:
- `readInteger`, which reads an optional sign and decimal digits of any script, single underscores
  allowed between digits and white space at both ends;
- `IntegerProblem`, why a text is no such integer. A run of too many digits is reported as such,
  also when something else follows it.

Does not own: the integers of JSON and TOML, whose grammars are narrower.
-/

namespace RunnerCloud.Number

inductive IntegerProblem where
  | malformed
  | oversized (problem : Oversized)
deriving DecidableEq, Repr

/-- The digits of a text in which single underscores may separate digits. -/
def separatedDigits : List CodePoint → Option (List Nat)
  | [] => none
  | [c] => (Text.decimalDigit? c).map ([·])
  | c :: .char '_' :: rest => do
    let digit ← Text.decimalDigit? c
    let digits ← separatedDigits rest
    return digit :: digits
  | c :: rest => do
    let digit ← Text.decimalDigit? c
    let digits ← separatedDigits rest
    return digit :: digits

/-- The number that digits, the most significant first, denote. -/
def ofDigitValues (digits : List Nat) : Nat :=
  digits.foldl (fun value digit => 10 * value + digit) 0

def isDigitOrSeparator (c : CodePoint) : Bool :=
  c == '_' || (Text.decimalDigit? c).isSome

/-- Reads digits to the end of the text. -/
def readMagnitude (chars : List CodePoint) : Except IntegerProblem Nat :=
  match separatedDigits (chars.takeWhile isDigitOrSeparator) with
  | none => .error .malformed
  | some digits =>
    match withinLimit digits.length with
    | .error problem => .error (.oversized problem)
    | .ok () =>
      if (chars.dropWhile isDigitOrSeparator).isEmpty then .ok (ofDigitValues digits)
      else .error .malformed

/-- Reads a sign and digits. -/
def readSigned : List CodePoint → Except IntegerProblem Int
  | .char '-' :: rest => (readMagnitude rest).map fun magnitude => -(magnitude : Int)
  | .char '+' :: rest => (readMagnitude rest).map fun magnitude => (magnitude : Int)
  | chars => (readMagnitude chars).map fun magnitude => (magnitude : Int)

/-- The integer that a text denotes. -/
def readInteger (written : Text) : Except IntegerProblem Int :=
  readSigned (Text.trimmedChars Text.isWhiteSpace written.points)

end RunnerCloud.Number
