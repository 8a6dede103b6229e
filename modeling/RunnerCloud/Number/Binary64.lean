/-!
Contract: binary64 numbers as exact data, read from and written in decimal.

Owns:
- `Binary64`, a number with a significand and a power of two, an infinity, or not a number.
- `ofDecimal`, the binary64 number nearest to a decimal one, a tie going to the even significand.
- `shortestDigits`, the fewest decimal digits that read back as the number, nearest to it among
  those, and `text`, their layout.

Does not own: arithmetic; this library compares, reads and writes these numbers only.
-/

namespace RunnerCloud.Number

/--
`finite negative significand exponent` is the number `± significand * 2 ^ exponent`. Readers in
this module keep it canonical: the significand is below `2 ^ 53`, the exponent at least `-1074`, and
the significand reaches `2 ^ 52` unless the exponent is `-1074`.
-/
inductive Binary64 where
  | notANumber
  | infinite (negative : Bool)
  | finite (negative : Bool) (significand : Nat) (exponent : Int)
deriving DecidableEq, Repr

namespace Binary64

/-- The least exponent of a binary64 number. -/
def leastExponent : Int := -1074

/-- The greatest exponent of a binary64 number. -/
def greatestExponent : Int := 971

/-- The least significand with all its bits, `2 ^ 52`. -/
def leastFullSignificand : Nat := 0x10000000000000

/-- The zero of either sign. -/
def signedZero (negative : Bool) : Binary64 :=
  .finite negative 0 leastExponent

/-- `base ^ exponent` for an exponent that may be negative, as numerator and denominator. -/
def powerRatio (base : Nat) (exponent : Int) : Nat × Nat :=
  if exponent < 0 then (1, base.pow (-exponent).toNat) else (base.pow exponent.toNat, 1)

/-- The integer nearest to `numerator / denominator`, a tie going to the even one. -/
def roundedQuotient (numerator denominator : Nat) : Nat :=
  let quotient := numerator / denominator
  let twice := 2 * (numerator % denominator)
  if twice > denominator || (twice == denominator && quotient % 2 == 1) then quotient + 1
  else quotient

/-- The exponent with which `numerator / denominator` has 53 significant bits, or the least one. -/
def exponentOfRatio (numerator denominator : Nat) : Int :=
  let estimate : Int := (numerator.log2 : Int) - (denominator.log2 : Int) - 52
  let scale := powerRatio 2 estimate
  let exact :=
    if numerator * scale.2 < leastFullSignificand * (denominator * scale.1) then estimate - 1
    else estimate
  max exact leastExponent

/-- The binary64 number nearest to `± numerator / denominator`. -/
def ofRatio (negative : Bool) (numerator denominator : Nat) : Binary64 :=
  if numerator == 0 then signedZero negative
  else
    let exponent := exponentOfRatio numerator denominator
    let scale := powerRatio 2 exponent
    let significand := roundedQuotient (numerator * scale.2) (denominator * scale.1)
    let carried := significand == 2 * leastFullSignificand
    let significand := if carried then leastFullSignificand else significand
    let exponent := if carried then exponent + 1 else exponent
    if exponent > greatestExponent then .infinite negative
    else if significand == 0 then signedZero negative
    else .finite negative significand exponent

/--
The binary64 number nearest to `± digits * 10 ^ exponent`. Magnitudes from `10 ^ 310` and below
`10 ^ -330` are decided by their order alone.
-/
def ofDecimal (negative : Bool) (digits : Nat) (exponent : Int) : Binary64 :=
  if digits == 0 then signedZero negative
  else
    let order := exponent + ((Nat.toDigits 10 digits).length : Int)
    if order > 310 then .infinite negative
    else if order < -330 then signedZero negative
    else
      let scale := powerRatio 10 exponent
      ofRatio negative (digits * scale.1) scale.2

/-- The integer that the number is, if it has no fractional part. -/
def toInt? : Binary64 → Option Int
  | .notANumber => none
  | .infinite _ => none
  | .finite negative significand exponent =>
    let scale := powerRatio 2 exponent
    if (significand * scale.1) % scale.2 == 0 then
      let magnitude : Int := (significand * scale.1 / scale.2 : Nat)
      some (if negative then -magnitude else magnitude)
    else none

/-- The number without its fractional part; infinities have no integer. -/
def truncated? : Binary64 → Option Int
  | .notANumber => none
  | .infinite _ => none
  | .finite negative significand exponent =>
    let scale := powerRatio 2 exponent
    let magnitude : Int := (significand * scale.1 / scale.2 : Nat)
    some (if negative then -magnitude else magnitude)

def isZero : Binary64 → Bool
  | .finite _ significand _ => significand == 0
  | _ => false

/-! ## Shortest decimal form -/

/--
Whether the decimal `digits * 10 ^ place` reads back as `significand * 2 ^ exponent`: it lies
between the midpoints to the two neighbours, the ends included when the significand is even.
-/
def readsBack (significand : Nat) (exponent : Int) (digits : Nat) (place : Int) : Bool :=
  let decimal := powerRatio 10 place
  let binary := powerRatio 2 (exponent - 2)
  let candidate := digits * decimal.1 * binary.2
  let unit := binary.1 * decimal.2
  let below := if significand == leastFullSignificand && exponent != leastExponent then 1 else 2
  let low := (4 * significand - below) * unit
  let high := (4 * significand + 2) * unit
  if significand % 2 == 0 then low ≤ candidate && candidate ≤ high
  else low < candidate && candidate < high

/-- The power of ten just above `numerator / denominator`, found from an estimate by the bit
lengths. -/
def decimalOrder (numerator denominator : Nat) : Int :=
  let bits : Int := (numerator.log2 : Int) - (denominator.log2 : Int)
  let estimate : Int := (bits * 30103).fdiv 100000
  let reaches (order : Int) : Bool :=
    let scale := powerRatio 10 order
    decide (denominator * scale.1 ≤ numerator * scale.2)
  if reaches (estimate + 1) then estimate + 2
  else if reaches estimate then estimate + 1
  else if reaches (estimate - 1) then estimate
  else estimate - 1

/-- The first of the digit counts `count, …` for which a grid point beside the number reads back. -/
def shortestFrom (significand : Nat) (exponent : Int) (order : Int) :
    Nat → Nat → Nat × Int
  | 0, count => (0, order - count)
  | remaining + 1, count =>
    let place := order - count
    let decimal := powerRatio 10 place
    let binary := powerRatio 2 exponent
    let numerator := significand * binary.1 * decimal.2
    let denominator := binary.2 * decimal.1
    let below := numerator / denominator
    let belowHits := readsBack significand exponent below place
    let aboveHits := readsBack significand exponent (below + 1) place
    let nearer := roundedQuotient numerator denominator
    if belowHits && aboveHits then (nearer, place)
    else if belowHits then (below, place)
    else if aboveHits then (below + 1, place)
    else shortestFrom significand exponent order remaining (count + 1)

/-- Removes the zeros at the end of a decimal number, moving its place instead. -/
def withoutTrailingZeros : Nat → Nat → Int → Nat × Int
  | 0, digits, place => (digits, place)
  | fuel + 1, digits, place =>
    if digits != 0 && digits % 10 == 0 then withoutTrailingZeros fuel (digits / 10) (place + 1)
    else (digits, place)

/-- The shortest decimal `digits * 10 ^ place` that reads back as a non-zero number. -/
def shortestDigits (significand : Nat) (exponent : Int) : Nat × Int :=
  let binary := powerRatio 2 exponent
  let order := decimalOrder (significand * binary.1) binary.2
  let found := shortestFrom significand exponent order 17 1
  withoutTrailingZeros 20 found.1 found.2

/-- Zeros to fill a gap of `count` places. -/
def zeros (count : Int) : List Char :=
  List.replicate count.toNat '0'

/--
The layout of `digits * 10 ^ place`: positional with at least one decimal while the first digit
stands between `10 ^ -4` and below `10 ^ 16`, else one digit before the point and an exponent of at
least two digits with its sign.
-/
def layout (digits : Nat) (place : Int) : List Char :=
  let shown := Nat.toDigits 10 digits
  let count : Int := shown.length
  let point := count + place
  if -4 < point && point ≤ 16 then
    if point ≤ 0 then '0' :: '.' :: zeros (-point) ++ shown
    else if count ≤ point then shown ++ zeros (point - count) ++ ['.', '0']
    else shown.take point.toNat ++ '.' :: shown.drop point.toNat
  else
    let power := point - 1
    let magnitude := Nat.toDigits 10 power.natAbs
    let padded := if magnitude.length < 2 then '0' :: magnitude else magnitude
    let fraction := if shown.length ≤ 1 then [] else '.' :: shown.drop 1
    shown.take 1 ++ fraction ++ 'e' :: (if power < 0 then '-' else '+') :: padded

/-- The decimal text of a number, with the names that JSON extensions give the other values. -/
def text : Binary64 → List Char
  | .notANumber => "NaN".toList
  | .infinite negative => if negative then "-Infinity".toList else "Infinity".toList
  | .finite negative significand exponent =>
    let sign := if negative then ['-'] else []
    if significand == 0 then sign ++ ['0', '.', '0']
    else
      let shortest := shortestDigits significand exponent
      sign ++ layout shortest.1 shortest.2

end Binary64

end RunnerCloud.Number
