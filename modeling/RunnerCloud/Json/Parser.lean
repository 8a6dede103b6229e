import RunnerCloud.Data.Value
import RunnerCloud.Number.Decimal
import RunnerCloud.Number.DigitLimit

/-!
Contract: reading JSON text.

Owns:
- `parse`, which reads one value with blanks around it and refuses anything else, and `Problem`, why
  it refuses: the first thing from the left that is no JSON or an integer of too many digits;
- the grammar: the one of RFC 8259, and beside it the names `NaN`, `Infinity` and `-Infinity`.
  A number without fraction and exponent is an integer, any other a binary64 number. Of two entries
  with one key the later value counts.

- the escapes: those of two halves side by side are one character; any other half is kept alone.

Does not own: the position or wording of syntax errors.
-/

namespace RunnerCloud.Json

open Number

inductive Problem where
  | malformed
  | oversized (problem : Oversized)
deriving DecidableEq, Repr

/-- What a reader returns: what it read and what follows, or the first problem. -/
abbrev Read (α : Type) := Except Problem (α × List CodePoint)

def isSpace (c : CodePoint) : Bool :=
  c == ' ' || c == '\t' || c == '\n' || c == '\r'

def skipSpace (chars : List CodePoint) : List CodePoint :=
  chars.dropWhile isSpace

/-- The value of a hexadecimal digit. -/
def hexDigit? (c : CodePoint) : Option Nat :=
  if '0'.toNat ≤ c.toNat && c.toNat ≤ '9'.toNat then some (c.toNat - '0'.toNat)
  else if 'a'.toNat ≤ c.toNat && c.toNat ≤ 'f'.toNat then some (c.toNat - 'a'.toNat + 10)
  else if 'A'.toNat ≤ c.toNat && c.toNat ≤ 'F'.toNat then some (c.toNat - 'A'.toNat + 10)
  else none

/-- The UTF-16 unit that four hexadecimal digits name. -/
def unit? (a b c d : CodePoint) : Option Nat := do
  let a ← hexDigit? a
  let b ← hexDigit? b
  let c ← hexDigit? c
  let d ← hexDigit? d
  some (((a * 16 + b) * 16 + c) * 16 + d)

/-- A high half that no low one follows. -/
def loneHalf (pending : Option Surrogate) : List CodePoint :=
  pending.toList.map .half

/--
The code points that `unit` completes after a pending high half, and the high half that is pending
after it.
-/
def joinUnit (pending : Option Surrogate) (unit : Nat) : List CodePoint × Option Surrogate :=
  match Surrogate.ofUnit? unit with
  | none => (loneHalf pending ++ [.char (Char.ofNat unit)], none)
  | some half =>
    if half.isHigh then (loneHalf pending, some half)
    else
      match pending with
      | some high => ([.char (high.pair half)], none)
      | none => ([.half half], none)

/-- The character that a one-letter escape stands for. -/
def shortEscape? : CodePoint → Option Char
  | .char '"' => some '"'
  | .char '\\' => some '\\'
  | .char '/' => some '/'
  | .char 'b' => some (Char.ofNat 8)
  | .char 'f' => some (Char.ofNat 12)
  | .char 'n' => some '\n'
  | .char 'r' => some '\r'
  | .char 't' => some '\t'
  | _ => none

/--
Reads the inside of a string up to its closing quote: the characters, and what follows. `pending` is
the high half that an escape has just named.
-/
def readString (pending : Option Surrogate) :
    List CodePoint → Option (List CodePoint × List CodePoint)
  | [] => none
  | .char '"' :: rest => some (loneHalf pending, rest)
  | .char '\\' :: .char 'u' :: a :: b :: c :: d :: rest =>
    match unit? a b c d with
    | none => none
    | some unit =>
      let joined := joinUnit pending unit
      (readString joined.2 rest).map fun read => (joined.1 ++ read.1, read.2)
  | .char '\\' :: escape :: rest =>
    match shortEscape? escape with
    | none => none
    | some c =>
      (readString none rest).map fun read => (loneHalf pending ++ .char c :: read.1, read.2)
  | c :: rest =>
    if c == '\\' || c.toNat < 0x20 then none
    else (readString none rest).map fun read => (loneHalf pending ++ c :: read.1, read.2)

/-! ## Numbers -/

/-- An integer part: a single zero, or digits that do not start with zero. -/
def readInteger (chars : List CodePoint) : Option (List CodePoint × List CodePoint) :=
  match chars with
  | .char '0' :: rest => some ([.char '0'], rest)
  | _ =>
    match spanDigits chars with
    | ([], _) => none
    | split => some split

/-- The fraction digits after a point; without digits there is no fraction and nothing is read. -/
def readFraction (chars : List CodePoint) : List CodePoint × List CodePoint :=
  match chars with
  | .char '.' :: rest =>
    match spanDigits rest with
    | ([], _) => ([], chars)
    | split => split
  | _ => ([], chars)

/-- An exponent with its sign; without digits there is none and nothing is read. -/
def readExponent (chars : List CodePoint) : Option Int × List CodePoint :=
  match chars with
  | mark :: rest =>
    if mark == .char 'e' || mark == .char 'E' then
      let signed := match rest with
        | .char '-' :: following => (true, following)
        | .char '+' :: following => (false, following)
        | following => (false, following)
      match spanDigits signed.2 with
      | ([], _) => (none, chars)
      | (digits, following) =>
        let magnitude : Int := digitsValue digits
        (some (if signed.1 then -magnitude else magnitude), following)
    else (none, chars)
  | [] => (none, [])

/-- The integer that digits and a sign write. -/
def integerOf (negative : Bool) (digits : List CodePoint) : Except Problem Value :=
  match withinLimit digits.length with
  | .error problem => .error (.oversized problem)
  | .ok () =>
    let magnitude : Int := digitsValue digits
    .ok (.int (if negative then -magnitude else magnitude))

/-- Reads a number without its sign. -/
def readUnsigned (negative : Bool) (chars : List CodePoint) : Read Value :=
  match readInteger chars with
  | none => .error .malformed
  | some (whole, afterWhole) =>
    let (fraction, afterFraction) := readFraction afterWhole
    let (exponent, rest) := readExponent afterFraction
    if fraction.isEmpty && exponent.isNone then (integerOf negative whole).map (·, rest)
    else
      let place : Int := exponent.getD 0 - fraction.length
      .ok (.float (Binary64.ofDecimal negative (digitsValue (whole ++ fraction)) place), rest)

/-- What follows `word` when the text starts with it. -/
def afterWord? (word : Text) (chars : List CodePoint) : Option (List CodePoint) :=
  if word.points.isPrefixOf chars then some (chars.drop word.points.length) else none

/-- Reads a number, an infinity or a name. -/
def readScalar (chars : List CodePoint) : Read Value :=
  match afterWord? "null" chars, afterWord? "true" chars, afterWord? "false" chars,
      afterWord? "NaN" chars, afterWord? "Infinity" chars, afterWord? "-Infinity" chars with
  | some rest, _, _, _, _, _ => .ok (.null, rest)
  | _, some rest, _, _, _, _ => .ok (.bool true, rest)
  | _, _, some rest, _, _, _ => .ok (.bool false, rest)
  | _, _, _, some rest, _, _ => .ok (.float .notANumber, rest)
  | _, _, _, _, some rest, _ => .ok (.float (.infinite false), rest)
  | _, _, _, _, _, some rest => .ok (.float (.infinite true), rest)
  | _, _, _, _, _, _ =>
    match chars with
    | .char '-' :: rest => readUnsigned true rest
    | _ => readUnsigned false chars

/-! ## Values -/

mutual

/-- Reads a value at the start of the text; `fuel` bounds the nesting and the number of items. -/
def readValue : Nat → List CodePoint → Read Value
  | 0, _ => .error .malformed
  | _ + 1, .char '"' :: rest =>
    match readString none rest with
    | none => .error .malformed
    | some (inside, following) => .ok (.text (Text.ofPoints inside), following)
  | fuel + 1, .char '[' :: rest =>
    match skipSpace rest with
    | .char ']' :: following => .ok (.list [], following)
    | inside => (readItems fuel inside).map fun read => (.list read.1, read.2)
  | fuel + 1, .char '\x7b' :: rest =>
    match skipSpace rest with
    | .char '\x7d' :: following => .ok (.dict [], following)
    | inside => (readEntries fuel inside).map fun read => (.dict (Fields.ofList read.1), read.2)
  | _ + 1, chars => readScalar chars

/-- Reads items up to the closing bracket. -/
def readItems : Nat → List CodePoint → Read (List Value)
  | 0, _ => .error .malformed
  | fuel + 1, chars =>
    match readValue fuel chars with
    | .error problem => .error problem
    | .ok (item, afterItem) =>
      match skipSpace afterItem with
      | .char ']' :: following => .ok ([item], following)
      | .char ',' :: following =>
        (readItems fuel (skipSpace following)).map fun read => (item :: read.1, read.2)
      | _ => .error .malformed

/-- Reads entries up to the closing brace. -/
def readEntries : Nat → List CodePoint → Read (List (Text × Value))
  | 0, _ => .error .malformed
  | fuel + 1, .char '"' :: rest =>
    match readString none rest with
    | none => .error .malformed
    | some (key, afterKey) =>
      match skipSpace afterKey with
      | .char ':' :: afterColon =>
        match readValue fuel (skipSpace afterColon) with
        | .error problem => .error problem
        | .ok (value, afterValue) =>
          match skipSpace afterValue with
          | .char '\x7d' :: following => .ok ([(Text.ofPoints key, value)], following)
          | .char ',' :: following =>
            (readEntries fuel (skipSpace following)).map
              fun read => ((Text.ofPoints key, value) :: read.1, read.2)
          | _ => .error .malformed
      | _ => .error .malformed
  | _ + 1, _ => .error .malformed

end

/-- The value that the whole text is. -/
def parseChars (chars : List CodePoint) : Except Problem Value :=
  match readValue (2 * chars.length + 2) (skipSpace chars) with
  | .error problem => .error problem
  | .ok (value, rest) =>
    if (skipSpace rest).isEmpty then .ok value else .error .malformed

def parse (text : Text) : Except Problem Value :=
  parseChars text.points

/-- The value that a text is, without the reason when it is none. -/
def parse? (text : Text) : Option Value :=
  (parse text).toOption

end RunnerCloud.Json
