import RunnerCloud.Json.Parser
import RunnerCloud.Toml.Problem

/-!
Contract: the words of TOML documents: blanks, comments, keys, strings, numbers, dates.

Owns:
- one reader for each word, from the start of a text to the word and what follows it; `none` is the
  absence of the word; numbers and dates may be there and have a problem of their own;
- the character classes that strings and comments exclude.

Does not own: values that hold others, and statements; `Toml.Parser` reads them.
-/

namespace RunnerCloud.Toml

open Number

/-- What a reader of a word returns: what it read, and what follows. -/
abbrev Read (α : Type) := Option (α × List CodePoint)

/-- What a reader returns that may meet a problem. -/
abbrev Outcome (α : Type) := Except Problem (α × List CodePoint)

/-! ## Blanks and comments -/

def isBlank (c : CodePoint) : Bool := c == ' ' || c == '\t'

def isBlankOrBreak (c : CodePoint) : Bool := isBlank c || c == '\n'

def skipBlanks (chars : List CodePoint) : List CodePoint := chars.dropWhile isBlank

/-- Controls other than the tab, which no comment and no one-line string may hold. -/
def isExcluded (c : CodePoint) : Bool := (c.toNat < 0x20 && c != '\t') || c.toNat == 0x7F

/-- Controls that no string of several lines may hold. -/
def isExcludedInLines (c : CodePoint) : Bool := isExcluded c && c != '\n'

/-- Line breaks of two characters become one. -/
def unifyBreaks : List CodePoint → List CodePoint
  | [] => []
  | .char '\r' :: .char '\n' :: rest => '\n' :: unifyBreaks rest
  | c :: rest => c :: unifyBreaks rest

/-- What follows a comment, or the text itself when it starts with none. -/
def skipComment (chars : List CodePoint) : Option (List CodePoint) :=
  match chars with
  | .char '#' :: rest =>
    if (rest.takeWhile (· != .char '\n')).any isExcluded then none
    else some (rest.dropWhile (· != .char '\n'))
  | _ => some chars

/-- Skips blanks, line breaks and comments between the items of a list. -/
def skipLayout : Nat → List CodePoint → Option (List CodePoint)
  | 0, chars => some chars
  | fuel + 1, chars =>
    match chars.dropWhile isBlankOrBreak with
    | .char '#' :: rest => (skipComment ('#' :: rest)).bind (skipLayout fuel)
    | following => some following

/-! ## Strings -/

/-- The character that hexadecimal digits name; surrogates name none. -/
def scalarOfHex? (digits : List CodePoint) : Option CodePoint := do
  let values ← digits.mapM Json.hexDigit?
  let code := values.foldl (fun total value => total * 16 + value) 0
  if code < 0xD800 || (0xE000 ≤ code && code < 0x110000) then some (Char.ofNat code) else none

/-- The character after `count` hexadecimal digits. -/
def readHex (count : Nat) (chars : List CodePoint) : Read CodePoint :=
  if chars.length < count then none
  else (scalarOfHex? (chars.take count)).map (·, chars.drop count)

/-- The character that a one-letter escape stands for. -/
def shortEscape? : CodePoint → Option CodePoint
  | .char 'b' => some (Char.ofNat 8)
  | .char 't' => some '\t'
  | .char 'n' => some '\n'
  | .char 'f' => some (Char.ofNat 12)
  | .char 'r' => some '\r'
  | .char '"' => some '"'
  | .char '\\' => some '\\'
  | _ => none

/-- What follows a backslash at the end of a line: the next text that is not blank. -/
def skipLineEnd (chars : List CodePoint) : Option (List CodePoint) :=
  match skipBlanks chars with
  | [] => some []
  | .char '\n' :: rest => some (rest.dropWhile isBlankOrBreak)
  | _ => none

/-- Reads the inside of a basic string to its closing quotes; `lines` allows several lines. -/
def readBasic (lines : Bool) : Nat → List CodePoint → Read (List CodePoint)
  | 0, _ => none
  | fuel + 1, chars =>
    match chars with
    | [] => none
    | .char '"' :: rest =>
      if !lines then some ([], rest)
      else
        match rest with
        | .char '"' :: .char '"' :: following => some ([], following)
        | _ => (readBasic lines fuel rest).map fun read => ('"' :: read.1, read.2)
    | .char '\\' :: escape :: rest =>
      if lines && isBlankOrBreak escape then
        (skipLineEnd (escape :: rest)).bind (readBasic lines fuel)
      else
        let escaped : Read CodePoint :=
          if escape == 'u' then readHex 4 rest
          else if escape == 'U' then readHex 8 rest
          else (shortEscape? escape).map (·, rest)
        match escaped with
        | none => none
        | some (c, following) =>
          (readBasic lines fuel following).map fun read => (c :: read.1, read.2)
    | c :: rest =>
      if c == '\\' || (if lines then isExcludedInLines c else isExcluded c) then none
      else (readBasic lines fuel rest).map fun read => (c :: read.1, read.2)

/-- Reads the inside of a literal string of one line. -/
def readLiteral : List CodePoint → Read (List CodePoint)
  | [] => none
  | .char '\'' :: rest => some ([], rest)
  | c :: rest =>
    if isExcluded c then none
    else (readLiteral rest).map fun read => (c :: read.1, read.2)

/-- Reads the inside of a literal string of several lines. -/
def readLiteralLines : List CodePoint → Read (List CodePoint)
  | [] => none
  | .char '\'' :: .char '\'' :: .char '\'' :: rest => some ([], rest)
  | c :: rest =>
    if isExcludedInLines c then none
    else (readLiteralLines rest).map fun read => (c :: read.1, read.2)

/-- Up to two quotes right after the closing quotes belong to a string of several lines. -/
def withTrailingQuotes (delimiter : CodePoint) :
    List CodePoint × List CodePoint → List CodePoint × List CodePoint
  | (inside, first :: second :: rest) =>
    if first == delimiter && second == delimiter then (inside ++ [delimiter, delimiter], rest)
    else if first == delimiter then (inside ++ [delimiter], second :: rest)
    else (inside, first :: second :: rest)
  | (inside, [first]) =>
    if first == delimiter then (inside ++ [delimiter], []) else (inside, [first])
  | (inside, []) => (inside, [])

/-- A line break right after the opening quotes is not part of the string. -/
def skipFirstBreak : List CodePoint → List CodePoint
  | .char '\n' :: rest => rest
  | chars => chars

/-- Reads a string of any of the four forms. -/
def readString (chars : List CodePoint) : Read (List CodePoint) :=
  match chars with
  | .char '"' :: .char '"' :: .char '"' :: rest =>
    (readBasic true (rest.length + 1) (skipFirstBreak rest)).map (withTrailingQuotes '"')
  | .char '"' :: rest => readBasic false (rest.length + 1) rest
  | .char '\'' :: .char '\'' :: .char '\'' :: rest =>
    (readLiteralLines (skipFirstBreak rest)).map (withTrailingQuotes '\'')
  | .char '\'' :: rest => readLiteral rest
  | _ => none

/-! ## Keys -/

def isBareKeyChar (c : CodePoint) : Bool := c.isAlphanum || c == '-' || c == '_'

/-- One part of a dotted key: bare, or a string of one line. -/
def readKeyPart (chars : List CodePoint) : Read Text :=
  match chars with
  | .char '"' :: rest => (readBasic false (rest.length + 1) rest).map fun read =>
      (Text.ofPoints read.1, read.2)
  | .char '\'' :: rest => (readLiteral rest).map fun read => (Text.ofPoints read.1, read.2)
  | _ =>
    match chars.takeWhile isBareKeyChar with
    | [] => none
    | bare => some (Text.ofPoints bare, chars.dropWhile isBareKeyChar)

/-- A key: parts with points and blanks between them. -/
def readKey : Nat → List CodePoint → Read (List Text)
  | 0, _ => none
  | fuel + 1, chars =>
    match readKeyPart chars with
    | none => none
    | some (part, afterPart) =>
      match skipBlanks afterPart with
      | .char '.' :: rest => (readKey fuel (skipBlanks rest)).map fun read => (part :: read.1, read.2)
      | following => some ([part], following)

/-! ## Numbers -/

/-- More digits of a class, each with at most one underscore before it. -/
def moreDigits (isDigit : CodePoint → Bool) : List CodePoint → List CodePoint × List CodePoint
  | [] => ([], [])
  | .char '_' :: c :: rest =>
    if isDigit c then
      let read := moreDigits isDigit rest
      (c :: read.1, read.2)
    else ([], '_' :: c :: rest)
  | c :: rest =>
    if isDigit c then
      let read := moreDigits isDigit rest
      (c :: read.1, read.2)
    else ([], c :: rest)

/-- Digits of a class, the first without an underscore before it. -/
def readDigits (isDigit : CodePoint → Bool) (chars : List CodePoint) : Read (List CodePoint) :=
  match chars with
  | [] => none
  | c :: rest =>
    if isDigit c then
      let read := moreDigits isDigit rest
      some (c :: read.1, read.2)
    else none

/-- The digits and the base that a mark after a zero announces. -/
def baseOfMark? : CodePoint → Option (Nat × (CodePoint → Bool))
  | .char 'x' => some (16, fun c => (Json.hexDigit? c).isSome)
  | .char 'o' => some (8, fun c => '0'.toNat ≤ c.toNat && c.toNat ≤ '7'.toNat)
  | .char 'b' => some (2, fun c => c == '0' || c == '1')
  | _ => none

/-- An integer in base 16, 8 or 2. -/
def readBased (chars : List CodePoint) : Read Value :=
  match chars with
  | .char '0' :: mark :: rest =>
    match baseOfMark? mark with
    | none => none
    | some (base, isDigit) =>
      (readDigits isDigit rest).map fun read =>
        let number := read.1.foldl
          (fun total c => total * base + (Json.hexDigit? c).getD 0) 0
        (.int number, read.2)
  | _ => none

/-- A sign, true when it is a minus, and what follows. -/
def readSign : List CodePoint → Bool × List CodePoint
  | .char '-' :: rest => (true, rest)
  | .char '+' :: rest => (false, rest)
  | chars => (false, chars)

/-- The integer part of a decimal number: zero, or digits that do not start with one. -/
def readWhole (chars : List CodePoint) : Read (List CodePoint) :=
  match chars with
  | .char '0' :: rest => some ([.char '0'], rest)
  | _ => readDigits CodePoint.isDigit chars

/-- The digits after a point; none of it is read when there are none. -/
def readFraction (chars : List CodePoint) : Option (List CodePoint) × List CodePoint :=
  match chars with
  | .char '.' :: rest =>
    match readDigits CodePoint.isDigit rest with
    | some (digits, following) => (some digits, following)
    | none => (none, chars)
  | _ => (none, chars)

/-- An exponent; none of it is read when it has no digits. -/
def readExponent (chars : List CodePoint) : Option Int × List CodePoint :=
  match chars with
  | mark :: rest =>
    if mark == 'e' || mark == 'E' then
      let (negative, afterSign) := readSign rest
      match readDigits CodePoint.isDigit afterSign with
      | some (digits, following) =>
        let magnitude : Int := digitsValue digits
        (some (if negative then -magnitude else magnitude), following)
      | none => (none, chars)
    else (none, chars)
  | [] => (none, [])

/-- The integer that digits and a sign write. -/
def integerOf (negative : Bool) (digits : List CodePoint) : Except Problem Value :=
  match withinLimit digits.length with
  | .error problem => .error (.oversized problem)
  | .ok () =>
    let magnitude : Int := digitsValue digits
    .ok (.int (if negative then -magnitude else magnitude))

/-- A decimal integer, or a binary64 number when a fraction or an exponent follows. -/
def readDecimal (chars : List CodePoint) : Option (Outcome Value) :=
  let (negative, afterSign) := readSign chars
  (readWhole afterSign).map fun (whole, afterWhole) =>
    let (fraction, afterFraction) := readFraction afterWhole
    let (exponent, rest) := readExponent afterFraction
    if fraction.isNone && exponent.isNone then (integerOf negative whole).map (·, rest)
    else
      let decimals := fraction.getD []
      let place : Int := exponent.getD 0 - decimals.length
      .ok (.float (Binary64.ofDecimal negative (digitsValue (whole ++ decimals)) place), rest)

/-- An infinity or not a number, with an optional sign. -/
def readSpecial (chars : List CodePoint) : Read Value :=
  let (negative, afterSign) := readSign chars
  match afterSign with
  | .char 'i' :: .char 'n' :: .char 'f' :: rest => some (.float (.infinite negative), rest)
  | .char 'n' :: .char 'a' :: .char 'n' :: rest => some (.float .notANumber, rest)
  | _ => none

/-! ## Dates and times -/

/-- A number of exactly `count` digits. -/
def readFixed (count : Nat) (chars : List CodePoint) : Read Nat :=
  let digits := chars.take count
  if digits.length == count && digits.all CodePoint.isDigit then
    some (digitsValue digits, chars.drop count)
  else none

/-- A number of exactly two digits between `least` and `greatest`. -/
def readPair (least greatest : Nat) (chars : List CodePoint) : Read Nat :=
  (readFixed 2 chars).filter fun read => least ≤ read.1 && read.1 ≤ greatest

/-- What follows `mark`. -/
def after (mark : CodePoint) : List CodePoint → Option (List CodePoint)
  | c :: rest => if c == mark then some rest else none
  | [] => none

/-- What follows a time of day with seconds and an optional fraction of them. -/
def skipTime (chars : List CodePoint) : Option (List CodePoint) := do
  let (_, rest) ← readPair 0 23 chars
  let (_, rest) ← readPair 0 59 (← after ':' rest)
  let (_, rest) ← readPair 0 59 (← after ':' rest)
  match rest with
  | .char '.' :: fraction =>
    match spanDigits fraction with
    | ([], _) => some rest
    | (_, following) => some following
  | _ => some rest

/-- What follows an offset from universal time, if there is one. -/
def skipOffset (chars : List CodePoint) : List CodePoint :=
  match chars with
  | .char 'Z' :: rest => rest
  | .char 'z' :: rest => rest
  | sign :: rest =>
    if sign == '+' || sign == '-' then
      let offset : Option (List CodePoint) := do
        let (_, rest) ← readPair 0 23 rest
        let (_, rest) ← readPair 0 59 (← after ':' rest)
        some rest
      offset.getD chars
    else chars
  | [] => []

/-- The number of days of a month. -/
def daysOfMonth (year month : Nat) : Nat :=
  if month == 2 then
    if year % 4 == 0 && (year % 100 != 0 || year % 400 == 0) then 29 else 28
  else if [4, 6, 9, 11].contains month then 30
  else 31

/-- A calendar date: year, month and day. -/
def readDate (chars : List CodePoint) : Option ((Nat × Nat × Nat) × List CodePoint) := do
  let (year, rest) ← readFixed 4 chars
  let (month, rest) ← readPair 1 12 (← after '-' rest)
  let (day, rest) ← readPair 1 31 (← after '-' rest)
  some ((year, month, day), rest)

/-- What follows a time and offset after a date, if there is one. -/
def skipTimeOfDate (chars : List CodePoint) : List CodePoint :=
  match chars with
  | mark :: rest =>
    if mark == 'T' || mark == 't' || mark == ' ' then
      match skipTime rest with
      | some following => skipOffset following
      | none => chars
    else chars
  | [] => []

/-- A date, with or without a time, or a time; `none` when the text starts with neither. -/
def readMoment (chars : List CodePoint) : Option (Outcome Value) :=
  let moment (rest : List CodePoint) : Outcome Value :=
    .ok (.moment (Text.ofPoints (chars.take (chars.length - rest.length))), rest)
  match readDate chars with
  | some ((year, month, day), rest) =>
    if year == 0 || daysOfMonth year month < day then some (.error .impossibleDate)
    else some (moment (skipTimeOfDate rest))
  | none => (skipTime chars).map moment

end RunnerCloud.Toml
