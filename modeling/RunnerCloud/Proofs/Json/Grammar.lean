import RunnerCloud.Json.Parser

/-!
Contract: which texts are JSON, and what they stand for.

Owns:
- `Inside`, `Numeral` and `Denotes`, the grammar of RFC 8259 with the meaning of each piece; a half of
  a surrogate pair that is escaped alone stands for itself;
- `IsText`, whole JSON texts.

Does not own: integers with more digits than can be read, which are JSON but stand for nothing here;
and the names `NaN` and `Infinity`, which are no JSON.
-/

namespace RunnerCloud.Json

open Number

/-- Blanks, which may stand around values and marks. -/
def Blank (chars : List CodePoint) : Prop :=
  ∀ c ∈ chars, isSpace c = true

/-! ## Strings -/

/-- An escape of the second half of a pair, with anything behind it. -/
inductive EscapesLow : List CodePoint → Prop
  | intro {a b c d : CodePoint} {low : Surrogate} {rest : List CodePoint}
      (digits : unit? a b c d = some low.code) (isLow : low.isHigh = false) :
      EscapesLow (.char '\\' :: .char 'u' :: a :: b :: c :: d :: rest)

/-- The inside of a string, and the code points that it stands for. -/
inductive Inside : List CodePoint → List CodePoint → Prop
  | nil : Inside [] []
  /-- All code points but controls, quotes and backslashes stand for themselves. -/
  | plain {c : CodePoint} {rest meant : List CodePoint} (noControl : 0x20 ≤ c.toNat)
      (noQuote : c ≠ '"') (noBackslash : c ≠ '\\') (following : Inside rest meant) :
      Inside (c :: rest) (c :: meant)
  /-- An escape of one letter. -/
  | short {letter : CodePoint} {c : Char} {rest meant : List CodePoint}
      (known : shortEscape? letter = some c) (following : Inside rest meant) :
      Inside ('\\' :: letter :: rest) (c :: meant)
  /-- An escape of a UTF-16 unit that is a character of its own. -/
  | unit {a b c d : CodePoint} {code : Nat} {rest meant : List CodePoint}
      (digits : unit? a b c d = some code) (whole : Surrogate.ofUnit? code = none)
      (following : Inside rest meant) :
      Inside ('\\' :: 'u' :: a :: b :: c :: d :: rest) (Char.ofNat code :: meant)
  /-- The escapes of the two halves of a character. -/
  | pair {a b c d a' b' c' d' : CodePoint} {high low : Surrogate} {rest meant : List CodePoint}
      (highDigits : unit? a b c d = some high.code) (isHigh : high.isHigh = true)
      (lowDigits : unit? a' b' c' d' = some low.code) (isLow : low.isHigh = false)
      (following : Inside rest meant) :
      Inside ('\\' :: 'u' :: a :: b :: c :: d :: '\\' :: 'u' :: a' :: b' :: c' :: d' :: rest)
        (high.pair low :: meant)
  /-- The escape of a half that makes up no character with what follows. -/
  | half {a b c d : CodePoint} {half : Surrogate} {rest meant : List CodePoint}
      (digits : unit? a b c d = some half.code)
      (alone : half.isHigh = true → ¬ EscapesLow rest) (following : Inside rest meant) :
      Inside ('\\' :: 'u' :: a :: b :: c :: d :: rest) (.half half :: meant)

/-! ## Numbers -/

/-- One decimal digit or more. -/
def Digits (chars : List CodePoint) : Prop :=
  chars ≠ [] ∧ ∀ c ∈ chars, c.isDigit = true

/-- A zero, or digits that do not start with one. -/
def Whole (chars : List CodePoint) : Prop :=
  chars = [.char '0'] ∨ Digits chars ∧ chars.head? ≠ some (.char '0')

def signChars (negative : Bool) : List CodePoint :=
  if negative then ['-'] else []

def signed (negative : Bool) (magnitude : Nat) : Int :=
  if negative then -(magnitude : Int) else magnitude

/-- A fraction, which may be left out, and its digits. -/
inductive Fraction : List CodePoint → List CodePoint → Prop
  | absent : Fraction [] []
  | present {digits : List CodePoint} (written : Digits digits) : Fraction ('.' :: digits) digits

/-- An exponent, which may be left out, and its number. -/
inductive Exponent : List CodePoint → Option Int → Prop
  | absent : Exponent [] none
  | present {mark : CodePoint} {digits : List CodePoint} (known : mark = 'e' ∨ mark = 'E')
      (written : Digits digits) : Exponent (mark :: digits) (some (digitsValue digits))
  | plus {mark : CodePoint} {digits : List CodePoint} (known : mark = 'e' ∨ mark = 'E')
      (written : Digits digits) : Exponent (mark :: '+' :: digits) (some (digitsValue digits))
  | minus {mark : CodePoint} {digits : List CodePoint} (known : mark = 'e' ∨ mark = 'E')
      (written : Digits digits) : Exponent (mark :: '-' :: digits) (some (-digitsValue digits))

/-- A number. One without fraction and exponent is an integer. -/
inductive Numeral : List CodePoint → Value → Prop
  | integer (negative : Bool) {whole : List CodePoint} (wellFormed : Whole whole)
      (readable : whole.length ≤ mostDigits) :
      Numeral (signChars negative ++ whole) (.int (signed negative (digitsValue whole)))
  | decimal (negative : Bool) {whole fraction places exponent : List CodePoint} {power : Option Int}
      (wellFormed : Whole whole) (fractional : Fraction fraction places)
      (exponential : Exponent exponent power) (decimal : places ≠ [] ∨ power ≠ none) :
      Numeral (signChars negative ++ (whole ++ (fraction ++ exponent)))
        (.float (Binary64.ofDecimal negative (digitsValue (whole ++ places))
          (power.getD 0 - places.length)))

/-! ## Values -/

/-- What a piece of JSON stands for: a value, the items of a list, or the entries of a document. -/
inductive Meaning where
  | value (value : Value)
  | items (items : List Value)
  | entries (entries : List (Text × Value))

/-- The pieces of JSON, and what they stand for. -/
inductive Denotes : List CodePoint → Meaning → Prop
  | nullWord : Denotes ['n', 'u', 'l', 'l'] (.value .null)
  | trueWord : Denotes ['t', 'r', 'u', 'e'] (.value (.bool true))
  | falseWord : Denotes ['f', 'a', 'l', 's', 'e'] (.value (.bool false))
  | number {chars : List CodePoint} {value : Value} (numeral : Numeral chars value) :
      Denotes chars (.value value)
  | string {inside meant : List CodePoint} (reads : Inside inside meant) :
      Denotes ('"' :: (inside ++ [.char '"'])) (.value (.text (Text.ofPoints meant)))
  | emptyList {blank : List CodePoint} (isBlank : Blank blank) :
      Denotes ('[' :: (blank ++ [.char ']'])) (.value (.list []))
  | list {blank inside : List CodePoint} {items : List Value} (isBlank : Blank blank)
      (denotes : Denotes inside (.items items)) :
      Denotes ('[' :: (blank ++ (inside ++ [.char ']']))) (.value (.list items))
  | emptyDict {blank : List CodePoint} (isBlank : Blank blank) :
      Denotes ('\x7b' :: (blank ++ [.char '\x7d'])) (.value (.dict []))
  /-- Of two entries with one key the later value counts. -/
  | dict {blank inside : List CodePoint} {entries : List (Text × Value)} (isBlank : Blank blank)
      (denotes : Denotes inside (.entries entries)) :
      Denotes ('\x7b' :: (blank ++ (inside ++ [.char '\x7d']))) (.value (.dict (Fields.ofList entries)))
  | lastItem {chars blank : List CodePoint} {item : Value} (denotes : Denotes chars (.value item))
      (isBlank : Blank blank) :
      Denotes (chars ++ blank) (.items [item])
  | item {chars blank next rest : List CodePoint} {item : Value} {items : List Value}
      (denotes : Denotes chars (.value item)) (isBlank : Blank blank) (nextBlank : Blank next)
      (following : Denotes rest (.items items)) :
      Denotes (chars ++ (blank ++ .char ',' :: (next ++ rest))) (.items (item :: items))
  | lastEntry {key meant afterKey beforeValue chars blank : List CodePoint} {value : Value}
      (reads : Inside key meant) (keyBlank : Blank afterKey) (colonBlank : Blank beforeValue)
      (denotes : Denotes chars (.value value)) (isBlank : Blank blank) :
      Denotes ('"' :: (key ++ .char '"' :: (afterKey ++ .char ':' :: (beforeValue ++ (chars ++ blank)))))
        (.entries [(Text.ofPoints meant, value)])
  | entry {key meant afterKey beforeValue chars blank next rest : List CodePoint} {value : Value}
      {entries : List (Text × Value)} (reads : Inside key meant) (keyBlank : Blank afterKey)
      (colonBlank : Blank beforeValue) (denotes : Denotes chars (.value value))
      (isBlank : Blank blank) (nextBlank : Blank next) (following : Denotes rest (.entries entries)) :
      Denotes ('"' :: (key ++ .char '"' :: (afterKey ++ .char ':' :: (beforeValue ++
          (chars ++ (blank ++ .char ',' :: (next ++ rest)))))))
        (.entries ((Text.ofPoints meant, value) :: entries))

/-- A whole text stands for the one value in it. -/
def IsText (chars : List CodePoint) (value : Value) : Prop :=
  ∃ before inside after, chars = before ++ (inside ++ after) ∧ Blank before ∧ Blank after ∧
    Denotes inside (.value value)

end RunnerCloud.Json
