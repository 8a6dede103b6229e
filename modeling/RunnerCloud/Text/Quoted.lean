import RunnerCloud.Text.Printable

/-!
Contract: a text in quotes, the form in which messages cite a value they refuse.

Owns:
- `quoted`, single quotes, or double quotes when the text holds single quotes only;
- the escapes: the backslash and the quote that encloses, the three short escapes, and two, four
  or eight lower-case hexadecimal digits for an unprintable character.

Does not own: the quotes of JSON and of the shell.
-/

namespace RunnerCloud.Text

/-- `digits` lower-case hexadecimal digits of `value`, from the left. -/
def hexDigits (digits value : Nat) : List Char :=
  (List.range digits).reverse.map fun place => Nat.digitChar (value / Nat.pow 16 place % 16)

/-- A backslash, `mark` and `digits` hexadecimal digits of `value`. -/
def escape (mark : Char) (digits value : Nat) : List Char :=
  '\\' :: mark :: hexDigits digits value

/-- One character of a quoted text, `enclosing` being the quote around it. -/
def quotedChar (enclosing c : CodePoint) : List CodePoint :=
  if c == enclosing || c == '\\' then ['\\', c]
  else if c == '\n' then ['\\', 'n']
  else if c == '\r' then ['\\', 'r']
  else if c == '\t' then ['\\', 't']
  else if isPrintable c then [c]
  else if c.toNat < 0x100 then (escape 'x' 2 c.toNat).map .char
  else if c.toNat < 0x10000 then (escape 'u' 4 c.toNat).map .char
  else (escape 'U' 8 c.toNat).map .char

/-- The quote around a text: double only when that saves an escape. -/
def enclosingQuote (chars : List CodePoint) : CodePoint :=
  if chars.contains '\'' && !chars.contains '"' then '"' else '\''

/-- `text` in quotes. -/
def quoted (text : Text) : Text :=
  let enclosing := enclosingQuote text.points
  Text.ofPoints (enclosing :: text.points.flatMap (quotedChar enclosing) ++ [enclosing])

end RunnerCloud.Text
