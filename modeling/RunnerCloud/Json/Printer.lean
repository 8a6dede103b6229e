import RunnerCloud.Data.Value

/-!
Contract: writing JSON text in ASCII.

Owns:
- `compact`, one line with `, ` between items and `: ` after keys;
- `indented`, two spaces a level, one item a line, an empty list or document on its line;
- the strings: a short escape where JSON has one, `\u` and four lower-case hexadecimal digits for
  every other control and for all but ASCII, a surrogate pair outside the basic plane. A half of a
  pair that stands alone is written as its own escape.

Does not own: key order; entries are written in the order they are held.
-/

namespace RunnerCloud.Json

open Number

/-- A `\u` escape of one UTF-16 unit. -/
def unitEscape (unit : Nat) : List Char :=
  '\\' :: 'u' :: [unit / 4096 % 16, unit / 256 % 16, unit / 16 % 16, unit % 16].map Nat.digitChar

/-- One character of a string. -/
def stringChar (c : Char) : List Char :=
  if c == '"' then ['\\', '"']
  else if c == '\\' then ['\\', '\\']
  else if c == '\n' then ['\\', 'n']
  else if c == '\r' then ['\\', 'r']
  else if c == '\t' then ['\\', 't']
  else if c.toNat == 8 then ['\\', 'b']
  else if c.toNat == 12 then ['\\', 'f']
  else if 0x20 ≤ c.toNat && c.toNat ≤ 0x7E then [c]
  else if c.toNat < 0x10000 then unitEscape c.toNat
  else
    unitEscape (0xD800 + (c.toNat - 0x10000) / 0x400) ++
      unitEscape (0xDC00 + (c.toNat - 0x10000) % 0x400)

/-- One code point of a string. -/
def pointChars : CodePoint → List Char
  | .char c => stringChar c
  | .half surrogate => unitEscape surrogate.code

def stringChars (text : Text) : List Char :=
  '"' :: text.points.flatMap pointChars ++ ['"']

/-- The text of a value that holds no others; empty for lists and documents. -/
def scalarChars : Value → List Char
  | .null => "null".toList
  | .bool value => if value then "true".toList else "false".toList
  | .int value => value.repr.toList
  | .float value => value.text
  | .text value => stringChars value
  | .moment written => stringChars written
  | .list _ => []
  | .dict _ => []

mutual

def compactChars : Value → List Char
  | .list items => '[' :: compactItems items ++ [']']
  | .dict entries => '\x7b' :: compactEntries entries ++ ['\x7d']
  | .null => scalarChars .null
  | .bool value => scalarChars (.bool value)
  | .int value => scalarChars (.int value)
  | .float value => scalarChars (.float value)
  | .text value => scalarChars (.text value)
  | .moment written => scalarChars (.moment written)

def compactItems : List Value → List Char
  | [] => []
  | [item] => compactChars item
  | item :: rest => compactChars item ++ ',' :: ' ' :: compactItems rest

def compactEntries : List (Text × Value) → List Char
  | [] => []
  | [(key, value)] => stringChars key ++ ':' :: ' ' :: compactChars value
  | (key, value) :: rest =>
    stringChars key ++ ':' :: ' ' :: (compactChars value ++ ',' :: ' ' :: compactEntries rest)

end

/-- A line break and the indentation of `level`. -/
def lineBreak (level : Nat) : List Char :=
  '\n' :: List.replicate (2 * level) ' '

mutual

def indentedChars (level : Nat) : Value → List Char
  | .list [] => ['[', ']']
  | .list (item :: items) =>
    '[' :: indentedItems (level + 1) (item :: items) ++ lineBreak level ++ [']']
  | .dict [] => ['\x7b', '\x7d']
  | .dict (entry :: entries) =>
    '\x7b' :: indentedEntries (level + 1) (entry :: entries) ++ lineBreak level ++ ['\x7d']
  | .null => scalarChars .null
  | .bool value => scalarChars (.bool value)
  | .int value => scalarChars (.int value)
  | .float value => scalarChars (.float value)
  | .text value => scalarChars (.text value)
  | .moment written => scalarChars (.moment written)

def indentedItems (level : Nat) : List Value → List Char
  | [] => []
  | [item] => lineBreak level ++ indentedChars level item
  | item :: rest => lineBreak level ++ indentedChars level item ++ ',' :: indentedItems level rest

def indentedEntries (level : Nat) : List (Text × Value) → List Char
  | [] => []
  | [(key, value)] =>
    lineBreak level ++ stringChars key ++ ':' :: ' ' :: indentedChars level value
  | (key, value) :: rest =>
    lineBreak level ++ stringChars key ++ ':' :: ' ' ::
      (indentedChars level value ++ ',' :: indentedEntries level rest)

end

/-- `value` on one line. -/
def compact (value : Value) : String :=
  String.ofList (compactChars value)

/-- `value` with two spaces a level. -/
def indented (value : Value) : String :=
  String.ofList (indentedChars 0 value)

end RunnerCloud.Json
