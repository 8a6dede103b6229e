import RunnerCloud.Data.Value
import RunnerCloud.Number.DigitLimit
import RunnerCloud.Text.Quoted

/-!
Contract: values inside of messages.

Owns:
- `Value.inMessage`, a value as a message shows it: a text as it is, everything else as in a list;
- `Value.cited`, a value as it stands in a list: a text in quotes, the names `None`, `True` and
  `False`, `nan` and `inf`, the shortest decimals of other numbers, lists in brackets and documents
  in braces, with a comma and a blank between their parts;
- `Value.isWritable`, whether a value has only numbers that are short enough to be written.

Does not own: the JSON text of values.
-/

namespace RunnerCloud.Value

open Number

/-- The text of a number in a message. -/
def floatText : Binary64 → Text
  | .notANumber => "nan"
  | .infinite negative => if negative then "-inf" else "inf"
  | .finite negative significand exponent =>
    String.ofList (Binary64.finite negative significand exponent).text

mutual

/-- The value as it stands in a list. -/
def cited : Value → Text
  | .null => "None"
  | .bool value => if value then "True" else "False"
  | .int value => value.repr
  | .float value => floatText value
  | .text value => value.quoted
  | .moment written => written
  | .list items => "[" ++ citedItems items ++ "]"
  | .dict entries => "\x7b" ++ citedEntries entries ++ "\x7d"

def citedItems : List Value → Text
  | [] => ""
  | [item] => cited item
  | item :: rest => cited item ++ ", " ++ citedItems rest

def citedEntries : List (Text × Value) → Text
  | [] => ""
  | [(key, value)] => key.quoted ++ ": " ++ cited value
  | (key, value) :: rest => key.quoted ++ ": " ++ cited value ++ ", " ++ citedEntries rest

end

/-- The value as a message shows it. -/
def inMessage : Value → Text
  | .text value => value
  | value => value.cited

mutual

/-- Whether all numbers in the value are short enough to be written. -/
def isWritable : Value → Bool
  | .int value => fits value
  | .list items => areWritable items
  | .dict entries => entriesAreWritable entries
  | _ => true

def areWritable : List Value → Bool
  | [] => true
  | item :: rest => isWritable item && areWritable rest

def entriesAreWritable : List (Text × Value) → Bool
  | [] => true
  | (_, value) :: rest => isWritable value && entriesAreWritable rest

end

end RunnerCloud.Value
