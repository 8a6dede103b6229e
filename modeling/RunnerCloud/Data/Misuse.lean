import RunnerCloud.Data.Value

/-!
Contract: values of a kind that their use does not allow.

Owns:
- `Value.kindName`, the kind of a value as messages name it;
- `Misuse`, a use that the kind of a value does not allow, and its message;
- `Value.givenEntries`, `Value.givenText` and `Value.givenItems`, which look into a value that counts
  as empty when it is not given.

Does not own: which values are looked into.
-/

namespace RunnerCloud

inductive Misuse where
  /-- A value of this kind has no such attribute. -/
  | noAttribute (kind name : Text)
  /-- A value of this kind has no items. -/
  | noItems (kind : Text)
deriving DecidableEq, Repr

namespace Misuse

def message : Misuse → Text
  | .noAttribute kind name =>
    "'" ++ kind ++ "' object has no attribute '" ++ name ++ "'"
  | .noItems kind => "'" ++ kind ++ "' object is not iterable"

end Misuse

namespace Value

def kindName : Value → Text
  | .null => "NoneType"
  | .bool _ => "bool"
  | .int _ => "int"
  | .float _ => "float"
  | .text _ => "str"
  | .moment _ => "datetime"
  | .list _ => "list"
  | .dict _ => "dict"

/-- What is said of a value whose attribute is asked for in vain. -/
def lacks (value : Value) (name : Text) : Misuse :=
  .noAttribute value.kindName name

/-- The entries of a document in which something is looked up. -/
def givenEntries : Value → Except Misuse Fields
  | .dict entries => .ok entries
  | value => if value.isEmptyLike then .ok [] else .error (value.lacks "get")

/-- A text that is put into lower case. -/
def givenText : Value → Except Misuse Text
  | .text written => .ok written
  | value => if value.isEmptyLike then .ok "" else .error (value.lacks "lower")

/-- What one goes through in a value: the items of a list, the characters of a text, the keys of a
document. -/
def givenItems : Value → Except Misuse (List Value)
  | .list items => .ok items
  | .text written => .ok (written.points.map fun c => .text (Text.ofPoints [c]))
  | .dict entries => .ok (entries.map fun entry => .text entry.1)
  | value => if value.isEmptyLike then .ok [] else .error (.noItems value.kindName)

end Value

end RunnerCloud
