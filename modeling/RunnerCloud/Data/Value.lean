import RunnerCloud.Number.Binary64
import RunnerCloud.Text.Basic

/-!
Contract: the free-form data that requests, configuration files and cloud answers carry.

Owns:
- `Value`, the data of JSON and TOML documents; `moment` stands for the dates and times of TOML.
- `Fields`, the entries of a document in the order of their first appearance, with look-up and
  insertion; inserting a key again replaces its value and keeps its place.
- `Value.isEmptyLike`, the values that count as "not given", and views of lists, documents and texts
  that take anything else for empty.

Does not own: the texts of documents; `Json` and `Toml` do.
-/

namespace RunnerCloud

open Number

inductive Value where
  | null
  | bool (value : Bool)
  | int (value : Int)
  | float (value : Binary64)
  | text (value : Text)
  | moment (written : Text)
  | list (items : List Value)
  | dict (entries : List (Text × Value))
deriving Repr

/-- The entries of a document. -/
abbrev Fields := List (Text × Value)

namespace Fields

def get? (fields : Fields) (key : Text) : Option Value :=
  fields.lookup key

def contains (fields : Fields) (key : Text) : Bool :=
  (fields.get? key).isSome

/-- Whether no key has a half of a pair. -/
def areWhole (fields : Fields) : Bool :=
  fields.all fun entry => entry.1.isPlain

/-- Sets `key`: in place when it is present, else at the end. -/
def insert : Fields → Text → Value → Fields
  | [], key, value => [(key, value)]
  | (other, held) :: rest, key, value =>
    if other == key then (key, value) :: rest else (other, held) :: insert rest key value

def ofList (entries : List (Text × Value)) : Fields :=
  entries.foldl (fun fields entry => fields.insert entry.1 entry.2) []

end Fields

namespace Value

/-- Null, false, zero, and the empty text, list and document count as not given. -/
def isEmptyLike : Value → Bool
  | .null => true
  | .bool value => !value
  | .int value => value == 0
  | .float value => value.isZero
  | .text value => value.isEmpty
  | .moment _ => false
  | .list items => items.isEmpty
  | .dict entries => entries.isEmpty

/-- An entry of a document; anything else has none. -/
def field? : Value → Text → Option Value
  | .dict entries, name => Fields.get? entries name
  | _, _ => none

/-- An entry of a document, null when it is absent. -/
def field (value : Value) (name : Text) : Value :=
  (value.field? name).getD .null

/-- The items of a list; anything else has none. -/
def items : Value → List Value
  | .list items => items
  | _ => []

/-- The entries of a document; anything else has none. -/
def entries : Value → Fields
  | .dict entries => entries
  | _ => []

/-- A text or null. -/
def ofText? : Option Text → Value
  | some value => .text value
  | none => .null

def text? : Value → Option Text
  | .text value => some value
  | _ => none

end Value

end RunnerCloud
