import RunnerCloud.Json.Printer
import RunnerCloud.Text.Quoted

/-!
Contract: what a validation reports about a value it does not accept.

Owns:
- `PathStep` and `Path`, where in the value the issue lies;
- `Issue.Kind`, why the value is not accepted, with its code and its sentence;
- the order of a report: by the JSON text of the path;
- `ErrorWords`, by which the libraries that read documents and validate values word their errors.

Does not own: which values are accepted; `Validation.Scalar` and the models decide.
-/

namespace RunnerCloud

inductive PathStep where
  | key (name : Text)
  | index (position : Nat)
deriving DecidableEq, Repr

/-- The steps from the whole value to the place of an issue. -/
abbrev Path := List PathStep

namespace PathStep

def toValue : PathStep → Value
  | .key name => .text name
  | .index position => .int position

end PathStep

def Path.toValue (path : Path) : Value :=
  .list (path.map PathStep.toValue)

namespace Issue

inductive Kind where
  | missing
  | notText
  | brokenText
  | notBool
  | unreadableBool
  | notInt
  | unreadableInt
  | fractionalInt
  | notFinite
  | oversizedInt
  | belowZero
  | notList
  | notDict
  | notChoice (choices : List Text)
  | notModel (model : Text)
  | unknownKey
  | refused (reason : Text)
deriving DecidableEq, Repr

/-- `'a'`, `'a' or 'b'`, `'a', 'b' or 'c'`. -/
def alternatives : List Text → Text
  | [] => ""
  | [only] => Text.quoted only
  | [first, last] => Text.quoted first ++ " or " ++ Text.quoted last
  | first :: rest => Text.quoted first ++ ", " ++ alternatives rest

/-- The code under which a report lists the kind. -/
def Kind.code : Kind → Text
  | .missing => "missing"
  | .notText => "string_type"
  | .brokenText => "string_unicode"
  | .notBool => "bool_type"
  | .unreadableBool => "bool_parsing"
  | .notInt => "int_type"
  | .unreadableInt => "int_parsing"
  | .fractionalInt => "int_from_float"
  | .notFinite => "finite_number"
  | .oversizedInt => "int_parsing_size"
  | .belowZero => "greater_than_equal"
  | .notList => "list_type"
  | .notDict => "dict_type"
  | .notChoice _ => "literal_error"
  | .notModel _ => "model_type"
  | .unknownKey => "extra_forbidden"
  | .refused _ => "value_error"

/-- The sentence that a report shows for the kind. -/
def Kind.sentence : Kind → Text
  | .missing => "Field required"
  | .notText => "Input should be a valid string"
  | .brokenText =>
    "Input should be a valid string, unable to parse raw data as a unicode string"
  | .notBool => "Input should be a valid boolean"
  | .unreadableBool => "Input should be a valid boolean, unable to interpret input"
  | .notInt => "Input should be a valid integer"
  | .unreadableInt => "Input should be a valid integer, unable to parse string as an integer"
  | .fractionalInt => "Input should be a valid integer, got a number with a fractional part"
  | .notFinite => "Input should be a finite number"
  | .oversizedInt => "Unable to parse input string as an integer, exceeded maximum size"
  | .belowZero => "Input should be greater than or equal to 0"
  | .notList => "Input should be a valid list"
  | .notDict => "Input should be a valid dictionary"
  | .notChoice choices => "Input should be " ++ alternatives choices
  | .notModel model => "Input should be a valid dictionary or instance of " ++ model
  | .unknownKey => "Extra inputs are not permitted"
  | .refused reason => "Value error, " ++ reason

end Issue

structure Issue where
  path : Path
  kind : Issue.Kind
deriving DecidableEq, Repr

namespace Issue

/-- An issue with the whole value. -/
def atTop (kind : Kind) : Issue :=
  ⟨[], kind⟩

/-- The same issue seen from one step further out. -/
def under (step : PathStep) (issue : Issue) : Issue :=
  { issue with path := step :: issue.path }

/-- The text by which a report is ordered. -/
def orderKey (issue : Issue) : String :=
  Json.compact issue.path.toValue

/-- A report in the order of its paths. -/
def ordered (issues : List Issue) : List Issue :=
  issues.mergeSort fun left right => decide (left.orderKey ≤ right.orderKey)

/-- The first line of a report: how many issues there are with which model. -/
def headline (model : Text) (issues : List Issue) : Text :=
  let noun := if issues.length == 1 then " validation error for " else " validation errors for "
  issues.length.repr ++ noun ++ model

end Issue

/-- How the libraries word their errors: what is wrong with a JSON or a TOML document or with the bytes
of a file, and the report on a value that is not accepted as a model. -/
structure ErrorWords where
  json : Text
  toml : Text
  undecodable : Text
  report : (model : Text) → List Issue → Text

/-- Short words: the names of the errors, and the first lines of reports. -/
def ErrorWords.abridged : ErrorWords :=
  { json := "<JSONDecodeError>"
    toml := "<TOMLDecodeError>"
    undecodable := "<UnicodeDecodeError>"
    report := Issue.headline }

end RunnerCloud
