import RunnerCloud.Toml.Lexeme
import RunnerCloud.Toml.Table

/-!
Contract: reading TOML documents.

Owns:
- `parse`, which reads a whole document and refuses anything that breaks the grammar of TOML 1.0 or
  states a key twice; a statement is read to its end before it can conflict with earlier ones.

Does not own: the position or wording of syntax errors.
-/

namespace RunnerCloud.Toml

/-- A word that has to be there. -/
def required {α : Type} : Option α → Except Problem α
  | some read => .ok read
  | none => .error .malformed

mutual

/-- Reads a value; `fuel` bounds the nesting and the number of items. -/
def readValue : Nat → List CodePoint → Outcome Value
  | 0, _ => .error .malformed
  | fuel + 1, chars =>
    match chars with
    | .char '"' :: _ =>
      (required (readString chars)).map fun read => (.text (Text.ofPoints read.1), read.2)
    | .char '\'' :: _ =>
      (required (readString chars)).map fun read => (.text (Text.ofPoints read.1), read.2)
    | .char '[' :: rest =>
      match skipLayout (rest.length + 1) rest with
      | none => .error .malformed
      | some (.char ']' :: following) => .ok (.list [], following)
      | some inside => (readItems fuel inside).map fun read => (.list read.1, read.2)
    | .char '\x7b' :: rest =>
      match skipBlanks rest with
      | .char '\x7d' :: following => .ok (.dict [], following)
      | inside => (readEntries fuel .empty inside).map fun read => (.dict read.1, read.2)
    | .char 't' :: .char 'r' :: .char 'u' :: .char 'e' :: rest => .ok (.bool true, rest)
    | .char 'f' :: .char 'a' :: .char 'l' :: .char 's' :: .char 'e' :: rest => .ok (.bool false, rest)
    | _ =>
      match readMoment chars with
      | some outcome => outcome
      | none =>
        match readBased chars with
        | some read => .ok read
        | none =>
          match readDecimal chars with
          | some outcome => outcome
          | none => required (readSpecial chars)

/-- Reads the items of a list up to its closing bracket; a comma may stand before it. -/
def readItems : Nat → List CodePoint → Outcome (List Value)
  | 0, _ => .error .malformed
  | fuel + 1, chars =>
    match readValue fuel chars with
    | .error problem => .error problem
    | .ok (item, afterItem) =>
      match skipLayout (afterItem.length + 1) afterItem with
      | some (.char ']' :: following) => .ok ([item], following)
      | some (.char ',' :: afterComma) =>
        match skipLayout (afterComma.length + 1) afterComma with
        | some (.char ']' :: following) => .ok ([item], following)
        | some next => (readItems fuel next).map fun read => (item :: read.1, read.2)
        | none => .error .malformed
      | _ => .error .malformed

/-- Reads the entries of an inline table up to its closing brace. -/
def readEntries : Nat → InlineTable → List CodePoint → Outcome Fields
  | 0, _, _ => .error .malformed
  | fuel + 1, table, chars =>
    match readKey (chars.length + 1) chars with
    | some (path, .char '=' :: afterEquals) =>
      match readValue fuel (skipBlanks afterEquals) with
      | .error problem => .error problem
      | .ok (value, afterValue) =>
        match table.assign path value with
        | none => .error .malformed
        | some extended =>
          match skipBlanks afterValue with
          | .char '\x7d' :: following => .ok (extended.fields, following)
          | .char ',' :: afterComma => readEntries fuel extended (skipBlanks afterComma)
          | _ => .error .malformed
    | _ => .error .malformed

end

/-- Reads a key and a value with an equals sign between them. -/
def readAssignment (chars : List CodePoint) : Outcome (KeyPath × Value) :=
  match readKey (chars.length + 1) chars with
  | some (path, .char '=' :: afterEquals) =>
    (readValue (2 * afterEquals.length + 2) (skipBlanks afterEquals)).map
      fun read => ((path, read.1), read.2)
  | _ => .error .malformed

/-- The document that a statement makes, with what follows the statement. -/
def stated (document : Option Document) (following : List CodePoint) : Outcome Document :=
  (required document).map (·, following)

/-- Reads one statement and carries it out; a line without one changes nothing. -/
def readStatement (document : Document) (chars : List CodePoint) : Outcome Document :=
  match chars with
  | [] => .ok (document, [])
  | .char '\n' :: _ => .ok (document, chars)
  | .char '#' :: _ => .ok (document, chars)
  | .char '[' :: .char '[' :: rest =>
    match readKey (rest.length + 1) (skipBlanks rest) with
    | some (path, .char ']' :: .char ']' :: following) =>
      stated (document.declareListItem path) following
    | _ => .error .malformed
  | .char '[' :: rest =>
    match readKey (rest.length + 1) (skipBlanks rest) with
    | some (path, .char ']' :: following) => stated (document.declareTable path) following
    | _ => .error .malformed
  | _ =>
    match readAssignment chars with
    | .ok ((path, value), following) => stated (document.assign path value) following
    | .error problem => .error problem

/-- Reads the lines of a document; `fuel` bounds their number. -/
def readLines : Nat → Document → List CodePoint → Except Problem Document
  | 0, _, _ => .error .malformed
  | fuel + 1, document, chars =>
    match readStatement document (skipBlanks chars) with
    | .error problem => .error problem
    | .ok (extended, following) =>
      match skipComment (skipBlanks following) with
      | some [] => .ok extended
      | some (.char '\n' :: rest) => readLines fuel extended rest
      | _ => .error .malformed

/-- The entries of the document that the whole text is. -/
def parse (text : String) : Except Problem Fields :=
  let chars := unifyBreaks (Text.points text)
  (readLines (chars.length + 1) .empty chars).map (·.fields)

end RunnerCloud.Toml
