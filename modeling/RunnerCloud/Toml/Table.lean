import RunnerCloud.Data.Value

/-!
Contract: the document that TOML statements build up.

Owns:
- `Document`, the entries so far, the header in force, and the marks on key paths: tables that were
  declared and tables and lists that were written inline and are closed;
- the statements: `declareTable`, `declareListItem` and `assign`; `none` is a conflict with an
  earlier statement.

Does not own: the text of statements.
-/

namespace RunnerCloud.Toml

/-- A path of keys from the root of a document. -/
abbrev KeyPath := List Text

inductive Mark where
  | declared
  | closed
deriving DecidableEq, Repr

/-- Changes the table at `path`, making tables on the way; a list leads to its last item. -/
def changeTable (throughLists : Bool) (change : Fields → Option Fields) :
    KeyPath → Fields → Option Fields
  | [], fields => change fields
  | key :: path, fields =>
    match fields.get? key with
    | none => (changeTable throughLists change path []).map fun table =>
        fields.insert key (.dict table)
    | some (.dict inner) => (changeTable throughLists change path inner).map fun table =>
        fields.insert key (.dict table)
    | some (.list items) =>
      if throughLists then
        match items.getLast? with
        | some (.dict inner) => (changeTable throughLists change path inner).map fun table =>
            fields.insert key (.list (items.dropLast ++ [.dict table]))
        | _ => none
      else none
    | some _ => none

/-- Adds a new key to a table. -/
def addKey (key : Text) (value : Value) (fields : Fields) : Option Fields :=
  if fields.contains key then none else some (fields.insert key value)

/-- Adds an empty table to the list under `key`, making the list. -/
def addListItem (key : Text) (fields : Fields) : Option Fields :=
  match fields.get? key with
  | none => some (fields.insert key (.list [.dict []]))
  | some (.list items) => some (fields.insert key (.list (items ++ [.dict []])))
  | some _ => none

/-- Whether a value was written with brackets or braces. -/
def isInline : Value → Bool
  | .dict _ => true
  | .list _ => true
  | _ => false

structure Document where
  fields : Fields
  header : KeyPath
  marks : List (KeyPath × Mark)
  /-- Tables made by dotted keys under the header in force; declared once it ends. -/
  pending : List KeyPath
deriving Repr

namespace Document

def empty : Document := ⟨[], [], [], []⟩

def isDeclared (document : Document) (path : KeyPath) : Bool :=
  document.marks.contains (path, .declared)

/-- Whether the path lies at or under a closed one. -/
def isClosed (document : Document) (path : KeyPath) : Bool :=
  document.marks.any fun mark => mark.2 == .closed && mark.1.isPrefixOf path

/-- Ends the header in force. -/
def endHeader (document : Document) : Document :=
  { document with
    marks := document.marks ++ document.pending.map (·, .declared)
    pending := [] }

/-- The statement `[path]`. -/
def declareTable (document : Document) (path : KeyPath) : Option Document :=
  let document := document.endHeader
  if document.isDeclared path || document.isClosed path then none
  else
    (changeTable true some path document.fields).map fun fields =>
      { document with
        fields := fields
        header := path
        marks := document.marks ++ [(path, .declared)] }

/-- The statement `[[path]]`; what was declared under the path is free again. -/
def declareListItem (document : Document) (path : KeyPath) : Option Document :=
  let document := document.endHeader
  if document.isClosed path then none
  else
    match path.getLast? with
    | none => none
    | some last =>
      (changeTable true (addListItem last) path.dropLast document.fields).map fun fields =>
        { document with
          fields := fields
          header := path
          marks := document.marks.filter (fun mark => !path.isPrefixOf mark.1) ++
            [(path, .declared)] }

/-- The statement `path = value` under the header in force. -/
def assign (document : Document) (path : KeyPath) (value : Value) : Option Document :=
  let containers := (List.range path.length).tail.map fun count =>
    document.header ++ path.take count
  let parent := document.header ++ path.dropLast
  match path.getLast? with
  | none => none
  | some last =>
    if containers.any document.isDeclared || document.isClosed parent then none
    else
      (changeTable true (addKey last value) parent document.fields).map fun fields =>
        { document with
          fields := fields
          marks := if isInline value then document.marks ++ [(document.header ++ path, .closed)]
            else document.marks
          pending := document.pending ++ containers }

end Document

/-- An inline table as it is read: its entries, and the paths of closed values in it. -/
structure InlineTable where
  fields : Fields
  closed : List KeyPath
deriving Repr

namespace InlineTable

def empty : InlineTable := ⟨[], []⟩

/-- The entry `path = value`. -/
def assign (table : InlineTable) (path : KeyPath) (value : Value) : Option InlineTable :=
  match path.getLast? with
  | none => none
  | some last =>
    if table.closed.any (·.isPrefixOf path) then none
    else
      (changeTable false (addKey last value) path.dropLast table.fields).map fun fields =>
        ⟨fields, if isInline value then table.closed ++ [path] else table.closed⟩

end InlineTable

end RunnerCloud.Toml
