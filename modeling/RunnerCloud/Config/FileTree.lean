import RunnerCloud.Text.Basic

/-!
Contract: the files that a provider can read, and the paths that name them.

Owns:
- `FilePath`, a path with its needless parts dropped: `.` components, repeated and trailing slashes;
  `..` stays, and the empty path is `.`;
- `FileContent`, what is found in a file that is read as text;
- `FileTree`, the files below the working directory, and `FileTree.read?`, which follows a path.

Does not own: files elsewhere; a path that leaves the working directory, or starts at the root,
names no file.
-/

namespace RunnerCloud

structure FilePath where
  /-- The slashes a path from the root starts with: two exactly when two were written. -/
  root : Text
  components : List Text
deriving DecidableEq, Repr

namespace FilePath

/-- The slashes that count at the start of a path. -/
def rootOf : List CodePoint → Text
  | .char '/' :: .char '/' :: .char '/' :: _ => "/"
  | .char '/' :: .char '/' :: _ => "//"
  | .char '/' :: _ => "/"
  | _ => ""

def ofText (written : Text) : FilePath :=
  { root := rootOf written.points
    components := ((written.points.splitOn (.char '/')).map Text.ofPoints).filter fun component =>
      !component.isEmpty && component != "." }

def text (path : FilePath) : Text :=
  if path.root.isEmpty && path.components.isEmpty then "."
  else path.root ++ Text.intercalate "/" path.components

end FilePath

/-- What a file holds: a text, or bytes that are no text in UTF-8. -/
inductive FileContent where
  | text (written : String)
  | undecodable
deriving DecidableEq, Repr

/-- A file with its text, or a directory, at the components of its path. -/
structure FileTree.Entry where
  components : List Text
  content : Option String
deriving DecidableEq, Repr

structure FileTree where
  entries : List FileTree.Entry
deriving DecidableEq, Repr

namespace FileTree

/-- The tree of the files with these paths; a path that ends in a slash makes a directory only. -/
def ofList (files : List (Text × String)) : FileTree :=
  ⟨files.map fun file =>
    ⟨(FilePath.ofText file.1).components,
      if file.1.points.getLast? == some (.char '/') then none else some file.2⟩⟩

/-- The text of the file at `place`. -/
def fileAt? (tree : FileTree) (place : List Text) : Option String :=
  (tree.entries.find? fun entry => entry.components == place && entry.content.isSome).bind
    (·.content)

/-- Whether `place` is a directory: something lies below it, or it was made as one. -/
def isDirectory (tree : FileTree) (place : List Text) : Bool :=
  place.isEmpty || tree.entries.any fun entry =>
    place.isPrefixOf entry.components && (entry.components != place || entry.content.isNone)

/-- Follows components from a directory, given from the innermost name outwards. -/
def walk (tree : FileTree) : List Text → List Text → Option (List Text)
  | place, [] => some place.reverse
  | place, component :: rest =>
    if !tree.isDirectory place.reverse then none
    else if component == ".." then
      match place with
      | [] => none
      | _ :: outer => walk tree outer rest
    else walk tree (component :: place) rest

/-- The text of the file that a path names. -/
def read? (tree : FileTree) (path : FilePath) : Option String :=
  if path.root.isEmpty then (tree.walk [] path.components).bind tree.fileAt? else none

end FileTree

end RunnerCloud
