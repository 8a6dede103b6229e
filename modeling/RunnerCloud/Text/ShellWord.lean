import RunnerCloud.Text.Basic

/-!
Contract: single words of the POSIX shell language, written and read.

Owns:
- `quote`, which writes a text as one word: bare when it holds safe characters only, else between
  single quotes, a single quote inside being written between double quotes;
- `wordValue?`, the text that a piece of script denotes when it is read from the unquoted state, is
  exactly one word, leaves every quote closed and expands nothing;
- `doubleQuotedValue?`, the text that a piece denotes inside double quotes, if it neither closes
  them nor expands anything.

Does not own: operators, expansions and globbing; a piece that holds an active one has no value.
-/

namespace RunnerCloud.Text.ShellWord

/-- Characters that stand for themselves wherever they occur in a word. -/
def isSafe (c : CodePoint) : Bool :=
  c.isAlphanum || c == '_' || c == '@' || c == '%' || c == '+' || c == '=' || c == ':' ||
    c == ',' || c == '.' || c == '/' || c == '-'

/-- The inside of single quotes; a single quote leaves them, is double-quoted, and enters again. -/
def enclosedChars (chars : List CodePoint) : List CodePoint :=
  chars.flatMap fun (c : CodePoint) =>
    if c == '\'' then [.char '\'', .char '"', .char '\'', .char '"', .char '\''] else [c]

/-- The characters of `chars` written as one word. -/
def quoteChars (chars : List CodePoint) : List CodePoint :=
  if chars.isEmpty then ['\'', '\'']
  else if chars.all isSafe then chars
  else .char '\'' :: enclosedChars chars ++ [.char '\'']

/-- `text` written as one word. -/
def quote (text : Text) : Text :=
  Text.ofPoints (quoteChars text.points)

/-! ## Reading -/

/-- Characters that a backslash inside double quotes takes literally. -/
def isDoubleQuoteActive (c : CodePoint) : Bool :=
  c == '$' || c == '\x60' || c == '"' || c == '\\'

/-- Where a reader of a word stands. -/
inductive Quotation where
  | unquoted
  | single
  | double
deriving DecidableEq, Repr

/--
The text a piece denotes, read from a quotation state to the unquoted state at its end. `none` when
a quote stays open, or an active character would end the word or expand.
-/
def readWord : Quotation → List CodePoint → Option (List CodePoint)
  | .unquoted, [] => some []
  | .single, [] => none
  | .double, [] => none
  | .single, c :: rest =>
    if c == '\'' then readWord .unquoted rest else (readWord .single rest).map (c :: ·)
  | .double, .char '\\' :: c :: rest =>
    if c == '\n' then readWord .double rest
    else if isDoubleQuoteActive c then (readWord .double rest).map (c :: ·)
    else (readWord .double rest).map ('\\' :: c :: ·)
  | .double, c :: rest =>
    if c == '"' then readWord .unquoted rest
    else if isDoubleQuoteActive c then none
    else (readWord .double rest).map (c :: ·)
  | .unquoted, .char '\\' :: c :: rest =>
    if c == '\n' then readWord .unquoted rest else (readWord .unquoted rest).map (c :: ·)
  | .unquoted, c :: rest =>
    if c == '\'' then readWord .single rest
    else if c == '"' then readWord .double rest
    else if isSafe c then (readWord .unquoted rest).map (c :: ·)
    else none

/-- The text that `piece` denotes as exactly one word; the empty piece is no word. -/
def wordValue? (piece : List CodePoint) : Option (List CodePoint) :=
  if piece.isEmpty then none else readWord .unquoted piece

/-- The text that `piece` denotes inside double quotes that it leaves open. -/
def doubleQuotedValue? : List CodePoint → Option (List CodePoint)
  | [] => some []
  | .char '\\' :: c :: rest =>
    if c == '\n' then doubleQuotedValue? rest
    else if isDoubleQuoteActive c then (doubleQuotedValue? rest).map (c :: ·)
    else (doubleQuotedValue? rest).map ('\\' :: c :: ·)
  | c :: rest =>
    if isDoubleQuoteActive c then none else (doubleQuotedValue? rest).map (c :: ·)

end RunnerCloud.Text.ShellWord
