import RunnerCloud.Text.Basic

/-!
Contract: which characters count as blank, and text with its blank ends removed.

Owns:
- `isBlank`, the class that trimming removes: separators and spacing controls.
- `isWhiteSpace`, the Unicode `White_Space` property, which leaves out the four
  information separators U+001C to U+001F.
- `trimmed` and `trimmedBy`, which cut a class from both ends of a text.

Does not own: the blanks that JSON and TOML allow between tokens.
-/

namespace RunnerCloud.Text

/-- The Unicode `White_Space` property. -/
def isWhiteSpace (c : CodePoint) : Bool :=
  let code := c.toNat
  (0x09 ≤ code && code ≤ 0x0D) || code == 0x20 || code == 0x85 || code == 0xA0 ||
    code == 0x1680 || (0x2000 ≤ code && code ≤ 0x200A) || code == 0x2028 ||
    code == 0x2029 || code == 0x202F || code == 0x205F || code == 0x3000

/-- White space together with the information separators U+001C to U+001F. -/
def isBlank (c : CodePoint) : Bool :=
  isWhiteSpace c || (0x1C ≤ c.toNat && c.toNat ≤ 0x1F)

/-- The characters left when both ends in the class `cut` are dropped. -/
def trimmedChars (cut : CodePoint → Bool) (chars : List CodePoint) : List CodePoint :=
  ((chars.dropWhile cut).reverse.dropWhile cut).reverse

/-- `text` without its two ends of characters in the class `cut`. -/
def trimmedBy (cut : CodePoint → Bool) (text : Text) : Text :=
  Text.ofPoints (trimmedChars cut text.points)

/-- `text` without blank ends. -/
def trimmed (text : Text) : Text :=
  trimmedBy isBlank text

end RunnerCloud.Text
