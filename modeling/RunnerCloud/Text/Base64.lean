/-!
Contract: base64 text with padding, over the standard alphabet.

Owns:
- `encodeBytes` and `encode`, four characters for every three bytes, the last group padded with `=`;
- `decodeBytes?` and `decode?`, which accept exactly the canonical form: whole groups, padding only
  at the end, and no bits set beyond the last byte.

Does not own: line breaks inside the text; there are none.
-/

namespace RunnerCloud.Text.Base64

/-- The character of a six-bit number. -/
def sextetChar (value : Nat) : Char :=
  if value < 26 then Char.ofNat (65 + value)
  else if value < 52 then Char.ofNat (71 + value)
  else if value < 62 then Char.ofNat (value - 4)
  else if value == 62 then '+'
  else '/'

/-- The six-bit number of a character of the alphabet. -/
def sextet? (c : Char) : Option Nat :=
  let code := c.toNat
  if 65 ≤ code && code ≤ 90 then some (code - 65)
  else if 97 ≤ code && code ≤ 122 then some (code - 71)
  else if 48 ≤ code && code ≤ 57 then some (code + 4)
  else if c == '+' then some 62
  else if c == '/' then some 63
  else none

/-- The four characters of three bytes. -/
def group (first second third : Nat) : List Char :=
  [sextetChar (first / 4), sextetChar (first % 4 * 16 + second / 16),
    sextetChar (second % 16 * 4 + third / 64), sextetChar (third % 64)]

def encodeBytes : List UInt8 → List Char
  | [] => []
  | [first] => (group first.toNat 0 0).take 2 ++ ['=', '=']
  | [first, second] => (group first.toNat second.toNat 0).take 3 ++ ['=']
  | first :: second :: third :: rest =>
    group first.toNat second.toNat third.toNat ++ encodeBytes rest

/-- The bytes that canonical base64 characters stand for. -/
def decodeBytes? : List Char → Option (List UInt8)
  | [] => some []
  | [a, b, '=', '='] => do
    let a ← sextet? a
    let b ← sextet? b
    if b % 16 == 0 then some [UInt8.ofNat (a * 4 + b / 16)] else none
  | [a, b, c, '='] => do
    let a ← sextet? a
    let b ← sextet? b
    let c ← sextet? c
    if c % 4 == 0 then
      some [UInt8.ofNat (a * 4 + b / 16), UInt8.ofNat (b % 16 * 16 + c / 4)]
    else none
  | a :: b :: c :: d :: rest => do
    let a ← sextet? a
    let b ← sextet? b
    let c ← sextet? c
    let d ← sextet? d
    let following ← decodeBytes? rest
    some (UInt8.ofNat (a * 4 + b / 16) :: UInt8.ofNat (b % 16 * 16 + c / 4) ::
      UInt8.ofNat (c % 4 * 64 + d) :: following)
  | _ => none

/-- The UTF-8 bytes of a text. -/
def utf8Bytes (text : String) : List UInt8 :=
  text.toUTF8.data.toList

/-- The base64 form of the UTF-8 bytes of `text`. -/
def encode (text : String) : String :=
  String.ofList (encodeBytes (utf8Bytes text))

/-- The text whose UTF-8 bytes `written` encodes, if it encodes any. -/
def decode? (written : String) : Option String :=
  (decodeBytes? written.toList).bind fun bytes => String.fromUTF8? ⟨bytes.toArray⟩

end RunnerCloud.Text.Base64
