import RunnerCloud.Text.Quoted

/-!
Contract: which texts can be written in UTF-8.

Owns:
- `utf8?`, the characters of a text without halves of pairs;
- `Unencodable`, the first run of halves in any other text, and the sentence about it;
- `escaped`, a text with escapes in the place of its halves.

Does not own: the bytes; `Text.Base64` writes them.
-/

namespace RunnerCloud.Text

/-- The halves with which a text starts. -/
def leadingHalves : Text → List Surrogate
  | .plain _ => []
  | .broken written half rest => if written.isEmpty then half :: leadingHalves rest else []

/-- The first run of halves in a text: how many code points precede it, and the halves. -/
structure Unencodable where
  position : Nat
  first : Surrogate
  others : List Surrogate
deriving DecidableEq, Repr

/-- The sentence about a text that cannot be written; one half is named, of more only the place. -/
def Unencodable.message (place : Unencodable) : Text :=
  "'utf-8' codec can't encode " ++
    (if place.others.isEmpty then
      "character '" ++ String.ofList (escape 'u' 4 place.first.code) ++ "' in position " ++
        place.position.repr
    else
      "characters in position " ++ place.position.repr ++ "-" ++
        (place.position + place.others.length).repr) ++
    ": surrogates not allowed"

/-- The text with the escapes of its halves in their places. -/
def escaped : Text → String
  | .plain written => written
  | .broken written half rest => written ++ String.ofList (escape 'u' 4 half.code) ++ escaped rest

/-- The characters of a text, if it has no half. -/
def utf8? : Text → Except Unencodable String
  | .plain written => .ok written
  | .broken written half rest => .error ⟨written.length, half, rest.leadingHalves⟩

@[simp] theorem utf8?_plain (written : String) : (plain written).utf8? = .ok written := rfl

theorem utf8?_eq_ok_iff {text : Text} {written : String} :
    text.utf8? = .ok written ↔ text = written := by
  cases text <;> simp [utf8?]

end RunnerCloud.Text
