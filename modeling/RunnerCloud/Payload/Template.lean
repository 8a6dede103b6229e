import RunnerCloud.Text.Basic

/-!
Contract: texts with named slots.

Owns:
- `Piece`, a fixed text or a slot, and `Template`, a sequence of pieces;
- `Template.fill`, which puts one text into every slot. Filled-in text is not searched for slots.

Does not own: the quoting of what is filled in.
-/

namespace RunnerCloud.Payload

inductive Piece (Slot : Type) where
  | text (fixed : Text)
  | slot (name : Slot)
deriving DecidableEq, Repr

abbrev Template (Slot : Type) := List (Piece Slot)

namespace Template

variable {Slot : Type}

/-- The text of one piece. -/
def fillPiece (content : Slot → Text) : Piece Slot → Text
  | .text fixed => fixed
  | .slot name => content name

/-- The text with `content` in the slots. -/
def fill : Template Slot → (Slot → Text) → Text
  | [], _ => ""
  | piece :: rest, content => fillPiece content piece ++ fill rest content

end Template

end RunnerCloud.Payload
