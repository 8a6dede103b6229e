import RunnerCloud.Spec.Problem

/-!
Contract: references to marketplace images, `Publisher:Offer:Sku:Version`.

Owns:
- `ImageReference`, its reader `ofUrn?`, which takes four non-blank parts and trims them, its
  written form `urn`, and its dump `toValue`.

Does not own: whether the marketplace has the image.
-/

namespace RunnerCloud

structure ImageReference where
  publisher : Text
  offer : Text
  sku : Text
  version : Text
deriving DecidableEq, Repr

namespace ImageReference

/-- The trimmed parts between the colons of a text. -/
def parts (urn : Text) : List Text :=
  (urn.points.splitOn (.char ':')).map fun part => Text.ofPoints (Text.trimmedChars Text.isBlank part)

/-- The image that four non-blank parts name. -/
def ofUrn? (urn : Text) : Option ImageReference :=
  match parts urn with
  | [publisher, offer, sku, version] =>
    if [publisher, offer, sku, version].all (!·.isEmpty) then
      some ⟨publisher, offer, sku, version⟩
    else none
  | _ => none

def ofUrn (urn : Text) : Except SpecProblem ImageReference :=
  match ofUrn? urn with
  | some image => .ok image
  | none => .error (.malformedImage urn)

/-- The parts joined by colons. -/
def urn (image : ImageReference) : Text :=
  image.publisher ++ ":" ++ image.offer ++ ":" ++ image.sku ++ ":" ++ image.version

def toValue (image : ImageReference) : Value :=
  .dict [
    ("publisher", .text image.publisher),
    ("offer", .text image.offer),
    ("sku", .text image.sku),
    ("version", .text image.version)]

end ImageReference

end RunnerCloud
