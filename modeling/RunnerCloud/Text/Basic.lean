/-!
Contract: texts as sequences of Unicode code points, the surrogates among them.

Owns:
- `Surrogate`, one half of a UTF-16 pair, and `CodePoint`, a character or a half that stands alone;
- `Text`, a text as its runs of characters with the halves between them; a literal is a text of one
  run;
- `points` and `ofPoints`, the code points of a text, with the order that they give to texts;
- `joined`, a text in which every high half with a low one behind it has become one character.

Does not own: the bytes of texts, and the escapes by which documents spell halves.
-/

namespace RunnerCloud

/-- One half of a UTF-16 pair, counted from U+D800. -/
abbrev Surrogate := Fin 2048

namespace Surrogate

/-- The code point of a half. -/
def code (half : Surrogate) : Nat := 0xD800 + half.val

/-- The first halves of pairs; the others are second halves. -/
def isHigh (half : Surrogate) : Bool := decide (half.val < 1024)

/-- The half that a UTF-16 unit is, if it is one. -/
def ofUnit? (unit : Nat) : Option Surrogate :=
  if within : 0xD800 ≤ unit ∧ unit < 0xE000 then some ⟨unit - 0xD800, by omega⟩ else none

theorem ofUnit?_eq_some_iff {unit : Nat} {half : Surrogate} :
    ofUnit? unit = some half ↔ unit = half.code := by
  have small : half.val < 2048 := half.isLt
  unfold ofUnit? code
  split
  · rw [Option.some.injEq, Fin.ext_iff]
    show unit - 0xD800 = half.val ↔ _
    omega
  · simp only [reduceCtorEq, false_iff]
    omega

theorem ofUnit?_code (half : Surrogate) : ofUnit? half.code = some half :=
  ofUnit?_eq_some_iff.2 rfl

/-- The character outside the basic plane that two halves make up. -/
def pair (high low : Surrogate) : Char :=
  Char.ofNat (0x10000 + high.val * 0x400 + (low.val - 0x400))

end Surrogate

inductive CodePoint where
  | char (c : Char)
  | half (surrogate : Surrogate)
deriving DecidableEq, Repr

namespace CodePoint

instance : Coe Char CodePoint := ⟨char⟩

def toNat : CodePoint → Nat
  | .char c => c.toNat
  | .half surrogate => surrogate.code

/-- No character has the number of a half. -/
theorem toNat_char_ne (c : Char) (half : Surrogate) : c.toNat ≠ half.code := by
  intro same
  have valid : c.toNat < 0xD800 ∨ 0xDFFF < c.toNat ∧ c.toNat < 0x110000 := c.valid
  unfold Surrogate.code at same
  omega

theorem toNat_inj {first second : CodePoint} :
    first.toNat = second.toNat ↔ first = second := by
  refine ⟨fun same => ?_, fun same => same ▸ rfl⟩
  cases first with
  | char c =>
      cases second with
      | char d => exact congrArg char (Char.ext (UInt32.toNat_inj.1 same))
      | half low => exact absurd same (toNat_char_ne c low)
  | half high =>
      cases second with
      | char d => exact absurd same.symm (toNat_char_ne d high)
      | half low => exact congrArg half (Fin.ext (Nat.add_left_cancel same))

/-- An ASCII digit. -/
def isDigit : CodePoint → Bool
  | .char c => c.isDigit
  | .half _ => false

/-- An ASCII letter or digit. -/
def isAlphanum : CodePoint → Bool
  | .char c => c.isAlphanum
  | .half _ => false

/-- The code points in which every high half directly before a low one has become their character. -/
def joined : List CodePoint → List CodePoint
  | .half high :: .half low :: rest =>
    if high.isHigh && !low.isHigh then .char (high.pair low) :: joined rest
    else .half high :: joined (.half low :: rest)
  | point :: rest => point :: joined rest
  | [] => []

end CodePoint

/-- `broken written half rest` is the run `written`, then `half`, then the text `rest`. -/
inductive Text where
  | plain (written : String)
  | broken (written : String) (half : Surrogate) (rest : Text)
deriving DecidableEq, Repr

namespace Text

instance : Coe String Text := ⟨plain⟩

instance : Inhabited Text := ⟨plain ""⟩

def append : Text → Text → Text
  | .plain written, .plain other => .plain (written ++ other)
  | .plain written, .broken other half rest => .broken (written ++ other) half rest
  | .broken written half rest, other => .broken written half (append rest other)

instance : Append Text := ⟨append⟩

def isEmpty : Text → Bool
  | .plain written => written.isEmpty
  | .broken _ _ _ => false

/-- Whether a text has no half. -/
def isPlain : Text → Bool
  | .plain _ => true
  | .broken _ _ _ => false

/-- `text` with its ASCII letters in lower case. -/
def toLower : Text → Text
  | .plain written => .plain written.toLower
  | .broken written half rest => .broken written.toLower half (toLower rest)

/-- The code points of a text. -/
def points : Text → List CodePoint
  | .plain written => written.toList.map .char
  | .broken written half rest => written.toList.map .char ++ .half half :: points rest

/-- The text of code points behind the characters of `run`, the last of them first. -/
def collect (run : List Char) : List CodePoint → Text
  | [] => .plain (String.ofList run.reverse)
  | .char c :: rest => collect (c :: run) rest
  | .half half :: rest => .broken (String.ofList run.reverse) half (collect [] rest)

def ofPoints (points : List CodePoint) : Text :=
  collect [] points

/-- The texts, with `separator` between each two of them. -/
def intercalate (separator : Text) : List Text → Text
  | [] => ""
  | [text] => text
  | text :: rest => text ++ separator ++ intercalate separator rest

/-- Texts are ordered by the numbers of their code points. -/
def order (text : Text) : List Nat :=
  text.points.map CodePoint.toNat

instance : LE Text := ⟨fun left right => List.le left.order right.order⟩

instance (left right : Text) : Decidable (left ≤ right) :=
  List.decidableLE left.order right.order

/-- The text with three replacement characters in the place of every half. -/
def lossy : Text → Text
  | .plain written => .plain written
  | .broken written _ rest => .plain (written ++ "\uFFFD\uFFFD\uFFFD") ++ lossy rest

/-- The text in which every high half directly before a low one has become their character. -/
def joined (text : Text) : Text :=
  ofPoints (CodePoint.joined text.points)

/-! ## Laws -/

@[simp] theorem plain_beq_plain (left right : String) :
    (plain left == plain right) = (left == right) := by
  rw [Bool.eq_iff_iff, beq_iff_eq, beq_iff_eq, plain.injEq]

@[simp] theorem isEmpty_plain (written : String) : (plain written).isEmpty = written.isEmpty := rfl

@[simp] theorem isEmpty_broken (written : String) (half : Surrogate) (rest : Text) :
    (broken written half rest).isEmpty = false := rfl

@[simp] theorem isPlain_plain (written : String) : (plain written).isPlain = true := rfl

@[simp] theorem isEmpty_iff {text : Text} : text.isEmpty = true ↔ text = "" := by
  cases text <;> simp

@[simp] theorem isEmpty_eq_false_iff {text : Text} : text.isEmpty = false ↔ text ≠ "" := by
  rw [← Bool.not_eq_true, isEmpty_iff]

@[simp] theorem plain_append_plain (left right : String) :
    plain left ++ plain right = plain (left ++ right) := rfl

@[simp] theorem plain_append_broken (left right : String) (half : Surrogate) (rest : Text) :
    plain left ++ broken right half rest = broken (left ++ right) half rest := rfl

@[simp] theorem broken_append (written : String) (half : Surrogate) (rest other : Text) :
    broken written half rest ++ other = broken written half (rest ++ other) := rfl

@[simp] theorem empty_append (text : Text) : "" ++ text = text := by
  cases text <;> simp

@[simp] theorem append_empty (text : Text) : text ++ "" = text := by
  induction text with
  | plain written => simp
  | broken written half rest inductionHypothesis => rw [broken_append, inductionHypothesis]

theorem append_assoc (first second third : Text) :
    first ++ second ++ third = first ++ (second ++ third) := by
  induction first with
  | plain written =>
      cases second with
      | plain other => cases third <;> simp [String.append_assoc]
      | broken other half rest => rfl
  | broken written half rest inductionHypothesis =>
      rw [broken_append, broken_append, broken_append, inductionHypothesis]

instance : Std.Associative (α := Text) (· ++ ·) := ⟨append_assoc⟩

@[simp] theorem points_plain (written : String) :
    (plain written).points = written.toList.map .char := rfl

@[simp] theorem points_broken (written : String) (half : Surrogate) (rest : Text) :
    (broken written half rest).points = written.toList.map .char ++ .half half :: rest.points := rfl

@[simp] theorem points_append (left right : Text) :
    (left ++ right).points = left.points ++ right.points := by
  induction left with
  | plain written => cases right <;> simp
  | broken written half rest inductionHypothesis => simp [inductionHypothesis]

theorem points_collect (run : List Char) (points : List CodePoint) :
    (collect run points).points = run.reverse.map .char ++ points := by
  induction points generalizing run with
  | nil => simp [collect]
  | cons point rest inductionHypothesis =>
      cases point <;> simp [collect, inductionHypothesis]

@[simp] theorem points_ofPoints (points : List CodePoint) : (ofPoints points).points = points :=
  points_collect [] points

/-- Characters that are collected before a text join its first run. -/
theorem collect_points (text : Text) (run : List Char) :
    collect run text.points = plain (String.ofList run.reverse) ++ text := by
  have chars : ∀ (following : List Char) (run : List Char) (others : List CodePoint),
      collect run (following.map .char ++ others) = collect (following.reverse ++ run) others := by
    intro following
    induction following with
    | nil => exact fun _ _ => rfl
    | cons c following inductionHypothesis =>
        intro run others
        simp [collect, inductionHypothesis]
  induction text generalizing run with
  | plain written =>
      have whole := chars written.toList run []
      rw [List.append_nil] at whole
      rw [points_plain, whole]
      simp [collect, String.ofList_append]
  | broken written half rest inductionHypothesis =>
      rw [points_broken, chars, collect, inductionHypothesis]
      simp [String.ofList_append]

@[simp] theorem ofPoints_points (text : Text) : ofPoints text.points = text :=
  (collect_points text []).trans (empty_append text)

theorem points_inj {left right : Text} : left.points = right.points ↔ left = right :=
  ⟨fun same => by rw [← ofPoints_points left, same, ofPoints_points], fun same => by rw [same]⟩

theorem order_inj {left right : Text} : left.order = right.order ↔ left = right := by
  unfold order
  rw [List.map_inj_right fun _ _ => CodePoint.toNat_inj.1, points_inj]

theorem le_refl (text : Text) : text ≤ text := List.le_refl text.order

theorem le_total (left right : Text) : left ≤ right ∨ right ≤ left :=
  List.le_total left.order right.order

theorem le_trans {first second third : Text} (below : first ≤ second) (above : second ≤ third) :
    first ≤ third :=
  List.le_trans (α := Nat) below above

theorem le_antisymm {left right : Text} (below : left ≤ right) (above : right ≤ left) :
    left = right :=
  order_inj.1 (List.le_antisymm below above)

@[simp] theorem points_eq_nil_iff {text : Text} : text.points = [] ↔ text = "" := by
  rw [← points_inj]
  exact Iff.rfl

end Text

end RunnerCloud
