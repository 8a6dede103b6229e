import RunnerCloud.Validation.Checked
import RunnerCloud.Validation.LenientInteger

/-!
Contract: which values count as texts, booleans, integers, lists and documents.

Owns:
- the lenient readings: booleans from 0, 1 and a few words, integers from integral numbers and from
  texts;
- the lists and documents of such values, with the path of every issue, and what an accepted one is
  made from.

Does not own: the fields of models; `Validation.Record` looks them up.
-/

namespace RunnerCloud.Validation

open Number

variable {α : Type}

def text : Value → Checked Text
  | .text value => .accepted value
  | _ => .reject .notText

/-- Reads what a text spells; a text with a half of a pair spells nothing. -/
def spelled (read : Text → Checked α) : Text → Checked α
  | .plain written => read written
  | .broken _ _ _ => .reject .brokenText

/-! ## Numbers -/

/-- The least positive integer that 64 bits with a sign do not hold, `2 ^ 63`. -/
def wordBound : Int := 0x8000000000000000

/-- The integer that a binary64 number is; from `2 ^ 63` on the numbers are too sparse to count. -/
def intOfFloat (value : Binary64) : Checked Int :=
  match value with
  | .notANumber => .reject .notFinite
  | .infinite _ => .reject .notFinite
  | .finite _ _ _ =>
    match value.toInt? with
    | none => .reject .fractionalInt
    | some whole =>
      if -wordBound < whole && whole < wordBound then .accepted whole else .reject .oversizedInt

/-! ## Booleans -/

def falseWords : List Text := ["0", "off", "f", "false", "n", "no"]

def trueWords : List Text := ["1", "on", "t", "true", "y", "yes"]

/-- Whether an integer fits in 64 bits with a sign. -/
def fitsWord (value : Int) : Bool :=
  -wordBound ≤ value && value < wordBound

/-- Zero and one are booleans; other integers are unreadable if they fit in a word. -/
def boolOfInt (value : Int) : Checked Bool :=
  if value == 0 then .accepted false
  else if value == 1 then .accepted true
  else if fitsWord value then .reject .unreadableBool
  else .reject .notBool

/-- The boolean that a word stands for, in any letter case. -/
def boolOfText (written : Text) : Checked Bool :=
  if falseWords.contains written.toLower then .accepted false
  else if trueWords.contains written.toLower then .accepted true
  else .reject .unreadableBool

def bool : Value → Checked Bool
  | .bool value => .accepted value
  | .int value => boolOfInt value
  | .float value =>
    match intOfFloat value with
    | .accepted whole => boolOfInt whole
    | .rejected _ => .reject .notBool
  | .text value => spelled boolOfText value
  | _ => .reject .notBool

/-! ## Integers -/

/-- The integer that a text writes. -/
def intOfText (written : Text) : Checked Int :=
  match IntegerReading.lenient written.points with
  | .whole number => .accepted number
  | .oversized => .reject .oversizedInt
  | .malformed => .reject .unreadableInt

def int : Value → Checked Int
  | .int value => .accepted value
  | .bool value => .accepted (if value then 1 else 0)
  | .float value => intOfFloat value
  | .text value => spelled intOfText value
  | _ => .reject .notInt

/-- An integer that is not negative. -/
def nonNegativeInt (value : Value) : Checked Int :=
  (int value).ensure fun number =>
    if 0 ≤ number then .accepted number else .reject .belowZero

/-! ## Lists, documents, null -/

/-- A list whose items all pass `item`. -/
def list (item : Value → Checked α) : Value → Checked (List α)
  | .list items =>
    .all (items.zipIdx.map fun (value, position) => (item value).under (.index position))
  | _ => .reject .notList

/-- A document whose values all pass `entry`. -/
def dict (entry : Value → Checked α) : Value → Checked (List (Text × α))
  | .dict entries =>
    .all (entries.map fun (key, value) => ((entry value).map (key, ·)).under (.key key.lossy))
  | _ => .reject .notDict

/-- Any document. -/
def anyDict : Value → Checked Fields
  | .dict entries => .accepted entries
  | _ => .reject .notDict

/-- Null, or a value that passes `present`. -/
def nullable (present : Value → Checked α) : Value → Checked (Option α)
  | .null => .accepted none
  | value => (present value).map some

/-- The value that one of finitely many texts stands for. -/
def chosen (choices : List Text) (read : Text → Option α) (written : Text) : Checked α :=
  match read written with
  | some value => .accepted value
  | none => .reject (.notChoice choices)

/-- One of finitely many texts. -/
def choice (choices : List Text) (read : Text → Option α) : Value → Checked α
  | .text value => spelled (chosen choices read) value
  | _ => .reject (.notChoice choices)

/-! ## What an accepted list or document is made from -/

theorem list_eq_accepted_iff {item : Value → Checked α} {value : Value} {read : List α} :
    list item value = .accepted read ↔
      ∃ items, value = .list items ∧ items.map item = read.map .accepted := by
  unfold list
  cases value with
  | list items =>
      have placed : ∀ start, (items.zipIdx start).map (fun entry =>
          (item entry.1).under (.index entry.2)) = read.map .accepted ↔
            items.map item = read.map .accepted := by
        induction items generalizing read with
        | nil => simp
        | cons first rest inductionHypothesis =>
            intro start
            cases read with
            | nil => simp
            | cons value others =>
                simp [List.zipIdx_cons, Checked.under_eq_accepted_iff, inductionHypothesis]
      simp only [Checked.all_eq_accepted_iff, Value.list.injEq, exists_eq_left']
      exact placed 0
  | _ => simp [Checked.reject]

theorem dict_eq_accepted_iff {entry : Value → Checked α} {value : Value}
    {read : List (Text × α)} :
    dict entry value = .accepted read ↔
      ∃ entries, value = .dict entries ∧
        entries.map (fun given => (given.1, entry given.2)) =
          read.map fun taken => (taken.1, .accepted taken.2) := by
  unfold dict
  cases value with
  | dict entries =>
      have keyed : ∀ step key given (taken : Text × α),
          (Checked.map (key, ·) (entry given)).under step = .accepted taken ↔
            key = taken.1 ∧ entry given = .accepted taken.2 := by
        intro step key given taken
        obtain ⟨other, value⟩ := taken
        cases entry given <;> simp [Checked.map, Checked.under]
      simp only [Checked.all_eq_accepted_iff, Value.dict.injEq, exists_eq_left']
      induction entries generalizing read with
      | nil => simp
      | cons first rest inductionHypothesis =>
          cases read with
          | nil => simp
          | cons value others => simp [keyed, inductionHypothesis]
  | _ => simp [Checked.reject]

end RunnerCloud.Validation
