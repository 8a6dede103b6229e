import Mathlib.Data.List.TakeWhile
import Mathlib.Data.Nat.Digits.Defs
import RunnerCloud.Number.IntegerText
import RunnerCloud.Text.Blank

/-!
Contract: which texts are read as integers.

Owns:
- `SeparatedDigits` and `WritesInteger`, the grammar of such texts, with the number they denote;
- `readMagnitude_of_digits` and `readInteger_of_writes`: a text in the grammar is read as its number,
  if it has no more digits than the limit.

Does not own: what becomes of other texts.
-/

namespace RunnerCloud.Number

open Text

/-- Digits, some of them with an underscore behind them that separates them from the next, and the
values of the digits. -/
inductive SeparatedDigits : List CodePoint → List Nat → Prop where
  | last {c : CodePoint} {digit : Nat} (reads : decimalDigit? c = some digit) :
      SeparatedDigits [c] [digit]
  | next {c : CodePoint} {digit : Nat} {rest : List CodePoint} {digits : List Nat}
      (reads : decimalDigit? c = some digit) (following : SeparatedDigits rest digits) :
      SeparatedDigits (c :: rest) (digit :: digits)
  | apart {c : CodePoint} {digit : Nat} {rest : List CodePoint} {digits : List Nat}
      (reads : decimalDigit? c = some digit) (following : SeparatedDigits rest digits) :
      SeparatedDigits (c :: '_' :: rest) (digit :: digits)

/-- The number that digits denote, counted from the least significant one. -/
def valueOf (digits : List Nat) : ℕ :=
  Nat.ofDigits 10 digits.reverse

/-- A sign that leaves a number as it is, or negates it. -/
inductive Signs : List CodePoint → ℕ → ℤ → Prop where
  | unsigned (magnitude : ℕ) : Signs [] magnitude magnitude
  | plus (magnitude : ℕ) : Signs ['+'] magnitude magnitude
  | minus (magnitude : ℕ) : Signs ['-'] magnitude (-magnitude)

/-- The characters are an integer with these digits between white space. -/
def WritesInteger (chars : List CodePoint) (digits : List Nat) (number : ℤ) : Prop :=
  ∃ before sign magnitude after, chars = before ++ (sign ++ magnitude) ++ after ∧
    (∀ c ∈ before, isWhiteSpace c = true) ∧ (∀ c ∈ after, isWhiteSpace c = true) ∧
    SeparatedDigits magnitude digits ∧ Signs sign (valueOf digits) number

/-- Digits alone write their number. -/
theorem SeparatedDigits.writesInteger {chars : List CodePoint} {digits : List Nat}
    (writes : SeparatedDigits chars digits) : WritesInteger chars digits (valueOf digits) :=
  ⟨[], [], chars, [], (List.append_nil chars).symm, nofun, nofun, writes, .unsigned _⟩

/-! ## Digits -/

theorem ofDigitValues_eq (digits : List Nat) : ofDigitValues digits = valueOf digits := by
  unfold ofDigitValues valueOf
  rw [Nat.ofDigits_eq_foldr, List.foldr_reverse]
  simp [Nat.add_comm]

theorem isDigitOrSeparator_of_digit {c : CodePoint} {digit : Nat}
    (reads : decimalDigit? c = some digit) :
    isDigitOrSeparator c = true := by
  simp [isDigitOrSeparator, reads]

namespace SeparatedDigits

variable {chars : List CodePoint} {digits : List Nat}

theorem head (writes : SeparatedDigits chars digits) :
    ∃ c digit rest, chars = c :: rest ∧ decimalDigit? c = some digit := by
  cases writes with
  | last reads => exact ⟨_, _, _, rfl, reads⟩
  | next reads following => exact ⟨_, _, _, rfl, reads⟩
  | apart reads following => exact ⟨_, _, _, rfl, reads⟩

theorem getLast (writes : SeparatedDigits chars digits) :
    ∃ c digit, chars.getLast? = some c ∧ decimalDigit? c = some digit := by
  induction writes with
  | last reads => exact ⟨_, _, rfl, reads⟩
  | next reads following inductionHypothesis =>
      obtain ⟨last, digit, ends, read⟩ := inductionHypothesis
      exact ⟨last, digit, by rw [List.getLast?_cons, ends]; rfl, read⟩
  | apart reads following inductionHypothesis =>
      obtain ⟨last, digit, ends, read⟩ := inductionHypothesis
      exact ⟨last, digit, by rw [List.getLast?_cons, List.getLast?_cons, ends]; rfl, read⟩

theorem all_digitOrSeparator (writes : SeparatedDigits chars digits) :
    ∀ c ∈ chars, isDigitOrSeparator c = true := by
  induction writes with
  | last reads => simpa using isDigitOrSeparator_of_digit reads
  | next reads following inductionHypothesis =>
      simpa [isDigitOrSeparator_of_digit reads] using inductionHypothesis
  | apart reads following inductionHypothesis =>
      have separator : isDigitOrSeparator '_' = true := rfl
      simpa [isDigitOrSeparator_of_digit reads, separator] using inductionHypothesis

theorem separatedDigits_eq (writes : SeparatedDigits chars digits) :
    separatedDigits chars = some digits := by
  induction writes with
  | last reads => simp [separatedDigits, reads]
  | @next c digit rest digits reads following inductionHypothesis =>
      -- The next character is a digit, and no underscore.
      obtain ⟨second, secondDigit, others, rfl, secondRead⟩ := following.head
      have noSeparator : second ≠ '_' := by
        rintro rfl
        cases secondRead
      simp [separatedDigits, noSeparator, reads, inductionHypothesis]
  | apart reads following inductionHypothesis =>
      simp [separatedDigits, reads, inductionHypothesis]

end SeparatedDigits

section Reading

variable {chars : List CodePoint} {digits : List Nat}

/-- Nothing but the number of its digits keeps a text of digits from being read. -/
theorem readMagnitude_of_digits (writes : SeparatedDigits chars digits) :
    readMagnitude chars =
      if mostDigits < digits.length then .error (.oversized ⟨digits.length⟩)
      else .ok (valueOf digits) := by
  have whole : chars.takeWhile isDigitOrSeparator = chars := by
    rw [List.takeWhile_eq_self_iff]
    exact writes.all_digitOrSeparator
  have nothing : chars.dropWhile isDigitOrSeparator = [] := by
    rw [List.dropWhile_eq_nil_iff]
    exact writes.all_digitOrSeparator
  unfold readMagnitude
  rw [whole, nothing, writes.separatedDigits_eq, ← ofDigitValues_eq]
  unfold withinLimit
  by_cases tooMany : mostDigits < digits.length
  · simp [tooMany]
  · simp [tooMany]

theorem readSigned_of_signs {sign magnitude : List CodePoint} {number : ℤ}
    (writes : SeparatedDigits magnitude digits) (signs : Signs sign (valueOf digits) number) :
    readSigned (sign ++ magnitude) =
      if mostDigits < digits.length then .error (.oversized ⟨digits.length⟩) else .ok number := by
  have read := readMagnitude_of_digits writes
  cases signs with
  | unsigned =>
      -- The first digit is neither of the signs.
      obtain ⟨c, digit, rest, rfl, digitRead⟩ := writes.head
      rw [List.nil_append]
      unfold readSigned
      split
      · rename_i starts
        cases starts
        cases digitRead
      · rename_i starts
        cases starts
        cases digitRead
      · rw [read]
        split <;> rfl
  | plus =>
      simp only [List.cons_append, List.nil_append, readSigned]
      rw [read]
      split <;> rfl
  | minus =>
      simp only [List.cons_append, List.nil_append, readSigned]
      rw [read]
      split <;> rfl

/-! ## White space -/

/-- The code points of white space. -/
def whiteSpaceCodes : List Nat := [
  0x09, 0x0A, 0x0B, 0x0C, 0x0D, 0x20, 0x85, 0xA0, 0x1680, 0x2000, 0x2001, 0x2002, 0x2003, 0x2004,
  0x2005, 0x2006, 0x2007, 0x2008, 0x2009, 0x200A, 0x2028, 0x2029, 0x202F, 0x205F, 0x3000]

theorem mem_whiteSpaceCodes {c : CodePoint} (white : isWhiteSpace c = true) :
    c.toNat ∈ whiteSpaceCodes := by
  simp only [isWhiteSpace, Bool.or_eq_true, Bool.and_eq_true, decide_eq_true_eq, beq_iff_eq] at white
  simp only [whiteSpaceCodes, List.mem_cons, List.not_mem_nil, or_false]
  omega

theorem whiteSpaceCodes_no_digits : ∀ code ∈ whiteSpaceCodes,
    zeroDigits.find? (fun start => start ≤ code && code ≤ start + 9) = none := by
  decide

theorem not_isWhiteSpace_of_digit {c : CodePoint} {digit : Nat} (reads : decimalDigit? c = some digit) :
    isWhiteSpace c = false := by
  cases white : isWhiteSpace c with
  | false => rfl
  | true =>
      have none := whiteSpaceCodes_no_digits c.toNat (mem_whiteSpaceCodes white)
      unfold decimalDigit? at reads
      rw [none] at reads
      cases reads

theorem not_isWhiteSpace_of_sign {sign : List CodePoint} {magnitude : ℕ} {number : ℤ}
    (signs : Signs sign magnitude number) : ∀ c ∈ sign, isWhiteSpace c = false := by
  cases signs with
  | unsigned => simp
  | plus => simp; rfl
  | minus => simp; rfl

/-- White space around a number is all that trimming takes away. -/
theorem trimmedChars_of_ends {before core after : List CodePoint}
    (beforeWhite : ∀ c ∈ before, isWhiteSpace c = true)
    (afterWhite : ∀ c ∈ after, isWhiteSpace c = true)
    (head : ∃ c rest, core = c :: rest ∧ isWhiteSpace c = false)
    (last : ∃ c, core.getLast? = some c ∧ isWhiteSpace c = false) :
    trimmedChars isWhiteSpace (before ++ core ++ after) = core := by
  obtain ⟨first, rest, rfl, firstKept⟩ := head
  obtain ⟨final, ends, finalKept⟩ := last
  obtain ⟨front, shape⟩ := List.getLast?_eq_some_iff.1 ends
  unfold trimmedChars
  have fromFront : (before ++ (first :: rest) ++ after).dropWhile isWhiteSpace =
      (first :: rest) ++ after := by
    rw [List.append_assoc, List.dropWhile_append_of_pos beforeWhite]
    simp [firstKept]
  have fromBack : ((first :: rest) ++ after).reverse.dropWhile isWhiteSpace =
      (first :: rest).reverse := by
    rw [List.reverse_append, List.dropWhile_append_of_pos (by simpa using afterWhite), shape]
    simp [finalKept]
  rw [fromFront, fromBack, List.reverse_reverse]

/-- A text that writes an integer is read as it, unless it has too many digits. -/
theorem readInteger_of_writes {written : Text} {number : ℤ}
    (writes : WritesInteger written.points digits number) :
    readInteger written =
      if mostDigits < digits.length then .error (.oversized ⟨digits.length⟩) else .ok number := by
  obtain ⟨before, sign, magnitude, after, parts, beforeWhite, afterWhite, magnitudeDigits, signs⟩ :=
    writes
  obtain ⟨first, _, rest, starts, firstRead⟩ := magnitudeDigits.head
  obtain ⟨final, _, ends, finalRead⟩ := magnitudeDigits.getLast
  have head : ∃ c others, sign ++ magnitude = c :: others ∧ isWhiteSpace c = false := by
    cases mark : sign with
    | nil => exact ⟨first, rest, starts, not_isWhiteSpace_of_digit firstRead⟩
    | cons c others =>
        refine ⟨c, others ++ magnitude, rfl, ?_⟩
        apply not_isWhiteSpace_of_sign signs
        rw [mark]
        exact List.mem_cons_self
  have last : ∃ c, (sign ++ magnitude).getLast? = some c ∧ isWhiteSpace c = false := by
    refine ⟨final, ?_, not_isWhiteSpace_of_digit finalRead⟩
    rw [List.getLast?_append, ends, Option.some_or]
  unfold readInteger
  rw [parts, trimmedChars_of_ends beforeWhite afterWhite head last]
  exact readSigned_of_signs magnitudeDigits signs

end Reading

end RunnerCloud.Number
