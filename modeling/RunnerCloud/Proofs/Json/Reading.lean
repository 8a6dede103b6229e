import RunnerCloud.Proofs.Json.Grammar

/-!
Contract: reading JSON finds what is written.

Owns:
- `readString_inside`, `readScalar_numeral` and `reads_of_denotes`, for the pieces of JSON: each
  reader stops where its piece ends and gives what the piece stands for;
- `parse_of_isText`: a text that is JSON is read as what it stands for.

Does not own: that other texts are refused.
-/

namespace RunnerCloud.Json

open Number

/-! ## Blanks -/

theorem skipSpace_of_head {rest : List CodePoint} (solid : ∀ c ∈ rest.head?, isSpace c = false) :
    skipSpace rest = rest := by
  cases rest with
  | nil => rfl
  | cons c tail =>
      have noBlank : isSpace c = false := solid c rfl
      rw [skipSpace, List.dropWhile_cons_of_neg (by simp [noBlank])]

theorem skipSpace_append {blank rest : List CodePoint} (isBlank : Blank blank)
    (solid : ∀ c ∈ rest.head?, isSpace c = false) : skipSpace (blank ++ rest) = rest := by
  have skipped : skipSpace (blank ++ rest) = skipSpace rest :=
    List.dropWhile_append_of_pos isBlank
  rw [skipped, skipSpace_of_head solid]

theorem skipSpace_mark {blank : List CodePoint} (isBlank : Blank blank) {mark : CodePoint}
    (solid : isSpace mark = false) (rest : List CodePoint) :
    skipSpace (blank ++ mark :: rest) = mark :: rest := by
  refine skipSpace_append isBlank ?_
  intro c isHead
  cases isHead
  exact solid

/-! ## Strings -/

/-- A unit that is no half completes a character of its own. -/
theorem joinUnit_of_whole {code : Nat} (whole : Surrogate.ofUnit? code = none) :
    joinUnit none code = ([.char (Char.ofNat code)], none) := by
  simp [joinUnit, whole, loneHalf]

/-- A high half waits for the low one. -/
theorem joinUnit_of_high {high : Surrogate} (isHigh : high.isHigh = true) :
    joinUnit none high.code = ([], some high) := by
  simp [joinUnit, Surrogate.ofUnit?_code, isHigh, loneHalf]

theorem joinUnit_of_low (high : Surrogate) {low : Surrogate} (isLow : low.isHigh = false) :
    joinUnit (some high) low.code = ([.char (high.pair low)], none) := by
  simp [joinUnit, Surrogate.ofUnit?_code, isLow]

/-- A low half waits for nothing. -/
theorem joinUnit_of_lone {low : Surrogate} (isLow : low.isHigh = false) :
    joinUnit none low.code = ([.half low], none) := by
  simp [joinUnit, Surrogate.ofUnit?_code, isLow]

/-- A high half that waits in vain stands in front of what follows. -/
theorem joinUnit_of_alone (high : Surrogate) {code : Nat}
    (alone : ∀ low : Surrogate, code = low.code → low.isHigh = true) :
    joinUnit (some high) code = (.half high :: (joinUnit none code).1, (joinUnit none code).2) := by
  unfold joinUnit
  cases half : Surrogate.ofUnit? code with
  | none => rfl
  | some low =>
      have isHigh := alone low (Surrogate.ofUnit?_eq_some_iff.1 half)
      simp [isHigh, loneHalf]

/-- An escape of a unit is read by completing a character with it. -/
theorem readString_unit {a b c d : CodePoint} {code : Nat} (digits : unit? a b c d = some code)
    (pending : Option Surrogate) (rest : List CodePoint) :
    readString pending ('\\' :: 'u' :: a :: b :: c :: d :: rest) =
      (readString (joinUnit pending code).2 rest).map fun read =>
        ((joinUnit pending code).1 ++ read.1, read.2) := by
  simp only [readString, digits]

/-- In front of anything but the escape of a low half, a pending high one stands for itself. -/
theorem readString_pending {high : Surrogate} {chars : List CodePoint} (alone : ¬ EscapesLow chars) :
    readString (some high) chars =
      (readString none chars).map fun read => (.half high :: read.1, read.2) := by
  fun_cases readString none chars with
  | case1 => rfl
  | case2 rest => rfl
  | case3 a b c d rest unread => simp [readString, unread]
  | case4 a b c d rest code digits joined =>
      have later : ∀ low : Surrogate, code = low.code → low.isHigh = true := by
        rintro low rfl
        rw [← Bool.not_eq_false]
        exact fun isLow => alone (.intro digits isLow)
      rw [readString_unit digits, joinUnit_of_alone high later, Option.map_map]
      rfl
  | case5 letter rest noUnit unknown =>
      rw [readString, unknown]
      · rfl
      · exact noUnit
  | case6 letter rest noUnit c known =>
      rw [readString, known, Option.map_map]
      · rfl
      · exact noUnit
  | case7 c rest noQuote noUnit noEscape refused =>
      rw [readString, if_pos refused]
      · rfl
      · exact noQuote
      · exact noUnit
      · exact noEscape
  | case8 c rest noQuote noUnit noEscape accepted =>
      rw [readString, if_neg accepted, Option.map_map]
      · rfl
      · exact noQuote
      · exact noUnit
      · exact noEscape

theorem EscapesLow.starts {chars : List CodePoint} (escapes : EscapesLow chars) :
    ∃ following, chars = .char '\\' :: .char 'u' :: following := by
  cases escapes
  exact ⟨_, rfl⟩

theorem EscapesLow.of_append {inside meant : List CodePoint} (reads : Inside inside meant)
    (rest : List CodePoint) (escapes : EscapesLow (inside ++ .char '"' :: rest)) :
    EscapesLow inside := by
  cases reads with
  | nil => cases escapes
  | plain noControl noQuote noBackslash following =>
      obtain ⟨_, split⟩ := escapes.starts
      exact absurd (List.cons.inj split).1 noBackslash
  | short known following =>
      obtain ⟨_, split⟩ := escapes.starts
      rw [(List.cons.inj (List.cons.inj split).2).1] at known
      cases known
  | unit digits whole following =>
      cases escapes with
      | intro lowDigits isLow => exact .intro lowDigits isLow
  | pair highDigits isHigh lowDigits isLow following =>
      cases escapes with
      | intro lowDigits isLow => exact .intro lowDigits isLow
  | half digits alone following =>
      cases escapes with
      | intro lowDigits isLow => exact .intro lowDigits isLow

theorem readString_inside {inside meant : List CodePoint} (reads : Inside inside meant)
    (rest : List CodePoint) :
    readString none (inside ++ .char '"' :: rest) = some (meant, rest) := by
  induction reads with
  | nil => rfl
  | @plain c following meant noControl noQuote noBackslash _ inductionHypothesis =>
      rw [List.cons_append, readString]
      · rw [inductionHypothesis, if_neg (by simp [noBackslash]; omega)]
        rfl
      · exact noQuote
      · intro _ _ _ _ _ escape
        exact absurd escape noBackslash
      · intro _ _ escape
        exact absurd escape noBackslash
  | @short letter c following meant known _ inductionHypothesis =>
      have noUnit : letter ≠ 'u' := by
        rintro rfl
        cases known
      rw [List.cons_append, List.cons_append, readString]
      · rw [known]
        simp only [inductionHypothesis]
        rfl
      · intro _ _ _ _ _ isUnit
        exact absurd isUnit noUnit
  | @unit a b c d code following meant digits whole _ inductionHypothesis =>
      simp only [List.cons_append]
      rw [readString_unit digits, joinUnit_of_whole whole, inductionHypothesis]
      rfl
  | @pair a b c d a' b' c' d' high low following meant highDigits isHigh lowDigits isLow _
      inductionHypothesis =>
      simp only [List.cons_append]
      rw [readString_unit highDigits, joinUnit_of_high isHigh, readString_unit lowDigits,
        joinUnit_of_low high isLow, inductionHypothesis]
      rfl
  | @half a b c d half following meant digits alone inside inductionHypothesis =>
      simp only [List.cons_append]
      rw [readString_unit digits]
      cases isHigh : half.isHigh with
      | true =>
          have lone := fun escapes => alone isHigh (EscapesLow.of_append inside rest escapes)
          rw [joinUnit_of_high isHigh, readString_pending lone, inductionHypothesis]
          rfl
      | false =>
          rw [joinUnit_of_lone isHigh, inductionHypothesis]
          rfl

/-! ## Numbers -/

/-- A text in front of which a number ends. -/
def Stops (rest : List CodePoint) : Prop :=
  ∀ c ∈ rest.head?, c.isDigit = false ∧ c ≠ '.' ∧ c ≠ 'e' ∧ c ≠ 'E'

theorem ne_of_isDigit {c other : CodePoint} (isDigit : c.isDigit = true)
    (noDigit : other.isDigit = false) : c ≠ other := by
  rintro rfl
  rw [isDigit] at noDigit
  cases noDigit

theorem Digits.head {digits : List CodePoint} (written : Digits digits) :
    ∃ c others, digits = c :: others ∧ c.isDigit = true := by
  obtain ⟨nonempty, all⟩ := written
  obtain ⟨c, others, rfl⟩ := List.exists_cons_of_ne_nil nonempty
  exact ⟨c, others, rfl, all c List.mem_cons_self⟩

theorem spanDigits_append {digits rest : List CodePoint} (all : ∀ c ∈ digits, c.isDigit = true)
    (stops : ∀ c ∈ rest.head?, c.isDigit = false) : spanDigits (digits ++ rest) = (digits, rest) := by
  have taken : rest.takeWhile CodePoint.isDigit = [] := by
    cases rest with
    | nil => rfl
    | cons c tail => rw [List.takeWhile_cons_of_neg (by simp [stops c rfl])]
  have dropped : rest.dropWhile CodePoint.isDigit = rest := by
    cases rest with
    | nil => rfl
    | cons c tail => rw [List.dropWhile_cons_of_neg (by simp [stops c rfl])]
  rw [spanDigits, List.takeWhile_append_of_pos all, List.dropWhile_append_of_pos all, taken, dropped,
    List.append_nil]

theorem readInteger_whole {whole rest : List CodePoint} (wellFormed : Whole whole)
    (stops : ∀ c ∈ rest.head?, c.isDigit = false) :
    readInteger (whole ++ rest) = some (whole, rest) := by
  rcases wellFormed with rfl | ⟨written, noZero⟩
  · rfl
  · have split := spanDigits_append written.2 stops
    obtain ⟨first, others, rfl, _⟩ := written.head
    rw [List.cons_append] at split ⊢
    rw [readInteger]
    · rw [split]
    · intro _ isZero
      rw [List.cons.injEq] at isZero
      exact absurd (congrArg some isZero.1) noZero

theorem readFraction_fraction {fraction places rest : List CodePoint}
    (fractional : Fraction fraction places)
    (stops : ∀ c ∈ rest.head?, c.isDigit = false ∧ c ≠ '.') :
    readFraction (fraction ++ rest) = (places, rest) := by
  cases fractional with
  | absent =>
      cases rest with
      | nil => rfl
      | cons c tail =>
          rw [List.nil_append, readFraction]
          intro _ isPoint
          rw [List.cons.injEq] at isPoint
          exact absurd isPoint.1 (stops c rfl).2
  | present written =>
      have split := spanDigits_append written.2 fun c isHead => (stops c isHead).1
      obtain ⟨first, others, rfl, _⟩ := written.head
      rw [List.cons_append, readFraction, split]

theorem append_ne_sign {digits : List CodePoint} (written : Digits digits) {sign : CodePoint}
    (noDigit : sign.isDigit = false) (rest following : List CodePoint) :
    digits ++ rest ≠ sign :: following := by
  obtain ⟨first, others, rfl, isDigit⟩ := written.head
  intro same
  rw [List.cons_append, List.cons.injEq] at same
  exact absurd same.1 (ne_of_isDigit isDigit noDigit)

theorem readExponent_exponent {exponent rest : List CodePoint} {power : Option Int}
    (exponential : Exponent exponent power) (stops : Stops rest) :
    readExponent (exponent ++ rest) = (power, rest) := by
  have noDigit : ∀ c ∈ rest.head?, c.isDigit = false := fun c isHead => (stops c isHead).1
  have isMark : ∀ mark : CodePoint, mark = 'e' ∨ mark = 'E' → (mark == 'e' || mark == 'E') = true := by
    rintro mark (rfl | rfl) <;> rfl
  cases exponential with
  | absent =>
      cases rest with
      | nil => rfl
      | cons c tail =>
          obtain ⟨_, _, noSmall, noBig⟩ := stops c rfl
          unfold readExponent
          exact if_neg (by simp [noSmall, noBig])
  | @present mark digits known written =>
      rw [List.cons_append, readExponent, if_pos (isMark mark known)]
      · dsimp only
        rw [spanDigits_append written.2 noDigit]
        obtain ⟨first, others, rfl, _⟩ := written.head
        rfl
      · exact fun following => append_ne_sign written rfl rest following
      · exact fun following => append_ne_sign written rfl rest following
  | @plus mark digits known written =>
      rw [List.cons_append, List.cons_append, readExponent, if_pos (isMark mark known)]
      dsimp only
      rw [spanDigits_append written.2 noDigit]
      obtain ⟨first, others, rfl, _⟩ := written.head
      rfl
  | @minus mark digits known written =>
      rw [List.cons_append, List.cons_append, readExponent, if_pos (isMark mark known)]
      dsimp only
      rw [spanDigits_append written.2 noDigit]
      obtain ⟨first, others, rfl, _⟩ := written.head
      rfl

/-- In front of what follows a fraction, the fraction ends. -/
theorem exponent_stops {exponent rest : List CodePoint} {power : Option Int}
    (exponential : Exponent exponent power) (stops : Stops rest) :
    ∀ c ∈ (exponent ++ rest).head?, c.isDigit = false ∧ c ≠ '.' := by
  have ofMark : ∀ mark : CodePoint, mark = 'e' ∨ mark = 'E' → mark.isDigit = false ∧ mark ≠ '.' := by
    rintro mark (rfl | rfl) <;> decide
  intro c isHead
  cases exponential with
  | absent =>
      obtain ⟨noDigit, noPoint, _⟩ := stops c isHead
      exact ⟨noDigit, noPoint⟩
  | present known written =>
      cases isHead
      exact ofMark _ known
  | plus known written =>
      cases isHead
      exact ofMark _ known
  | minus known written =>
      cases isHead
      exact ofMark _ known

/-- In front of what follows the whole part, the whole part ends. -/
theorem fraction_stops {fraction places rest : List CodePoint} (fractional : Fraction fraction places)
    (stops : ∀ c ∈ rest.head?, c.isDigit = false ∧ c ≠ '.') :
    ∀ c ∈ (fraction ++ rest).head?, c.isDigit = false := by
  intro c isHead
  cases fractional with
  | absent => exact (stops c isHead).1
  | present written =>
      cases isHead
      rfl

theorem readUnsigned_parts (negative : Bool) {whole fraction places exponent rest : List CodePoint}
    {power : Option Int} (wellFormed : Whole whole) (fractional : Fraction fraction places)
    (exponential : Exponent exponent power) (stops : Stops rest) :
    readUnsigned negative (whole ++ (fraction ++ (exponent ++ rest))) =
      if places.isEmpty && power.isNone then (integerOf negative whole).map (·, rest)
      else
        .ok (.float (Binary64.ofDecimal negative (digitsValue (whole ++ places))
          (power.getD 0 - places.length)), rest) := by
  have afterFraction := exponent_stops exponential stops
  have afterWhole := fraction_stops fractional afterFraction
  simp only [readUnsigned, readInteger_whole wellFormed afterWhole,
    readFraction_fraction fractional afterFraction, readExponent_exponent exponential stops]

theorem integerOf_of_readable (negative : Bool) {whole : List CodePoint}
    (readable : whole.length ≤ mostDigits) :
    integerOf negative whole = .ok (.int (signed negative (digitsValue whole))) := by
  have within : withinLimit whole.length = .ok () := by
    rw [withinLimit, if_neg (Nat.not_lt.2 readable)]
  simp only [integerOf, within, signed]

/-- No name starts with a digit. -/
theorem afterWord?_of_digit {c : CodePoint} (isDigit : c.isDigit = true) {word : Text}
    {letter : CodePoint}
    {letters : List CodePoint} (written : word.points = letter :: letters)
    (noDigit : letter.isDigit = false) (rest : List CodePoint) : afterWord? word (c :: rest) = none := by
  have differs : (letter == c) = false := by
    rw [beq_eq_false_iff_ne]
    exact (ne_of_isDigit isDigit noDigit).symm
  rw [afterWord?, written, List.isPrefixOf, differs, Bool.false_and]
  rfl

/-- A digit starts a number. -/
theorem readScalar_of_digit {c : CodePoint} (isDigit : c.isDigit = true) (rest : List CodePoint) :
    readScalar (c :: rest) = readUnsigned false (c :: rest) := by
  have noWord : ∀ {word : Text} {letter : CodePoint} {letters : List CodePoint},
      word.points = letter :: letters → letter.isDigit = false →
      afterWord? word (c :: rest) = none :=
    fun written noDigit => afterWord?_of_digit isDigit written noDigit rest
  have noSign : c ≠ '-' := ne_of_isDigit isDigit rfl
  rw [readScalar, noWord rfl rfl, noWord rfl rfl, noWord rfl rfl, noWord rfl rfl, noWord rfl rfl,
    noWord rfl rfl]
  intro _ isSign
  rw [List.cons.injEq] at isSign
  exact noSign isSign.1

/-- A sign and a digit start a number. -/
theorem readScalar_of_sign {c : CodePoint} (isDigit : c.isDigit = true) (rest : List CodePoint) :
    readScalar ('-' :: c :: rest) = readUnsigned true (c :: rest) := by
  have noInfinity : ('I' == c) = false := by
    rw [beq_eq_false_iff_ne]
    exact (ne_of_isDigit isDigit rfl).symm
  simp [readScalar, afterWord?, List.isPrefixOf, noInfinity]

theorem Whole.head {whole : List CodePoint} (wellFormed : Whole whole) :
    ∃ c others, whole = c :: others ∧ c.isDigit = true := by
  rcases wellFormed with rfl | ⟨written, _⟩
  · exact ⟨'0', [], rfl, rfl⟩
  · exact written.head

/-- Behind its sign a number is read without one. -/
theorem readScalar_signed (negative : Bool) {whole : List CodePoint} (wellFormed : Whole whole)
    (rest : List CodePoint) :
    readScalar (signChars negative ++ (whole ++ rest)) = readUnsigned negative (whole ++ rest) := by
  obtain ⟨c, others, rfl, isDigit⟩ := wellFormed.head
  cases negative with
  | false => exact readScalar_of_digit isDigit (others ++ rest)
  | true => exact readScalar_of_sign isDigit (others ++ rest)

theorem readScalar_numeral {chars rest : List CodePoint} {value : Value} (numeral : Numeral chars value)
    (stops : Stops rest) : readScalar (chars ++ rest) = .ok (value, rest) := by
  cases numeral with
  | integer negative wellFormed readable =>
      have reads := readUnsigned_parts negative wellFormed .absent .absent stops
      rw [List.append_assoc, readScalar_signed negative wellFormed]
      simp only [List.nil_append] at reads
      rw [reads, integerOf_of_readable negative readable]
      rfl
  | @decimal negative whole fraction places exponent power wellFormed fractional exponential decimal =>
      have reads := readUnsigned_parts negative wellFormed fractional exponential stops
      have noInteger : (places.isEmpty && power.isNone) = false := by
        rw [Bool.and_eq_false_iff]
        refine decimal.imp ?_ ?_
        · intro somePlaces
          simpa using somePlaces
        · intro somePower
          cases power with
          | none => exact absurd rfl somePower
          | some number => rfl
      rw [List.append_assoc, List.append_assoc, List.append_assoc,
        readScalar_signed negative wellFormed, reads, noInteger]
      rfl

/-! ## Values -/

/-- What a number starts with. -/
def StartsNumeral (c : CodePoint) : Prop :=
  c = '-' ∨ c.isDigit = true

theorem StartsNumeral.ne {c other : CodePoint} (starts : StartsNumeral c)
    (different : other ≠ '-' ∧ other.isDigit = false) : c ≠ other := by
  rcases starts with rfl | isDigit
  · exact different.1.symm
  · exact ne_of_isDigit isDigit different.2

theorem Numeral.head {chars : List CodePoint} {value : Value} (numeral : Numeral chars value) :
    ∃ c others, chars = c :: others ∧ StartsNumeral c := by
  have signedHead : ∀ (negative : Bool) {whole : List CodePoint} (rest : List CodePoint), Whole whole →
      ∃ c others, signChars negative ++ (whole ++ rest) = c :: others ∧ StartsNumeral c := by
    intro negative whole rest wellFormed
    obtain ⟨c, others, rfl, isDigit⟩ := wellFormed.head
    cases negative with
    | false => exact ⟨c, others ++ rest, rfl, Or.inr isDigit⟩
    | true => exact ⟨'-', c :: others ++ rest, rfl, Or.inl rfl⟩
  cases numeral with
  | integer negative wellFormed readable =>
      simpa using signedHead negative [] wellFormed
  | decimal negative wellFormed fractional exponential decimal =>
      exact signedHead negative _ wellFormed

/-- Every piece of JSON starts with a mark that is neither blank nor closing. -/
theorem Denotes.head {chars : List CodePoint} {meaning : Meaning} (denotes : Denotes chars meaning) :
    ∃ c others, chars = c :: others ∧ isSpace c = false ∧ c ≠ ']' ∧ c ≠ '\x7d' := by
  induction denotes with
  | nullWord => exact ⟨_, _, rfl, by decide⟩
  | trueWord => exact ⟨_, _, rfl, by decide⟩
  | falseWord => exact ⟨_, _, rfl, by decide⟩
  | number numeral =>
      obtain ⟨c, others, rfl, starts⟩ := numeral.head
      refine ⟨c, others, rfl, ?_, starts.ne (by decide), starts.ne (by decide)⟩
      have noSpace : c ≠ ' ' := starts.ne (by decide)
      have noTab : c ≠ '\t' := starts.ne (by decide)
      have noNewline : c ≠ '\n' := starts.ne (by decide)
      have noReturn : c ≠ '\r' := starts.ne (by decide)
      simp [isSpace, noSpace, noTab, noNewline, noReturn]
  | string reads => exact ⟨_, _, rfl, by decide⟩
  | emptyList isBlank => exact ⟨_, _, rfl, by decide⟩
  | list isBlank denotes _ => exact ⟨_, _, rfl, by decide⟩
  | emptyDict isBlank => exact ⟨_, _, rfl, by decide⟩
  | dict isBlank denotes _ => exact ⟨_, _, rfl, by decide⟩
  | lastItem denotes isBlank inductionHypothesis =>
      obtain ⟨c, others, rfl, solid⟩ := inductionHypothesis
      exact ⟨c, _, rfl, solid⟩
  | item denotes isBlank nextBlank following inductionHypothesis _ =>
      obtain ⟨c, others, rfl, solid⟩ := inductionHypothesis
      exact ⟨c, _, rfl, solid⟩
  | lastEntry reads keyBlank colonBlank denotes isBlank _ => exact ⟨_, _, rfl, by decide⟩
  | entry reads keyBlank colonBlank denotes isBlank nextBlank following _ _ =>
      exact ⟨_, _, rfl, by decide⟩

/-- What the readers make of a piece, in front of any text that cannot belong to it. The fuel that
they need grows with the length of the piece. -/
def Reads (chars : List CodePoint) : Meaning → Prop
  | .value value => ∀ fuel rest, 2 * chars.length ≤ fuel + 1 → Stops rest →
      readValue fuel (chars ++ rest) = .ok (value, rest)
  | .items items => ∀ fuel rest, 2 * chars.length ≤ fuel →
      readItems fuel (chars ++ .char ']' :: rest) = .ok (items, rest)
  | .entries entries => ∀ fuel rest, 2 * chars.length ≤ fuel →
      readEntries fuel (chars ++ .char '\x7d' :: rest) = .ok (entries, rest)

/-- Blanks and marks end a number. -/
theorem stops_mark {blank : List CodePoint} (isBlank : Blank blank) {mark : CodePoint}
    (rest : List CodePoint)
    (ends : mark.isDigit = false ∧ mark ≠ '.' ∧ mark ≠ 'e' ∧ mark ≠ 'E') :
    Stops (blank ++ mark :: rest) := by
  intro c isHead
  cases blank with
  | nil =>
      cases isHead
      exact ends
  | cons c others =>
      cases isHead
      have space := isBlank c (by simp)
      simp only [isSpace, Bool.or_eq_true, beq_iff_eq] at space
      rcases space with ((rfl | rfl) | rfl) | rfl <;> decide

theorem readValue_scalar {c : CodePoint} (noQuote : c ≠ '"') (noList : c ≠ '[') (noDict : c ≠ '\x7b')
    (fuel : Nat) (rest : List CodePoint) :
    readValue (fuel + 1) (c :: rest) = readScalar (c :: rest) := by
  have differs : ∀ {other : CodePoint}, c ≠ other →
      ∀ following, c :: rest = other :: following → False := by
    intro other different following same
    rw [List.cons.injEq] at same
    exact different same.1
  rw [readValue]
  · exact differs noQuote
  · exact differs noList
  · exact differs noDict

/-- A list that is not empty is read through its items. -/
theorem readValue_list {blank inside : List CodePoint} {meaning : Meaning} (isBlank : Blank blank)
    (denotes : Denotes inside meaning) (fuel : Nat) (rest : List CodePoint) :
    readValue (fuel + 1) ('[' :: (blank ++ (inside ++ rest))) =
      (readItems fuel (inside ++ rest)).map fun read => (.list read.1, read.2) := by
  obtain ⟨c, others, rfl, solid, noEnd, _⟩ := denotes.head
  rw [List.cons_append, readValue, skipSpace_mark isBlank solid]
  split
  · rename_i isEnd
    rw [List.cons.injEq] at isEnd
    exact absurd isEnd.1 noEnd
  · rfl

/-- A document that is not empty is read through its entries. -/
theorem readValue_dict {blank inside : List CodePoint} {meaning : Meaning} (isBlank : Blank blank)
    (denotes : Denotes inside meaning) (fuel : Nat) (rest : List CodePoint) :
    readValue (fuel + 1) ('\x7b' :: (blank ++ (inside ++ rest))) =
      (readEntries fuel (inside ++ rest)).map
        fun read => (.dict (Fields.ofList read.1), read.2) := by
  obtain ⟨c, others, rfl, solid, _, noEnd⟩ := denotes.head
  rw [List.cons_append, readValue, skipSpace_mark isBlank solid]
  split
  · rename_i isEnd
    rw [List.cons.injEq] at isEnd
    exact absurd isEnd.1 noEnd
  · rfl

theorem skipSpace_denotes {blank chars : List CodePoint} {meaning : Meaning} (isBlank : Blank blank)
    (denotes : Denotes chars meaning) (rest : List CodePoint) :
    skipSpace (blank ++ (chars ++ rest)) = chars ++ rest := by
  obtain ⟨c, others, rfl, solid, _⟩ := denotes.head
  exact skipSpace_mark isBlank solid (others ++ rest)

/-- Fuel for a piece is enough for one step. -/
theorem fuel_of_cons {c : CodePoint} {others : List CodePoint} {fuel : Nat}
    (enough : 2 * (c :: others).length ≤ fuel + 1) : ∃ less, fuel = less + 1 := by
  rw [List.length_cons] at enough
  exact ⟨fuel - 1, by omega⟩

theorem reads_of_denotes {chars : List CodePoint} {meaning : Meaning} (denotes : Denotes chars meaning) :
    Reads chars meaning := by
  induction denotes with
  | nullWord =>
      intro fuel rest enough _
      obtain ⟨fuel, rfl⟩ := fuel_of_cons enough
      rw [List.cons_append, readValue_scalar (by decide) (by decide) (by decide)]
      rfl
  | trueWord =>
      intro fuel rest enough _
      obtain ⟨fuel, rfl⟩ := fuel_of_cons enough
      rw [List.cons_append, readValue_scalar (by decide) (by decide) (by decide)]
      rfl
  | falseWord =>
      intro fuel rest enough _
      obtain ⟨fuel, rfl⟩ := fuel_of_cons enough
      rw [List.cons_append, readValue_scalar (by decide) (by decide) (by decide)]
      rfl
  | number numeral =>
      intro fuel rest enough stops
      obtain ⟨c, others, rfl, starts⟩ := numeral.head
      obtain ⟨fuel, rfl⟩ := fuel_of_cons enough
      rw [List.cons_append, readValue_scalar (starts.ne (by decide)) (starts.ne (by decide))
        (starts.ne (by decide)), ← List.cons_append, readScalar_numeral numeral stops]
  | string reads =>
      intro fuel rest enough _
      obtain ⟨fuel, rfl⟩ := fuel_of_cons enough
      simp only [List.cons_append, List.append_assoc, List.nil_append, readValue,
        readString_inside reads]
  | emptyList isBlank =>
      intro fuel rest enough _
      obtain ⟨fuel, rfl⟩ := fuel_of_cons enough
      simp only [List.cons_append, List.append_assoc, List.nil_append, readValue]
      rw [skipSpace_mark isBlank (by decide)]
      rfl
  | list isBlank denotes inductionHypothesis =>
      intro fuel rest enough _
      obtain ⟨fuel, rfl⟩ := fuel_of_cons enough
      have reads := inductionHypothesis fuel rest (by simp at enough; omega)
      simp only [List.cons_append, List.append_assoc, List.nil_append]
      rw [readValue_list isBlank denotes, reads]
      rfl
  | emptyDict isBlank =>
      intro fuel rest enough _
      obtain ⟨fuel, rfl⟩ := fuel_of_cons enough
      simp only [List.cons_append, List.append_assoc, List.nil_append, readValue]
      rw [skipSpace_mark isBlank (by decide)]
      rfl
  | dict isBlank denotes inductionHypothesis =>
      intro fuel rest enough _
      obtain ⟨fuel, rfl⟩ := fuel_of_cons enough
      have reads := inductionHypothesis fuel rest (by simp at enough; omega)
      simp only [List.cons_append, List.append_assoc, List.nil_append]
      rw [readValue_dict isBlank denotes, reads]
      rfl
  | @lastItem chars blank item denotes isBlank inductionHypothesis =>
      intro fuel rest enough
      obtain ⟨c, others, rfl, _⟩ := denotes.head
      obtain ⟨fuel, rfl⟩ := fuel_of_cons (Nat.le_succ_of_le enough)
      have reads := inductionHypothesis fuel (blank ++ .char ']' :: rest) (by simp at enough ⊢; omega)
        (stops_mark isBlank rest (by decide))
      rw [List.append_assoc, readItems, reads]
      simp only [skipSpace_mark isBlank (by decide : isSpace ']' = false)]
  | @item chars blank next following item items denotes isBlank nextBlank rests valueHypothesis
      itemsHypothesis =>
      intro fuel rest enough
      obtain ⟨c, others, rfl, _⟩ := denotes.head
      obtain ⟨fuel, rfl⟩ := fuel_of_cons (Nat.le_succ_of_le enough)
      have reads := valueHypothesis fuel
        (blank ++ .char ',' :: (next ++ (following ++ .char ']' :: rest)))
        (by simp at enough ⊢; omega) (stops_mark isBlank _ (by decide))
      have others := itemsHypothesis fuel rest (by simp at enough; omega)
      simp only [List.append_assoc, List.cons_append] at reads ⊢
      rw [readItems, reads]
      simp only [skipSpace_mark isBlank (by decide : isSpace ',' = false),
        skipSpace_denotes nextBlank rests, others]
      rfl
  | @lastEntry key meant afterKey beforeValue chars blank value keyReads keyBlank colonBlank denotes
      isBlank inductionHypothesis =>
      intro fuel rest enough
      obtain ⟨fuel, rfl⟩ := fuel_of_cons (Nat.le_succ_of_le enough)
      have reads := inductionHypothesis fuel (blank ++ .char '\x7d' :: rest) (by simp at enough ⊢; omega)
        (stops_mark isBlank rest (by decide))
      simp only [List.append_assoc, List.cons_append]
      rw [readEntries, readString_inside keyReads]
      simp only [skipSpace_mark keyBlank (by decide : isSpace ':' = false),
        skipSpace_denotes colonBlank denotes, reads,
        skipSpace_mark isBlank (by decide : isSpace '\x7d' = false)]
  | @entry key meant afterKey beforeValue chars blank next following value entries keyReads keyBlank
      colonBlank denotes isBlank nextBlank rests valueHypothesis entriesHypothesis =>
      intro fuel rest enough
      obtain ⟨fuel, rfl⟩ := fuel_of_cons (Nat.le_succ_of_le enough)
      have reads := valueHypothesis fuel
        (blank ++ .char ',' :: (next ++ (following ++ .char '\x7d' :: rest)))
        (by simp at enough ⊢; omega) (stops_mark isBlank _ (by decide))
      have others := entriesHypothesis fuel rest (by simp at enough; omega)
      simp only [List.append_assoc, List.cons_append]
      rw [readEntries, readString_inside keyReads]
      simp only [skipSpace_mark keyBlank (by decide : isSpace ':' = false),
        skipSpace_denotes colonBlank denotes, reads,
        skipSpace_mark isBlank (by decide : isSpace ',' = false),
        skipSpace_denotes nextBlank rests, others]
      rfl

/-- A text that is JSON is read as what it stands for. -/
theorem parse_of_isText {text : Text} {value : Value} (isText : IsText text.points value) :
    parse text = .ok value := by
  obtain ⟨before, inside, after, split, beforeBlank, afterBlank, denotes⟩ := isText
  have starts : skipSpace text.points = inside ++ after := by
    rw [split]
    exact skipSpace_denotes beforeBlank denotes after
  have ends : Stops after := by
    have marked : Stops (after ++ [.char ',']) := stops_mark afterBlank [] (by decide)
    intro c isHead
    cases after with
    | nil => cases isHead
    | cons first others => exact marked c isHead
  have reads := reads_of_denotes denotes (2 * text.points.length + 2) after
    (by rw [split]; simp; omega) ends
  have nothing : skipSpace after = [] := by
    have skipped : skipSpace (after ++ []) = [] := skipSpace_append afterBlank (by simp)
    rwa [List.append_nil] at skipped
  simp only [parse, parseChars, starts, reads, nothing, List.isEmpty_nil, if_true]

end RunnerCloud.Json
