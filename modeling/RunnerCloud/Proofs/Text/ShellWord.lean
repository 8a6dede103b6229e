import RunnerCloud.Text.ShellWord

/-!
Contract: what quoted texts denote to a shell.

Owns:
- `wordValue?_quote`: as a word, a quoted text denotes the text;
- `doubleQuotedValue?_eq_self_iff`: exactly the inert texts denote themselves inside double quotes;
- `doubleQuotedValue?_quote_iff`: a quoted text denotes the text inside double quotes only if it
  needed no quotes;
- `quotationAfter`, which follows quotes alone, and `Spells`, what a piece denotes where it stands.

Does not own: where in a script a text stands.
-/

namespace RunnerCloud.Text.ShellWord

/-! ## Words -/

/-- Single quotes hold their inside as it is. -/
theorem readWord_single {c : CodePoint} (noQuote : c ≠ '\'') (rest : List CodePoint) :
    readWord .single (c :: rest) = (readWord .single rest).map (c :: ·) := by
  rw [readWord, if_neg (by simpa using noQuote)]

theorem readWord_enclosed (chars : List CodePoint) :
    readWord .single (enclosedChars chars ++ [.char '\'']) = some chars := by
  induction chars with
  | nil => rfl
  | cons c rest inductionHypothesis =>
      by_cases quote : c = '\''
      · subst quote
        show (readWord .single (enclosedChars rest ++ [.char '\''])).map (.char '\'' :: ·) = _
        rw [inductionHypothesis, Option.map_some]
      · have written : enclosedChars (c :: rest) = c :: enclosedChars rest := by
          rw [enclosedChars, List.flatMap_cons, if_neg (by simpa using quote)]
          rfl
        rw [written, List.cons_append, readWord_single quote, inductionHypothesis, Option.map_some]

/-- A safe character is none that a shell reacts to. -/
theorem ne_of_isSafe {c other : CodePoint} (safe : isSafe c = true)
    (unsafeOther : isSafe other = false) :
    c ≠ other := by
  rintro rfl
  rw [safe] at unsafeOther
  cases unsafeOther

theorem readWord_safe {c : CodePoint} (safe : isSafe c = true) (rest : List CodePoint) :
    readWord .unquoted (c :: rest) = (readWord .unquoted rest).map (c :: ·) := by
  have noSingle : ¬ (c == '\'') = true := by simpa using ne_of_isSafe safe (by decide)
  have noDouble : ¬ (c == '"') = true := by simpa using ne_of_isSafe safe (by decide)
  rw [readWord, if_neg noSingle, if_neg noDouble, if_pos safe]
  intro _ _ isBackslash
  exact absurd isBackslash (ne_of_isSafe safe (by decide))

theorem readWord_of_safe {chars : List CodePoint} (safe : chars.all isSafe = true) :
    readWord .unquoted chars = some chars := by
  induction chars with
  | nil => rfl
  | cons c rest inductionHypothesis =>
      rw [List.all_cons, Bool.and_eq_true] at safe
      rw [readWord_safe safe.1, inductionHypothesis safe.2, Option.map_some]

/-- As a word, a quoted text denotes the text. -/
theorem wordValue?_quote (text : Text) : wordValue? (quote text).points = some text.points := by
  rw [quote, Text.points_ofPoints]
  generalize text.points = chars
  by_cases empty : chars = []
  · subst empty
    rfl
  have nonempty : ¬ chars.isEmpty = true := by simpa using empty
  rw [quoteChars, if_neg nonempty]
  by_cases safe : chars.all isSafe = true
  · rw [if_pos safe, wordValue?, if_neg nonempty]
    exact readWord_of_safe safe
  · rw [if_neg safe]
    exact readWord_enclosed chars

/-! ## Inside double quotes -/

/-- Texts that are read inside double quotes as they are: they neither close them nor expand, and
every backslash in them stands in front of a character that it leaves alone. -/
def Inert (chars : List CodePoint) : Prop :=
  ∀ (before : List CodePoint) (c : CodePoint) (after : List CodePoint),
    chars = before ++ c :: after →
    c ≠ '"' ∧ c ≠ '$' ∧ c ≠ '\x60' ∧
      (c = '\\' → ∃ next rest, after = next :: rest ∧ next ≠ '\n' ∧ isDoubleQuoteActive next = false)

theorem inert_nil : Inert [] := by
  intro before c after split
  cases before <;> cases split

theorem inert_cons_iff {c : CodePoint} {rest : List CodePoint} (noBackslash : c ≠ '\\') :
    Inert (c :: rest) ↔ isDoubleQuoteActive c = false ∧ Inert rest := by
  constructor
  · intro inert
    obtain ⟨noQuote, noDollar, noBackquote, _⟩ := inert [] c rest rfl
    refine ⟨by simp [isDoubleQuoteActive, noQuote, noDollar, noBackquote, noBackslash], ?_⟩
    intro before d after split
    exact inert (c :: before) d after (by rw [split, List.cons_append])
  · rintro ⟨inactive, inert⟩ before d after split
    cases before with
    | nil =>
        cases split
        simp only [isDoubleQuoteActive, Bool.or_eq_false_iff, beq_eq_false_iff_ne] at inactive
        exact ⟨inactive.1.2, inactive.1.1.1, inactive.1.1.2, fun is => absurd is noBackslash⟩
    | cons first others =>
        rw [List.cons_append, List.cons.injEq] at split
        exact inert others d after split.2

/-- A backslash is inert in front of what it leaves alone. -/
theorem inert_backslash_iff {c : CodePoint} {rest : List CodePoint} :
    Inert (.char '\\' :: c :: rest) ↔ c ≠ '\n' ∧ isDoubleQuoteActive c = false ∧ Inert rest := by
  constructor
  · intro inert
    obtain ⟨_, _, _, escapes⟩ := inert [] '\\' (c :: rest) rfl
    obtain ⟨next, others, same, noBreak, inactive⟩ := escapes rfl
    cases same
    refine ⟨noBreak, inactive, ?_⟩
    intro before d after split
    exact inert (.char '\\' :: c :: before) d after (by rw [split]; rfl)
  · rintro ⟨noBreak, inactive, inert⟩ before d after split
    cases before with
    | nil =>
        cases split
        exact ⟨by decide, by decide, by decide, fun _ => ⟨c, rest, rfl, noBreak, inactive⟩⟩
    | cons first others =>
        rw [List.cons_append, List.cons.injEq] at split
        have noBackslash : c ≠ '\\' := by
          rintro rfl
          cases inactive
        exact (inert_cons_iff noBackslash).2 ⟨inactive, inert⟩ others d after split.2

/-- A lone backslash escapes what follows the text. -/
theorem not_inert_backslash : ¬ Inert [.char '\\'] := by
  intro inert
  obtain ⟨_, _, _, escapes⟩ := inert [] '\\' [] rfl
  obtain ⟨next, others, same, _⟩ := escapes rfl
  cases same

/-- Reading only ever shortens a text. -/
theorem length_doubleQuotedValue? {chars value : List CodePoint}
    (reads : doubleQuotedValue? chars = some value) : value.length ≤ chars.length := by
  induction chars using doubleQuotedValue?.induct generalizing value with
  | case1 =>
      cases reads
      exact Nat.le_refl 0
  | case2 c rest isBreak inductionHypothesis =>
      rw [doubleQuotedValue?, if_pos isBreak] at reads
      have shorter := inductionHypothesis reads
      simp only [List.length_cons]
      omega
  | case3 c rest noBreak active inductionHypothesis =>
      rw [doubleQuotedValue?, if_neg noBreak, if_pos active, Option.map_eq_some_iff] at reads
      obtain ⟨following, reads, rfl⟩ := reads
      have shorter := inductionHypothesis reads
      simp only [List.length_cons]
      omega
  | case4 c rest noBreak inactive inductionHypothesis =>
      rw [doubleQuotedValue?, if_neg noBreak, if_neg inactive, Option.map_eq_some_iff] at reads
      obtain ⟨following, reads, rfl⟩ := reads
      have shorter := inductionHypothesis reads
      simp only [List.length_cons]
      omega
  | case5 c rest noEscape active =>
      rw [doubleQuotedValue?, if_pos active] at reads
      · cases reads
      · exact noEscape
  | case6 c rest noEscape inactive inductionHypothesis =>
      rw [doubleQuotedValue?, if_neg inactive, Option.map_eq_some_iff] at reads
      · obtain ⟨following, reads, rfl⟩ := reads
        have shorter := inductionHypothesis reads
        simp only [List.length_cons]
        omega
      · exact noEscape

/-- Exactly the inert texts denote themselves inside double quotes. -/
theorem doubleQuotedValue?_eq_self_iff (chars : List CodePoint) :
    doubleQuotedValue? chars = some chars ↔ Inert chars := by
  induction chars using doubleQuotedValue?.induct with
  | case1 => exact iff_of_true rfl inert_nil
  | case2 c rest isBreak inductionHypothesis =>
      -- A break that is left out makes the text shorter.
      rw [inert_backslash_iff, doubleQuotedValue?, if_pos isBreak]
      refine iff_of_false (fun reads => ?_) (fun inert => inert.1 (beq_iff_eq.1 isBreak))
      have shorter := length_doubleQuotedValue? reads
      simp only [List.length_cons] at shorter
      omega
  | case3 c rest noBreak active inductionHypothesis =>
      -- So does a backslash that escapes.
      rw [inert_backslash_iff, doubleQuotedValue?, if_neg noBreak, if_pos active]
      refine iff_of_false (fun reads => ?_) (fun inert => ?_)
      · rw [Option.map_eq_some_iff] at reads
        obtain ⟨following, reads, same⟩ := reads
        have shorter := length_doubleQuotedValue? reads
        have lengths := congrArg List.length same
        simp only [List.length_cons] at lengths
        omega
      · rw [inert.2.1] at active
        cases active
  | case4 c rest noBreak inactive inductionHypothesis =>
      rw [inert_backslash_iff, doubleQuotedValue?, if_neg noBreak, if_neg inactive,
        ← inductionHypothesis, Option.map_eq_some_iff]
      simp only [List.cons.injEq, true_and, exists_eq_right]
      exact ⟨fun reads => ⟨by simpa using noBreak, by simpa using inactive, reads⟩,
        fun inert => inert.2.2⟩
  | case5 c rest noEscape active =>
      rw [doubleQuotedValue?, if_pos active]
      · refine iff_of_false (fun reads => by cases reads) (fun inert => ?_)
        by_cases backslash : c = '\\'
        · subst backslash
          cases rest with
          | nil => exact not_inert_backslash inert
          | cons next others => exact noEscape next others rfl rfl
        · rw [((inert_cons_iff backslash).1 inert).1] at active
          cases active
      · exact noEscape
  | case6 c rest noEscape inactive inductionHypothesis =>
      have noBackslash : c ≠ '\\' := by
        rintro rfl
        exact inactive rfl
      rw [inert_cons_iff noBackslash, doubleQuotedValue?, if_neg inactive, ← inductionHypothesis,
        Option.map_eq_some_iff]
      · simp only [List.cons.injEq, true_and, exists_eq_right]
        exact ⟨fun reads => ⟨by simpa using inactive, reads⟩, fun inert => inert.2⟩
      · exact noEscape

/-! ## Quoted texts inside double quotes -/

theorem doubleQuotedValue?_inactive {c : CodePoint} (inactive : isDoubleQuoteActive c = false)
    (rest : List CodePoint) :
    doubleQuotedValue? (c :: rest) = (doubleQuotedValue? rest).map (c :: ·) := by
  rw [doubleQuotedValue?, if_neg (by simp [inactive])]
  rintro _ _ rfl
  cases inactive

theorem inert_of_safe {chars : List CodePoint} (safe : chars.all isSafe = true) : Inert chars := by
  induction chars with
  | nil => exact inert_nil
  | cons c rest inductionHypothesis =>
      rw [List.all_cons, Bool.and_eq_true] at safe
      have noDollar : c ≠ '$' := ne_of_isSafe safe.1 (by decide)
      have noBackquote : c ≠ '\x60' := ne_of_isSafe safe.1 (by decide)
      have noQuote : c ≠ '"' := ne_of_isSafe safe.1 (by decide)
      have noBackslash : c ≠ '\\' := ne_of_isSafe safe.1 (by decide)
      have inactive : isDoubleQuoteActive c = false := by
        simp [isDoubleQuoteActive, noDollar, noBackquote, noQuote, noBackslash]
      exact (inert_cons_iff noBackslash).2 ⟨inactive, inductionHypothesis safe.2⟩

/-- The single quotes around a text are characters like others inside double quotes, and a single
quote in the text brings a double quote that closes them. -/
theorem doubleQuotedValue?_enclosed (chars : List CodePoint) :
    doubleQuotedValue? (.char '\'' :: enclosedChars chars ++ [.char '\'']) ≠ some chars := by
  intro reads
  rw [List.cons_append, doubleQuotedValue?_inactive (by decide), Option.map_eq_some_iff] at reads
  obtain ⟨following, reads, rfl⟩ := reads
  have closes :
      doubleQuotedValue? (enclosedChars (.char '\'' :: following) ++ [.char '\'']) = none := rfl
  rw [closes] at reads
  cases reads

/-- Inside double quotes a quoted text denotes the text only if it needed no quotes. -/
theorem doubleQuotedValue?_quote_iff {text : Text} (nonempty : text ≠ "") :
    doubleQuotedValue? (quote text).points = some text.points ↔ text.points.all isSafe = true := by
  have someChars : ¬ text.points.isEmpty = true := by
    simpa using nonempty
  rw [quote, Text.points_ofPoints, quoteChars, if_neg someChars]
  by_cases safe : text.points.all isSafe = true
  · rw [if_pos safe]
    exact iff_of_true ((doubleQuotedValue?_eq_self_iff _).2 (inert_of_safe safe)) safe
  · rw [if_neg safe]
    exact iff_of_false (doubleQuotedValue?_enclosed _) safe

/-! ## The quotation behind a piece -/

/-- Where a reader stands behind a piece of script that it reads from `state`, whatever expands. -/
def quotationAfter : Quotation → List CodePoint → Quotation
  | state, [] => state
  | .single, c :: rest =>
    if c == '\'' then quotationAfter .unquoted rest else quotationAfter .single rest
  | .double, .char '\\' :: _ :: rest => quotationAfter .double rest
  | .double, c :: rest =>
    if c == '"' then quotationAfter .unquoted rest else quotationAfter .double rest
  | .unquoted, .char '\\' :: _ :: rest => quotationAfter .unquoted rest
  | .unquoted, c :: rest =>
    if c == '\'' then quotationAfter .single rest
    else if c == '"' then quotationAfter .double rest
    else quotationAfter .unquoted rest

theorem quotationAfter_of_readWord {state : Quotation} {chars value : List CodePoint}
    (reads : readWord state chars = some value) : quotationAfter state chars = .unquoted := by
  fun_induction readWord state chars generalizing value with
  | case1 => rfl
  | case2 => cases reads
  | case3 => cases reads
  | case10 => cases reads
  | case17 => cases reads
  | _ => grind [quotationAfter, Option.map_eq_some_iff]

theorem quotationAfter_of_doubleQuotedValue? {chars value : List CodePoint}
    (reads : doubleQuotedValue? chars = some value) : quotationAfter .double chars = .double := by
  fun_induction doubleQuotedValue? chars generalizing value with
  | case1 => rfl
  | case5 => cases reads
  | _ => grind [quotationAfter, isDoubleQuoteActive, Option.map_eq_some_iff]

/-- Read from `state`, `piece` denotes `text`, expands nothing and leads back to `state`. -/
def Spells (state : Quotation) (piece text : Text) : Prop :=
  quotationAfter state piece.points = state ∧
    match state with
    | .unquoted => wordValue? piece.points = some text.points
    | .double => doubleQuotedValue? piece.points = some text.points
    | .single => piece = text

theorem spells_unquoted_iff {piece text : Text} :
    Spells .unquoted piece text ↔ wordValue? piece.points = some text.points := by
  refine ⟨And.right, fun reads => ⟨?_, reads⟩⟩
  rw [wordValue?] at reads
  split at reads
  · cases reads
  · exact quotationAfter_of_readWord reads

theorem spells_double_iff {piece text : Text} :
    Spells .double piece text ↔ doubleQuotedValue? piece.points = some text.points :=
  ⟨And.right, fun reads => ⟨quotationAfter_of_doubleQuotedValue? reads, reads⟩⟩

end RunnerCloud.Text.ShellWord
