import RunnerCloud.Json.Printer
import RunnerCloud.Proofs.Json.Reading
import RunnerCloud.Proofs.Text.Joining

/-!
Contract: what is written as JSON is JSON, and is read as what was written, up to halves of surrogate
pairs that come to stand side by side.

Owns:
- `Value.isTextual`, values of texts, truth values and nulls in lists and documents, and
  `Value.joined`, what such a value is read as: the escapes of a high half and a low one behind it are
  those of one character;
- `Value.isPlain`, the textual values without halves, which are read as they were;
- `Written` and `inside_points`, for the escapes of every code point;
- `isText_indented` and `parse_indented`, for values on indented lines.

Does not own: numbers and moments.
-/

namespace RunnerCloud

/-! ## Documents -/

namespace Fields

/-- A new key is set at the end. -/
theorem insert_of_new {fields : Fields} {key : Text} (new : key ∉ fields.map Prod.fst)
    (value : Value) : fields.insert key value = fields ++ [(key, value)] := by
  induction fields with
  | nil => rfl
  | cons entry rest inductionHypothesis =>
      obtain ⟨other, held⟩ := entry
      simp only [List.map_cons, List.mem_cons, not_or] at new
      have differs : ¬ (other == key) = true := by simpa using Ne.symm new.1
      rw [insert, if_neg differs, inductionHypothesis new.2, List.cons_append]

/-- Entries with different keys are kept as they are. -/
theorem ofList_of_nodup {entries : List (Text × Value)} (distinct : (entries.map Prod.fst).Nodup) :
    ofList entries = entries := by
  have builds : ∀ (rest : List (Text × Value)) (fields : Fields),
      ((fields ++ rest).map Prod.fst).Nodup →
      rest.foldl (fun fields entry => fields.insert entry.1 entry.2) fields = fields ++ rest := by
    intro rest
    induction rest with
    | nil => simp
    | cons entry rest inductionHypothesis =>
        intro fields distinct
        have new : entry.1 ∉ fields.map Prod.fst := by
          intro known
          rw [List.map_append, List.map_cons] at distinct
          exact (List.nodup_append.1 distinct).2.2 _ known _ (by simp) rfl
        rw [List.foldl_cons, insert_of_new new, inductionHypothesis _ (by simpa using distinct)]
        simp
  exact builds entries [] distinct

end Fields

/-! ## Textual values -/

mutual

/-- Texts, truth values and nulls, in lists and documents. -/
def Value.isTextual : Value → Bool
  | .null => true
  | .bool _ => true
  | .text _ => true
  | .list items => textualItems items
  | .dict entries => textualEntries entries
  | .int _ => false
  | .float _ => false
  | .moment _ => false

def Value.textualItems : List Value → Bool
  | [] => true
  | item :: rest => item.isTextual && textualItems rest

def Value.textualEntries : List (Text × Value) → Bool
  | [] => true
  | (_, value) :: rest => value.isTextual && textualEntries rest

end

@[simp] theorem Value.textualItems_eq_all (items : List Value) :
    textualItems items = items.all isTextual := by
  induction items with
  | nil => rfl
  | cons item rest inductionHypothesis => rw [textualItems, inductionHypothesis, List.all_cons]

mutual

/-- The value with all its texts joined. Of two keys that come out the same the later value counts. -/
def Value.joined : Value → Value
  | .text written => .text written.joined
  | .list items => .list (joinedItems items)
  | .dict entries => .dict (Fields.ofList (joinedEntries entries))
  | .null => .null
  | .bool value => .bool value
  | .int value => .int value
  | .float value => .float value
  | .moment written => .moment written

def Value.joinedItems : List Value → List Value
  | [] => []
  | item :: rest => item.joined :: joinedItems rest

def Value.joinedEntries : List (Text × Value) → List (Text × Value)
  | [] => []
  | (key, value) :: rest => (key.joined, value.joined) :: joinedEntries rest

end

@[simp] theorem Value.joinedItems_eq_map (items : List Value) :
    joinedItems items = items.map joined := by
  induction items with
  | nil => rfl
  | cons item rest inductionHypothesis => rw [joinedItems, inductionHypothesis, List.map_cons]

@[simp] theorem Value.joinedEntries_eq_map (entries : List (Text × Value)) :
    joinedEntries entries = entries.map fun entry => (entry.1.joined, entry.2.joined) := by
  induction entries with
  | nil => rfl
  | cons entry rest inductionHypothesis => rw [joinedEntries, inductionHypothesis, List.map_cons]

mutual

/-- Texts without halves of pairs, truth values and nulls, in lists and in documents without a key
twice. -/
def Value.isPlain : Value → Bool
  | .null => true
  | .bool _ => true
  | .text written => written.isPlain
  | .list items => plainItems items
  | .dict entries => plainEntries entries && decide (entries.map Prod.fst).Nodup
  | .int _ => false
  | .float _ => false
  | .moment _ => false

def Value.plainItems : List Value → Bool
  | [] => true
  | item :: rest => item.isPlain && plainItems rest

def Value.plainEntries : List (Text × Value) → Bool
  | [] => true
  | (key, value) :: rest => key.isPlain && value.isPlain && plainEntries rest

end

@[simp] theorem Value.plainItems_eq_all (items : List Value) :
    plainItems items = items.all isPlain := by
  induction items with
  | nil => rfl
  | cons item rest inductionHypothesis => rw [plainItems, inductionHypothesis, List.all_cons]

mutual

/-- Plain values are textual, and joined as they are. -/
theorem Value.textual_of_isPlain : (value : Value) → value.isPlain = true →
    value.isTextual = true ∧ value.joined = value
  | .null, _ => ⟨rfl, rfl⟩
  | .bool _, _ => ⟨rfl, rfl⟩
  | .text _, whole => ⟨rfl, congrArg Value.text (Text.joined_of_isPlain whole)⟩
  | .list items, whole => by
      obtain ⟨textual, kept⟩ := textualItems_of_plainItems items whole
      exact ⟨textual, congrArg Value.list kept⟩
  | .dict entries, whole => by
      rw [isPlain, Bool.and_eq_true, decide_eq_true_eq] at whole
      obtain ⟨textual, kept⟩ := textualEntries_of_plainEntries entries whole.1
      refine ⟨textual, ?_⟩
      rw [joined, kept, Fields.ofList_of_nodup whole.2]

theorem Value.textualItems_of_plainItems : (items : List Value) → plainItems items = true →
    textualItems items = true ∧ joinedItems items = items
  | [], _ => ⟨rfl, rfl⟩
  | item :: rest, whole => by
      rw [plainItems, Bool.and_eq_true] at whole
      obtain ⟨textual, kept⟩ := textual_of_isPlain item whole.1
      obtain ⟨others, keptOthers⟩ := textualItems_of_plainItems rest whole.2
      rw [textualItems, joinedItems, textual, others, kept, keptOthers]
      exact ⟨rfl, rfl⟩

theorem Value.textualEntries_of_plainEntries : (entries : List (Text × Value)) →
    plainEntries entries = true → textualEntries entries = true ∧ joinedEntries entries = entries
  | [], _ => ⟨rfl, rfl⟩
  | (key, value) :: rest, whole => by
      rw [plainEntries, Bool.and_eq_true, Bool.and_eq_true] at whole
      obtain ⟨textual, kept⟩ := textual_of_isPlain value whole.1.2
      obtain ⟨others, keptOthers⟩ := textualEntries_of_plainEntries rest whole.2
      rw [textualEntries, joinedEntries, textual, others, kept, keptOthers,
        Text.joined_of_isPlain whole.1.1]
      exact ⟨rfl, rfl⟩

end

/-- Of a document with different keys, none of which has a half of a pair, the keys are kept. -/
theorem Value.joined_dict {entries : Fields} (whole : entries.areWhole = true)
    (distinct : (entries.map Prod.fst).Nodup) :
    (Value.dict entries).joined = .dict (entries.map fun entry => (entry.1, entry.2.joined)) := by
  have kept : (entries.map fun entry => (entry.1.joined, entry.2.joined)) =
      entries.map fun entry => (entry.1, entry.2.joined) := by
    refine List.map_congr_left fun entry member => ?_
    rw [Text.joined_of_isPlain (List.all_eq_true.1 whole entry member)]
  rw [joined, joinedEntries_eq_map, kept, Fields.ofList_of_nodup]
  rwa [List.map_map]

theorem Fields.get?_map_joined (entries : Fields) (key : Text) :
    Fields.get? (entries.map fun entry => (entry.1, entry.2.joined)) key =
      (entries.get? key).map Value.joined := by
  unfold get?
  induction entries with
  | nil => rfl
  | cons entry rest inductionHypothesis =>
      rw [List.map_cons, List.lookup_cons, List.lookup_cons, inductionHypothesis]
      cases key == entry.1 <;> rfl

namespace Json

/-! ## Characters -/

theorem hexDigit?_digitChar {digit : Nat} (small : digit < 16) :
    hexDigit? digit.digitChar = some digit := by
  have checked : ∀ digit : Fin 16, hexDigit? digit.val.digitChar = some digit.val := by decide
  exact checked ⟨digit, small⟩

/-- The four digits of a unit name it. -/
theorem unit?_digits {unit : Nat} (small : unit < 0x10000) :
    unit? (unit / 4096 % 16).digitChar (unit / 256 % 16).digitChar (unit / 16 % 16).digitChar
      (unit % 16).digitChar = some unit := by
  have sum : ((unit / 4096 % 16 * 16 + unit / 256 % 16) * 16 + unit / 16 % 16) * 16 + unit % 16 =
      unit := by omega
  simp only [unit?, hexDigit?_digitChar (Nat.mod_lt _ (by decide : 0 < 16)), Option.bind_eq_bind,
    Option.bind_some, sum]

/-- No character is half of a pair. -/
theorem ofUnit?_toNat (c : Char) : Surrogate.ofUnit? c.toNat = none :=
  Option.eq_none_iff_forall_ne_some.2 fun half is =>
    CodePoint.toNat_char_ne c half (Surrogate.ofUnit?_eq_some_iff.1 is)

theorem code_lt (half : Surrogate) : half.code < 0x10000 := by
  have small : half.val < 2048 := half.isLt
  unfold Surrogate.code
  omega

/-- How a character is written: as a short escape, as it is, or as one or two UTF-16 units. -/
inductive Written (c : Char) : List Char → Prop
  | short {letter : Char} (known : shortEscape? letter = some c) : Written c ['\\', letter]
  | plain (printable : 0x20 ≤ c.toNat ∧ c.toNat ≤ 0x7E) (noQuote : c ≠ '"')
      (noBackslash : c ≠ '\\') : Written c [c]
  | unit (basic : c.toNat < 0x10000) : Written c (unitEscape c.toNat)
  | pair (high low : Surrogate) (isHigh : high.isHigh = true) (isLow : low.isHigh = false)
      (joins : high.pair low = c) : Written c (unitEscape high.code ++ unitEscape low.code)

/-- A character outside the basic plane is the pair of its halves. -/
theorem written_halves {c : Char} (outside : 0x10000 ≤ c.toNat) :
    Written c (unitEscape (0xD800 + (c.toNat - 0x10000) / 0x400) ++
      unitEscape (0xDC00 + (c.toNat - 0x10000) % 0x400)) := by
  have valid : c.toNat < 0xD800 ∨ 0xDFFF < c.toNat ∧ c.toNat < 0x110000 := c.valid
  let high : Surrogate := ⟨(c.toNat - 0x10000) / 0x400, by omega⟩
  let low : Surrogate := ⟨0x400 + (c.toNat - 0x10000) % 0x400, by omega⟩
  have isHigh : high.isHigh = true := by
    simp only [Surrogate.isHigh, high, decide_eq_true_eq]
    omega
  have isLow : low.isHigh = false := by
    simp only [Surrogate.isHigh, low, decide_eq_false_iff_not]
    omega
  have joins : high.pair low = c := by
    have sum : 0x10000 + (c.toNat - 0x10000) / 0x400 * 0x400 +
        (0x400 + (c.toNat - 0x10000) % 0x400 - 0x400) = c.toNat := by omega
    simp only [Surrogate.pair, high, low]
    rw [sum, Char.ofNat_toNat]
  have lowCode : 0xDC00 + (c.toNat - 0x10000) % 0x400 = low.code := by
    simp only [Surrogate.code, low]
    omega
  rw [lowCode]
  exact .pair high low isHigh isLow joins

theorem written_stringChar (c : Char) : Written c (stringChar c) := by
  have isChar : ∀ {code : Nat}, c.toNat = code → c = Char.ofNat code := by
    rintro code rfl
    exact (Char.ofNat_toNat c).symm
  simp only [stringChar, beq_iff_eq, Bool.and_eq_true, decide_eq_true_eq]
  by_cases quote : c = '"'
  · subst quote
    exact .short rfl
  by_cases backslash : c = '\\'
  · subst backslash
    exact .short rfl
  by_cases newline : c = '\n'
  · subst newline
    exact .short rfl
  by_cases carriageReturn : c = '\r'
  · subst carriageReturn
    exact .short rfl
  by_cases tab : c = '\t'
  · subst tab
    exact .short rfl
  rw [if_neg quote, if_neg backslash, if_neg newline, if_neg carriageReturn, if_neg tab]
  by_cases backspace : c.toNat = 8
  · rw [if_pos backspace, isChar backspace]
    exact .short rfl
  by_cases formFeed : c.toNat = 12
  · rw [if_neg backspace, if_pos formFeed, isChar formFeed]
    exact .short rfl
  rw [if_neg backspace, if_neg formFeed]
  by_cases printable : 0x20 ≤ c.toNat ∧ c.toNat ≤ 0x7E
  · rw [if_pos printable]
    exact .plain printable quote backslash
  by_cases basic : c.toNat < 0x10000
  · rw [if_neg printable, if_pos basic]
    exact .unit basic
  · rw [if_neg printable, if_neg basic]
    exact written_halves (Nat.le_of_not_lt basic)

/-! ## Strings -/

/-- The escape of a unit in front of anything. -/
theorem map_unitEscape (unit : Nat) (rest : List CodePoint) :
    (unitEscape unit).map .char ++ rest =
      .char '\\' :: .char 'u' :: .char (unit / 4096 % 16).digitChar ::
        .char (unit / 256 % 16).digitChar :: .char (unit / 16 % 16).digitChar ::
        .char (unit % 16).digitChar :: rest := rfl

theorem low_of_escapesLow {unit : Nat} (small : unit < 0x10000) {rest : List CodePoint}
    (escapes : EscapesLow ((unitEscape unit).map .char ++ rest)) :
    ∃ low : Surrogate, unit = low.code ∧ low.isHigh = false := by
  rw [map_unitEscape] at escapes
  cases escapes with
  | @intro _ _ _ _ low _ digits isLow =>
      rw [unit?_digits small] at digits
      exact ⟨low, Option.some.inj digits, isLow⟩

/-- No character is written so that it could be taken for the second half of a pair. -/
theorem not_escapesLow_stringChar (c : Char) (rest : List CodePoint) :
    ¬ EscapesLow ((stringChar c).map .char ++ rest) := by
  intro escapes
  generalize stringChar c = chars, written_stringChar c = written at escapes
  cases written with
  | short known =>
      obtain ⟨_, split⟩ := escapes.starts
      rw [CodePoint.char.inj (List.cons.inj (List.cons.inj split).2).1] at known
      cases known
  | plain printable noQuote noBackslash =>
      obtain ⟨_, split⟩ := escapes.starts
      exact noBackslash (CodePoint.char.inj (List.cons.inj split).1)
  | unit basic =>
      obtain ⟨low, same, _⟩ := low_of_escapesLow basic escapes
      exact CodePoint.toNat_char_ne c low same
  | pair high low isHigh isLow joins =>
      rw [List.map_append, List.append_assoc] at escapes
      obtain ⟨other, same, notHigh⟩ := low_of_escapesLow (code_lt high) escapes
      have halves : high = other := Fin.ext (Nat.add_left_cancel same)
      rw [halves, notHigh] at isHigh
      cases isHigh

/-- Every character is written as a piece of a string that stands for it. -/
theorem inside_stringChar (c : Char) {rest meant : List CodePoint} (following : Inside rest meant) :
    Inside ((stringChar c).map .char ++ rest) (.char c :: meant) := by
  generalize stringChar c = chars, written_stringChar c = written
  cases written with
  | short known => exact .short known following
  | plain printable noQuote noBackslash =>
      exact .plain printable.1 (by simpa using noQuote) (by simpa using noBackslash) following
  | unit basic =>
      have escape := Inside.unit (unit?_digits basic) (ofUnit?_toNat c) following
      rwa [Char.ofNat_toNat] at escape
  | pair high low isHigh isLow joins =>
      have escape := Inside.pair (unit?_digits (code_lt high)) isHigh (unit?_digits (code_lt low))
        isLow following
      rwa [joins] at escape

/-- A half that no low one follows is written as a piece that stands for it. -/
theorem inside_half {half : Surrogate} {rest meant : List CodePoint}
    (alone : half.isHigh = true → ¬ EscapesLow rest) (following : Inside rest meant) :
    Inside ((pointChars (.half half)).map .char ++ rest) (.half half :: meant) :=
  .half (unit?_digits (code_lt half)) alone following

theorem inside_points (points : List CodePoint) :
    Inside ((points.flatMap pointChars).map .char) (CodePoint.joined points) := by
  induction points using CodePoint.joined.induct with
  | case1 high low rest pairs inductionHypothesis =>
      rw [CodePoint.joined, if_pos pairs]
      rw [Bool.and_eq_true, Bool.not_eq_true'] at pairs
      exact .pair (unit?_digits (code_lt high)) pairs.1 (unit?_digits (code_lt low)) pairs.2
        inductionHypothesis
  | case2 high low rest apart inductionHypothesis =>
      rw [CodePoint.joined, if_neg apart, List.flatMap_cons, List.map_append]
      refine inside_half (fun isHigh escapes => apart ?_) inductionHypothesis
      rw [List.flatMap_cons, List.map_append] at escapes
      obtain ⟨other, same, notHigh⟩ := low_of_escapesLow (code_lt low) escapes
      have halves : low = other := Fin.ext (Nat.add_left_cancel same)
      simp [isHigh, halves, notHigh]
  | case3 point rest single inductionHypothesis =>
      rw [CodePoint.joined]
      · rw [List.flatMap_cons, List.map_append]
        cases point with
        | char c => exact inside_stringChar c inductionHypothesis
        | half high =>
            refine inside_half (fun _ escapes => ?_) inductionHypothesis
            cases rest with
            | nil => cases escapes
            | cons next others =>
                cases next with
                | char c =>
                    rw [List.flatMap_cons, List.map_append] at escapes
                    exact not_escapesLow_stringChar c _ escapes
                | half low => exact single high low others rfl rfl
      · exact single
  | case4 => exact .nil

theorem denotes_stringChars (text : Text) :
    Denotes ((stringChars text).map .char) (.value (.text text.joined)) := by
  have written := Denotes.string (inside_points text.points)
  simpa [stringChars, Text.joined] using written

/-! ## Indented lines -/

theorem blank_nil : Blank [] := by
  simp [Blank]

theorem blank_space : Blank [.char ' '] := by
  simp [Blank, isSpace]

theorem blank_lineBreak (level : Nat) : Blank ((lineBreak level).map .char) := by
  intro c member
  simp only [lineBreak, List.map_cons, List.map_replicate, List.mem_cons,
    List.mem_replicate] at member
  rcases member with rfl | ⟨_, rfl⟩ <;> rfl

mutual

theorem denotes_indentedChars (level : Nat) : (value : Value) → value.isTextual = true →
    Denotes ((indentedChars level value).map .char) (.value value.joined)
  | .null, _ => .nullWord
  | .bool true, _ => .trueWord
  | .bool false, _ => .falseWord
  | .text written, _ => denotes_stringChars written
  | .list [], _ => .emptyList blank_nil
  | .list (item :: items), textual => by
      obtain ⟨inside, split, denotes⟩ :=
        denotes_indentedItems (level + 1) (item :: items) (List.cons_ne_nil item items) textual
          (blank_lineBreak level)
      have written := Denotes.list (blank_lineBreak (level + 1)) denotes
      rw [← List.append_assoc, ← split] at written
      simpa [indentedChars, Value.joined] using written
  | .dict [], _ => .emptyDict blank_nil
  | .dict (entry :: entries), textual => by
      obtain ⟨inside, split, denotes⟩ :=
        denotes_indentedEntries (level + 1) (entry :: entries) (List.cons_ne_nil entry entries)
          textual (blank_lineBreak level)
      have written := Denotes.dict (blank_lineBreak (level + 1)) denotes
      rw [← List.append_assoc, ← split] at written
      simpa [indentedChars, Value.joined] using written

/-- Items stand for themselves behind a line break and in front of blanks. -/
theorem denotes_indentedItems (level : Nat) : (items : List Value) → items ≠ [] →
    Value.textualItems items = true → ∀ {after : List CodePoint}, Blank after →
    ∃ inside, (indentedItems level items).map .char ++ after =
        (lineBreak level).map .char ++ inside ∧
      Denotes inside (.items (Value.joinedItems items))
  | [], nonempty, _, _, _ => absurd rfl nonempty
  | [item], _, textual, after, isBlank => by
      rw [Value.textualItems, Bool.and_eq_true] at textual
      have denotes := denotes_indentedChars level item textual.1
      exact ⟨_, by rw [indentedItems, List.map_append, List.append_assoc], .lastItem denotes isBlank⟩
  | item :: next :: rest, _, textual, after, isBlank => by
      rw [Value.textualItems, Bool.and_eq_true] at textual
      have denotes := denotes_indentedChars level item textual.1
      obtain ⟨inside, split, following⟩ :=
        denotes_indentedItems level (next :: rest) (List.cons_ne_nil next rest) textual.2 isBlank
      refine ⟨_, ?_, .item denotes blank_nil (blank_lineBreak level) following⟩
      rw [indentedItems]
      · simp only [List.map_append, List.map_cons, List.append_assoc, List.cons_append, split,
          List.nil_append]
      · exact List.cons_ne_nil next rest

theorem denotes_indentedEntries (level : Nat) : (entries : List (Text × Value)) →
    entries ≠ [] → Value.textualEntries entries = true → ∀ {after : List CodePoint}, Blank after →
    ∃ inside, (indentedEntries level entries).map .char ++ after =
        (lineBreak level).map .char ++ inside ∧
      Denotes inside (.entries (Value.joinedEntries entries))
  | [], nonempty, _, _, _ => absurd rfl nonempty
  | [(key, value)], _, textual, after, isBlank => by
      rw [Value.textualEntries, Bool.and_eq_true] at textual
      have denotes := denotes_indentedChars level value textual.1
      refine ⟨_, ?_, .lastEntry (inside_points key.points) blank_nil blank_space denotes isBlank⟩
      simp [indentedEntries, stringChars]
  | (key, value) :: next :: rest, _, textual, after, isBlank => by
      rw [Value.textualEntries, Bool.and_eq_true] at textual
      have denotes := denotes_indentedChars level value textual.1
      obtain ⟨inside, split, following⟩ :=
        denotes_indentedEntries level (next :: rest) (List.cons_ne_nil next rest) textual.2 isBlank
      refine ⟨_, ?_, .entry (inside_points key.points) blank_nil blank_space denotes blank_nil
        (blank_lineBreak level) following⟩
      rw [← split]
      simp [indentedEntries, stringChars]

end

variable {value : Value}

theorem isText_indented (textual : value.isTextual = true) :
    IsText (Text.points (indented value)) value.joined := by
  refine ⟨[], (indentedChars 0 value).map .char, [], ?_, blank_nil, blank_nil,
    denotes_indentedChars 0 value textual⟩
  simp [indented]

/-- What is written on indented lines is read back, up to halves that come to stand side by side. -/
theorem parse_indented (textual : value.isTextual = true) :
    parse (indented value) = .ok value.joined :=
  parse_of_isText (isText_indented textual)

/-- A plain value is read back as it was. -/
theorem parse_indented_of_isPlain (whole : value.isPlain = true) :
    parse (indented value) = .ok value := by
  obtain ⟨textual, kept⟩ := value.textual_of_isPlain whole
  rw [parse_indented textual, kept]

end Json

end RunnerCloud
