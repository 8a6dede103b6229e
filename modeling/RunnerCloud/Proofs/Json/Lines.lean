import RunnerCloud.Proofs.Json.Writing

/-!
Contract: what is written as JSON on one line is one line of JSON.

Owns:
- `Printable`, the characters of ASCII from the blank to the tilde, of which a line consists;
- `isText_compact` and `parse_compact`: it is JSON, and is read as what was written, up to halves of
  surrogate pairs that come to stand side by side;
- `eq_of_isText_compact`: it stands for nothing else.

Does not own: numbers and moments.
-/

namespace RunnerCloud.Json

/-! ## Printable characters -/

/-- Only characters that ASCII prints: no control, no line break, and nothing outside of ASCII. -/
def Printable (chars : List Char) : Prop :=
  ∀ c ∈ chars, 0x20 ≤ c.toNat ∧ c.toNat ≤ 0x7E

namespace Printable

@[simp] theorem nil : Printable [] := by
  simp [Printable]

@[simp] theorem cons_iff {c : Char} {rest : List Char} :
    Printable (c :: rest) ↔ (0x20 ≤ c.toNat ∧ c.toNat ≤ 0x7E) ∧ Printable rest := by
  simp [Printable]

@[simp] theorem append_iff {earlier later : List Char} :
    Printable (earlier ++ later) ↔ Printable earlier ∧ Printable later :=
  List.forall_mem_append

theorem digitChar (number : Nat) :
    0x20 ≤ (number % 16).digitChar.toNat ∧ (number % 16).digitChar.toNat ≤ 0x7E := by
  have checked : ∀ digit : Fin 16,
      0x20 ≤ digit.val.digitChar.toNat ∧ digit.val.digitChar.toNat ≤ 0x7E := by decide
  exact checked ⟨number % 16, Nat.mod_lt _ (by decide)⟩

theorem unitEscape (unit : Nat) : Printable (Json.unitEscape unit) := by
  simp [Json.unitEscape, digitChar]

/-- Every character is written in printable ones. -/
theorem stringChar (c : Char) : Printable (Json.stringChar c) := by
  unfold Json.stringChar
  repeat' split
  any_goals simp [unitEscape]
  -- What is no escape is left: a character that stands for itself.
  rename_i within
  simpa using within

theorem pointChars (point : CodePoint) : Printable (Json.pointChars point) := by
  cases point with
  | char c => exact stringChar c
  | half surrogate => exact unitEscape surrogate.code

theorem stringChars (text : Text) : Printable (Json.stringChars text) := by
  have inside : Printable (text.points.flatMap Json.pointChars) := by
    intro c member
    obtain ⟨point, -, among⟩ := List.mem_flatMap.1 member
    exact pointChars point c among
  simp [Json.stringChars, inside]

mutual

theorem compactChars : (value : Value) → value.isTextual = true → Printable (Json.compactChars value)
  | .null, _ => by simp [Json.compactChars, scalarChars]
  | .bool true, _ => by simp [Json.compactChars, scalarChars]
  | .bool false, _ => by simp [Json.compactChars, scalarChars]
  | .text written, _ => stringChars written
  | .list items, textual => by
      simp [Json.compactChars, compactItems items textual]
  | .dict entries, textual => by
      simp [Json.compactChars, compactEntries entries textual]

theorem compactItems : (items : List Value) → Value.textualItems items = true →
    Printable (Json.compactItems items)
  | [], _ => nil
  | [item], textual => by
      rw [Value.textualItems, Bool.and_eq_true] at textual
      exact compactChars item textual.1
  | item :: next :: rest, textual => by
      rw [Value.textualItems, Bool.and_eq_true] at textual
      have following := compactItems (next :: rest) textual.2
      simp [Json.compactItems, compactChars item textual.1, following]

theorem compactEntries : (entries : List (Text × Value)) → Value.textualEntries entries = true →
    Printable (Json.compactEntries entries)
  | [], _ => nil
  | [(key, value)], textual => by
      rw [Value.textualEntries, Bool.and_eq_true] at textual
      simp [Json.compactEntries, stringChars, compactChars value textual.1]
  | (key, value) :: next :: rest, textual => by
      rw [Value.textualEntries, Bool.and_eq_true] at textual
      have following := compactEntries (next :: rest) textual.2
      simp [Json.compactEntries, stringChars, compactChars value textual.1, following]

end

end Printable

/-! ## One line is read back -/

mutual

theorem denotes_compactChars : (value : Value) → value.isTextual = true →
    Denotes ((compactChars value).map .char) (.value value.joined)
  | .null, _ => .nullWord
  | .bool true, _ => .trueWord
  | .bool false, _ => .falseWord
  | .text written, _ => denotes_stringChars written
  | .list [], _ => .emptyList blank_nil
  | .list (item :: items), textual => by
      have written := Denotes.list blank_nil
        (denotes_compactItems (item :: items) (List.cons_ne_nil item items) textual)
      simpa [compactChars, Value.joined] using written
  | .dict [], _ => .emptyDict blank_nil
  | .dict (entry :: entries), textual => by
      have written := Denotes.dict blank_nil
        (denotes_compactEntries (entry :: entries) (List.cons_ne_nil entry entries) textual)
      simpa [compactChars, Value.joined] using written

theorem denotes_compactItems : (items : List Value) → items ≠ [] →
    Value.textualItems items = true →
    Denotes ((compactItems items).map .char) (.items (Value.joinedItems items))
  | [], nonempty, _ => absurd rfl nonempty
  | [item], _, textual => by
      rw [Value.textualItems, Bool.and_eq_true] at textual
      have written := Denotes.lastItem (denotes_compactChars item textual.1) blank_nil
      rwa [List.append_nil] at written
  | item :: next :: rest, _, textual => by
      rw [Value.textualItems, Bool.and_eq_true] at textual
      have following :=
        denotes_compactItems (next :: rest) (List.cons_ne_nil next rest) textual.2
      rw [compactItems, List.map_append]
      · exact .item (denotes_compactChars item textual.1) blank_nil blank_space following
      · exact List.cons_ne_nil next rest

theorem denotes_compactEntries : (entries : List (Text × Value)) → entries ≠ [] →
    Value.textualEntries entries = true →
    Denotes ((compactEntries entries).map .char) (.entries (Value.joinedEntries entries))
  | [], nonempty, _ => absurd rfl nonempty
  | [(key, value)], _, textual => by
      rw [Value.textualEntries, Bool.and_eq_true] at textual
      have written := Denotes.lastEntry (inside_points key.points) blank_nil blank_space
        (denotes_compactChars value textual.1) blank_nil
      simpa [compactEntries, stringChars, Value.joinedEntries, Text.joined] using written
  | (key, value) :: next :: rest, _, textual => by
      rw [Value.textualEntries, Bool.and_eq_true] at textual
      have following :=
        denotes_compactEntries (next :: rest) (List.cons_ne_nil next rest) textual.2
      have written := Denotes.entry (inside_points key.points) blank_nil blank_space
        (denotes_compactChars value textual.1) blank_nil blank_space following
      simpa [compactEntries, stringChars, Value.joinedEntries, Text.joined] using written

end

variable {value : Value}

theorem printable_compact (textual : value.isTextual = true) : Printable (compact value).toList := by
  rw [compact, String.toList_ofList]
  exact Printable.compactChars value textual

theorem isText_compact (textual : value.isTextual = true) :
    IsText (Text.points (compact value)) value.joined := by
  refine ⟨[], (compactChars value).map .char, [], ?_, blank_nil, blank_nil,
    denotes_compactChars value textual⟩
  simp [compact]

/-- What is written on one line is read back, up to halves that come to stand side by side. -/
theorem parse_compact (textual : value.isTextual = true) :
    parse (compact value) = .ok value.joined :=
  parse_of_isText (isText_compact textual)

/-- A line stands for what it is read as and for nothing else. -/
theorem eq_of_isText_compact (textual : value.isTextual = true) {other : Value}
    (isText : IsText (Text.points (compact value)) other) : other = value.joined := by
  have reads := (parse_of_isText isText).symm.trans (parse_compact textual)
  exact Except.ok.inj reads

end RunnerCloud.Json
