import RunnerCloud.Log.Record
import RunnerCloud.Proofs.Json.Writing

/-!
Contract: the identifiers that are made of serials differ.

Owns:
- `Correlation.hexNumber`, the number that hexadecimal digits stand for, which reads the text of a
  serial back;
- `Correlation.toValue_generated_inj`: records of different serials show different identifiers.

Does not own: which serials are drawn.
-/

namespace RunnerCloud.Correlation

/-- The number that hexadecimal digits stand for. -/
def hexNumber (digits : List Char) : Nat :=
  digits.foldl (fun (total : Nat) (digit : Char) => total * 16 + (Json.hexDigit? digit).getD 0) 0

theorem hexNumber_concat (digits : List Char) (last : Char) :
    hexNumber (digits ++ [last]) = hexNumber digits * 16 + (Json.hexDigit? last).getD 0 := by
  simp [hexNumber]

/-- Zeros in front do not count. -/
theorem hexNumber_replicate_zero (width : Nat) (digits : List Char) :
    hexNumber (List.replicate width '0' ++ digits) = hexNumber digits := by
  induction width with
  | zero => rfl
  | succ width inductionHypothesis => exact inductionHypothesis

theorem hexNumber_toDigits (serial : Nat) : hexNumber (Nat.toDigits 16 serial) = serial := by
  -- The last digit of a serial is its remainder, and the digits before it are those of the quotient.
  induction serial using Nat.strongRecOn with
  | ind serial inductionHypothesis =>
      have last : Nat.toDigits 16 (serial % 16) = [(serial % 16).digitChar] :=
        Nat.toDigits_of_lt_base (Nat.mod_lt _ (by decide))
      have digit : (Json.hexDigit? (serial % 16).digitChar).getD 0 = serial % 16 := by
        rw [Json.hexDigit?_digitChar (Nat.mod_lt _ (by decide)), Option.getD_some]
      by_cases small : serial < 16
      · rw [Nat.mod_eq_of_lt small] at last digit
        rw [last, ← List.nil_append [_], hexNumber_concat, digit]
        exact Nat.zero_add serial
      · have split : Nat.toDigits 16 (serial / 16) ++ Nat.toDigits 16 (serial % 16) =
            Nat.toDigits 16 (16 * (serial / 16) + serial % 16) :=
          Nat.toDigits_append_toDigits (by decide) (by omega) (Nat.mod_lt _ (by decide))
        rw [Nat.div_add_mod] at split
        rw [← split, last, hexNumber_concat, inductionHypothesis (serial / 16) (by omega), digit]
        omega

theorem serialText_injective : Function.Injective serialText := by
  intro one other same
  have digits := congrArg (fun text : String => hexNumber text.toList) same
  simpa only [serialText, String.toList_ofList, hexNumber_replicate_zero, hexNumber_toDigits]
    using digits

theorem toValue_generated_inj {one other : Nat} :
    (generated one).toValue = (generated other).toValue ↔ one = other := by
  unfold toValue
  rw [Value.text.injEq, Text.plain.injEq, serialText_injective.eq_iff]

end RunnerCloud.Correlation
