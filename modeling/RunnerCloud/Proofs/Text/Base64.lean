import RunnerCloud.Text.Base64

/-!
Contract: base64 loses nothing.

Owns:
- `decodeBytes?_encodeBytes`, for bytes: reading what was written gives the bytes again, whatever
  padding their number asks for;
- `decode?_encode`, for texts, which pass through their UTF-8 bytes.

Does not own: which texts are base64; characters outside of the alphabet are refused.
-/

namespace RunnerCloud.Text.Base64

/-! ## Characters of the alphabet -/

theorem sextet?_sextetChar : ∀ value < 64, sextet? (sextetChar value) = some value := by
  decide

theorem sextetChar_ne_padding : ∀ value < 64, sextetChar value ≠ '=' := by
  decide

/-! ## Groups of four characters -/

/-- Four characters of the alphabet are a whole group, whatever follows. -/
theorem decodeBytes?_of_sextets {a b c d : Nat} (aLt : a < 64) (bLt : b < 64) (cLt : c < 64)
    (dLt : d < 64) (rest : List Char) :
    decodeBytes? (sextetChar a :: sextetChar b :: sextetChar c :: sextetChar d :: rest) =
      (decodeBytes? rest).map fun following =>
        UInt8.ofNat (a * 4 + b / 16) :: UInt8.ofNat (b % 16 * 16 + c / 4) ::
          UInt8.ofNat (c % 4 * 64 + d) :: following := by
  have notPadding := sextetChar_ne_padding d dLt
  rw [decodeBytes?]
  · simp only [sextet?_sextetChar, aLt, bLt, cLt, dLt, Option.bind_eq_bind, Option.bind_some]
    cases decodeBytes? rest <;> rfl
  · intro _ padding
    exact absurd padding notPadding
  · intro padding
    exact absurd padding notPadding

/-- Two characters and two of padding stand for one byte. -/
theorem decodeBytes?_of_two_sextets {a b : Nat} (aLt : a < 64) (bLt : b < 64)
    (unused : b % 16 = 0) :
    decodeBytes? [sextetChar a, sextetChar b, '=', '='] = some [UInt8.ofNat (a * 4 + b / 16)] := by
  rw [decodeBytes?]
  simp only [sextet?_sextetChar, aLt, bLt, Option.bind_eq_bind, Option.bind_some, unused,
    BEq.rfl, if_true]

/-- Three characters and one of padding stand for two bytes. -/
theorem decodeBytes?_of_three_sextets {a b c : Nat} (aLt : a < 64) (bLt : b < 64) (cLt : c < 64)
    (unused : c % 4 = 0) :
    decodeBytes? [sextetChar a, sextetChar b, sextetChar c, '='] =
      some [UInt8.ofNat (a * 4 + b / 16), UInt8.ofNat (b % 16 * 16 + c / 4)] := by
  rw [decodeBytes?]
  · simp only [sextet?_sextetChar, aLt, bLt, cLt, Option.bind_eq_bind, Option.bind_some, unused,
      BEq.rfl, if_true]
  · intro padding
    exact absurd padding (sextetChar_ne_padding c cLt)

/-! ## Bytes and texts -/

theorem ofNat_eq_of_toNat (byte : UInt8) {number : Nat} (same : number = byte.toNat) :
    UInt8.ofNat number = byte := by
  rw [same, UInt8.ofNat_toNat]

theorem decodeBytes?_encodeBytes (bytes : List UInt8) :
    decodeBytes? (encodeBytes bytes) = some bytes := by
  induction bytes using encodeBytes.induct with
  | case1 => rfl
  | case2 first =>
      have firstLt := first.toNat_lt
      have decoded := decodeBytes?_of_two_sextets
        (by omega : first.toNat / 4 < 64) (by omega : first.toNat % 4 * 16 + 0 / 16 < 64) (by omega)
      have first_eq := ofNat_eq_of_toNat first
        (by omega : first.toNat / 4 * 4 + (first.toNat % 4 * 16 + 0 / 16) / 16 = first.toNat)
      rw [first_eq] at decoded
      exact decoded
  | case3 first second =>
      have firstLt := first.toNat_lt
      have secondLt := second.toNat_lt
      have decoded := decodeBytes?_of_three_sextets
        (by omega : first.toNat / 4 < 64)
        (by omega : first.toNat % 4 * 16 + second.toNat / 16 < 64)
        (by omega : second.toNat % 16 * 4 + 0 / 64 < 64) (by omega)
      rw [ofNat_eq_of_toNat first (by omega),
        ofNat_eq_of_toNat second (by omega)] at decoded
      exact decoded
  | case4 first second third rest inductionHypothesis =>
      have firstLt := first.toNat_lt
      have secondLt := second.toNat_lt
      have thirdLt := third.toNat_lt
      have decoded := decodeBytes?_of_sextets
        (by omega : first.toNat / 4 < 64)
        (by omega : first.toNat % 4 * 16 + second.toNat / 16 < 64)
        (by omega : second.toNat % 16 * 4 + third.toNat / 64 < 64)
        (by omega : third.toNat % 64 < 64) (encodeBytes rest)
      rw [inductionHypothesis, ofNat_eq_of_toNat first (by omega),
        ofNat_eq_of_toNat second (by omega),
        ofNat_eq_of_toNat third (by omega)] at decoded
      exact decoded

theorem fromUTF8?_utf8Bytes (text : String) :
    String.fromUTF8? ⟨(utf8Bytes text).toArray⟩ = some text := by
  have bytes : (⟨(utf8Bytes text).toArray⟩ : ByteArray) = text.toByteArray := by
    rw [utf8Bytes, Array.toArray_toList, String.toUTF8_eq_toByteArray]
  rw [bytes, String.fromUTF8?, dif_pos text.isValidUTF8]
  rfl

theorem decode?_encode (text : String) : decode? (encode text) = some text := by
  have bytes : decodeBytes? (encode text).toList = some (utf8Bytes text) := by
    rw [encode, String.toList_ofList]
    exact decodeBytes?_encodeBytes (utf8Bytes text)
  rw [decode?, bytes, Option.bind_some]
  exact fromUTF8?_utf8Bytes text

end RunnerCloud.Text.Base64
