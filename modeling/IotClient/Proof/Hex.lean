import IotClient.Model.PrivateMessage

namespace IotClient

/-! ## Decoding what has been encoded -/

theorem hexNibble_hexChar (c : UInt8) :
    hexNibble (hexChar (c >>> 4)) = some (c >>> 4) ∧ hexNibble (hexChar (c &&& 0x0F)) = some (c &&& 0x0F) ∧
      (c >>> 4) <<< 4 ||| (c &&& 0x0F) = c := by
  have all : ∀ n : Fin 256, hexNibble (hexChar (UInt8.ofFin n >>> 4)) = some (UInt8.ofFin n >>> 4) ∧
      hexNibble (hexChar (UInt8.ofFin n &&& 0x0F)) = some (UInt8.ofFin n &&& 0x0F) ∧
      (UInt8.ofFin n >>> 4) <<< 4 ||| (UInt8.ofFin n &&& 0x0F) = UInt8.ofFin n := by decide +kernel
  exact all c.toFin

theorem hexEncode_cons (c : UInt8) (data : Bytes) :
    hexEncode (c :: data) = hexChar (c >>> 4) :: hexChar (c &&& 0x0F) :: hexEncode data := by
  simp [hexEncode]

theorem hexDecodePairs_hexEncode (data : Bytes) : hexDecodePairs (hexEncode data) = some data := by
  induction data with
  | nil => rfl
  | cons c data ih =>
      obtain ⟨high, low, whole⟩ := hexNibble_hexChar c
      rw [hexEncode_cons, hexDecodePairs, high, low, ih]
      simp [whole]

theorem hexEncode_length (data : Bytes) : (hexEncode data).length = 2 * data.length := by
  induction data with
  | nil => rfl
  | cons c data ih =>
      simp only [hexEncode_cons, List.length_cons, ih]
      omega

@[simp]
theorem hexDecode_hexEncode (data : Bytes) : hexDecode (hexEncode data) = data := by
  simp [hexDecode, hexEncode_length, hexDecodePairs_hexEncode]

theorem hexEncode_injective {first second : Bytes} (equal : hexEncode first = hexEncode second) :
    first = second := by
  rw [← hexDecode_hexEncode first, equal, hexDecode_hexEncode]

theorem getPrivateMessageTopic_injective {first second : Bytes}
    (equal : getPrivateMessageTopic first = getPrivateMessageTopic second) : first = second :=
  hexEncode_injective (List.append_cancel_right equal)

/-! ## The accepted language -/

def isHexDigit (c : UInt8) : Bool :=
  (48 ≤ c && c ≤ 57) || (65 ≤ c && c ≤ 70) || (97 ≤ c && c ≤ 102)

structure HexText (text : Bytes) : Prop where
  nonempty : text ≠ []
  even : text.length % 2 = 0
  digits : ∀ c ∈ text, isHexDigit c

theorem hexNibble_cases (c : UInt8) :
    (isHexDigit c = false ∧ hexNibble c = none) ∨
      (isHexDigit c ∧ ∃ nibble, hexNibble c = some nibble ∧ hexChar nibble = toLower c ∧ nibble < 16) := by
  have all : ∀ n : Fin 256, (isHexDigit (UInt8.ofFin n) = false ∧ hexNibble (UInt8.ofFin n) = none) ∨
      (isHexDigit (UInt8.ofFin n) ∧ (hexNibble (UInt8.ofFin n)).any
        fun nibble => hexChar nibble = toLower (UInt8.ofFin n) ∧ nibble < 16) := by decide +kernel
  simpa [Option.any_eq_true] using all c.toFin

theorem nibbles_split {high low : UInt8} (highSmall : high < 16) (lowSmall : low < 16) :
    (high <<< 4 ||| low) >>> 4 = high ∧ (high <<< 4 ||| low) &&& 0x0F = low := by
  have all : ∀ high low : Fin 16, (UInt8.ofNat high <<< 4 ||| UInt8.ofNat low) >>> 4 = UInt8.ofNat high ∧
      (UInt8.ofNat high <<< 4 ||| UInt8.ofNat low) &&& 0x0F = UInt8.ofNat low := by decide +kernel
  simpa using all ⟨high.toNat, highSmall⟩ ⟨low.toNat, lowSmall⟩

theorem nil_of_short {text : Bytes} (short : ∀ (high low : UInt8) (rest : Bytes), text = high :: low :: rest → False)
    (even : text.length % 2 = 0) : text = [] := by
  match text with
  | [] => rfl
  | [c] => simp at even
  | high :: low :: rest => exact (short high low rest rfl).elim

theorem hexDecodePairs_cases (text : Bytes) (even : text.length % 2 = 0) :
    ((∀ c ∈ text, isHexDigit c) ∧ ∃ data, hexDecodePairs text = some data ∧ hexEncode data = text.map toLower) ∨
      ((∃ c ∈ text, isHexDigit c = false) ∧ hexDecodePairs text = none) := by
  induction text using hexDecodePairs.induct with
  | case1 high low rest ih =>
      rcases hexNibble_cases high with ⟨other, none⟩ | ⟨isHigh, h, readHigh, charHigh, highSmall⟩
      · exact .inr ⟨⟨high, by simp, other⟩, by simp [hexDecodePairs, none]⟩
      rcases hexNibble_cases low with ⟨other, none⟩ | ⟨isLow, l, readLow, charLow, lowSmall⟩
      · exact .inr ⟨⟨low, by simp, other⟩, by simp [hexDecodePairs, readHigh, none]⟩
      have shorter : rest.length % 2 = 0 := by
        simp only [List.length_cons] at even
        omega
      rcases ih shorter with ⟨digits, data, decodes, encodes⟩ | ⟨⟨c, member, other⟩, fails⟩
      · refine .inl ⟨by simpa [isHigh, isLow] using digits, (h <<< 4 ||| l) :: data, ?_, ?_⟩
        · simp [hexDecodePairs, readHigh, readLow, decodes]
        · obtain ⟨first, second⟩ := nibbles_split highSmall lowSmall
          simp [hexEncode_cons, first, second, charHigh, charLow, encodes]
      · exact .inr ⟨⟨c, by simp [member], other⟩, by simp [hexDecodePairs, readHigh, readLow, fails]⟩
  | case2 text short =>
      obtain rfl := nil_of_short short even
      exact .inl ⟨by simp, [], rfl, rfl⟩

theorem hexDecode_hexText {text : Bytes} (accepted : HexText text) :
    hexDecode text ≠ [] ∧ hexEncode (hexDecode text) = text.map toLower := by
  rcases hexDecodePairs_cases text accepted.even with ⟨_, data, decodes, encodes⟩ | ⟨⟨c, member, other⟩, _⟩
  · have decoded : hexDecode text = data := by simp [hexDecode, accepted.even, decodes]
    rw [decoded]
    refine ⟨?_, encodes⟩
    rintro rfl
    exact accepted.nonempty (List.map_eq_nil_iff.mp encodes.symm)
  · simp [accepted.digits c member] at other

theorem hexDecode_rejected {text : Bytes} (rejected : ¬ HexText text) : hexDecode text = [] := by
  unfold hexDecode
  split
  · rfl
  · rename_i even
    rcases hexDecodePairs_cases text (by omega) with ⟨digits, data, decodes, encodes⟩ | ⟨_, fails⟩
    · have empty : text = [] := Decidable.byContradiction fun nonempty => rejected ⟨nonempty, by omega, digits⟩
      rw [empty]
      rfl
    · simp [fails]

/-! ## The loop -/

theorem modify_length (decoded : Bytes) (high low : UInt8) (rest : Bytes) :
    (decoded ++ high :: rest).modify decoded.length (· ||| low) = decoded ++ (high ||| low) :: rest := by
  induction decoded with
  | nil => rfl
  | cons c decoded ih => simpa using ih

theorem hexDecodeFrom_eq (text decoded : Bytes) {i count : Nat} (start : i = 2 * decoded.length)
    (even : text.length = 2 * count) :
    hexDecodeFrom i (decoded ++ List.replicate count 0) text =
      ((hexDecodePairs text).map (decoded ++ ·)).getD [] := by
  induction text using hexDecodePairs.induct generalizing decoded i count with
  | case1 high low rest ih =>
      obtain ⟨count, rfl⟩ : ∃ fewer, count = fewer + 1 := ⟨count - 1, by simp only [List.length_cons] at even; omega⟩
      simp only [hexDecodeFrom, hexDecodePairs]
      cases readHigh : hexNibble high with
      | none => simp
      | some h =>
          have evenly : i % 2 = 0 := by omega
          have oddly : ¬ (i + 1) % 2 = 0 := by omega
          simp only [evenly, oddly, if_true, if_false]
          cases readLow : hexNibble low with
          | none => simp
          | some l =>
              have first : i / 2 = decoded.length := by omega
              have second : (i + 1) / 2 = decoded.length := by omega
              have filled : ((decoded ++ List.replicate (count + 1) 0).set (i / 2) (h <<< 4)).modify ((i + 1) / 2)
                  (· ||| l) = (decoded ++ [h <<< 4 ||| l]) ++ List.replicate count 0 := by
                rw [first, second]
                simp [List.replicate_succ, modify_length]
              simp only [filled]
              rw [ih (decoded ++ [h <<< 4 ||| l]) (by simp; omega) (by simp only [List.length_cons] at even; omega)]
              cases hexDecodePairs rest with
              | none => rfl
              | some tail => simp
  | case2 text short =>
      obtain rfl := nil_of_short short (by omega)
      obtain rfl : count = 0 := by
        rw [List.length_nil] at even
        omega
      simp [hexDecodeFrom, hexDecodePairs]

theorem hexDecodeLoop_eq_hexDecode (text : Bytes) : hexDecodeLoop text = hexDecode text := by
  unfold hexDecodeLoop hexDecode
  split
  · rfl
  · have filling := @hexDecodeFrom_eq text [] 0 (text.length / 2) rfl (by omega)
    simpa using filling

/-- Hexadecimal text and the bytes it stands for determine each other, up to the case of the digits. -/
theorem hex_bijective :
    (∀ data, hexDecodeLoop (hexEncode data) = data) ∧
      (∀ text, (hexDecodeLoop text ≠ [] ↔ HexText text) ∧
        (HexText text → hexEncode (hexDecodeLoop text) = text.map toLower) ∧
        (¬ HexText text → hexDecodeLoop text = [])) ∧
      Function.Injective getPrivateMessageTopic := by
  simp only [hexDecodeLoop_eq_hexDecode]
  refine ⟨hexDecode_hexEncode, fun text => ⟨⟨fun decoded => ?_, fun accepted => (hexDecode_hexText accepted).1⟩,
    fun accepted => (hexDecode_hexText accepted).2, hexDecode_rejected⟩, fun _ _ => getPrivateMessageTopic_injective⟩
  exact Classical.byContradiction fun rejected => decoded (hexDecode_rejected rejected)

end IotClient
