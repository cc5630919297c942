import IotClient.Logic.Result
import IotClient.Model.Json

namespace IotClient
open Logic

def backslashesPaired : Bytes → Bool
  | [] => true
  | [c] => c ≠ 92
  | c :: d :: rest =>
      if c = 92 then d = 92 && backslashesPaired rest else backslashesPaired (d :: rest)

theorem writeChar_cases (c : UInt8) (notBackslash : c ≠ 92) :
    (writeChar c = [c] ∧ c ≠ 34) ∨
      ∃ letter, writeChar c = [92, letter] ∧ letter ≠ 92 ∧ letter ≠ 117 ∧ escaped letter = some [c] := by
  by_cases special : c ∈ [34, 8, 12, 10, 13, 9]
  · right
    simp only [List.mem_cons, List.not_mem_nil, or_false] at special
    rcases special with rfl | rfl | rfl | rfl | rfl | rfl <;>
      exact ⟨_, rfl, by decide, by decide, rfl⟩
  · simp only [List.mem_cons, List.not_mem_nil, or_false, not_or] at special
    left
    simp [writeChar, special, notBackslash]

theorem matchChars_quote (sign : CharSign) (rest string : Bytes) (uni : List UInt16) :
    matchChars sign (34 :: rest) string uni =
      (fun string => (string, rest)) <$> finalizeUnicode string uni := by
  rw [matchChars.eq_def]
  cases rest <;> cases final : finalizeUnicode string uni <;>
    simp [finishString, matchExpectedString, final, bind, Except.bind, Functor.map, Except.map, pure,
      Except.pure]

theorem matchChars_char (sign : CharSign) {c : UInt8} {rest : Bytes} (string : Bytes) (uni : List UInt16)
    (notQuote : c ≠ 34) (notBackslash : c ≠ 92) (nonempty : rest ≠ []) :
    matchChars sign (c :: rest) string uni =
      finalizeUnicode string uni >>= fun string => matchChars sign rest (string ++ [c]) [] := by
  cases rest with
  | nil => contradiction
  | cons d rest =>
      rw [matchChars.eq_def]
      simp [notQuote, notBackslash]

theorem matchChars_escape (sign : CharSign) {letter : UInt8} {text : Bytes} (rest string : Bytes)
    (uni : List UInt16) (notUnicode : letter ≠ 117) (known : escaped letter = some text) :
    matchChars sign (92 :: letter :: rest) string uni =
      finalizeUnicode (string ++ text) uni >>= fun string => matchChars sign rest string [] := by
  rw [matchChars.eq_def]
  simp [notUnicode, known]

theorem matchChars_unicode (sign : CharSign) (input string : Bytes) (uni : List UInt16) :
    ∃ word, matchChars sign (92 :: 117 :: input) string uni =
      matchChars sign (input.drop 4) string (uni ++ [word]) := by
  rw [matchChars.eq_def]
  match input with
  | [] => exact ⟨_, by simp [matchChars.eq_1]; rfl⟩
  | [_] => exact ⟨_, by simp [matchChars.eq_1]; rfl⟩
  | [_, _] => exact ⟨_, by simp [matchChars.eq_1]; rfl⟩
  | [_, _, _] => exact ⟨_, by simp [matchChars.eq_1]; rfl⟩
  | _ :: _ :: _ :: _ :: _ => exact ⟨_, by simp; rfl⟩

@[simp]
theorem finalizeUnicode_nil (string : Bytes) : finalizeUnicode string [] = .ok string := by
  simp [finalizeUnicode, utf16To8, Functor.map, Except.map]

theorem matchChars_writeChar (sign : CharSign) {c : UInt8} (notBackslash : c ≠ 92) {rest : Bytes}
    (string : Bytes) (nonempty : rest ≠ []) :
    matchChars sign (writeChar c ++ rest) string [] = matchChars sign rest (string ++ [c]) [] := by
  rcases writeChar_cases c notBackslash with ⟨plain, notQuote⟩ | ⟨letter, written, _, notUnicode, known⟩
  · rw [plain]
    simpa [bind, Except.bind] using matchChars_char sign string [] notQuote notBackslash nonempty
  · rw [written]
    simpa [bind, Except.bind] using matchChars_escape sign rest string [] notUnicode known

theorem matchChars_writeChars (sign : CharSign) (value : Bytes) (paired : backslashesPaired value) :
    ∃ text, writeChars value = .ok text ∧ ∀ string rest,
      matchChars sign (text ++ 34 :: rest) string [] = .ok (string ++ value, rest) := by
  induction value using backslashesPaired.induct with
  | case1 => exact ⟨[], rfl, fun string rest => by simp [matchChars_quote, Functor.map, Except.map]⟩
  | case2 c =>
      have notBackslash : c ≠ 92 := by simpa [backslashesPaired] using paired
      refine ⟨writeChar c, by simp [writeChars, notBackslash], fun string rest => ?_⟩
      rw [matchChars_writeChar sign notBackslash string (by simp), matchChars_quote]
      simp [Functor.map, Except.map]
  | case3 d rest inductive_hypothesis =>
      obtain ⟨backslash, pairedRest⟩ : d = 92 ∧ backslashesPaired rest := by
        simpa [backslashesPaired] using paired
      obtain ⟨text, written, read⟩ := inductive_hypothesis pairedRest
      subst backslash
      refine ⟨92 :: 92 :: text, by simp [writeChars, written, writeChar, bytes, Functor.map, Except.map], ?_⟩
      intro string tail
      have step := matchChars_escape sign (text ++ 34 :: tail) string [] (by decide)
        (show escaped 92 = some [92, 92] from rfl)
      simpa [bind, Except.bind, read] using step
  | case4 c d rest notBackslash inductive_hypothesis =>
      have pairedRest : backslashesPaired (d :: rest) := by
        simpa [backslashesPaired, notBackslash] using paired
      obtain ⟨text, written, read⟩ := inductive_hypothesis pairedRest
      refine ⟨writeChar c ++ text, by simp [writeChars, notBackslash, written, Functor.map, Except.map], ?_⟩
      intro string tail
      rw [List.append_assoc, matchChars_writeChar sign notBackslash string (by simp), read]
      simp

/-! ## Strings with an unpaired backslash -/

theorem appendUtf8_length (cp : Nat) : (appendUtf8 cp).length ≤ 4 := by
  unfold appendUtf8
  split
  · simp
  · split
    · simp
    · split <;> simp

theorem appendUtf8_word_length (word : UInt16) : (appendUtf8 word.toNat).length ≤ 3 := by
  unfold appendUtf8
  split
  · simp
  · rw [if_pos (c := word.toNat < 0x10000) word.toNat_lt]
    split <;> simp

theorem utf16To8_length {uni : List UInt16} {text : Bytes} (converted : utf16To8 uni = .ok text) :
    text.length ≤ 3 * uni.length := by
  fun_induction utf16To8 uni generalizing text with
  | case1 => simp_all
  | case2 => simp_all
  | case3 word _ =>
      obtain rfl : appendUtf8 word.toNat = text := by simpa using converted
      simpa using appendUtf8_word_length word
  | case4 word next rest _ _ inductive_hypothesis =>
      obtain ⟨tail, convertedTail, rfl⟩ := map_eq_ok.mp converted
      have tailLength := inductive_hypothesis convertedTail
      have pairLength :=
        appendUtf8_length ((word.toNat <<< 10) + next.toNat + 0x10000 - (0xd800 <<< 10) - 0xdc00)
      simp only [List.length_append, List.length_cons]
      omega
  | case5 => simp_all
  | case6 => simp_all
  | case7 word next rest _ _ inductive_hypothesis =>
      obtain ⟨tail, convertedTail, rfl⟩ := map_eq_ok.mp converted
      have tailLength := inductive_hypothesis convertedTail
      have wordLength := appendUtf8_word_length word
      simp only [List.length_append, List.length_cons] at tailLength ⊢
      omega

theorem finalizeUnicode_length {string text : Bytes} {uni : List UInt16}
    (final : finalizeUnicode string uni = .ok text) :
    text.length ≤ string.length + 3 * uni.length := by
  obtain ⟨tail, converted, rfl⟩ := map_eq_ok.mp final
  have tailLength := utf16To8_length converted
  simp only [List.length_append]
  omega

theorem escaped_length {letter : UInt8} {text : Bytes} (known : escaped letter = some text)
    (notBackslash : letter ≠ 92) : text.length = 1 := by
  unfold escaped at known
  grind

inductive WriterStep (value : Bytes) : Bytes → Prop where
  | char {c : UInt8} {rest tail : Bytes} : c ≠ 92 → c ≠ 34 → writeChars rest = .ok tail →
      rest.length + 1 ≤ value.length → WriterStep value (c :: tail)
  | escape {letter : UInt8} {rest tail : Bytes} : writeChars rest = .ok tail →
      rest.length + 1 ≤ value.length → (letter = 92 → rest.length + 2 ≤ value.length) →
      WriterStep value (92 :: letter :: tail)

theorem WriterStep.ofChar {c : UInt8} {value rest tail : Bytes} (notBackslash : c ≠ 92)
    (written : writeChars rest = .ok tail) (shorter : rest.length + 1 ≤ value.length) :
    WriterStep value (writeChar c ++ tail) := by
  rcases writeChar_cases c notBackslash with ⟨plain, notQuote⟩ | ⟨letter, escape, notPair, _, _⟩
  · rw [plain]
    exact .char notBackslash notQuote written shorter
  · rw [escape]
    exact .escape written shorter fun pair => absurd pair notPair

theorem writeChars_step {value text : Bytes} (written : writeChars value = .ok text) :
    text = [] ∨ WriterStep value text := by
  fun_cases writeChars value with
  | case1 => exact .inl (by simpa [writeChars] using written.symm)
  | case2 => simp [writeChars] at written
  | case3 c notBackslash =>
      obtain rfl : writeChar c = text := by simpa [writeChars, notBackslash] using written
      have step : WriterStep [c] (writeChar c ++ []) := .ofChar notBackslash writeChars.eq_1 (by simp)
      exact .inr (by simpa using step)
  | case4 rest =>
      obtain ⟨tail, writtenRest, rfl⟩ := map_eq_ok.mp written
      exact .inr (.escape writtenRest (by simp) (by simp))
  | case5 d rest notUnicode =>
      obtain ⟨tail, writtenRest, rfl⟩ := map_eq_ok.mp (by simpa [writeChars, notUnicode] using written)
      by_cases pair : d = 92
      · subst pair
        exact .inr (.escape writtenRest (by simp) (by simp))
      · exact .inr (.ofChar pair writtenRest (by simp))
  | case6 c d rest notBackslash =>
      obtain ⟨tail, writtenRest, rfl⟩ := map_eq_ok.mp (by simpa [writeChars, notBackslash] using written)
      exact .inr (.ofChar notBackslash writtenRest (by simp))

/-- What can be left of a written value while the reader is inside it. The weight is twice what the
value still holds, and more for the second half of an escape: reading never yields more than half. -/
inductive Written : Nat → Bytes → Prop where
  | whole {value text : Bytes} :
      writeChars value = .ok text → Written (2 * value.length) text
  | half {letter : UInt8} {value text : Bytes} :
      letter ≠ 92 → writeChars value = .ok text → Written (2 * value.length + 1) (letter :: text)
  | backslash {value text : Bytes} :
      writeChars value = .ok text → Written (2 * value.length + 3) (92 :: text)

theorem Written.tail {weight : Nat} {c : UInt8} {text : Bytes} (written : Written weight (c :: text)) :
    ∃ rest, rest + 1 ≤ weight ∧ Written rest text := by
  cases written with
  | whole whole =>
      rcases writeChars_step whole with empty | step
      · contradiction
      · cases step with
        | char _ _ writtenRest shorter => exact ⟨_, by omega, .whole writtenRest⟩
        | @escape letter rest _ writtenRest shorter pair =>
            by_cases backslash : letter = 92
            · subst backslash
              have := pair rfl
              exact ⟨_, by omega, .backslash writtenRest⟩
            · exact ⟨_, by omega, .half backslash writtenRest⟩
  | half _ whole => exact ⟨_, by omega, .whole whole⟩
  | backslash whole => exact ⟨_, by omega, .whole whole⟩

theorem Written.drop {weight : Nat} {text : Bytes} (written : Written weight text) (count : Nat)
    (enough : count ≤ text.length) : ∃ rest, rest + count ≤ weight ∧ Written rest (text.drop count) := by
  induction count generalizing weight text with
  | zero => exact ⟨weight, by omega, by simpa using written⟩
  | succ count inductive_hypothesis =>
      cases text with
      | nil => simp at enough
      | cons c text =>
          obtain ⟨middle, lighter, writtenTail⟩ := written.tail
          obtain ⟨rest, lightest, writtenRest⟩ :=
            inductive_hypothesis writtenTail (by simpa using enough)
          exact ⟨rest, by omega, by simpa using writtenRest⟩

theorem Written.char {weight : Nat} {c : UInt8} {text : Bytes} (written : Written weight (c :: text))
    (notBackslash : c ≠ 92) : ∃ rest, (rest + 1) / 2 + 1 ≤ (weight + 1) / 2 ∧ Written rest text := by
  cases written with
  | whole whole =>
      rcases writeChars_step whole with empty | step
      · contradiction
      · cases step with
        | char _ _ writtenRest shorter => exact ⟨_, by omega, .whole writtenRest⟩
        | escape => contradiction
  | half _ whole => exact ⟨_, by omega, .whole whole⟩
  | backslash whole => contradiction

theorem Written.pair {weight : Nat} {text : Bytes} (written : Written weight (92 :: 92 :: text)) :
    ∃ rest, (rest + 1) / 2 + 2 ≤ (weight + 1) / 2 ∧ Written rest text := by
  cases written with
  | whole whole =>
      rcases writeChars_step whole with empty | step
      · contradiction
      · cases step with
        | char notBackslash => contradiction
        | escape writtenRest shorter pair =>
            have := pair rfl
            exact ⟨_, by omega, .whole writtenRest⟩
  | half notBackslash _ => contradiction
  | backslash whole =>
      obtain ⟨rest, lighter, writtenRest⟩ := (Written.whole whole).tail
      exact ⟨rest, by omega, writtenRest⟩

def Overrun (sign : CharSign) (suffix result rest : Bytes) : Prop :=
  ∃ skipped string uni, skipped ≤ 3 ∧ matchChars sign (suffix.drop skipped) string uni = .ok (result, rest)

theorem Overrun.ofUnicode {sign : CharSign} {text suffix string result rest : Bytes} {uni : List UInt16}
    (short : text.length < 4)
    (read : matchChars sign ((text ++ 34 :: suffix).drop 4) string uni = .ok (result, rest)) :
    Overrun sign suffix result rest := by
  refine ⟨3 - text.length, string, uni, by omega, ?_⟩
  rw [List.drop_append, List.drop_eq_nil_of_le (by omega), List.nil_append] at read
  rwa [show 4 - text.length = 3 - text.length + 1 by omega, List.drop_succ_cons] at read

theorem matchChars_written {sign : CharSign} {suffix : Bytes} {weight : Nat} {text string result rest : Bytes}
    {uni : List UInt16} (written : Written weight text)
    (read : matchChars sign (text ++ 34 :: suffix) string uni = .ok (result, rest)) :
    result.length ≤ string.length + 3 * uni.length + (weight + 1) / 2 ∨ Overrun sign suffix result rest := by
  induction length : text.length using Nat.strongRecOn generalizing text weight string uni with
  | ind n inductive_hypothesis =>
    subst length
    have closes {tail : Bytes} (read : matchChars sign (34 :: tail) string uni = .ok (result, rest)) :
        result.length ≤ string.length + 3 * uni.length + (weight + 1) / 2 := by
      rw [matchChars_quote] at read
      obtain ⟨final, finalized, equal⟩ := map_eq_ok.mp read
      obtain ⟨rfl, _⟩ := Prod.mk.inj equal
      have := finalizeUnicode_length finalized
      omega
    match text, written with
    | [], _ => exact .inl (closes read)
    | c :: text, written =>
        by_cases quote : c = 34
        · subst quote
          exact .inl (closes read)
        by_cases backslash : c = 92
        · subst backslash
          match text, written with
          | [], _ =>
              -- The closing quote itself is escaped.
              rw [List.cons_append, List.nil_append,
                matchChars_escape sign suffix string uni (by decide) rfl] at read
              obtain ⟨final, _, readSuffix⟩ := bind_eq_ok.mp read
              exact .inr ⟨0, final, [], by omega, readSuffix⟩
          | d :: text, written =>
              by_cases unicode : d = 117
              · subst unicode
                obtain ⟨word, equal⟩ := matchChars_unicode sign (text ++ 34 :: suffix) string uni
                rw [List.cons_append, List.cons_append, equal] at read
                by_cases enough : 4 ≤ text.length
                · rw [List.drop_append_of_le_length enough] at read
                  obtain ⟨left, lighter, writtenRest⟩ := written.drop 6 (by simp; omega)
                  rcases inductive_hypothesis _ (by simp; omega) writtenRest read rfl with bound | overrun
                  · left
                    simp only [List.length_append, List.length_cons, List.length_nil] at bound
                    omega
                  · exact .inr overrun
                · exact .inr (Overrun.ofUnicode (by omega) read)
              · cases known : escaped d with
                | none =>
                    rw [List.cons_append, List.cons_append, matchChars.eq_def] at read
                    simp [unicode, known] at read
                | some letterText =>
                    rw [List.cons_append, List.cons_append,
                      matchChars_escape sign _ string uni unicode known] at read
                    obtain ⟨final, finalized, readRest⟩ := bind_eq_ok.mp read
                    have finalLength := finalizeUnicode_length finalized
                    rw [List.length_append] at finalLength
                    obtain ⟨left, lighter, writtenRest⟩ :
                        ∃ left, (left + 1) / 2 + letterText.length ≤ (weight + 1) / 2 ∧ Written left text := by
                      by_cases pair : d = 92
                      · subst pair
                        obtain rfl : [92, 92] = letterText := by simpa [escaped] using known
                        exact written.pair
                      · obtain ⟨left, lighter, writtenRest⟩ := written.drop 2 (by simp)
                        have := escaped_length known pair
                        exact ⟨left, by omega, by simpa using writtenRest⟩
                    rcases inductive_hypothesis _ (by simp only [List.length_cons]; omega) writtenRest readRest rfl with
                      bound | overrun
                    · left
                      simp only [List.length_nil] at bound
                      omega
                    · exact .inr overrun
        · rw [List.cons_append, matchChars_char sign string uni quote backslash (by simp)] at read
          obtain ⟨final, finalized, readRest⟩ := bind_eq_ok.mp read
          have finalLength := finalizeUnicode_length finalized
          obtain ⟨left, lighter, writtenRest⟩ := written.char backslash
          rcases inductive_hypothesis _ (by simp) writtenRest readRest rfl with bound | overrun
          · left
            simp only [List.length_append, List.length_cons, List.length_nil] at bound
            omega
          · exact .inr overrun

theorem matchChars_unpaired {sign : CharSign} {suffix value text string result rest : Bytes}
    (unpaired : backslashesPaired value = false) (written : writeChars value = .ok text)
    (read : matchChars sign (text ++ 34 :: suffix) string [] = .ok (result, rest)) :
    result.length < string.length + value.length ∨ Overrun sign suffix result rest := by
  induction value using backslashesPaired.induct generalizing text string with
  | case1 => simp [backslashesPaired] at unpaired
  | case2 c =>
      obtain rfl : c = 92 := by simpa [backslashesPaired] using unpaired
      simp [writeChars] at written
  | case3 d tail inductive_hypothesis =>
      by_cases unicode : d = 117
      · subst unicode
        obtain ⟨tailText, writtenTail, rfl⟩ := map_eq_ok.mp written
        obtain ⟨word, equal⟩ := matchChars_unicode sign (tailText ++ 34 :: suffix) string []
        change matchChars sign (92 :: 117 :: (tailText ++ 34 :: suffix)) string [] = _ at read
        rw [equal] at read
        by_cases enough : 4 ≤ tailText.length
        · rw [List.drop_append_of_le_length enough] at read
          obtain ⟨left, lighter, writtenRest⟩ := (Written.whole writtenTail).drop 4 enough
          rcases matchChars_written writtenRest read with bound | overrun
          · left
            simp only [List.nil_append, List.length_cons, List.length_nil] at bound ⊢
            omega
          · exact .inr overrun
        · exact .inr (Overrun.ofUnicode (by omega) read)
      · obtain ⟨tailText, writtenTail, rfl⟩ := map_eq_ok.mp (by simpa [writeChars, unicode] using written)
        by_cases pair : d = 92
        · subst pair
          change matchChars sign (92 :: 92 :: (tailText ++ 34 :: suffix)) string [] = _ at read
          rw [matchChars_escape sign _ string [] (by decide) rfl, finalizeUnicode_nil] at read
          have unpairedTail : backslashesPaired tail = false := by
            simpa [backslashesPaired] using unpaired
          rcases inductive_hypothesis unpairedTail writtenTail read with bound | overrun
          · left
            simp only [List.length_append, List.length_cons, List.length_nil] at bound ⊢
            omega
          · exact .inr overrun
        · rw [List.append_assoc, matchChars_writeChar sign pair string (by simp)] at read
          rcases matchChars_written (.whole writtenTail) read with bound | overrun
          · left
            simp only [List.length_append, List.length_cons, List.length_nil] at bound ⊢
            omega
          · exact .inr overrun
  | case4 c d tail notBackslash inductive_hypothesis =>
      obtain ⟨tailText, writtenTail, rfl⟩ :=
        map_eq_ok.mp (by simpa [writeChars, notBackslash] using written)
      rw [List.append_assoc, matchChars_writeChar sign notBackslash string (by simp)] at read
      have unpairedTail : backslashesPaired (d :: tail) = false := by
        simpa [backslashesPaired, notBackslash] using unpaired
      rcases inductive_hypothesis unpairedTail writtenTail read with bound | overrun
      · left
        simp only [List.length_append, List.length_cons, List.length_nil] at bound ⊢
        omega
      · exact .inr overrun

theorem matchChars_plain {sign : CharSign} {plain suffix string result rest : Bytes} {uni : List UInt16}
    (isPlain : ∀ c ∈ plain, c ≠ 34 ∧ c ≠ 92)
    (read : matchChars sign (plain ++ 34 :: suffix) string uni = .ok (result, rest)) : rest = suffix := by
  induction plain generalizing string uni with
  | nil =>
      rw [List.nil_append, matchChars_quote] at read
      obtain ⟨_, _, equal⟩ := map_eq_ok.mp read
      exact (Prod.mk.inj equal).2.symm
  | cons c plain inductive_hypothesis =>
      obtain ⟨notQuote, notBackslash⟩ := isPlain c (by simp)
      rw [List.cons_append, matchChars_char sign string uni notQuote notBackslash (by simp)] at read
      obtain ⟨final, _, readRest⟩ := bind_eq_ok.mp read
      exact inductive_hypothesis (fun c listed => isPlain c (by simp [listed])) readRest

theorem matchChars_unclosed {sign : CharSign} {plain string : Bytes} {uni : List UInt16}
    (isPlain : ∀ c ∈ plain, c ≠ 34 ∧ c ≠ 92) (result : Bytes × Bytes) :
    matchChars sign plain string uni ≠ .ok result := by
  have unfinished (string : Bytes) (uni : List UInt16) : finishString string uni [] ≠ .ok result := by
    intro finished
    obtain ⟨final, _, matched⟩ := bind_eq_ok.mp finished
    simp [matchExpectedString, bind, Except.bind] at matched
  intro read
  induction plain generalizing string uni with
  | nil => exact unfinished string uni read
  | cons c plain inductive_hypothesis =>
      obtain ⟨notQuote, notBackslash⟩ := isPlain c (by simp)
      by_cases last : plain = []
      · subst last
        rw [matchChars.eq_2, if_neg notQuote] at read
        obtain ⟨final, _, finished⟩ := bind_eq_ok.mp read
        exact unfinished _ _ finished
      · rw [matchChars_char sign string uni notQuote notBackslash last] at read
        obtain ⟨final, _, readRest⟩ := bind_eq_ok.mp read
        exact inductive_hypothesis (fun c listed => isPlain c (by simp [listed])) readRest

theorem writeChars_eq_error {value : Bytes} {failure : Fault} (failed : writeChars value = .error failure) :
    failure = .outOfRange := by
  fun_induction writeChars value with
  | case1 | case3 => contradiction
  | case2 => exact (Except.error.inj failed).symm
  | case4 _ inductive_hypothesis | case5 _ _ _ inductive_hypothesis | case6 _ _ _ _ inductive_hypothesis =>
      exact inductive_hypothesis (map_eq_error.mp failed)

end IotClient
