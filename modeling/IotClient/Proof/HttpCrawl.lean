import IotClient.Proof.HttpTurns
import IotClient.Spec.HttpSplit

namespace IotClient.Net

namespace Execution

/-! ## One byte at a time -/

/-- One execution has counted no more header bytes than the other, and that is all the difference. -/
def Lighter (one other : Execution) : Prop := ∃ nread ≤ other.parser.nread, one = other.weigh nread

end Execution

def Progress.Works : Progress → Prop
  | .next _ _ => True
  | .exit execution _ => execution.parser.errno = .ok

def Progress.Noticed : Progress → Prop
  | .next _ _ => True
  | .exit execution _ => execution.parser.Noticed

theorem Progress.Works.noticed {progress : Progress} (works : progress.Works) : progress.Noticed := by
  cases progress with
  | next execution rest => trivial
  | exit execution rest =>
      have works : execution.parser.errno = .ok := works
      simp [Progress.Noticed, Parser.Noticed, works]

inductive Progress.Lighter : Progress → Progress → Prop
  | next {one other : Execution} {rest : Bytes} (lighter : one.Lighter other) : Lighter (.next one rest) (.next other rest)
  | exit {one other : Execution} {rest : Bytes} (lighter : one.Lighter other) : Lighter (.exit one rest) (.exit other rest)

namespace Execution

variable {one other : Execution} {ch : UInt8}

theorem weigh_self (execution : Execution) : execution.weigh execution.parser.nread = execution := rfl

theorem Weighs.lighter {turn : Execution → Progress} (weighs : Weighs turn other) (lighter : one.Lighter other) :
    (turn one).Lighter (turn other) := by
  obtain ⟨nread, less, rfl⟩ := lighter
  rcases weighs with kept | reset
  · have same := kept other.parser.nread
    rw [weigh_self] at same
    rw [kept nread]
    cases is : turn other with
    | next later rest =>
        rw [is] at same
        refine .next ⟨nread, ?_, rfl⟩
        have := congrArg (fun progress => progress.execution.parser.nread) same
        simp [Progress.weigh, weigh] at this
        omega
    | exit later rest =>
        rw [is] at same
        refine .exit ⟨nread, ?_, rfl⟩
        have := congrArg (fun progress => progress.execution.parser.nread) same
        simp [Progress.weigh, weigh] at this
        omega
  · rw [reset nread]
    cases turn other with
    | next later rest => exact .next ⟨_, Nat.le_refl _, rfl⟩
    | exit later rest => exact .exit ⟨_, Nat.le_refl _, rfl⟩

theorem Lighter.state (lighter : one.Lighter other) : one.parser.state = other.parser.state := by
  obtain ⟨nread, -, rfl⟩ := lighter
  rfl

theorem Lighter.step (lighter : one.Lighter other) (single : other.parser.state.single = true)
    (noticed : (other.step ch []).Noticed) : (one.step ch []).Lighter (other.step ch []) := by
  simp only [Execution.step, lighter.state, countHeaderSize_eq] at noticed ⊢
  split
  next header =>
    obtain ⟨nread, less, rfl⟩ := lighter
    simp only [header, if_true] at noticed ⊢
    split at noticed
    · simp [fail, Progress.Noticed, Parser.Noticed] at noticed
    next small =>
      have below : ¬(other.weigh nread).parser.nread + 1 > httpMaxHeaderSize := by
        simp only [weigh, parser_update]
        omega
      rw [if_neg below, if_neg small]
      exact (dispatch_weighs (other.weigh (other.parser.nread + 1)) ch [] single).lighter ⟨nread + 1, Nat.succ_le_succ less, rfl⟩
  next body => exact (dispatch_weighs _ ch [] single).lighter lighter

def crawl : Bytes → Execution → Progress
  | [], execution => .next execution []
  | ch :: rest, execution =>
      match execution.step ch [] with
      | .next execution _ => crawl rest execution
      | .exit execution left => .exit execution (left ++ rest)

theorem crawl_cons {execution later : Execution} {left rest : Bytes} (run : execution.step ch [] = .next later left) :
    crawl (ch :: rest) execution = crawl rest later := by
  simp only [crawl, run]

theorem noticed_cons {execution : Execution} {rest : Bytes} (noticed : (crawl (ch :: rest) execution).Noticed) :
    (execution.step ch []).Noticed := by
  revert noticed
  simp only [crawl]
  cases execution.step ch [] with
  | next later left => exact fun _ => trivial
  | exit later left => exact id

/-! ### Header fields -/

theorem advance_nil (execution : Execution) : execution.advance [] = execution := by
  obtain ⟨parser, mark, events⟩ := execution
  cases mark <;> simp [advance]

theorem advance_append (execution : Execution) (text more : Bytes) :
    (execution.advance text).advance more = execution.advance (text ++ more) := by
  obtain ⟨parser, mark, events⟩ := execution
  cases mark <;> simp [advance]

def fieldChars (passed : Bytes) (execution : Execution) : Execution :=
  (execution.update fun parser =>
    (passed.filterMap token).foldl (fun parser c => parser.fieldChar c) parser).advance passed

end Execution

theorem Parser.fieldChar_weigh (c : UInt8) (parser : Parser) (nread : Nat) :
    ({ parser with nread := nread } : Parser).fieldChar c = { parser.fieldChar c with nread := nread } := by
  obtain ⟨state, headerState⟩ := parser
  cases headerState <;> rfl

theorem Parser.foldl_fieldChar_weigh (text : Bytes) (parser : Parser) (nread : Nat) :
    text.foldl (fun parser c => parser.fieldChar c) { parser with nread := nread } =
      { text.foldl (fun parser c => parser.fieldChar c) parser with nread := nread } := by
  induction text generalizing parser with
  | nil => rfl
  | cons c text continued => rw [List.foldl_cons, fieldChar_weigh, continued, List.foldl_cons]

namespace Execution

variable {one other : Execution} {ch : UInt8}

theorem fieldChars_weigh (passed : Bytes) (execution : Execution) (nread : Nat) :
    fieldChars passed (execution.weigh nread) = (fieldChars passed execution).weigh nread := by
  simp only [fieldChars, weigh, update, Parser.foldl_fieldChar_weigh]
  rfl

theorem fieldChars_cons {c : UInt8} (lowered : token ch = some c) (passed : Bytes) (execution : Execution) :
    fieldChars (ch :: passed) execution = fieldChars passed (fieldChars [ch] execution) := by
  simp only [fieldChars, lowered, List.filterMap_cons, List.filterMap_nil, List.foldl_cons, List.foldl_nil]
  rw [show ch :: passed = [ch] ++ passed from rfl, ← advance_append]
  rfl

theorem fieldChars_nil (execution : Execution) : fieldChars [] execution = execution := advance_nil execution

theorem fieldChars_state (passed : Bytes) (execution : Execution) :
    (fieldChars passed execution).parser.state = execution.parser.state :=
  Parser.foldl_fieldChar_state _ _

theorem step_header {execution : Execution} {rest : Bytes} (header : execution.parser.state.parsingHeader = true)
    (small : execution.parser.nread + 1 ≤ httpMaxHeaderSize) :
    execution.step ch rest = (execution.weigh (execution.parser.nread + 1)).dispatch ch rest := by
  simp only [step, header, if_true, countHeaderSize_eq]
  rw [if_neg (by omega)]

theorem counted {execution : Execution} {rest : Bytes} (header : execution.parser.state.parsingHeader = true)
    (noticed : (execution.step ch rest).Noticed) : execution.parser.nread + 1 ≤ httpMaxHeaderSize := by
  simp only [step, header, if_true, countHeaderSize_eq] at noticed
  split at noticed
  · simp [fail, Progress.Noticed, Parser.Noticed] at noticed
  · omega

theorem dispatch_headerField {execution : Execution} {rest : Bytes} (state : execution.parser.state = .headerField) :
    execution.dispatch ch rest = execution.headerField ch rest := by
  simp only [dispatch, state]

theorem headerField_eq (execution : Execution) (rest : Bytes) :
    execution.headerField ch rest =
      (fieldChars ((ch :: rest).takeWhile fun ch => (token ch).isSome) execution).countHeaderSize
        ((ch :: rest).takeWhile fun ch => (token ch).isSome).length
        ((ch :: rest).dropWhile fun ch => (token ch).isSome) fun execution =>
          match (ch :: rest).dropWhile fun ch => (token ch).isSome with
          | [] => .next execution []
          | 58 :: rest => .next (execution.updateState .headerValueDiscardWs).callbackData rest
          | ch :: rest => execution.fail .invalidHeaderToken (ch :: rest) := rfl

theorem step_fieldChar {execution : Execution} {c : UInt8} (state : execution.parser.state = .headerField)
    (lowered : token ch = some c) (small : execution.parser.nread + 2 ≤ httpMaxHeaderSize) :
    execution.step ch [] = .next ((fieldChars [ch] execution).weigh (execution.parser.nread + 2)) [] := by
  rw [step_header (by rw [state]; rfl) (by omega), dispatch_headerField (by exact state), headerField_eq]
  simp only [List.takeWhile_cons, List.dropWhile_cons, lowered, Option.isSome_some, if_true, List.takeWhile_nil,
    List.dropWhile_nil, List.length_singleton, fieldChars_weigh]
  rw [countHeaderSize_small _ _ (by exact small)]
  rfl

theorem counted_fieldChar {execution : Execution} {c : UInt8} (state : execution.parser.state = .headerField)
    (lowered : token ch = some c) (noticed : (execution.step ch []).Noticed) :
    execution.parser.nread + 2 ≤ httpMaxHeaderSize := by
  have small := counted (by rw [state]; rfl) noticed
  rw [step_header (by rw [state]; rfl) small, dispatch_headerField (by exact state), headerField_eq,
    countHeaderSize_eq] at noticed
  simp only [List.takeWhile_cons, List.dropWhile_cons, lowered, Option.isSome_some, if_true, List.takeWhile_nil,
    List.dropWhile_nil, List.length_singleton, fieldChars_weigh] at noticed
  split at noticed
  · simp [fail, Progress.Noticed, Parser.Noticed] at noticed
  next most => exact Nat.not_lt.1 most

theorem crawl_fieldChars {execution : Execution} {passed after : Bytes} (state : execution.parser.state = .headerField)
    (tokens : passed.all (fun ch => (token ch).isSome) = true) (noticed : (crawl (passed ++ after) execution).Noticed) :
    (passed ≠ [] → execution.parser.nread + 2 * passed.length ≤ httpMaxHeaderSize) ∧
      crawl (passed ++ after) execution =
        crawl after ((fieldChars passed execution).weigh (execution.parser.nread + 2 * passed.length)) := by
  induction passed generalizing execution with
  | nil => exact ⟨fun some => absurd rfl some, by rw [fieldChars_nil]; rfl⟩
  | cons ch passed continued =>
      simp only [List.all_cons, Bool.and_eq_true] at tokens
      obtain ⟨c, lowered⟩ := Option.isSome_iff_exists.1 tokens.1
      have small := counted_fieldChar state lowered (noticed_cons noticed)
      rw [List.cons_append, crawl_cons (step_fieldChar state lowered small)] at noticed ⊢
      have same : ((fieldChars [ch] execution).weigh (execution.parser.nread + 2)).parser.state = .headerField :=
        (fieldChars_state _ _).trans state
      obtain ⟨bound, runs⟩ := continued same tokens.2 noticed
      have count : execution.parser.nread + 2 + 2 * passed.length = execution.parser.nread + 2 * (passed.length + 1) := by
        omega
      refine ⟨fun _ => ?_, ?_⟩
      · by_cases last : passed = []
        · simp only [last, List.length_singleton]
          omega
        · rw [List.length_cons, ← count]
          exact bound last
      · rw [runs, fieldChars_weigh, ← fieldChars_cons lowered, List.length_cons, ← count]
        rfl

def Proceeds (one other : Execution) (ch : UInt8) (rest : Bytes) : Prop :=
  (∃ one' other' rest', one.step ch rest = .next one' rest' ∧ one'.Lighter other' ∧ other'.Sound ∧
      rest'.length ≤ rest.length ∧ crawl (ch :: rest) other = crawl rest' other') ∨
    (∃ one' left, one.step ch rest = .exit one' left ∧ (Progress.exit one' left).Lighter (crawl (ch :: rest) other))

theorem Lighter.single {rest : Bytes} (lighter : one.Lighter other) (sound : other.Sound)
    (single : other.parser.state.single = true) (noticed : (crawl (ch :: rest) other).Noticed) :
    Proceeds one other ch rest := by
  have turn := lighter.step single (noticed_cons noticed)
  have keeps := other.step_sound ch [] single sound
  have append := step_append one ch rest (by rw [lighter.state]; exact single)
  unfold Proceeds
  rw [append]
  simp only [crawl]
  revert turn keeps
  generalize one.step ch [] = ran
  generalize other.step ch [] = slow
  intro turn keeps
  cases turn with
  | next lighter => exact .inl ⟨_, _, rest, rfl, lighter, keeps, Nat.le_refl _, rfl⟩
  | exit lighter => exact .inr ⟨_, _, rfl, .exit lighter⟩

theorem step_fieldEnd {execution : Execution} (state : execution.parser.state = .headerField)
    (small : execution.parser.nread + 1 ≤ httpMaxHeaderSize) :
    execution.step 58 [] =
      .next ((execution.weigh (execution.parser.nread + 1)).updateState .headerValueDiscardWs).callbackData [] := by
  have colon : (token 58).isSome = false := by decide
  rw [step_header (by rw [state]; rfl) small, dispatch_headerField (by exact state), headerField_eq]
  simp only [List.takeWhile_cons, List.dropWhile_cons, colon, Bool.false_eq_true, if_false, List.length_nil,
    fieldChars_nil]
  exact countHeaderSize_small _ _ small

theorem counted_fieldEnd {execution : Execution} (state : execution.parser.state = .headerField)
    (other : token ch = none) (works : (execution.step ch []).Works) : ch = 58 := by
  have small := counted (by rw [state]; rfl) works.noticed
  rw [step_header (by rw [state]; rfl) small, dispatch_headerField (by exact state), headerField_eq,
    countHeaderSize_small _ _ (by simp [other, fieldChars_nil]; exact small)] at works
  simp only [List.dropWhile_cons, other, Option.isSome_none, Bool.false_eq_true, if_false] at works
  split at works
  next nothing => cases nothing
  next more colon =>
    cases colon
    rfl
  next => simp [fail, Progress.Works] at works

theorem fieldChars_sound {execution : Execution} {passed : Bytes} {nread : Nat}
    (state : execution.parser.state = .headerField) (sound : execution.Sound) :
    ((fieldChars passed execution).weigh nread).Sound where
  marked := by
    rw [show ((fieldChars passed execution).weigh nread).kind = execution.kind from kind_advance _ _,
      show ((fieldChars passed execution).weigh nread).parser.state = execution.parser.state from fieldChars_state _ _]
    exact sound.marked
  unread read := by
    rw [show ((fieldChars passed execution).weigh nread).parser.state = execution.parser.state from fieldChars_state _ _,
      state] at read
    simp at read

def fieldOver (after : Bytes) (execution : Execution) : Progress :=
  match after with
  | [] => .next execution []
  | 58 :: rest => .next (execution.updateState .headerValueDiscardWs).callbackData rest
  | ch :: rest => execution.fail .invalidHeaderToken (ch :: rest)

theorem fieldOver_fails (execution : Execution) {c : UInt8} (after : Bytes) (other : c ≠ 58) :
    fieldOver (c :: after) execution = execution.fail .invalidHeaderToken (c :: after) := by
  unfold fieldOver
  split
  next nothing => cases nothing
  next is => exact absurd (List.cons.inj is).1 other
  next is =>
    cases is
    rfl

theorem step_fieldFails {execution : Execution} (state : execution.parser.state = .headerField)
    (unlowered : token ch = none) (other : ch ≠ 58) (small : execution.parser.nread + 1 ≤ httpMaxHeaderSize) :
    execution.step ch [] = (execution.weigh (execution.parser.nread + 1)).fail .invalidHeaderToken [ch] := by
  rw [step_header (by rw [state]; rfl) small, dispatch_headerField (by exact state), headerField_eq]
  simp only [List.takeWhile_cons, List.dropWhile_cons, unlowered, Option.isSome_none, Bool.false_eq_true, if_false,
    List.length_nil, fieldChars_nil]
  exact countHeaderSize_small _ _ small

theorem Lighter.headerField {rest : Bytes} (lighter : one.Lighter other) (sound : other.Sound)
    (state : other.parser.state = .headerField) (noticed : (crawl (ch :: rest) other).Noticed) :
    Proceeds one other ch rest := by
  obtain ⟨nread, less, rfl⟩ := lighter
  have small : nread + 1 ≤ httpMaxHeaderSize := by
    have := counted (by rw [state]; rfl) (noticed_cons noticed)
    omega
  have begins : (other.weigh nread).step ch rest = (other.weigh (nread + 1)).headerField ch rest :=
    (step_header (by rw [show (other.weigh nread).parser.state = _ from state]; rfl) small).trans
      (dispatch_headerField state)
  unfold Proceeds
  rw [begins, headerField_eq, countHeaderSize_eq, fieldChars_weigh]
  have split := List.takeWhile_append_dropWhile (p := fun ch => (token ch).isSome) (l := ch :: rest)
  have tokens := List.all_takeWhile (p := fun ch => (token ch).isSome) (l := ch :: rest)
  have stops := List.head?_dropWhile_not (fun ch => (token ch).isSome) (ch :: rest)
  revert split tokens stops
  generalize (ch :: rest).takeWhile (fun ch => (token ch).isSome) = passed
  generalize (ch :: rest).dropWhile (fun ch => (token ch).isSome) = after
  intro split tokens stops
  have long : passed.length + after.length = rest.length + 1 := by
    rw [← List.length_append, split, List.length_cons]
  rw [← split] at noticed ⊢
  obtain ⟨bound, runs⟩ := crawl_fieldChars state tokens noticed
  rw [runs] at noticed ⊢
  have counts : ((fieldChars passed other).weigh (nread + 1)).parser.nread + passed.length = nread + 1 + passed.length :=
    rfl
  rw [counts]
  cases after with
  | nil =>
      have some : passed ≠ [] := by
        rintro rfl
        simp at long
      have := bound some
      have positive := List.length_pos_iff.2 some
      rw [if_neg (by omega)]
      refine .inl ⟨_, (fieldChars passed other).weigh (other.parser.nread + 2 * passed.length), [], rfl,
        ⟨nread + 1 + passed.length, ?_, rfl⟩, fieldChars_sound state sound, Nat.zero_le _, rfl⟩
      show _ ≤ other.parser.nread + 2 * passed.length
      omega
  | cons c after =>
      have unlowered : token c = none := by simpa using stops
      have same : ((fieldChars passed other).weigh (other.parser.nread + 2 * passed.length)).parser.state =
          .headerField := (fieldChars_state _ _).trans state
      have most := counted (by rw [same]; rfl) (noticed_cons noticed)
      by_cases colon : c = 58
      · subst colon
        have run := step_fieldEnd same most
        rw [show ((fieldChars passed other).weigh (other.parser.nread + 2 * passed.length)).parser.nread =
          other.parser.nread + 2 * passed.length from rfl] at most
        rw [if_neg (by omega), crawl_cons run]
        refine .inl ⟨_, _, after, rfl, ⟨nread + 1 + passed.length, ?_, ?_⟩, ?_, ?_, rfl⟩
        · rw [parser_callbackData]
          show _ ≤ other.parser.nread + 2 * passed.length + 1
          omega
        · rw [← callbackData_weigh]
          rfl
        · exact plain_sound (kind_callbackData _)
            (by rw [parser_callbackData]; exact (by decide : Plain .headerValueDiscardWs))
        · rw [List.length_cons] at long
          omega
      · have run := step_fieldFails same unlowered colon most
        have most : other.parser.nread + 2 * passed.length + 1 ≤ httpMaxHeaderSize := most
        rw [if_neg (by omega)]
        refine .inr ⟨_, _, fieldOver_fails _ after colon, ?_⟩
        simp only [crawl, run, fail]
        refine .exit ⟨nread + 1 + passed.length, ?_, rfl⟩
        show _ ≤ other.parser.nread + 2 * passed.length + 1
        omega

end Execution

/-! ### Header values -/

namespace Parser

theorem valueChar_weigh (ch : UInt8) (parser : Parser) (nread : Nat) :
    ({ parser with nread := nread } : Parser).valueChar ch =
      (parser.valueChar ch).map fun parser => { parser with nread := nread } := by
  obtain ⟨state, headerState⟩ := parser
  cases headerState with
  | transferEncodingChunked => by_cases blank : ch = 32 <;> simp [valueChar, blank, Except.map]
  | _ =>
      simp only [valueChar, apply_ite (Except.map _)]
      rfl

theorem scanValue_weigh (text : Bytes) (skip : Bool) (parser : Parser) (nread : Nat) :
    ({ parser with nread := nread } : Parser).scanValue skip text =
      ({ (parser.scanValue skip text).1 with nread := nread }, (parser.scanValue skip text).2) := by
  induction text generalizing skip parser with
  | nil => rfl
  | cons ch rest continued =>
      simp only [scanValue, valueChar_weigh]
      by_cases ended : ch = 13 ∨ ch = 10
      · simp only [ended, if_true]
      · simp only [ended, if_false]
        cases skip with
        | true => simp only [if_true, continued]
        | false =>
            simp only [Bool.false_eq_true, if_false]
            split
            · rfl
            · cases parser.valueChar ch with
              | error errno => rfl
              | ok next => simp only [Except.map, continued]

theorem valueChar_error {ch : UInt8} {parser : Parser} {errno : Errno} (failed : parser.valueChar ch = .error errno) :
    errno ≠ .ok := by
  revert failed
  simp only [valueChar]
  repeat' split
  all_goals
    intro failed
    cases failed
    try decide

/-- In `h_general` a character leaves the parser as it was, so that nothing depends on looking at the ones that the
search for the end of the value passes over. -/
theorem scanValue_cons {ch : UInt8} {skip : Bool} {parser next : Parser} (rest : Bytes) (inside : ¬(ch = 13 ∨ ch = 10))
    (valid : isHeaderChar ch = true) (read : parser.valueChar ch = .ok next)
    (general : skip = true → parser.headerState = .general) :
    ∃ skip', (skip' = true → next.headerState = .general) ∧
      parser.scanValue skip (ch :: rest) =
        ((next.scanValue skip' rest).1, ch :: (next.scanValue skip' rest).2.1, (next.scanValue skip' rest).2.2) := by
  have unchanged : parser.headerState = .general → next = parser := by
    intro is
    simp only [valueChar, is] at read
    exact (Except.ok.inj read).symm
  cases skip with
  | true =>
      have is := general rfl
      refine ⟨true, fun _ => by rw [unchanged is, is], ?_⟩
      simp [scanValue, inside, unchanged is]
  | false =>
      refine ⟨parser.headerState = .general, fun is => ?_, by simp [scanValue, inside, valid, read]⟩
      have is := of_decide_eq_true is
      rw [unchanged is, is]

end Parser

namespace Execution

variable {one other : Execution} {ch : UInt8}

def passValue (parser : Parser) (passed : Bytes) (execution : Execution) : Execution :=
  ({ execution with parser := parser } : Execution).advance passed

theorem passValue_cons (first last : Parser) (ch : UInt8) (passed : Bytes) (execution : Execution) (nread count : Nat) :
    (passValue { last with nread := nread } passed ((passValue first [ch] execution).weigh nread)).weigh count =
      (passValue last (ch :: passed) execution).weigh count := by
  obtain ⟨parser, mark, events⟩ := execution
  cases mark <;> simp [passValue, advance, weigh, update]

theorem dispatch_headerValue {execution : Execution} {rest : Bytes} (state : execution.parser.state = .headerValue) :
    execution.dispatch ch rest = execution.headerValue ch rest := by
  simp only [dispatch, state]

section headerValue

variable {execution : Execution} {next : Parser} {rest passed after : Bytes}

theorem headerValue_unended (scan : execution.parser.scanValue false (ch :: rest) = (next, passed, none, [])) :
    execution.headerValue ch rest =
      (passValue next passed execution).countHeaderSize passed.length [] fun execution => .next execution [] := by
  simp only [headerValue, scan]
  rfl

theorem headerValue_fails {errno : Errno}
    (scan : execution.parser.scanValue false (ch :: rest) = (next, passed, some errno, after)) :
    execution.headerValue ch rest = (passValue next passed execution).fail errno after := by
  simp only [headerValue, scan]
  rfl

theorem headerValue_return
    (scan : execution.parser.scanValue false (ch :: rest) = (next, passed, none, 13 :: after)) :
    execution.headerValue ch rest =
      ((passValue next passed execution).updateState .headerAlmostDone).callbackData.countHeaderSize passed.length
        (13 :: after) fun execution => .next execution after := by
  simp only [headerValue, scan]
  rfl

theorem headerValue_line (scan : execution.parser.scanValue false (ch :: rest) = (next, passed, none, 10 :: after)) :
    execution.headerValue ch rest =
      ((passValue next passed execution).updateState .headerAlmostDone).countHeaderSize passed.length (10 :: after)
        fun execution => .next (execution.callbackData.updateState .headerValueLws) after := by
  have ends : ∀ execution : Execution, execution.callbackData.headerAlmostDone 10 after =
      .next (execution.callbackData.updateState .headerValueLws) after := by
    intro execution
    have stays := execution.advance_callbackData [10]
    simp only [headerAlmostDone, ne_eq, not_true_eq_false, if_false, consume]
    exact congrArg (fun execution : Execution => Progress.next (execution.updateState .headerValueLws) after) stays
  simp only [headerValue, scan]
  rw [if_neg (by decide)]
  simp only [ends]
  rfl

theorem step_valueEnd (state : execution.parser.state = .headerValue) (ended : ch = 13 ∨ ch = 10)
    (small : execution.parser.nread + 1 ≤ httpMaxHeaderSize) :
    execution.step ch [] =
      if ch = 13 then .next ((execution.weigh (execution.parser.nread + 1)).updateState .headerAlmostDone).callbackData []
      else .next (((execution.weigh (execution.parser.nread + 1)).updateState .headerAlmostDone).callbackData.updateState
        .headerValueLws) [] := by
  rw [step_header (by rw [state]; rfl) small, dispatch_headerValue (by exact state)]
  have unpassed : passValue (execution.weigh (execution.parser.nread + 1)).parser []
      (execution.weigh (execution.parser.nread + 1)) = execution.weigh (execution.parser.nread + 1) := advance_nil _
  rcases ended with rfl | rfl
  · have counts : (((execution.weigh (execution.parser.nread + 1)).updateState .headerAlmostDone).callbackData).parser.nread +
        ([] : Bytes).length ≤ httpMaxHeaderSize := by
      rw [parser_callbackData]
      exact small
    rw [headerValue_return rfl, unpassed, countHeaderSize_small _ _ counts]
    rfl
  · rw [headerValue_line rfl, unpassed, countHeaderSize_small]
    · rfl
    · exact small

end headerValue

theorem step_valueChar {execution : Execution} {next : Parser} (state : execution.parser.state = .headerValue)
    (inside : ¬(ch = 13 ∨ ch = 10)) (valid : isHeaderChar ch = true) (read : execution.parser.valueChar ch = .ok next)
    (small : execution.parser.nread + 2 ≤ httpMaxHeaderSize) :
    execution.step ch [] = .next ((passValue next [ch] execution).weigh (execution.parser.nread + 2)) [] := by
  rw [step_header (by rw [state]; rfl) (by omega), dispatch_headerValue (by exact state)]
  have scan : execution.parser.scanValue false [ch] = (next, [ch], none, []) := by
    simp [Parser.scanValue, inside, valid, read]
  have scans := Parser.scanValue_weigh [ch] false execution.parser (execution.parser.nread + 1)
  rw [scan] at scans
  rw [headerValue_unended (by exact scans)]
  exact countHeaderSize_small _ _ small

theorem counted_valueChar {execution : Execution} (state : execution.parser.state = .headerValue)
    (inside : ¬(ch = 13 ∨ ch = 10)) (works : (execution.step ch []).Works) :
    ∃ next, isHeaderChar ch = true ∧ execution.parser.valueChar ch = .ok next ∧
      execution.parser.nread + 2 ≤ httpMaxHeaderSize := by
  have small := counted (by rw [state]; rfl) works.noticed
  rw [step_header (by rw [state]; rfl) small, dispatch_headerValue (by exact state)] at works
  have scans := Parser.scanValue_weigh [ch] false execution.parser (execution.parser.nread + 1)
  simp only [headerValue, weigh, parser_update, scans] at works
  simp only [Parser.scanValue, inside, if_false, Bool.false_eq_true] at works
  cases valid : isHeaderChar ch with
  | false => simp [valid, fail, Progress.Works] at works
  | true =>
      simp only [valid, Bool.not_true, Bool.false_eq_true, if_false] at works
      cases read : execution.parser.valueChar ch with
      | error errno =>
          simp only [read, fail, Progress.Works, parser_update] at works
          exact absurd works (Parser.valueChar_error read)
      | ok next =>
          simp only [read, countHeaderSize_eq] at works
          split at works
          · simp [fail, Progress.Works] at works
          next most => exact ⟨next, rfl, rfl, Nat.not_lt.1 most⟩

theorem step_valueFails {execution : Execution} {errno : Errno} (state : execution.parser.state = .headerValue)
    (small : execution.parser.nread + 1 ≤ httpMaxHeaderSize)
    (scan : execution.parser.scanValue false [ch] = (execution.parser, [], some errno, [ch])) :
    execution.step ch [] = (execution.weigh (execution.parser.nread + 1)).fail errno [ch] := by
  have scans := Parser.scanValue_weigh [ch] false execution.parser (execution.parser.nread + 1)
  rw [scan] at scans
  rw [step_header (by rw [state]; rfl) small, dispatch_headerValue (by exact state), headerValue_fails (by exact scans),
    passValue, advance_nil]
  rfl

theorem noticed_valueChar {execution : Execution} (state : execution.parser.state = .headerValue)
    (inside : ¬(ch = 13 ∨ ch = 10)) (noticed : (execution.step ch []).Noticed) :
    (∃ next, isHeaderChar ch = true ∧ execution.parser.valueChar ch = .ok next ∧
        execution.parser.nread + 2 ≤ httpMaxHeaderSize) ∨
      ∃ errno, errno ≠ .ok ∧ execution.parser.headerState ≠ .general ∧
        ∀ rest, execution.parser.scanValue false (ch :: rest) = (execution.parser, [], some errno, ch :: rest) := by
  have small := counted (by rw [state]; rfl) noticed
  cases valid : isHeaderChar ch with
  | false =>
      have scan (rest : Bytes) : execution.parser.scanValue false (ch :: rest) =
          (execution.parser, [], some .invalidHeaderToken, ch :: rest) := by
        simp [Parser.scanValue, inside, valid]
      rw [step_valueFails state small (scan [])] at noticed
      exact .inr ⟨_, by decide, noticed.2 rfl state, scan⟩
  | true =>
      cases read : execution.parser.valueChar ch with
      | error errno =>
          have scan (rest : Bytes) : execution.parser.scanValue false (ch :: rest) =
              (execution.parser, [], some errno, ch :: rest) := by
            simp [Parser.scanValue, inside, valid, read]
          refine .inr ⟨_, Parser.valueChar_error read, fun general => ?_, scan⟩
          simp [Parser.valueChar, general] at read
      | ok next =>
          refine .inl ⟨next, rfl, rfl, ?_⟩
          have scans := Parser.scanValue_weigh [ch] false execution.parser (execution.parser.nread + 1)
          rw [step_header (by rw [state]; rfl) small, dispatch_headerValue (by exact state)] at noticed
          simp only [headerValue, weigh, parser_update, scans] at noticed
          simp only [Parser.scanValue, inside, if_false, Bool.false_eq_true, valid, Bool.not_true, read,
            countHeaderSize_eq] at noticed
          split at noticed
          · simp [fail, Progress.Noticed, Parser.Noticed] at noticed
          next most => exact Nat.not_lt.1 most

theorem crawl_value {text : Bytes} {skip : Bool} {execution : Execution} (state : execution.parser.state = .headerValue)
    (general : skip = true → execution.parser.headerState = .general) (noticed : (crawl text execution).Noticed) :
    ∃ next passed error after, execution.parser.scanValue skip text = (next, passed, error, after) ∧
      text = passed ++ after ∧ next.state = .headerValue ∧
      (passed ≠ [] → execution.parser.nread + 2 * passed.length ≤ httpMaxHeaderSize) ∧
      match error with
      | none => (∀ c ∈ after.head?, c = 13 ∨ c = 10) ∧ crawl text execution =
          crawl after ((passValue next passed execution).weigh (execution.parser.nread + 2 * passed.length))
      | some errno => crawl text execution =
          ((passValue next passed execution).weigh (execution.parser.nread + 2 * passed.length + 1)).fail errno after := by
  induction text generalizing skip execution with
  | nil =>
      refine ⟨execution.parser, [], none, [], rfl, rfl, state, fun some => absurd rfl some, by simp, ?_⟩
      rw [passValue, advance_nil]
      rfl
  | cons ch rest continued =>
      by_cases ended : ch = 13 ∨ ch = 10
      · refine ⟨execution.parser, [], none, ch :: rest, by simp [Parser.scanValue, ended], rfl, state,
          fun some => absurd rfl some, by simpa using ended, ?_⟩
        rw [passValue, advance_nil]
        rfl
      rcases noticed_valueChar state ended (noticed_cons noticed) with
        ⟨next, valid, read, small⟩ | ⟨errno, -, special, scan⟩
      · have run := step_valueChar state ended valid read small
        obtain ⟨skip', general', scans⟩ := Parser.scanValue_cons rest ended valid read general
        rw [crawl_cons run] at noticed ⊢
        have same : ((passValue next [ch] execution).weigh (execution.parser.nread + 2)).parser.state = .headerValue :=
          (Parser.valueChar_state read).trans state
        obtain ⟨_, passed, error, after, scan, rfl, ends, bound, runs⟩ := continued same general' noticed
        have weighed := Parser.scanValue_weigh (passed ++ after) skip' next (execution.parser.nread + 2)
        rw [show ((passValue next [ch] execution).weigh (execution.parser.nread + 2)).parser =
          { next with nread := execution.parser.nread + 2 } from rfl, weighed] at scan
        simp only [Prod.mk.injEq] at scan
        obtain ⟨rfl, rest⟩ := scan
        have count : execution.parser.nread + 2 + 2 * passed.length = execution.parser.nread + 2 * (passed.length + 1) := by
          omega
        refine ⟨(next.scanValue skip' (passed ++ after)).1, ch :: passed, error, after, ?_, rfl, ends, fun _ => ?_, ?_⟩
        · rw [scans, rest]
        · by_cases last : passed = []
          · simp only [last, List.length_singleton]
            omega
          · rw [List.length_cons, ← count]
            exact bound last
        · cases error with
          | none =>
              obtain ⟨stops, runs⟩ := runs
              refine ⟨stops, ?_⟩
              rw [runs, List.length_cons, ← count, passValue_cons]
              rfl
          | some errno =>
              rw [runs, List.length_cons, ← count, passValue_cons]
              rfl
      · obtain rfl : skip = false := by
          cases skip with
          | false => rfl
          | true => exact absurd (general rfl) special
        have run := step_valueFails state (counted (by rw [state]; rfl) (noticed_cons noticed)) (scan [])
        refine ⟨execution.parser, [], some errno, ch :: rest, scan rest, rfl, state, fun some => absurd rfl some, ?_⟩
        simp only [crawl, run, fail]
        rw [passValue, advance_nil]
        rfl

theorem passValue_sound {execution : Execution} {next : Parser} {passed : Bytes} {nread : Nat}
    (state : execution.parser.state = .headerValue) (ends : next.state = .headerValue) (sound : execution.Sound) :
    ((passValue next passed execution).weigh nread).Sound where
  marked := by
    rw [show ((passValue next passed execution).weigh nread).kind = execution.kind from kind_advance _ _,
      show ((passValue next passed execution).weigh nread).parser.state = execution.parser.state from ends.trans state.symm]
    exact sound.marked
  unread read := by
    rw [show ((passValue next passed execution).weigh nread).parser.state = .headerValue from ends] at read
    simp at read

theorem Lighter.headerValue {rest : Bytes} (lighter : one.Lighter other) (sound : other.Sound)
    (state : other.parser.state = .headerValue) (noticed : (crawl (ch :: rest) other).Noticed) :
    Proceeds one other ch rest := by
  obtain ⟨nread, less, rfl⟩ := lighter
  have small : nread + 1 ≤ httpMaxHeaderSize := by
    have := counted (by rw [state]; rfl) (noticed_cons noticed)
    omega
  have begins : (other.weigh nread).step ch rest = (other.weigh (nread + 1)).headerValue ch rest :=
    (step_header (by rw [show (other.weigh nread).parser.state = _ from state]; rfl) small).trans
      (dispatch_headerValue state)
  obtain ⟨next, passed, error, after, scan, split, ends, bound, runs⟩ :=
    crawl_value state (fun skipped : false = true => absurd skipped Bool.false_ne_true) noticed
  have scans : (other.weigh (nread + 1)).parser.scanValue false (ch :: rest) =
      ({ next with nread := nread + 1 }, passed, error, after) := by
    have weighed := Parser.scanValue_weigh (ch :: rest) false other.parser (nread + 1)
    rw [scan] at weighed
    exact weighed
  have long : passed.length + after.length = rest.length + 1 := by
    rw [← List.length_append, ← split, List.length_cons]
  unfold Proceeds
  rw [begins]
  cases error with
  | some errno =>
      refine .inr ⟨_, _, headerValue_fails scans, ?_⟩
      rw [runs]
      have heavier : nread + 1 ≤ other.parser.nread + 2 * passed.length + 1 := by omega
      exact .exit ⟨nread + 1, heavier, rfl⟩
  | none =>
      obtain ⟨stops, runs⟩ := runs
      rw [runs] at noticed ⊢
      cases after with
      | nil =>
          have some : passed ≠ [] := by
            rintro rfl
            simp at long
          have := bound some
          have positive := List.length_pos_iff.2 some
          have counts : (passValue { next with nread := nread + 1 } passed (other.weigh (nread + 1))).parser.nread +
              passed.length ≤ httpMaxHeaderSize := by
            show nread + 1 + passed.length ≤ httpMaxHeaderSize
            omega
          rw [headerValue_unended scans, countHeaderSize_small _ _ counts]
          refine .inl ⟨_, (passValue next passed other).weigh (other.parser.nread + 2 * passed.length), [], rfl,
            ⟨nread + 1 + passed.length, ?_, rfl⟩, passValue_sound state ends sound, Nat.zero_le _, rfl⟩
          show _ ≤ other.parser.nread + 2 * passed.length
          omega
      | cons c after =>
          have ended := stops c rfl
          have within : ((passValue next passed other).weigh (other.parser.nread + 2 * passed.length)).parser.state =
              .headerValue := ends
          have most := counted (by rw [within]; rfl) (noticed_cons noticed)
          have run := step_valueEnd within ended most
          have most : other.parser.nread + 2 * passed.length + 1 ≤ httpMaxHeaderSize := most
          have counts : nread + 1 + passed.length ≤ httpMaxHeaderSize := by omega
          have heavier : nread + 1 + passed.length ≤ other.parser.nread + 2 * passed.length + 1 := by omega
          have shorter : after.length ≤ rest.length := by
            rw [List.length_cons] at long
            omega
          rcases ended with rfl | rfl
          · rw [if_pos rfl] at run
            rw [headerValue_return scans, crawl_cons run, countHeaderSize_small]
            · refine .inl ⟨_, _, after, rfl, ⟨nread + 1 + passed.length, ?_, ?_⟩,
                plain_sound (kind_callbackData _) (by rw [parser_callbackData]; exact (by decide : Plain .headerAlmostDone)),
                shorter, rfl⟩
              · rw [parser_callbackData]
                exact heavier
              · simp only [← callbackData_weigh, parser_callbackData]
                rfl
            · rw [parser_callbackData]
              exact counts
          · rw [if_neg (by decide)] at run
            rw [headerValue_line scans, crawl_cons run, countHeaderSize_small]
            · refine .inl ⟨_, _, after, rfl, ⟨nread + 1 + passed.length, ?_, ?_⟩, ?_, shorter, rfl⟩
              · simp only [updateState, parser_update, parser_callbackData]
                exact heavier
              · have flush := ((passValue next passed other).updateState .headerAlmostDone).callbackData_weigh
                calc
                  _ = (((passValue next passed other).updateState .headerAlmostDone).callbackData.weigh
                        (nread + 1 + passed.length)).updateState .headerValueLws :=
                      congrArg (updateState .headerValueLws) (flush (nread + 1 + passed.length))
                  _ = ((((passValue next passed other).updateState .headerAlmostDone).callbackData.weigh
                        (other.parser.nread + 2 * passed.length + 1)).updateState .headerValueLws).weigh
                          (nread + 1 + passed.length) := rfl
                  _ = _ := by rw [← flush]; rfl
              · refine plain_sound ?_ (by decide : Plain .headerValueLws)
                exact kind_callbackData _
            · exact counts

/-! ### Bodies -/

def passText (text : Bytes) (execution : Execution) : Execution :=
  ((execution.setMark .body).update fun parser =>
    { parser with contentLength := parser.contentLength - text.length }).advance text

theorem passText_append (text more : Bytes) (execution : Execution) :
    passText (text ++ more) execution = passText more (passText text execution) := by
  obtain ⟨parser, mark, events⟩ := execution
  cases mark <;> simp [passText, setMark, update, advance, Nat.sub_sub]

theorem passText_weigh (text : Bytes) (execution : Execution) (nread : Nat) :
    passText text (execution.weigh nread) = (passText text execution).weigh nread := by
  rw [passText, setMark_weigh]
  rfl

theorem passText_leaves (text : Bytes) (execution : Execution) :
    (passText text execution).parser =
      { execution.parser with contentLength := execution.parser.contentLength - text.length } := by
  simp [passText]

theorem passBody_eq (here : Bytes) (execution : Execution) :
    execution.passBody here =
      (passText (here.take execution.parser.contentLength) execution, here.drop execution.parser.contentLength) := by
  simp only [passBody, passText, List.length_take]
  by_cases long : execution.parser.contentLength ≤ here.length
  · rw [Nat.min_eq_left long]
  · have short : here.length ≤ execution.parser.contentLength := by omega
    rw [Nat.min_eq_right short, List.take_length, List.drop_length, List.take_of_length_le short,
      List.drop_of_length_le short]

theorem inBody_kind {execution : Execution}
    (state : execution.parser.state = .bodyIdentity ∨ execution.parser.state = .chunkData ∨
      execution.parser.state = .bodyIdentityEof) (sound : execution.Sound) :
    (execution.setMark .body).kind = some .body := by
  have marked := sound.marked
  rw [kind_setMark]
  rcases state with state | state | state
  all_goals
    rw [state] at marked
    simp only [ParserState.admits, Bool.or_eq_true, beq_iff_eq] at marked
    rcases marked with none | body
    · rw [none]
      rfl
    · rw [body]
      rfl

theorem passText_kind {execution : Execution} {text : Bytes}
    (state : execution.parser.state = .bodyIdentity ∨ execution.parser.state = .chunkData ∨
      execution.parser.state = .bodyIdentityEof) (sound : execution.Sound) :
    (passText text execution).kind = some .body := by
  rw [passText, kind_advance]
  exact inBody_kind state sound

theorem passText_sound {execution : Execution} {text : Bytes}
    (state : execution.parser.state = .bodyIdentity ∨ execution.parser.state = .chunkData)
    (short : text.length < execution.parser.contentLength) (sound : execution.Sound) :
    (passText text execution).Sound where
  marked := by
    rw [passText_kind (state.imp_right .inl) sound, passText_leaves]
    rcases state with state | state <;> simp [state, ParserState.admits]
  unread _ := by
    rw [passText_leaves]
    simp only
    omega

theorem step_inBody {execution : Execution} {rest : Bytes}
    (state : execution.parser.state = .bodyIdentity ∨ execution.parser.state = .chunkData)
    (short : (ch :: rest).length < execution.parser.contentLength) :
    execution.step ch rest = .next (passText (ch :: rest) execution) [] := by
  have more : (passText (ch :: rest) execution).parser.contentLength ≠ 0 := by
    rw [passText_leaves]
    simp only
    omega
  have takes : (ch :: rest).take execution.parser.contentLength = ch :: rest := List.take_of_length_le (by omega)
  have drops : (ch :: rest).drop execution.parser.contentLength = [] := List.drop_of_length_le (by omega)
  rcases state with state | state
  · simp only [step, state, ParserState.parsingHeader, Bool.false_eq_true, if_false, dispatch, bodyIdentity, passBody_eq,
      takes, drops, more]
  · simp only [step, state, ParserState.parsingHeader, Bool.false_eq_true, if_false, dispatch, chunkData, passBody_eq,
      takes, drops, more]

theorem crawl_inBody {execution : Execution} {text : Bytes} (after : Bytes)
    (state : execution.parser.state = .bodyIdentity ∨ execution.parser.state = .chunkData)
    (some : text ≠ []) (short : text.length < execution.parser.contentLength) :
    crawl (text ++ after) execution = crawl after (passText text execution) := by
  induction text generalizing execution with
  | nil => exact absurd rfl some
  | cons ch text continued =>
      have one : [ch].length < execution.parser.contentLength := by
        rw [List.length_cons] at short
        rw [List.length_singleton]
        omega
      rw [List.cons_append, crawl_cons (step_inBody state one)]
      cases text with
      | nil => rfl
      | cons c text =>
          rw [continued, show ch :: c :: text = [ch] ++ (c :: text) from rfl, passText_append]
          · rw [passText_leaves]
            exact state
          · exact List.cons_ne_nil _ _
          · rw [passText_leaves]
            simp only [List.length_cons, List.length_nil] at short ⊢
            omega

theorem body_split {here : Bytes} {length : Nat} (positive : 0 < length) (long : length ≤ here.length) :
    ∃ front last after, here = front ++ last :: after ∧ front.length + 1 = length ∧
      here.take length = front ++ [last] ∧ here.drop length = after := by
  obtain ⟨length, rfl⟩ := Nat.exists_eq_succ_of_ne_zero (Nat.pos_iff_ne_zero.1 positive)
  refine ⟨here.take length, here[length], here.drop (length + 1), ?_, ?_, ?_, rfl⟩
  · rw [← List.drop_eq_getElem_cons, List.take_append_drop]
  · rw [List.length_take, Nat.min_eq_left (by omega)]
  · exact (List.take_append_getElem (by omega)).symm

theorem messageDone_callbackData (execution : Execution) (ch : UInt8) (rest : Bytes) :
    execution.callbackData.messageDone ch rest =
      if execution.parser.upgrade then .exit execution.callbackData.finish rest
      else .next execution.callbackData.finish rest := by
  have stays : execution.callbackData.finish.advance [ch] = execution.callbackData.finish :=
    congrArg finish (execution.advance_callbackData [ch])
  have same : execution.callbackData.finish.parser.upgrade = execution.parser.upgrade := by simp [finish]
  simp only [messageDone, consume, same, stays]

theorem crawl_bodyEnd {execution : Execution} {front : Bytes} (last : UInt8) (after : Bytes)
    (state : execution.parser.state = .bodyIdentity ∨ execution.parser.state = .chunkData)
    (length : front.length + 1 = execution.parser.contentLength) :
    ∃ before, crawl (front ++ last :: after) execution = crawl (last :: after) before ∧
      before.parser = { execution.parser with contentLength := 1 } ∧
      passText [last] before = passText (front ++ [last]) execution := by
  by_cases none : front = []
  · subst none
    refine ⟨execution, rfl, ?_, rfl⟩
    rw [show 1 = execution.parser.contentLength from length]
  · refine ⟨passText front execution, crawl_inBody _ state none (by omega), ?_, (passText_append _ _ _).symm⟩
    rw [passText_leaves, show execution.parser.contentLength - front.length = 1 by omega]

def endBody (text : Bytes) (execution : Execution) : Execution :=
  ((passText text execution).updateState .messageDone).callbackData.finish

theorem endBody_weigh (text : Bytes) (execution : Execution) (nread : Nat) :
    endBody text (execution.weigh nread) = (endBody text execution).weigh nread := by
  have flush := ((passText text execution).updateState .messageDone).callbackData_weigh nread
  rw [endBody, passText_weigh]
  exact congrArg finish flush

theorem step_bodyEnd {execution : Execution} {text rest after : Bytes} (state : execution.parser.state = .bodyIdentity)
    (takes : (ch :: rest).take execution.parser.contentLength = text)
    (drops : (ch :: rest).drop execution.parser.contentLength = after)
    (length : text.length = execution.parser.contentLength) :
    execution.step ch rest =
      if execution.parser.upgrade then .exit (endBody text execution) after else .next (endBody text execution) after := by
  have ended : (passText text execution).parser.contentLength = 0 := by
    rw [passText_leaves, length, Nat.sub_self]
  have upgrade : ((passText text execution).updateState .messageDone).parser.upgrade = execution.parser.upgrade := by
    rw [updateState, parser_update, passText_leaves]
  simp only [step, state, ParserState.parsingHeader, Bool.false_eq_true, if_false, dispatch, bodyIdentity, passBody_eq,
    takes, drops, ended, if_true, messageDone_callbackData, upgrade]
  rfl

theorem Lighter.bodyIdentity {rest : Bytes} (lighter : one.Lighter other) (sound : other.Sound)
    (state : other.parser.state = .bodyIdentity) : Proceeds one other ch rest := by
  have positive := sound.unread (.inl state)
  obtain ⟨nread, less, rfl⟩ := lighter
  by_cases short : (ch :: rest).length < other.parser.contentLength
  · apply Or.inl
    refine ⟨_, _, [], step_inBody (.inl state) short, ⟨nread, ?_, passText_weigh _ _ _⟩,
      passText_sound (.inl state) short sound, Nat.zero_le _, ?_⟩
    · rw [passText_leaves]
      exact less
    · have runs := crawl_inBody [] (.inl state) (List.cons_ne_nil ch rest) short
      rwa [List.append_nil] at runs
  · obtain ⟨front, last, after, split, length, takes, drops⟩ := body_split positive (Nat.not_lt.1 short)
    obtain ⟨before, runs, same, passes⟩ := crawl_bodyEnd last after (.inl state) length
    have whole : (front ++ [last]).length = other.parser.contentLength := by
      rw [List.length_append]
      exact length
    have fast : (other.weigh nread).step ch rest =
        if other.parser.upgrade then .exit (endBody (front ++ [last]) (other.weigh nread)) after
        else .next (endBody (front ++ [last]) (other.weigh nread)) after := step_bodyEnd state takes drops whole
    have slow : before.step last [] = if other.parser.upgrade then .exit (endBody (front ++ [last]) other) []
        else .next (endBody (front ++ [last]) other) [] := by
      have upgrade : other.parser.upgrade = before.parser.upgrade := by rw [same]
      rw [show endBody (front ++ [last]) other = endBody [last] before by simp only [endBody, passes], upgrade]
      apply step_bodyEnd <;> rw [same]
      · exact state
      · rfl
      · rfl
      · rfl
    have lighter : (endBody (front ++ [last]) (other.weigh nread)).Lighter (endBody (front ++ [last]) other) := by
      refine ⟨nread, ?_, endBody_weigh _ _ _⟩
      simpa [endBody, finish, updateState, passText_leaves] using less
    unfold Proceeds
    rw [fast, split, runs]
    cases upgrade : other.parser.upgrade with
    | true =>
        simp only [upgrade, if_true] at slow
        simp only [crawl, slow]
        exact .inr ⟨_, _, rfl, .exit lighter⟩
    | false =>
        simp only [upgrade] at slow
        refine .inl ⟨_, _, after, rfl, lighter, finish_sound (kind_callbackData _), ?_, crawl_cons slow⟩
        have := congrArg List.length split
        simp only [List.length_cons, List.length_append] at this
        omega

theorem step_chunkEnd {execution : Execution} {text rest after : Bytes} (state : execution.parser.state = .chunkData)
    (takes : (ch :: rest).take execution.parser.contentLength = text)
    (drops : (ch :: rest).drop execution.parser.contentLength = after)
    (length : text.length = execution.parser.contentLength) :
    execution.step ch rest = .next ((passText text execution).updateState .chunkDataAlmostDone) after := by
  have ended : (passText text execution).parser.contentLength = 0 := by
    rw [passText_leaves, length, Nat.sub_self]
  simp only [step, state, ParserState.parsingHeader, Bool.false_eq_true, if_false, dispatch, chunkData, passBody_eq,
    takes, drops, ended, if_true]

theorem Lighter.chunkData {rest : Bytes} (lighter : one.Lighter other) (sound : other.Sound)
    (state : other.parser.state = .chunkData) : Proceeds one other ch rest := by
  have positive := sound.unread (.inr state)
  obtain ⟨nread, less, rfl⟩ := lighter
  apply Or.inl
  by_cases short : (ch :: rest).length < other.parser.contentLength
  · refine ⟨_, _, [], step_inBody (.inr state) short, ⟨nread, ?_, passText_weigh _ _ _⟩,
      passText_sound (.inr state) short sound, Nat.zero_le _, ?_⟩
    · rw [passText_leaves]
      exact less
    · have runs := crawl_inBody [] (.inr state) (List.cons_ne_nil ch rest) short
      rwa [List.append_nil] at runs
  · obtain ⟨front, last, after, split, length, takes, drops⟩ := body_split positive (Nat.not_lt.1 short)
    obtain ⟨before, runs, same, passes⟩ := crawl_bodyEnd last after (.inr state) length
    have whole : (front ++ [last]).length = other.parser.contentLength := by
      rw [List.length_append]
      exact length
    have slow : before.step last [] = .next ((passText (front ++ [last]) other).updateState .chunkDataAlmostDone) [] := by
      rw [← passes]
      apply step_chunkEnd <;> rw [same]
      · exact state
      · rfl
      · rfl
      · rfl
    have fast : (other.weigh nread).step ch rest =
        .next ((passText (front ++ [last]) (other.weigh nread)).updateState .chunkDataAlmostDone) after :=
      step_chunkEnd state takes drops whole
    refine ⟨_, (passText (front ++ [last]) other).updateState .chunkDataAlmostDone, after, fast, ⟨nread, ?_, ?_⟩,
      ⟨?_, by simp [updateState]⟩, ?_, ?_⟩
    · simp only [updateState, parser_update, passText_leaves]
      exact less
    · rw [passText_weigh]
      rfl
    · rw [show ((passText (front ++ [last]) other).updateState .chunkDataAlmostDone).kind = some .body from
        passText_kind (.inr (.inl state)) sound]
      rfl
    · have := congrArg List.length split
      simp only [List.length_cons, List.length_append] at this
      omega
    · rw [split, runs]
      exact crawl_cons slow

theorem step_untilEof {execution : Execution} (rest : Bytes) (state : execution.parser.state = .bodyIdentityEof) :
    execution.step ch rest = .next ((execution.setMark .body).advance (ch :: rest)) [] := by
  simp only [step, state, ParserState.parsingHeader, Bool.false_eq_true, if_false, dispatch]

theorem crawl_untilEof {execution : Execution} (text : Bytes) (state : execution.parser.state = .bodyIdentityEof) :
    crawl text ((execution.setMark .body).advance [ch]) = .next ((execution.setMark .body).advance (ch :: text)) [] := by
  have marked : ∀ text, ((execution.setMark .body).advance text).setMark .body = (execution.setMark .body).advance text := by
    obtain ⟨parser, mark, events⟩ := execution
    cases mark <;> exact fun text => rfl
  have runs : ∀ passed, crawl text ((execution.setMark .body).advance passed) =
      .next ((execution.setMark .body).advance (passed ++ text)) [] := by
    induction text with
    | nil =>
        intro passed
        rw [List.append_nil]
        rfl
    | cons c text continued =>
        intro passed
        rw [crawl_cons (step_untilEof [] (by simpa using state)), marked, advance_append, continued, List.append_assoc,
          List.singleton_append]
  exact runs [ch]

theorem Lighter.bodyIdentityEof {rest : Bytes} (lighter : one.Lighter other) (sound : other.Sound)
    (state : other.parser.state = .bodyIdentityEof) : Proceeds one other ch rest := by
  obtain ⟨nread, less, rfl⟩ := lighter
  refine .inl ⟨_, (other.setMark .body).advance (ch :: rest), [], step_untilEof rest state, ⟨nread, ?_, ?_⟩,
    ⟨?_, by simp [state]⟩, Nat.zero_le _, ?_⟩
  · simpa using less
  · rw [setMark_weigh]
    rfl
  · rw [kind_advance, inBody_kind (.inr (.inr state)) sound, parser_advance, parser_setMark, state]
    rfl
  · rw [crawl_cons (step_untilEof [] state), crawl_untilEof rest state]
    rfl

/-! ### The whole loop -/

theorem Lighter.proceeds {rest : Bytes} (lighter : one.Lighter other) (sound : other.Sound)
    (noticed : (crawl (ch :: rest) other).Noticed) : Proceeds one other ch rest := by
  cases state : other.parser.state with
  | headerField => exact lighter.headerField sound state noticed
  | headerValue => exact lighter.headerValue sound state noticed
  | bodyIdentity => exact lighter.bodyIdentity sound state
  | chunkData => exact lighter.chunkData sound state
  | bodyIdentityEof => exact lighter.bodyIdentityEof sound state
  | _ => exact lighter.single sound (by rw [state]; rfl) noticed

end Execution

def Progress.settle : Progress → Execution × Bytes
  | .next execution rest => (execution.callbackData, rest)
  | .exit execution rest => (execution, rest)

namespace Execution

variable {one other : Execution}

/-- The loop, which looks ahead, does what it would do byte by byte, as long as nothing is wrong byte by byte. -/
theorem Lighter.loop {turns : Nat} {data : Bytes} (enough : data.length ≤ turns) (lighter : one.Lighter other)
    (sound : other.Sound) (noticed : (crawl data other).Noticed) :
    ∃ ended : Progress, ended.Lighter (crawl data other) ∧ loop turns data one = ended.settle := by
  induction turns generalizing data one other with
  | zero =>
      obtain rfl := List.length_eq_zero_iff.1 (Nat.le_zero.1 enough)
      exact ⟨.next one [], .next lighter, rfl⟩
  | succ turns continued =>
      cases data with
      | nil => exact ⟨.next one [], .next lighter, rfl⟩
      | cons ch rest =>
          rw [List.length_cons] at enough
          simp only [Execution.loop]
          rcases lighter.proceeds sound noticed with
            ⟨one', other', rest', run, lighter', sound', shorter, runs⟩ | ⟨one', left, run, ended⟩
          · rw [run]
            rw [runs] at noticed ⊢
            exact continued (by omega) lighter' sound' noticed
          · rw [run]
            exact ⟨_, ended, rfl⟩

end Execution

end IotClient.Net
