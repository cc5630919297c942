import IotClient.Proof.HttpResponse

namespace IotClient.Net

/-! ## The count of header bytes -/

def Execution.weigh (nread : Nat) (execution : Execution) : Execution :=
  execution.update fun parser => { parser with nread := nread }

namespace Progress

def weigh (nread : Nat) : Progress → Progress
  | .next execution rest => .next (execution.weigh nread) rest
  | .exit execution rest => .exit (execution.weigh nread) rest

def append (more : Bytes) : Progress → Progress
  | .next execution _ => .next execution more
  | .exit execution rest => .exit execution (rest ++ more)

end Progress

def ParserState.single : ParserState → Bool
  | .headerField | .headerValue | .bodyIdentity | .bodyIdentityEof | .chunkData => false
  | _ => true

theorem Parser.headerOver_weigh (parser : Parser) (nread : Nat) :
    ({ parser with nread := nread } : Parser).headerOver = { parser.headerOver with nread := nread } := by
  obtain ⟨state, headerState⟩ := parser
  cases headerState <;> rfl

theorem Parser.valueStart_weigh (ch : UInt8) (parser : Parser) (nread : Nat) :
    ({ parser with nread := nread } : Parser).valueStart ch =
      (parser.valueStart ch).map fun parser => { parser with nread := nread } := by
  obtain ⟨state, headerState⟩ := parser
  cases headerState with
  | contentLength =>
      simp only [valueStart, apply_ite (Except.map _)]
      rfl
  | _ => rfl

namespace Execution

variable (execution : Execution) (ch : UInt8) (rest : Bytes) (nread : Nat)

theorem countHeaderSize_eq (count : Nat) (continued : Execution → Progress) :
    execution.countHeaderSize count rest continued =
      if execution.parser.nread + count > httpMaxHeaderSize then
        (execution.weigh (execution.parser.nread + count)).fail .headerOverflow rest
      else continued (execution.weigh (execution.parser.nread + count)) := rfl

theorem countHeaderSize_small {count : Nat} {continued : Execution → Progress}
    (small : execution.parser.nread + count ≤ httpMaxHeaderSize) :
    execution.countHeaderSize count rest continued = continued (execution.weigh (execution.parser.nread + count)) := by
  rw [countHeaderSize_eq, if_neg (Nat.not_lt.2 small)]

theorem setMark_weigh (mark : Mark) : (execution.weigh nread).setMark mark = (execution.setMark mark).weigh nread := by
  obtain ⟨parser, marked, events⟩ := execution
  cases marked <;> rfl

theorem callbackData_weigh : (execution.weigh nread).callbackData = execution.callbackData.weigh nread := by
  obtain ⟨parser, marked, events⟩ := execution
  cases marked with
  | none => rfl
  | some marked => cases marked with | mk mark text => cases mark <;> rfl

theorem messageDone_weigh :
    (execution.weigh nread).messageDone ch rest = (execution.messageDone ch rest).weigh nread := by
  simp only [messageDone, apply_ite (Progress.weigh nread)]
  rfl

def Weighs (turn : Execution → Progress) (execution : Execution) : Prop :=
  (∀ nread, turn (execution.weigh nread) = (turn execution).weigh nread) ∨
    ∀ nread, turn (execution.weigh nread) = turn execution

theorem headersDone_weighs : Weighs (headersDone ch rest) execution := by
  by_cases ended : ch = 10
  · subst ended
    exact .inr fun nread => rfl
  · apply Or.inl
    intro nread
    simp only [headersDone, ne_eq, ended, not_false_eq_true, if_true]
    rfl

theorem headersAlmostDone_weighs : Weighs (headersAlmostDone ch rest) execution := by
  by_cases ended : ch = 10
  · subst ended
    cases trailing : execution.parser.flags.trailing with
    | true =>
        apply Or.inl
        intro nread
        simp only [headersAlmostDone, weigh, parser_update, trailing, ne_eq, not_true_eq_false, if_false, if_true]
        exact messageDone_weigh ((execution.updateState .messageDone).notify .chunkComplete) 10 rest nread
    | false =>
        cases both : execution.parser.flags.chunked && execution.parser.flags.contentLength with
        | true =>
            apply Or.inl
            intro nread
            simp only [headersAlmostDone, weigh, parser_update, trailing, both]
            rfl
        | false =>
            apply Or.inr
            intro nread
            simp only [headersAlmostDone, weigh, parser_update, trailing, both]
            rfl
  · apply Or.inl
    intro nread
    simp only [headersAlmostDone, ne_eq, ended, not_false_eq_true, if_true]
    rfl

theorem headerFieldStart_weighs : Weighs (headerFieldStart ch rest) execution := by
  by_cases returned : ch = 13
  · subst returned
    exact .inl fun nread => rfl
  by_cases ended : ch = 10
  · subst ended
    exact headersAlmostDone_weighs (execution.updateState .headersAlmostDone) 10 rest
  apply Or.inl
  intro nread
  simp only [headerFieldStart, returned, ended, if_false]
  cases token ch with
  | none => rfl
  | some c =>
      rw [setMark_weigh]
      rfl

theorem headerValueStart_weigh :
    (execution.weigh nread).headerValueStart ch rest = (execution.headerValueStart ch rest).weigh nread := by
  have started := Parser.valueStart_weigh ch execution.parser nread
  simp only [headerValueStart, setMark_weigh, parser_setMark]
  simp only [weigh, parser_update, parser_setMark, started]
  cases execution.parser.valueStart ch <;> rfl

theorem headerValueLws_weighs : Weighs (headerValueLws ch rest) execution := by
  by_cases blank : ch = 32 ∨ ch = 9
  · apply Or.inl
    intro nread
    simp only [headerValueLws, blank, if_true]
    exact headerValueStart_weigh (execution.updateState .headerValueStart) ch rest nread
  · simp only [Weighs, headerValueLws, blank, if_false]
    have ends : ∀ nread, ((execution.weigh nread).update Parser.headerOver).updateState .headerFieldStart =
        ((execution.update Parser.headerOver).updateState .headerFieldStart).weigh nread := by
      intro nread
      simp only [weigh, update, updateState, Parser.headerOver_weigh]
    simp only [ends]
    exact headerFieldStart_weighs ((execution.update Parser.headerOver).updateState .headerFieldStart) ch rest

theorem headerValueDiscardLws_weighs : Weighs (headerValueDiscardLws ch rest) execution := by
  by_cases blank : ch = 32 ∨ ch = 9
  · apply Or.inl
    intro nread
    simp only [headerValueDiscardLws, blank, if_true]
    rfl
  · simp only [Weighs, headerValueDiscardLws, blank, if_false]
    have ends : ∀ nread, ((((execution.weigh nread).update Parser.headerOver).setMark .headerValue).updateState
          .headerFieldStart).callbackData =
        ((((execution.update Parser.headerOver).setMark .headerValue).updateState .headerFieldStart).callbackData).weigh
          nread := by
      intro nread
      have ended : (execution.weigh nread).update Parser.headerOver = (execution.update Parser.headerOver).weigh nread := by
        simp only [weigh, update, Parser.headerOver_weigh]
      rw [ended, setMark_weigh, ← callbackData_weigh]
      rfl
    simp only [ends]
    exact headerFieldStart_weighs _ ch rest

theorem headerValueDiscardWs_weigh :
    (execution.weigh nread).headerValueDiscardWs ch rest = (execution.headerValueDiscardWs ch rest).weigh nread := by
  simp only [headerValueDiscardWs, headerValueStart_weigh, apply_ite (Progress.weigh nread)]
  rfl

theorem chunkSizeAlmostDone_weighs : Weighs (chunkSizeAlmostDone ch rest) execution := by
  by_cases ended : ch = 10
  · subst ended
    exact .inr fun nread => rfl
  · apply Or.inl
    intro nread
    simp only [chunkSizeAlmostDone, ne_eq, ended, not_false_eq_true, if_true]
    rfl

theorem chunkSize_weigh : (execution.weigh nread).chunkSize ch rest = (execution.chunkSize ch rest).weigh nread := by
  simp only [chunkSize]
  cases unhex ch <;>
  · simp only [apply_ite (Progress.weigh nread)]
    rfl

/-- What a turn of the loop does for one byte does not depend on the count of header bytes. -/
theorem dispatch_weighs (single : execution.parser.state.single = true) : Weighs (dispatch ch rest) execution := by
  have same : ∀ nread, (execution.weigh nread).parser.state = execution.parser.state := fun nread => rfl
  simp only [Weighs, dispatch, same]
  cases is : execution.parser.state with
  | headerField | headerValue | bodyIdentity | bodyIdentityEof | chunkData => simp [is, ParserState.single] at single
  | headersDone => exact headersDone_weighs execution ch rest
  | headersAlmostDone => exact headersAlmostDone_weighs execution ch rest
  | headerFieldStart => exact headerFieldStart_weighs execution ch rest
  | headerValueStart => exact .inl (execution.headerValueStart_weigh ch rest)
  | headerValueLws => exact headerValueLws_weighs execution ch rest
  | headerValueDiscardWs => exact .inl (execution.headerValueDiscardWs_weigh ch rest)
  | headerValueDiscardLws => exact headerValueDiscardLws_weighs execution ch rest
  | chunkSizeAlmostDone => exact chunkSizeAlmostDone_weighs execution ch rest
  | messageDone => exact .inl (execution.messageDone_weigh ch rest)
  | chunkSize => exact .inl (execution.chunkSize_weigh ch rest)
  | chunkSizeStart =>
      apply Or.inl
      intro nread
      cases unhex ch <;> rfl
  | chunkDataDone =>
      by_cases ended : ch = 10
      · subst ended
        exact .inr fun nread => rfl
      · apply Or.inl
        intro nread
        simp only [ne_eq, ended, not_false_eq_true, if_true]
        rfl
  | chunkDataAlmostDone | resStatus =>
      have flush : ∀ nread state, ((execution.weigh nread).updateState state).callbackData =
          (execution.updateState state).callbackData.weigh nread :=
        fun nread state => (execution.updateState state).callbackData_weigh nread
      apply Or.inl
      intro nread
      simp only [apply_ite (Progress.weigh nread), flush]
      rfl
  | resStatusStart =>
      apply Or.inl
      intro nread
      simp only [apply_ite (Progress.weigh nread), setMark_weigh]
      rfl
  | _ =>
      apply Or.inl
      intro nread
      simp only [startRes, expect, versionDigit, resStatusCode, headerAlmostDone, apply_ite (Progress.weigh nread)]
      rfl

/-! ## The data behind the byte -/

theorem messageDone_append : execution.messageDone ch rest = (execution.messageDone ch []).append rest := by
  simp only [messageDone, apply_ite (Progress.append rest)]
  rfl

theorem headersDone_append : execution.headersDone ch rest = (execution.headersDone ch []).append rest := by
  simp only [headersDone, apply_ite (Progress.append rest)]
  rfl

theorem headersAlmostDone_append :
    execution.headersAlmostDone ch rest = (execution.headersAlmostDone ch []).append rest := by
  simp only [headersAlmostDone, headersDone_append _ ch rest, messageDone_append _ ch rest,
    apply_ite (Progress.append rest)]
  rfl

theorem headerFieldStart_append :
    execution.headerFieldStart ch rest = (execution.headerFieldStart ch []).append rest := by
  simp only [headerFieldStart, headersAlmostDone_append _ ch rest, apply_ite (Progress.append rest)]
  cases token ch <;> rfl

theorem headerValueStart_append :
    execution.headerValueStart ch rest = (execution.headerValueStart ch []).append rest := by
  simp only [headerValueStart]
  split <;> rfl

theorem chunkSize_append : execution.chunkSize ch rest = (execution.chunkSize ch []).append rest := by
  simp only [chunkSize]
  cases unhex ch <;>
  · simp only [apply_ite (Progress.append rest)]
    rfl

theorem dispatch_append (single : execution.parser.state.single = true) :
    execution.dispatch ch rest = (execution.dispatch ch []).append rest := by
  simp only [dispatch]
  cases is : execution.parser.state with
  | headerField | headerValue | bodyIdentity | bodyIdentityEof | chunkData => simp [is, ParserState.single] at single
  | headersDone => exact execution.headersDone_append ch rest
  | headersAlmostDone => exact execution.headersAlmostDone_append ch rest
  | headerFieldStart => exact execution.headerFieldStart_append ch rest
  | headerValueStart => exact execution.headerValueStart_append ch rest
  | messageDone => exact execution.messageDone_append ch rest
  | chunkSize => exact execution.chunkSize_append ch rest
  | chunkSizeStart => cases unhex ch <;> rfl
  | _ =>
      simp only [startRes, expect, versionDigit, resStatusCode, headerAlmostDone, headerValueLws, headerValueDiscardWs,
        headerValueDiscardLws, chunkSizeAlmostDone, headerValueStart_append _ ch rest, headerFieldStart_append _ ch rest,
        apply_ite (Progress.append rest)] <;>
      rfl

theorem step_append (single : execution.parser.state.single = true) :
    execution.step ch rest = (execution.step ch []).append rest := by
  simp only [step, countHeaderSize_eq, apply_ite (Progress.append rest)]
  rw [dispatch_append (execution.weigh (execution.parser.nread + 1)) ch rest single, dispatch_append _ ch rest single]
  rfl

/-! ## What a turn keeps -/

theorem mark_callbackData (execution : Execution) : execution.callbackData.mark = none := by
  unfold callbackData
  split
  next none => exact none
  next => rfl

theorem advance_callbackData (execution : Execution) (text : Bytes) :
    execution.callbackData.advance text = execution.callbackData := by
  have unmarked := execution.mark_callbackData
  revert unmarked
  generalize execution.callbackData = flushed
  obtain ⟨parser, mark, events⟩ := flushed
  rintro ⟨⟩
  rfl

def kind (execution : Execution) : Option Mark := execution.mark.map Prod.fst

@[simp] theorem kind_update (change : Parser → Parser) (execution : Execution) :
    (execution.update change).kind = execution.kind := rfl

@[simp] theorem kind_notify (event : ParserEvent) (execution : Execution) :
    (execution.notify event).kind = execution.kind := rfl

@[simp] theorem kind_advance (text : Bytes) (execution : Execution) : (execution.advance text).kind = execution.kind := by
  obtain ⟨parser, mark, events⟩ := execution
  cases mark <;> rfl

@[simp] theorem kind_setMark (mark : Mark) (execution : Execution) :
    (execution.setMark mark).kind = some (execution.kind.getD mark) := by
  obtain ⟨parser, marked, events⟩ := execution
  cases marked <;> rfl

@[simp] theorem kind_callbackData (execution : Execution) : execution.callbackData.kind = none := by
  rw [kind, mark_callbackData]
  rfl

end Execution

def ParserState.admits : ParserState → Option Mark → Bool
  | .headerField, mark => mark == some .headerField
  | .headerValue, mark => mark == some .headerValue
  | .resStatus, mark => mark == some .status
  | .bodyIdentity, mark | .bodyIdentityEof, mark | .chunkData, mark | .chunkDataAlmostDone, mark =>
      mark == none || mark == some .body
  | _, mark => mark == none

namespace Execution

structure Sound (execution : Execution) : Prop where
  marked : execution.parser.state.admits execution.kind = true
  unread : execution.parser.state = .bodyIdentity ∨ execution.parser.state = .chunkData →
    0 < execution.parser.contentLength

end Execution

def Progress.Sound : Progress → Prop
  | .next execution _ => execution.Sound
  | .exit execution _ => execution.mark = none ∨ execution.parser.errno ≠ .ok

namespace Execution

variable (execution : Execution) (ch : UInt8) (rest : Bytes)

theorem fail_sound (errno : Errno) (failed : errno ≠ .ok) : (execution.fail errno rest).Sound := .inr failed

theorem consume_sound {execution : Execution} (sound : execution.Sound) : (execution.consume ch rest).Sound :=
  ⟨by rw [kind_advance]; exact sound.marked, sound.unread⟩

def Plain (state : ParserState) : Prop := state.admits none = true ∧ state ≠ .bodyIdentity ∧ state ≠ .chunkData

instance (state : ParserState) : Decidable (Plain state) := inferInstanceAs (Decidable (_ ∧ _))

theorem plain_sound {execution : Execution} (unmarked : execution.kind = none) (plain : Plain execution.parser.state) :
    execution.Sound where
  marked := by rw [unmarked]; exact plain.1
  unread read := by
    rcases read with read | read
    · exact absurd read plain.2.1
    · exact absurd read plain.2.2

theorem finish_sound {execution : Execution} (unmarked : execution.kind = none) : execution.finish.Sound := by
  have plain : Plain execution.finish.parser.state := by
    simp only [finish, parser_notify, parser_update, Parser.newMessage]
    split <;> decide
  exact plain_sound (show execution.finish.kind = none from unmarked) plain

theorem messageDone_sound (unmarked : execution.kind = none) : (execution.messageDone ch rest).Sound := by
  simp only [messageDone]
  split
  · exact .inl (Option.map_eq_none_iff.1 unmarked)
  · exact consume_sound ch rest (finish_sound unmarked)

theorem headersDone_sound (unmarked : execution.kind = none) : (execution.headersDone ch rest).Sound := by
  simp only [headersDone]
  repeat' split
  · exact fail_sound _ _ _ (by decide)
  · exact .inl (Option.map_eq_none_iff.1 unmarked)
  · exact consume_sound ch rest (plain_sound unmarked (by decide : Plain .chunkSizeStart))
  · exact consume_sound ch rest (finish_sound unmarked)
  next some _ =>
    refine consume_sound ch rest ⟨?_, fun _ => Nat.pos_of_ne_zero some⟩
    simp [updateState, unmarked, ParserState.admits]
  · exact consume_sound ch rest (finish_sound unmarked)
  · exact consume_sound ch rest (plain_sound unmarked (by decide : Plain .bodyIdentityEof))

theorem headersAlmostDone_sound (unmarked : execution.kind = none) : (execution.headersAlmostDone ch rest).Sound := by
  simp only [headersAlmostDone]
  repeat' split
  · exact fail_sound _ _ _ (by decide)
  · exact messageDone_sound _ ch rest unmarked
  · exact fail_sound _ _ _ (by decide)
  · exact headersDone_sound _ ch rest unmarked

theorem headerFieldStart_sound (unmarked : execution.kind = none) : (execution.headerFieldStart ch rest).Sound := by
  simp only [headerFieldStart]
  repeat' split
  · exact consume_sound ch rest (plain_sound unmarked (by decide : Plain .headersAlmostDone))
  · exact headersAlmostDone_sound _ ch rest unmarked
  · exact fail_sound _ _ _ (by decide)
  · refine consume_sound ch rest ⟨?_, by simp [Parser.fieldStart]⟩
    simp [unmarked, Parser.fieldStart, ParserState.admits]

theorem valueStart_error {parser : Parser} {errno : Errno} (failed : parser.valueStart ch = .error errno) :
    errno ≠ .ok := by
  revert failed
  simp only [Parser.valueStart]
  repeat' split
  all_goals
    intro failed
    cases failed
    try decide

theorem headerValueStart_sound (unmarked : execution.kind = none) : (execution.headerValueStart ch rest).Sound := by
  simp only [headerValueStart, parser_setMark]
  split
  next failed => exact fail_sound _ _ _ (valueStart_error ch failed)
  next parser started =>
    refine consume_sound ch rest ⟨?_, by simp [Parser.valueStart_state started]⟩
    have marked : ({ execution.setMark .headerValue with parser := parser } : Execution).kind = some .headerValue := by
      rw [show ({ execution.setMark .headerValue with parser := parser } : Execution).kind =
        (execution.setMark .headerValue).kind from rfl, kind_setMark, unmarked]
      rfl
    rw [marked]
    simp [Parser.valueStart_state started, ParserState.admits]

theorem dispatch_sound (single : execution.parser.state.single = true) (sound : execution.Sound) :
    (execution.dispatch ch rest).Sound := by
  have unmarked : execution.parser.state ≠ .resStatus → execution.parser.state ≠ .chunkDataAlmostDone →
      execution.kind = none := by
    have marked := sound.marked
    revert marked single
    cases execution.parser.state <;> simp [ParserState.admits, ParserState.single]
  unfold dispatch
  cases state : execution.parser.state with
  | headerField | headerValue | bodyIdentity | bodyIdentityEof | chunkData => simp [state, ParserState.single] at single
  | resStatus =>
      have marked := sound.marked
      simp only
      repeat' split
      · exact consume_sound ch rest (plain_sound (kind_callbackData _) (by simp [updateState]; decide))
      · exact consume_sound ch rest (plain_sound (kind_callbackData _) (by simp [updateState]; decide))
      · exact consume_sound ch rest sound
  | chunkDataAlmostDone =>
      simp only
      split
      · exact fail_sound _ _ _ (by decide)
      · exact consume_sound ch rest (plain_sound (kind_callbackData _) (by simp [updateState]; decide))
  | headersDone => exact headersDone_sound _ ch rest (unmarked (by simp [state]) (by simp [state]))
  | headersAlmostDone => exact headersAlmostDone_sound _ ch rest (unmarked (by simp [state]) (by simp [state]))
  | headerFieldStart => exact headerFieldStart_sound _ ch rest (unmarked (by simp [state]) (by simp [state]))
  | headerValueStart => exact headerValueStart_sound _ ch rest (unmarked (by simp [state]) (by simp [state]))
  | messageDone => exact messageDone_sound _ ch rest (unmarked (by simp [state]) (by simp [state]))
  | headerValueLws =>
      have unmarked := unmarked (by simp [state]) (by simp [state])
      simp only [headerValueLws]
      split
      · exact headerValueStart_sound _ ch rest unmarked
      · exact headerFieldStart_sound _ ch rest unmarked
  | headerValueDiscardWs =>
      have unmarked := unmarked (by simp [state]) (by simp [state])
      simp only [headerValueDiscardWs]
      repeat' split
      · exact consume_sound ch rest sound
      · exact consume_sound ch rest (plain_sound unmarked (by decide : Plain .headerValueDiscardWsAlmostDone))
      · exact consume_sound ch rest (plain_sound unmarked (by decide : Plain .headerValueDiscardLws))
      · exact headerValueStart_sound _ ch rest unmarked
  | headerValueDiscardLws =>
      have unmarked := unmarked (by simp [state]) (by simp [state])
      simp only [headerValueDiscardLws]
      split
      · exact consume_sound ch rest (plain_sound unmarked (by decide : Plain .headerValueDiscardWs))
      · exact headerFieldStart_sound _ ch rest (kind_callbackData _)
  | resStatusStart =>
      have unmarked := unmarked (by simp [state]) (by simp [state])
      simp only
      repeat' split
      · exact consume_sound ch rest (plain_sound unmarked (by decide : Plain .resLineAlmostDone))
      · exact consume_sound ch rest (plain_sound unmarked (by decide : Plain .headerFieldStart))
      · refine consume_sound ch rest ⟨?_, by simp⟩
        simp [unmarked, ParserState.admits]
  | chunkSizeAlmostDone =>
      have unmarked := unmarked (by simp [state]) (by simp [state])
      simp only [chunkSizeAlmostDone]
      split
      · exact fail_sound _ _ _ (by decide)
      · refine consume_sound ch rest ⟨?_, ?_⟩
        · by_cases last : execution.parser.contentLength = 0 <;> simp [last, unmarked, ParserState.admits]
        · by_cases last : execution.parser.contentLength = 0
          · simp [last]
          · simp [last]
            omega
  | _ =>
      have unmarked := unmarked (by simp [state]) (by simp [state])
      simp only [startRes, expect, versionDigit, resStatusCode, headerAlmostDone, chunkSize]
      repeat' split
      all_goals first
        | exact fail_sound _ _ _ (by decide)
        | exact consume_sound ch rest sound
        | exact consume_sound ch rest (plain_sound unmarked (by simp [updateState, state]; decide))

theorem step_sound (single : execution.parser.state.single = true) (sound : execution.Sound) :
    (execution.step ch rest).Sound := by
  simp only [step, countHeaderSize_eq]
  repeat' split
  · exact fail_sound _ _ _ (by decide)
  · exact dispatch_sound _ ch rest single ⟨sound.marked, sound.unread⟩
  · exact dispatch_sound _ ch rest single sound

end Execution

end IotClient.Net
