import IotClient.Proof.HttpCallbacks

namespace IotClient

open Logic

/-! ## Callbacks in pieces -/

namespace ResponseParser

variable {maxStringSize : Nat} {before between after : ResponseParser}

theorem handleAll_append {events more : List ParserEvent} (fine : before.error = none) :
    handleAll maxStringSize before (events ++ more) =
      (handleAll maxStringSize before events).bind fun parser =>
        if parser.error.isSome then .ok parser else handleAll maxStringSize parser more := by
  induction events generalizing before with
  | nil => simp [handleAll, Except.bind, fine]
  | cons event events continued =>
      simp only [List.cons_append, handleAll]
      cases handle maxStringSize before event with
      | error fault => rfl
      | ok next =>
          cases failed : next.error with
          | none =>
              simp only [bind, Except.bind, failed, Option.isSome_none, Bool.false_eq_true, if_false]
              exact continued failed
          | some text => simp [bind, Except.bind, failed, pure, Except.pure]

theorem handle_parts {parser : Net.Parser} {text more : Bytes} {mark : Net.Mark}
    (first : handle maxStringSize before (Net.Execution.dataEvent parser text mark) = .ok between)
    (fine : between.error = none) :
    handle maxStringSize between (Net.Execution.dataEvent parser more mark) =
      handle maxStringSize before (Net.Execution.dataEvent parser (text ++ more) mark) := by
  cases mark with
  | status =>
      cases first
      rfl
  | body =>
      cases first
      simp [Net.Execution.dataEvent, handle]
  | headerField =>
      revert first
      cases state : before.headerState <;>
      · simp only [Net.Execution.dataEvent, handle, state]
        rintro ⟨⟩
        simp
  | headerValue =>
      revert first
      cases state : before.headerState with
      | initial =>
          simp only [Net.Execution.dataEvent, handle, state]
          rintro ⟨⟩
          cases held : before.error <;> simp [Status.set, held] at fine
      | _ =>
          simp only [Net.Execution.dataEvent, handle, state]
          rintro ⟨⟩
          simp

theorem handleAll_parts {parser : Net.Parser} {events more : List ParserEvent} {text : Bytes} {mark : Net.Mark}
    (told : handleAll maxStringSize before (events ++ [Net.Execution.dataEvent parser text mark]) = .ok after)
    (begun : before.error = none) (fine : after.error = none) (part : Bytes) :
    handleAll maxStringSize before (events ++ Net.Execution.dataEvent parser (text ++ part) mark :: more) =
      handleAll maxStringSize after (Net.Execution.dataEvent parser part mark :: more) := by
  rw [handleAll_append begun] at told
  obtain ⟨between, first, told⟩ := bind_eq_ok.1 told
  cases held : between.error with
  | some error =>
      simp only [held, Option.isSome_some, if_true] at told
      cases told
      rw [held] at fine
      cases fine
  | none =>
      simp only [held, Option.isSome_none, Bool.false_eq_true, if_false, handleAll, bind_eq_ok] at told
      obtain ⟨next, second, told⟩ := told
      have same : next = after := by
        split at told <;> exact Except.ok.inj told
      subst same
      rw [handleAll_append begun, first]
      simp only [Except.bind, held, Option.isSome_none, Bool.false_eq_true, if_false, handleAll, handle_parts second fine]

end ResponseParser

namespace Net

namespace Parser

theorem foldl_fieldChar_statusCode (text : Bytes) (parser : Parser) :
    (text.foldl (fun parser c => parser.fieldChar c) parser).statusCode = parser.statusCode := by
  induction text generalizing parser with
  | nil => rfl
  | cons c text continued =>
      rw [List.foldl_cons, continued]
      unfold fieldChar
      split <;> rfl

theorem valueChar_statusCode {ch : UInt8} {before after : Parser} (passed : before.valueChar ch = .ok after) :
    after.statusCode = before.statusCode := by
  have connected : before.setConnection.statusCode = before.statusCode := by
    unfold setConnection
    split <;> rfl
  revert passed
  simp only [valueChar]
  repeat' split
  all_goals
    intro passed
    cases passed
    try rfl
  all_goals exact connected

end Parser

namespace Execution

theorem events_callbackData {execution : Execution} {mark : Mark} {text : Bytes} (marked : execution.mark = some (mark, text)) :
    execution.callbackData.events = execution.events ++ [dataEvent execution.parser text mark] := by
  simp [callbackData, marked]

theorem step_resStatus {execution : Execution} {ch : UInt8} (state : execution.parser.state = .resStatus)
    (small : execution.parser.nread + 1 ≤ httpMaxHeaderSize) :
    execution.step ch [] =
      if ch = 13 then .next ((execution.weigh (execution.parser.nread + 1)).updateState .resLineAlmostDone).callbackData []
      else if ch = 10 then
        .next ((execution.weigh (execution.parser.nread + 1)).updateState .headerFieldStart).callbackData []
      else .next ((execution.weigh (execution.parser.nread + 1)).advance [ch]) [] := by
  have same : (execution.weigh (execution.parser.nread + 1)).parser.state = .resStatus := state
  rw [step_header (by rw [state]; rfl) small]
  simp only [dispatch, same, consume, advance_callbackData]

/-- Two turns leave the same parser behind, and what the callbacks of the one come to, those of the other do. -/
inductive Agrees (maxStringSize : Nat) (before after : ResponseParser) : Progress → Progress → Prop
  | next {one other : Execution} {left : Bytes} (parser : one.parser = other.parser)
      (told : ResponseParser.handleAll maxStringSize before one.callbackData.events =
        ResponseParser.handleAll maxStringSize after other.callbackData.events) :
      Agrees maxStringSize before after (.next one left) (.next other left)
  | exit {one other : Execution} {left : Bytes} (parser : one.parser = other.parser)
      (told : ResponseParser.handleAll maxStringSize before one.events =
        ResponseParser.handleAll maxStringSize after other.events) :
      Agrees maxStringSize before after (.exit one left) (.exit other left)

variable {maxStringSize : Nat} {before after : ResponseParser} {execution : Execution} {ch : UInt8}

theorem start_after (sound : execution.Sound) (unmarked : execution.mark = none) :
    execution.parser.start.after execution.events = execution := by
  have first : execution.parser.firstMark = none := by
    have marked := sound.marked
    rw [kind, unmarked] at marked
    revert marked
    unfold Parser.firstMark
    cases execution.parser.state <;> simp [ParserState.admits]
  have start : execution.parser.start = execution.silent := by
    rw [Parser.start, first, silent, unmarked]
  rw [start, silent_after]

theorem agrees_unmarked (unmarked : execution.mark = none) (sound : execution.Sound)
    (told : ResponseParser.handleAll maxStringSize before execution.callbackData.events = .ok after)
    (begun : before.error = none) (fine : after.error = none) :
    Agrees maxStringSize before after (execution.step ch []) (execution.parser.start.step ch []) := by
  rw [callbackData_unmarked unmarked] at told
  have turn := execution.parser.start.step_after ch [] execution.events
  rw [start_after sound unmarked] at turn
  rw [turn]
  have joined : ∀ events, ResponseParser.handleAll maxStringSize before (execution.events ++ events) =
      ResponseParser.handleAll maxStringSize after events := by
    intro events
    rw [ResponseParser.handleAll_append begun, told]
    simp [Except.bind, fine]
  cases execution.parser.start.step ch [] with
  | next later left =>
      refine .next rfl ?_
      rw [callbackData_after]
      exact joined _
  | exit later left => exact .exit rfl (joined _)

section marked

variable {mark : Mark} {text : Bytes} {one other : Execution}

theorem dataEvent_statusCode {parser : Parser} (text : Bytes) (mark : Mark)
    (same : parser.statusCode = execution.parser.statusCode) :
    dataEvent parser text mark = dataEvent execution.parser text mark := by
  cases mark <;> simp [dataEvent, same]

theorem told_parts (marked : execution.mark = some (mark, text))
    (told : ResponseParser.handleAll maxStringSize before execution.callbackData.events = .ok after)
    (begun : before.error = none) (fine : after.error = none) (part : Bytes) (more : List ParserEvent) :
    ResponseParser.handleAll maxStringSize before
        (execution.events ++ dataEvent execution.parser (text ++ part) mark :: more) =
      ResponseParser.handleAll maxStringSize after (dataEvent execution.parser part mark :: more) := by
  rw [events_callbackData marked] at told
  exact ResponseParser.handleAll_parts told begun fine part

theorem agrees_flushed (marked : execution.mark = some (mark, text))
    (told : ResponseParser.handleAll maxStringSize before execution.callbackData.events = .ok after)
    (begun : before.error = none) (fine : after.error = none) (part : Bytes)
    (parser : one.parser = other.parser) (code : other.parser.statusCode = execution.parser.statusCode)
    (oneMarked : one.mark = some (mark, text ++ part)) (otherMarked : other.mark = some (mark, part))
    (oneEvents : one.events = execution.events) (otherEvents : other.events = []) (more : List ParserEvent) :
    ResponseParser.handleAll maxStringSize before (one.callbackData.events ++ more) =
      ResponseParser.handleAll maxStringSize after (other.callbackData.events ++ more) := by
  rw [events_callbackData oneMarked, events_callbackData otherMarked, oneEvents, otherEvents, parser,
    dataEvent_statusCode _ _ code, dataEvent_statusCode _ _ code, List.append_assoc]
  exact told_parts marked told begun fine part more

theorem agrees_handedOn (marked : execution.mark = some (mark, text))
    (told : ResponseParser.handleAll maxStringSize before execution.callbackData.events = .ok after)
    (begun : before.error = none) (fine : after.error = none) (part : Bytes)
    (parser : one.parser = other.parser) (code : other.parser.statusCode = execution.parser.statusCode)
    (oneMarked : one.mark = some (mark, text ++ part)) (otherMarked : other.mark = some (mark, part))
    (oneEvents : one.events = execution.events) (otherEvents : other.events = []) :
    ResponseParser.handleAll maxStringSize before one.callbackData.events =
      ResponseParser.handleAll maxStringSize after other.callbackData.events := by
  have flushed := agrees_flushed marked told begun fine part parser code oneMarked otherMarked oneEvents otherEvents []
  rwa [List.append_nil, List.append_nil] at flushed

theorem agrees_pending (marked : execution.mark = some (mark, text))
    (told : ResponseParser.handleAll maxStringSize before execution.callbackData.events = .ok after)
    (begun : before.error = none) (fine : after.error = none) (part : Bytes)
    (parser : one.parser = other.parser) (code : other.parser.statusCode = execution.parser.statusCode)
    (oneMarked : one.mark = some (mark, text ++ part)) (otherMarked : other.mark = some (mark, part))
    (oneEvents : one.events = execution.events) (otherEvents : other.events = []) :
    Agrees maxStringSize before after (.next one []) (.next other []) :=
  .next parser (agrees_handedOn marked told begun fine part parser code oneMarked otherMarked oneEvents otherEvents)

theorem agrees_headerField (marked : execution.mark = some (.headerField, text))
    (told : ResponseParser.handleAll maxStringSize before execution.callbackData.events = .ok after)
    (begun : before.error = none) (fine : after.error = none) (state : execution.parser.state = .headerField)
    (works : (execution.parser.start.step ch []).Works) :
    Agrees maxStringSize before after (execution.step ch []) (execution.parser.start.step ch []) := by
  have first : execution.parser.start.mark = some (.headerField, []) := by
    simp [Parser.start, Parser.firstMark, state]
  have begins : execution.parser.start.parser.state = .headerField := state
  cases lowered : token ch with
  | some c =>
      have small := counted_fieldChar begins lowered works.noticed
      rw [step_fieldChar state lowered small, step_fieldChar begins lowered small]
      refine agrees_pending marked told begun fine [ch] rfl ?_ ?_ ?_ rfl rfl
      · exact Parser.foldl_fieldChar_statusCode _ _
      · simp [fieldChars, weigh, update, advance, marked]
      · simp [fieldChars, weigh, update, advance, first]
  | none =>
      obtain rfl := counted_fieldEnd begins lowered works
      have small := counted (by rw [begins]; rfl) works.noticed
      rw [step_fieldEnd state small, step_fieldEnd begins small]
      refine .next (by simp only [parser_callbackData]; rfl) ?_
      rw [callbackData_unmarked (mark_callbackData _), callbackData_unmarked (mark_callbackData _)]
      refine agrees_handedOn marked told begun fine [] rfl rfl ?_ ?_ rfl rfl
      · simp [weigh, update, updateState, marked]
      · simp [weigh, update, updateState, first]

theorem agrees_headerValue (marked : execution.mark = some (.headerValue, text))
    (told : ResponseParser.handleAll maxStringSize before execution.callbackData.events = .ok after)
    (begun : before.error = none) (fine : after.error = none) (state : execution.parser.state = .headerValue)
    (works : (execution.parser.start.step ch []).Works) :
    Agrees maxStringSize before after (execution.step ch []) (execution.parser.start.step ch []) := by
  have first : execution.parser.start.mark = some (.headerValue, []) := by
    simp [Parser.start, Parser.firstMark, state]
  have begins : execution.parser.start.parser.state = .headerValue := state
  by_cases ended : ch = 13 ∨ ch = 10
  · have small := counted (by rw [begins]; rfl) works.noticed
    have flushed : ResponseParser.handleAll maxStringSize before
          ((execution.weigh (execution.parser.nread + 1)).updateState .headerAlmostDone).callbackData.events =
        ResponseParser.handleAll maxStringSize after
          ((execution.parser.start.weigh (execution.parser.nread + 1)).updateState .headerAlmostDone).callbackData.events := by
      refine agrees_handedOn marked told begun fine [] rfl rfl ?_ ?_ rfl rfl
      · simp [weigh, update, updateState, marked]
      · simp [weigh, update, updateState, first]
    rw [step_valueEnd state ended small, step_valueEnd begins ended small]
    by_cases returned : ch = 13
    · rw [if_pos returned, if_pos returned]
      refine .next (by simp only [parser_callbackData]; rfl) ?_
      rw [callbackData_unmarked (mark_callbackData _), callbackData_unmarked (mark_callbackData _)]
      exact flushed
    · rw [if_neg returned, if_neg returned]
      refine .next (by simp only [updateState, parser_update, parser_callbackData]; rfl) ?_
      rw [events_settled, events_settled]
      exact flushed
  · obtain ⟨next, valid, read, small⟩ := counted_valueChar begins ended works
    rw [step_valueChar state ended valid read small, step_valueChar begins ended valid read small]
    refine agrees_pending marked told begun fine [ch] rfl ?_ ?_ ?_ rfl rfl
    · have code := Parser.valueChar_statusCode read
      exact code
    · simp [passValue, weigh, update, advance, marked]
    · simp [passValue, weigh, update, advance, first]

theorem agrees_resStatus (marked : execution.mark = some (.status, text))
    (told : ResponseParser.handleAll maxStringSize before execution.callbackData.events = .ok after)
    (begun : before.error = none) (fine : after.error = none) (state : execution.parser.state = .resStatus)
    (works : (execution.parser.start.step ch []).Works) :
    Agrees maxStringSize before after (execution.step ch []) (execution.parser.start.step ch []) := by
  have first : execution.parser.start.mark = some (.status, []) := by
    simp [Parser.start, Parser.firstMark, state]
  have begins : execution.parser.start.parser.state = .resStatus := state
  have small := counted (by rw [begins]; rfl) works.noticed
  have flushed : ∀ state, Agrees maxStringSize before after
      (.next ((execution.weigh (execution.parser.nread + 1)).updateState state).callbackData [])
      (.next ((execution.parser.start.weigh (execution.parser.nread + 1)).updateState state).callbackData []) := by
    intro state
    refine .next (by simp only [parser_callbackData]; rfl) ?_
    rw [callbackData_unmarked (mark_callbackData _), callbackData_unmarked (mark_callbackData _)]
    refine agrees_handedOn marked told begun fine [] rfl rfl ?_ ?_ rfl rfl
    · simp [weigh, update, updateState, marked]
    · simp [weigh, update, updateState, first]
  rw [step_resStatus state small, step_resStatus begins small]
  by_cases returned : ch = 13
  · rw [if_pos returned, if_pos returned]
    exact flushed .resLineAlmostDone
  rw [if_neg returned, if_neg returned]
  by_cases ended : ch = 10
  · rw [if_pos ended, if_pos ended]
    exact flushed .headerFieldStart
  rw [if_neg ended, if_neg ended]
  refine agrees_pending marked told begun fine [ch] rfl rfl ?_ ?_ rfl rfl
  · simp [weigh, update, advance, marked]
  · simp [weigh, update, advance, first]

theorem agrees_inBody (marked : execution.mark = some (.body, text))
    (told : ResponseParser.handleAll maxStringSize before execution.callbackData.events = .ok after)
    (begun : before.error = none) (fine : after.error = none) (sound : execution.Sound)
    (state : execution.parser.state = .bodyIdentity ∨ execution.parser.state = .chunkData) :
    Agrees maxStringSize before after (execution.step ch []) (execution.parser.start.step ch []) := by
  have first : execution.parser.start.mark = none := by
    rcases state with state | state <;> simp [Parser.start, Parser.firstMark, state]
  have begins : execution.parser.start.parser.state = .bodyIdentity ∨ execution.parser.start.parser.state = .chunkData :=
    state
  have oneMarked : (passText [ch] execution).mark = some (.body, text ++ [ch]) := by
    simp [passText, setMark, update, advance, marked]
  have otherMarked : (passText [ch] execution.parser.start).mark = some (.body, [ch]) := by
    simp [passText, setMark, update, advance, first]
  have parser : (passText [ch] execution).parser = (passText [ch] execution.parser.start).parser := by
    rw [passText_leaves, passText_leaves]
    rfl
  have code : (passText [ch] execution.parser.start).parser.statusCode = execution.parser.statusCode := by
    rw [passText_leaves]
    rfl
  have oneEvents : (passText [ch] execution).events = execution.events := by simp [passText]
  have otherEvents : (passText [ch] execution.parser.start).events = [] := by
    simp [passText]
    rfl
  have positive := sound.unread state
  by_cases more : [ch].length < execution.parser.contentLength
  · rw [step_inBody state more, step_inBody begins more]
    exact agrees_pending marked told begun fine [ch] parser code oneMarked otherMarked oneEvents otherEvents
  · have last : execution.parser.contentLength = 1 := by
      rw [List.length_singleton] at more
      omega
    have flushed := fun events state => agrees_flushed marked told begun fine [ch]
      (show ((passText [ch] execution).updateState state).parser = ((passText [ch] execution.parser.start).updateState
        state).parser by rw [updateState, parser_update, parser]; rfl) code oneMarked otherMarked oneEvents otherEvents events
    rcases state with state | state
    · have begins : execution.parser.start.parser.state = .bodyIdentity := state
      rw [step_bodyLast state last, step_bodyLast begins last]
      have same : (endBody [ch] execution).parser = (endBody [ch] execution.parser.start).parser := by
        simp only [endBody, finish, updateState, parser_notify, parser_update, parser_callbackData, parser]
      cases upgrade : execution.parser.upgrade with
      | true =>
          rw [show execution.parser.start.parser.upgrade = true from upgrade]
          exact .exit same (flushed [.messageComplete] .messageDone)
      | false =>
          rw [show execution.parser.start.parser.upgrade = false from upgrade]
          refine .next same ?_
          rw [callbackData_unmarked (show (endBody [ch] execution).mark = none from mark_callbackData _),
            callbackData_unmarked (show (endBody [ch] execution.parser.start).mark = none from mark_callbackData _)]
          exact flushed [.messageComplete] .messageDone
    · have begins : execution.parser.start.parser.state = .chunkData := state
      rw [step_chunkLast state last, step_chunkLast begins last]
      refine agrees_pending marked told begun fine [ch] ?_ code oneMarked otherMarked oneEvents otherEvents
      rw [updateState, parser_update, parser]
      rfl

theorem agrees_untilEof (marked : execution.mark = some (.body, text))
    (told : ResponseParser.handleAll maxStringSize before execution.callbackData.events = .ok after)
    (begun : before.error = none) (fine : after.error = none)
    (state : execution.parser.state = .bodyIdentityEof) :
    Agrees maxStringSize before after (execution.step ch []) (execution.parser.start.step ch []) := by
  have first : execution.parser.start.mark = none := by simp [Parser.start, Parser.firstMark, state]
  rw [step_untilEof [] state, step_untilEof [] (by exact state)]
  refine agrees_pending marked told begun fine [ch] ?_ ?_ ?_ ?_ ?_ ?_
  · simp [Parser.start]
  · simp [Parser.start]
  · simp [setMark, advance, marked]
  · simp [setMark, advance, first]
  · simp
  · simp [Parser.start]

theorem agrees_chunkEnd (marked : execution.mark = some (.body, text))
    (told : ResponseParser.handleAll maxStringSize before execution.callbackData.events = .ok after)
    (state : execution.parser.state = .chunkDataAlmostDone) (works : (execution.parser.start.step ch []).Works) :
    Agrees maxStringSize before after (execution.step ch []) (execution.parser.start.step ch []) := by
  have first : execution.parser.start.mark = none := by simp [Parser.start, Parser.firstMark, state]
  have turn : ∀ {execution : Execution}, execution.parser.state = .chunkDataAlmostDone →
      execution.step ch [] = if ch ≠ 13 then execution.fail .strict [ch]
        else .next (execution.updateState .chunkDataDone).callbackData [] := by
    intro execution state
    simp only [step, state, ParserState.parsingHeader, Bool.false_eq_true, if_false, dispatch, consume,
      advance_callbackData]
  have begins : execution.parser.start.parser.state = .chunkDataAlmostDone := state
  rw [turn begins] at works
  rw [turn state, turn begins]
  by_cases returned : ch = 13
  · rw [if_neg (not_not_intro returned), if_neg (not_not_intro returned)]
    refine .next (by simp only [parser_callbackData]; rfl) ?_
    rw [callbackData_unmarked (mark_callbackData _), callbackData_unmarked (mark_callbackData _),
      callbackData_unmarked (show (execution.parser.start.updateState .chunkDataDone).mark = none from first),
      events_callbackData (show (execution.updateState .chunkDataDone).mark = some (.body, text) from marked)]
    rw [events_callbackData marked] at told
    exact told
  · rw [if_pos returned] at works
    simp [fail, Progress.Works] at works

end marked

theorem agrees (sound : execution.Sound)
    (told : ResponseParser.handleAll maxStringSize before execution.callbackData.events = .ok after)
    (begun : before.error = none) (fine : after.error = none) (works : (execution.parser.start.step ch []).Works) :
    Agrees maxStringSize before after (execution.step ch []) (execution.parser.start.step ch []) := by
  have marked := sound.marked
  unfold kind at marked
  cases is : execution.mark with
  | none => exact agrees_unmarked is sound told begun fine
  | some pair =>
      obtain ⟨mark, text⟩ := pair
      rw [is] at marked
      cases state : execution.parser.state with
      | headerField =>
          obtain rfl : mark = .headerField := by simpa [state, ParserState.admits] using marked
          exact agrees_headerField is told begun fine state works
      | headerValue =>
          obtain rfl : mark = .headerValue := by simpa [state, ParserState.admits] using marked
          exact agrees_headerValue is told begun fine state works
      | resStatus =>
          obtain rfl : mark = .status := by simpa [state, ParserState.admits] using marked
          exact agrees_resStatus is told begun fine state works
      | bodyIdentity =>
          obtain rfl : mark = .body := by simpa [state, ParserState.admits] using marked
          exact agrees_inBody is told begun fine sound (.inl state)
      | chunkData =>
          obtain rfl : mark = .body := by simpa [state, ParserState.admits] using marked
          exact agrees_inBody is told begun fine sound (.inr state)
      | bodyIdentityEof =>
          obtain rfl : mark = .body := by simpa [state, ParserState.admits] using marked
          exact agrees_untilEof is told begun fine state
      | chunkDataAlmostDone =>
          obtain rfl : mark = .body := by simpa [state, ParserState.admits] using marked
          exact agrees_chunkEnd is told state works
      | _ => simp [state, ParserState.admits] at marked

theorem step_keeps (sound : execution.Sound) (works : (execution.step ch []).Works) : (execution.step ch []).Sound := by
  cases state : execution.parser.state with
  | headerField =>
      cases lowered : token ch with
      | some c =>
          rw [step_fieldChar state lowered (counted_fieldChar state lowered works.noticed)]
          exact fieldChars_sound state sound
      | none =>
          obtain rfl := counted_fieldEnd state lowered works
          rw [step_fieldEnd state (counted (by rw [state]; rfl) works.noticed)]
          refine plain_sound (kind_callbackData _) ?_
          rw [parser_callbackData]
          exact (by decide : Plain .headerValueDiscardWs)
  | headerValue =>
      by_cases ended : ch = 13 ∨ ch = 10
      · rw [step_valueEnd state ended (counted (by rw [state]; rfl) works.noticed)]
        split
        · refine plain_sound (kind_callbackData _) ?_
          rw [parser_callbackData]
          exact (by decide : Plain .headerAlmostDone)
        · refine plain_sound ?_ (by decide : Plain .headerValueLws)
          exact kind_callbackData _
      · obtain ⟨next, valid, read, small⟩ := counted_valueChar state ended works
        rw [step_valueChar state ended valid read small]
        exact passValue_sound state ((Parser.valueChar_state read).trans state) sound
  | bodyIdentity =>
      by_cases more : [ch].length < execution.parser.contentLength
      · rw [step_inBody (.inl state) more]
        exact passText_sound (.inl state) more sound
      · have positive := sound.unread (.inl state)
        rw [List.length_singleton] at more
        rw [step_bodyLast state (by omega)]
        split
        · exact .inl (mark_callbackData _)
        · exact finish_sound (kind_callbackData _)
  | chunkData =>
      by_cases more : [ch].length < execution.parser.contentLength
      · rw [step_inBody (.inr state) more]
        exact passText_sound (.inr state) more sound
      · have positive := sound.unread (.inr state)
        rw [List.length_singleton] at more
        rw [step_chunkLast state (by omega)]
        refine ⟨?_, by simp [updateState]⟩
        rw [show ((passText [ch] execution).updateState .chunkDataAlmostDone).kind = some .body from
          passText_kind (.inr (.inl state)) sound]
        rfl
  | bodyIdentityEof =>
      rw [step_untilEof [] state]
      refine ⟨?_, by simp [state]⟩
      rw [kind_advance, inBody_kind (.inr (.inr state)) sound, parser_advance, parser_setMark, state]
      rfl
  | _ => exact step_sound _ ch [] (by rw [state]; rfl) sound

end Execution

end Net

end IotClient
