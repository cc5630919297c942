import IotClient.Proof.HttpCrawl

namespace IotClient

open Logic

/-! ## The order of header callbacks -/

def HeaderState.after : HeaderState → ParserEvent → Option HeaderState
  | .initial, .headerValue _ => none
  | _, .headerValue _ => some .lastWasValue
  | _, .headerField _ => some .lastWasField
  | .lastWasField, .headersComplete _ => none
  | _, .headersComplete _ => some .initial
  | state, _ => some state

def HeaderState.afterAll : HeaderState → List ParserEvent → Option HeaderState
  | state, [] => some state
  | state, event :: rest => (state.after event).bind fun next => next.afterAll rest

theorem HeaderState.afterAll_append (state : HeaderState) (events more : List ParserEvent) :
    state.afterAll (events ++ more) = (state.afterAll events).bind fun next => next.afterAll more := by
  induction events generalizing state with
  | nil => rfl
  | cons event events continued =>
      simp only [List.cons_append, afterAll]
      cases state.after event with
      | none => rfl
      | some next => exact continued next

namespace ResponseParser

variable {maxStringSize : Nat} {before after : ResponseParser}

theorem handle_after {event : ParserEvent} {state : HeaderState} (follows : before.headerState.after event = some state)
    (run : handle maxStringSize before event = .ok after) :
    after.headerState = state ∧ after.error = before.error := by
  revert run follows
  cases event with
  | headerField text | headerValue text =>
      cases is : before.headerState <;> simp only [handle, is, HeaderState.after] <;> rintro ⟨⟩ ⟨⟩ <;> simp
  | headersComplete contentLength =>
      cases is : before.headerState <;> simp only [handle, is, HeaderState.after] <;> rintro ⟨⟩ run
      · rw [reserveData_ok run]
        exact ⟨is, rfl⟩
      · rw [reserveData_ok run]
        exact ⟨rfl, rfl⟩
  | chunkHeader contentLength =>
      cases is : before.headerState <;> simp only [handle, HeaderState.after] <;> rintro ⟨⟩ run <;>
      · rw [reserveData_ok run]
        exact ⟨is, rfl⟩
  | _ => cases is : before.headerState <;> simp only [handle, HeaderState.after] <;> rintro ⟨⟩ ⟨⟩ <;> simp [is]

theorem handleAll_after {events : List ParserEvent} {state : HeaderState} (fine : before.error = none)
    (follows : before.headerState.afterAll events = some state)
    (run : handleAll maxStringSize before events = .ok after) :
    after.headerState = state ∧ after.error = none := by
  induction events generalizing before with
  | nil =>
      cases run
      cases follows
      exact ⟨rfl, fine⟩
  | cons event events continued =>
      simp only [handleAll, bind_eq_ok] at run
      obtain ⟨between, first, run⟩ := run
      simp only [HeaderState.afterAll, Option.bind_eq_some_iff] at follows
      obtain ⟨next, step, follows⟩ := follows
      obtain ⟨moved, kept⟩ := handle_after step first
      rw [fine] at kept
      simp only [kept, Option.isSome_none, Bool.false_eq_true, if_false] at run
      exact continued kept (by rw [moved]; exact follows) run

end ResponseParser

namespace Net

def ParserState.suits : ParserState → HeaderState → Bool
  | .headerField, state | .headerValueDiscardWs, state | .headerValueDiscardWsAlmostDone, state
  | .headerValueDiscardLws, state => state == .lastWasField
  | .headerValueStart, state | .headerValue, state | .headerValueLws, state | .headerAlmostDone, state =>
      state == .lastWasValue
  | _, state => state != .lastWasField

/-- The callbacks of a turn, with what is marked behind it, are those that `ResponseParser::Header` expects. -/
def Progress.Suits (state : HeaderState) : Progress → Prop
  | .next execution _ => ∃ after, state.afterAll execution.callbackData.events = some after ∧
      execution.parser.state.suits after = true
  | .exit _ _ => True

namespace Execution

theorem callbackData_unmarked {execution : Execution} (unmarked : execution.mark = none) :
    execution.callbackData = execution := by
  simp [callbackData, unmarked]

theorem events_settled (execution : Execution) (state : ParserState) :
    (execution.callbackData.updateState state).callbackData.events = execution.callbackData.events := by
  rw [callbackData_unmarked (show (execution.callbackData.updateState state).mark = none from mark_callbackData execution)]
  rfl

variable {execution : Execution} (ch : UInt8) (rest : Bytes) {state after : HeaderState}

theorem callbackData_callbackData (execution : Execution) : execution.callbackData.callbackData = execution.callbackData := by
  rw [callbackData_unmarked (mark_callbackData _)]

theorem unmarked_suits (unmarked : execution.mark = none) (told : state.afterAll execution.events = some after)
    (suits : execution.parser.state.suits after = true) : (execution.consume ch rest).Suits state := by
  refine ⟨after, ?_, suits⟩
  have same : (execution.advance [ch]).callbackData = execution.advance [ch] := by
    simp [callbackData, advance, unmarked]
  rw [same]
  exact told

theorem afterAll_snoc {events : List ParserEvent} {event : ParserEvent} (told : state.afterAll events = some after) :
    state.afterAll (events ++ [event]) = after.after event := by
  rw [HeaderState.afterAll_append, told]
  cases is : after.after event <;> simp [HeaderState.afterAll, is]

structure Between (state : HeaderState) (execution : Execution) : Prop where
  unmarked : execution.mark = none
  told : ∃ after, state.afterAll execution.events = some after ∧ after ≠ .lastWasField

theorem Between.consume (between : execution.Between state)
    (suits : ∀ after, after ≠ .lastWasField → execution.parser.state.suits after = true) :
    (execution.consume ch rest).Suits state := by
  obtain ⟨after, told, other⟩ := between.told
  exact unmarked_suits ch rest between.unmarked told (suits after other)

theorem Between.notify (between : execution.Between state) {event : ParserEvent}
    (follows : ∀ after : HeaderState, after ≠ .lastWasField → ∃ next, after.after event = some next ∧ next ≠ .lastWasField) :
    (execution.notify event).Between state := by
  obtain ⟨after, told, other⟩ := between.told
  refine ⟨between.unmarked, ?_⟩
  rw [events_notify, afterAll_snoc told]
  exact follows after other

theorem Between.finish (between : execution.Between state) : execution.finish.Between state := by
  obtain ⟨after, told, other⟩ := between.told
  refine ⟨between.unmarked, after, ?_, other⟩
  rw [Execution.finish, events_notify, events_update, afterAll_snoc told]
  cases after <;> rfl

theorem Between.consume_finish (between : execution.Between state) : (execution.finish.consume ch rest).Suits state := by
  refine between.finish.consume ch rest fun after other => ?_
  simp only [Execution.finish, parser_notify, parser_update, Parser.newMessage]
  split <;> simpa [ParserState.suits] using other

theorem Between.messageDone (between : execution.Between state) : (execution.messageDone ch rest).Suits state := by
  simp only [Execution.messageDone]
  split
  · trivial
  · exact between.consume_finish ch rest

theorem Between.headersDone (between : execution.Between state) : (execution.headersDone ch rest).Suits state := by
  simp only [Execution.headersDone]
  repeat' split
  · trivial
  · trivial
  · exact Between.consume ch rest ⟨between.unmarked, between.told⟩ fun after other => by simpa [ParserState.suits, updateState] using other
  · exact Between.consume_finish ch rest ⟨between.unmarked, between.told⟩
  · exact Between.consume ch rest ⟨between.unmarked, between.told⟩ fun after other => by simpa [ParserState.suits, updateState] using other
  · exact Between.consume_finish ch rest ⟨between.unmarked, between.told⟩
  · exact Between.consume ch rest ⟨between.unmarked, between.told⟩ fun after other => by simpa [ParserState.suits, updateState] using other

theorem Between.headersAlmostDone (between : execution.Between state) :
    (execution.headersAlmostDone ch rest).Suits state := by
  simp only [Execution.headersAlmostDone]
  repeat' split
  · trivial
  · refine Between.messageDone ch rest (Between.notify ?_ fun after other => ⟨after, ?_, other⟩)
    · exact ⟨between.unmarked, between.told⟩
    · cases after <;> rfl
  · trivial
  · refine Between.headersDone ch rest (Between.notify ?_ fun after other => ⟨.initial, ?_, by decide⟩)
    · exact ⟨between.unmarked, between.told⟩
    · cases after with
      | lastWasField => exact absurd rfl other
      | _ => rfl

theorem Between.headerFieldStart (between : execution.Between state) :
    (execution.headerFieldStart ch rest).Suits state := by
  simp only [Execution.headerFieldStart]
  repeat' split
  · exact Between.consume ch rest ⟨between.unmarked, between.told⟩ fun after other => by simpa [ParserState.suits, updateState] using other
  · exact Between.headersAlmostDone ch rest ⟨between.unmarked, between.told⟩
  · trivial
  next c lowered =>
    obtain ⟨after, told, other⟩ := between.told
    have marked : ((execution.setMark .headerField).update (·.fieldStart c)).advance [ch] =
        ⟨execution.parser.fieldStart c, some (.headerField, [ch]), execution.events⟩ := by
      simp [setMark, update, advance, between.unmarked]
    refine ⟨.lastWasField, ?_, ?_⟩
    · rw [marked]
      simp only [callbackData, dataEvent, events_notify]
      rw [afterAll_snoc told]
      cases after <;> rfl
    · rw [marked]
      rfl

theorem headerValueStart_suits (unmarked : execution.mark = none) (told : state.afterAll execution.events = some after)
    (named : after ≠ .initial) : (execution.headerValueStart ch rest).Suits state := by
  simp only [headerValueStart, parser_setMark]
  split
  · trivial
  next parser started =>
    have marked : ({ execution.setMark .headerValue with parser := parser } : Execution).advance [ch] =
        ⟨parser, some (.headerValue, [ch]), execution.events⟩ := by
      simp [setMark, advance, unmarked]
    refine ⟨.lastWasValue, ?_, ?_⟩
    · rw [marked]
      simp only [callbackData, dataEvent, notify]
      rw [afterAll_snoc told]
      cases after with
      | initial => exact absurd rfl named
      | _ => rfl
    · rw [marked]
      simp [Parser.valueStart_state started, ParserState.suits]

theorem resStatus_suits (silent : execution.events = []) (marked : execution.mark = some (.status, []))
    (is : execution.parser.state = .resStatus) (suits : execution.parser.state.suits state = true) :
    (execution.dispatch ch rest).Suits state := by
  have other : state ≠ .lastWasField := by simpa [is, ParserState.suits] using suits
  have flushed : ∀ next, (∀ after, after ≠ .lastWasField → next.suits after = true) →
      ((execution.updateState next).callbackData.consume ch rest).Suits state := by
    intro next suits
    refine ⟨state, ?_, ?_⟩
    · rw [advance_callbackData, callbackData_callbackData]
      simp only [callbackData, updateState, update, marked, dataEvent, events_notify, silent]
      cases state <;> rfl
    · rw [parser_advance, parser_callbackData]
      exact suits state other
  unfold dispatch
  simp only [is]
  repeat' split
  · exact flushed _ fun after other => by simpa [ParserState.suits] using other
  · exact flushed _ fun after other => by simpa [ParserState.suits] using other
  · refine ⟨state, ?_, suits⟩
    have same : execution.advance [ch] = ⟨execution.parser, some (.status, [ch]), []⟩ := by
      simp [advance, marked, silent]
    rw [same]
    cases state <;> rfl

theorem Between.next {later : Execution} (between : execution.Between state) (events : List ParserEvent)
    (told : later.callbackData.events = execution.events ++ events)
    (neutral : ∀ after : HeaderState, after.afterAll events = some after)
    (suits : ∀ after : HeaderState, after ≠ .lastWasField → later.parser.state.suits after = true) :
    (Progress.next later rest).Suits state := by
  obtain ⟨after, before, other⟩ := between.told
  refine ⟨after, ?_, suits after other⟩
  rw [told, HeaderState.afterAll_append, before]
  exact neutral after

theorem dispatch_between (between : execution.Between state) (single : execution.parser.state.single = true)
    (is : execution.parser.state.suits .initial = true) (unmarking : execution.parser.state ≠ .resStatus) :
    (execution.dispatch ch rest).Suits state := by
  have unmarked := between.unmarked
  unfold dispatch
  cases at_ : execution.parser.state with
  | headerField | headerValue | bodyIdentity | bodyIdentityEof | chunkData => simp [at_, ParserState.single] at single
  | headerValueDiscardWs | headerValueDiscardWsAlmostDone | headerValueDiscardLws | headerValueStart | headerValueLws
  | headerAlmostDone => simp [at_, ParserState.suits] at is
  | resStatus => exact absurd at_ unmarking
  | headersDone => exact between.headersDone ch rest
  | headersAlmostDone => exact between.headersAlmostDone ch rest
  | headerFieldStart => exact between.headerFieldStart ch rest
  | messageDone => exact between.messageDone ch rest
  | startRes =>
      simp only [startRes]
      repeat' split
      · refine between.next rest [.messageBegin] ?_ (fun after => by cases after <;> rfl) ?_ <;>
          simp [callbackData, advance, updateState, update, notify, unmarked, ParserState.suits]
      · refine between.next rest [.messageBegin] ?_ (fun after => by cases after <;> rfl) ?_ <;>
          simp [callbackData, advance, update, notify, unmarked, ParserState.suits, at_]
      · trivial
  | resStatusStart =>
      simp only
      repeat' split
      · refine between.next rest [] ?_ (fun _ => rfl) ?_ <;>
          simp [callbackData, advance, updateState, update, unmarked, ParserState.suits]
      · refine between.next rest [] ?_ (fun _ => rfl) ?_ <;>
          simp [callbackData, advance, updateState, update, unmarked, ParserState.suits]
      · refine between.next rest [.status execution.parser.statusCode] ?_ (fun after => by cases after <;> rfl) ?_ <;>
          simp [callbackData, advance, update, setMark, notify, dataEvent, unmarked, ParserState.suits]
  | chunkSizeAlmostDone =>
      simp only [chunkSizeAlmostDone]
      split
      · trivial
      · by_cases last : execution.parser.contentLength = 0
        · refine between.next rest [.chunkHeader 0] ?_ (fun after => by cases after <;> rfl) ?_ <;>
            simp [callbackData, advance, update, notify, unmarked, ParserState.suits, last]
        · refine between.next rest [.chunkHeader execution.parser.contentLength] ?_ (fun after => by cases after <;> rfl) ?_ <;>
            simp [callbackData, advance, update, notify, unmarked, ParserState.suits, last]
  | chunkDataDone =>
      simp only
      split
      · trivial
      · refine between.next rest [.chunkComplete] ?_ (fun after => by cases after <;> rfl) ?_ <;>
          simp [callbackData, advance, update, notify, unmarked, ParserState.suits]
  | _ =>
      simp only [expect, versionDigit, resStatusCode, chunkSize]
      repeat' split
      all_goals first
        | trivial
        | exact between.next rest [] (by simp [callbackData, advance, updateState, update, unmarked]) (fun _ => rfl)
            (by simp [updateState, ParserState.suits, at_])

theorem dispatch_suits (single : execution.parser.state.single = true) (silent : execution.events = [])
    (marked : execution.mark = execution.parser.firstMark) (suits : execution.parser.state.suits state = true) :
    (execution.dispatch ch rest).Suits state := by
  have told : state.afterAll execution.events = some state := by rw [silent]; rfl
  cases is : execution.parser.state with
  | headerField | headerValue | bodyIdentity | bodyIdentityEof | chunkData => simp [is, ParserState.single] at single
  | resStatus => exact resStatus_suits ch rest silent (by rw [marked, Parser.firstMark, is]) is suits
  | headerValueDiscardWs =>
      have unmarked : execution.mark = none := by rw [marked, Parser.firstMark, is]
      obtain rfl : state = .lastWasField := by simpa [is, ParserState.suits] using suits
      simp only [dispatch, is, headerValueDiscardWs]
      repeat' split
      · exact unmarked_suits ch rest unmarked told suits
      · exact unmarked_suits ch rest unmarked told rfl
      · exact unmarked_suits ch rest unmarked told rfl
      · exact headerValueStart_suits ch rest unmarked told (by decide)
  | headerValueDiscardWsAlmostDone =>
      have unmarked : execution.mark = none := by rw [marked, Parser.firstMark, is]
      obtain rfl : state = .lastWasField := by simpa [is, ParserState.suits] using suits
      simp only [dispatch, is, expect]
      split
      · trivial
      · exact unmarked_suits ch rest unmarked told rfl
  | headerValueDiscardLws =>
      have unmarked : execution.mark = none := by rw [marked, Parser.firstMark, is]
      obtain rfl : state = .lastWasField := by simpa [is, ParserState.suits] using suits
      simp only [dispatch, is, headerValueDiscardLws]
      split
      · exact unmarked_suits ch rest unmarked told rfl
      · refine Between.headerFieldStart ch rest ⟨mark_callbackData _, .lastWasValue, ?_, by decide⟩
        simp only [callbackData, updateState, update, setMark, unmarked, dataEvent, events_notify, silent]
        rfl
  | headerValueStart =>
      have unmarked : execution.mark = none := by rw [marked, Parser.firstMark, is]
      obtain rfl : state = .lastWasValue := by simpa [is, ParserState.suits] using suits
      simp only [dispatch, is]
      exact headerValueStart_suits ch rest unmarked told (by decide)
  | headerValueLws =>
      have unmarked : execution.mark = none := by rw [marked, Parser.firstMark, is]
      obtain rfl : state = .lastWasValue := by simpa [is, ParserState.suits] using suits
      simp only [dispatch, is, headerValueLws]
      split
      · exact headerValueStart_suits ch rest unmarked told (by decide)
      · exact Between.headerFieldStart ch rest ⟨unmarked, .lastWasValue, told, by decide⟩
  | headerAlmostDone =>
      have unmarked : execution.mark = none := by rw [marked, Parser.firstMark, is]
      obtain rfl : state = .lastWasValue := by simpa [is, ParserState.suits] using suits
      simp only [dispatch, is, headerAlmostDone]
      split
      · trivial
      · exact unmarked_suits ch rest unmarked told rfl
  | _ =>
      have unmarked : execution.mark = none := by rw [marked, Parser.firstMark, is]
      have other : state ≠ .lastWasField := by simpa [is, ParserState.suits] using suits
      exact dispatch_between ch rest ⟨unmarked, state, told, other⟩ single (by simp [is, ParserState.suits]) (by simp [is])

/-! ### The first turn for some data -/

theorem step_bodyLast {execution : Execution} {ch : UInt8} (state : execution.parser.state = .bodyIdentity)
    (last : execution.parser.contentLength = 1) :
    execution.step ch [] =
      if execution.parser.upgrade then .exit (endBody [ch] execution) [] else .next (endBody [ch] execution) [] := by
  apply step_bodyEnd state <;> rw [last] <;> rfl

theorem step_chunkLast {execution : Execution} {ch : UInt8} (state : execution.parser.state = .chunkData)
    (last : execution.parser.contentLength = 1) :
    execution.step ch [] = .next ((passText [ch] execution).updateState .chunkDataAlmostDone) [] := by
  apply step_chunkEnd state <;> rw [last] <;> rfl

theorem step_suits (single : execution.parser.state.single = true) (silent : execution.events = [])
    (marked : execution.mark = execution.parser.firstMark) (suits : execution.parser.state.suits state = true) :
    (execution.step ch rest).Suits state := by
  simp only [step, countHeaderSize_eq]
  repeat' split
  · trivial
  · exact dispatch_suits ch rest single silent marked suits
  · exact dispatch_suits ch rest single silent marked suits

end Execution

def Parser.start (parser : Parser) : Execution := { parser := parser, mark := parser.firstMark }

theorem Parser.parser_start (parser : Parser) : parser.start.parser = parser := rfl

namespace Execution

theorem marked_suits {execution : Execution} {state after : HeaderState} (mark : Mark) (text : Bytes)
    (marked : execution.mark = some (mark, text)) (silent : execution.events = [])
    (told : state.after (dataEvent execution.parser text mark) = some after)
    (suits : execution.parser.state.suits after = true) : (Progress.next execution rest).Suits state := by
  refine ⟨after, ?_, suits⟩
  simp only [callbackData, marked, silent, events_notify, List.nil_append, HeaderState.afterAll, told, Option.bind_some]

theorem after_body {state : HeaderState} (parser : Parser) (text : Bytes) :
    state.after (dataEvent parser text .body) = some state := by
  cases state <;> rfl

theorem start_suits {parser : Parser} {ch : UInt8} {state : HeaderState} (sound : parser.start.Sound)
    (suits : parser.state.suits state = true) (works : (parser.start.step ch []).Works) :
    (parser.start.step ch []).Suits state := by
  cases is : parser.state with
  | headerField =>
      obtain rfl : state = .lastWasField := by simpa [is, ParserState.suits] using suits
      have begins : parser.start.parser.state = .headerField := is
      have first : parser.start.mark = some (.headerField, []) := by simp [Parser.start, Parser.firstMark, is]
      cases lowered : token ch with
      | some c =>
          rw [step_fieldChar begins lowered (counted_fieldChar begins lowered works.noticed)]
          refine marked_suits .headerField [ch] ?_ rfl rfl ?_
          · simp [fieldChars, weigh, update, advance, first]
          · have kept := fieldChars_state [ch] parser.start
            change (fieldChars [ch] parser.start).parser.state.suits _ = true
            rw [kept]
            exact suits
      | none =>
          obtain rfl := counted_fieldEnd begins lowered works
          rw [step_fieldEnd begins (counted (by rw [begins]; rfl) works.noticed)]
          refine ⟨.lastWasField, ?_, ?_⟩
          · rw [callbackData_callbackData]
            simp [callbackData, weigh, update, updateState, first]
            rfl
          · rw [parser_callbackData]
            rfl
  | headerValue =>
      obtain rfl : state = .lastWasValue := by simpa [is, ParserState.suits] using suits
      have begins : parser.start.parser.state = .headerValue := is
      have first : parser.start.mark = some (.headerValue, []) := by simp [Parser.start, Parser.firstMark, is]
      by_cases ended : ch = 13 ∨ ch = 10
      · rw [step_valueEnd begins ended (counted (by rw [begins]; rfl) works.noticed)]
        have told : HeaderState.lastWasValue.afterAll ((parser.start.weigh (parser.start.parser.nread + 1)).updateState
            .headerAlmostDone).callbackData.events = some .lastWasValue := by
          simp [callbackData, weigh, update, updateState, first]
          rfl
        split
        · refine ⟨.lastWasValue, ?_, ?_⟩
          · rw [callbackData_callbackData]
            exact told
          · rw [parser_callbackData]
            rfl
        · refine ⟨.lastWasValue, ?_, rfl⟩
          rw [events_settled]
          exact told
      · obtain ⟨next, valid, read, small⟩ := counted_valueChar begins ended works
        rw [step_valueChar begins ended valid read small]
        refine marked_suits .headerValue [ch] ?_ rfl rfl ?_
        · simp [passValue, weigh, update, advance, first]
        · change next.state.suits _ = true
          rw [Parser.valueChar_state read, begins]
          rfl
  | bodyIdentity =>
      have begins : parser.start.parser.state = .bodyIdentity := is
      have other : state ≠ .lastWasField := by simpa [is, ParserState.suits] using suits
      have marked : (passText [ch] parser.start).mark = some (.body, [ch]) := by
        simp [passText, setMark, update, advance, Parser.start, Parser.firstMark, is]
      have silent : (passText [ch] parser.start).events = [] := by simp [passText, Parser.start]
      by_cases more : [ch].length < parser.start.parser.contentLength
      · rw [step_inBody (.inl begins) more]
        refine marked_suits _ _ marked silent (after_body _ _) ?_
        rw [passText_leaves]
        exact suits
      · have positive := sound.unread (.inl begins)
        rw [List.length_singleton] at more
        rw [step_bodyLast begins (by omega)]
        split
        · trivial
        · refine ⟨state, ?_, ?_⟩
          · rw [callbackData_unmarked (show (endBody [ch] parser.start).mark = none from mark_callbackData _)]
            simp only [endBody, finish, events_notify, callbackData, updateState, update, marked, silent]
            cases state <;> rfl
          · simp only [endBody, finish, parser_notify, parser_update, parser_callbackData, Parser.newMessage]
            split <;> simpa [ParserState.suits] using other
  | chunkData =>
      have begins : parser.start.parser.state = .chunkData := is
      have marked : (passText [ch] parser.start).mark = some (.body, [ch]) := by
        simp [passText, setMark, update, advance, Parser.start, Parser.firstMark, is]
      have silent : (passText [ch] parser.start).events = [] := by simp [passText, Parser.start]
      by_cases more : [ch].length < parser.start.parser.contentLength
      · rw [step_inBody (.inr begins) more]
        refine marked_suits _ _ marked silent (after_body _ _) ?_
        rw [passText_leaves]
        exact suits
      · have positive := sound.unread (.inr begins)
        rw [List.length_singleton] at more
        rw [step_chunkLast begins (by omega)]
        refine marked_suits _ _ marked silent (after_body _ _) ?_
        simpa [is, ParserState.suits, updateState] using suits
  | bodyIdentityEof =>
      have begins : parser.start.parser.state = .bodyIdentityEof := is
      rw [step_untilEof [] begins]
      refine marked_suits .body [ch] ?_ ?_ (after_body _ _) ?_
      · simp [setMark, advance, Parser.start, Parser.firstMark, is]
      · simp [Parser.start]
      · simp only [parser_advance, parser_setMark]
        exact suits
  | _ => exact step_suits ch [] (by rw [show parser.start.parser.state = _ from is]; rfl) rfl rfl suits

end Execution

end Net

end IotClient
