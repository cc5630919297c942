import IotClient.Proof.HttpPieces
import IotClient.Spec.HttpSplit

namespace IotClient

open Logic

namespace ResponseParser

variable {maxStringSize : Nat} {before after : ResponseParser}

theorem handleAll_fault {events : List ParserEvent} {fault : Fault}
    (failed : handleAll maxStringSize before events = .error fault) (more : List ParserEvent) :
    handleAll maxStringSize before (events ++ more) = .error fault := by
  induction events generalizing before with
  | nil => cases failed
  | cons event events continued =>
      revert failed
      simp only [List.cons_append, handleAll]
      cases handle maxStringSize before event with
      | error other => exact id
      | ok next =>
          simp only [bind, Except.bind]
          split
          · rintro ⟨⟩
          · exact continued

theorem handleAll_dataEvent (before : ResponseParser) (parser : Net.Parser) (text : Bytes) (mark : Net.Mark) :
    ∃ later, handleAll maxStringSize before [Net.Execution.dataEvent parser text mark] = .ok later := by
  have handled : ∃ later, handle maxStringSize before (Net.Execution.dataEvent parser text mark) = .ok later := by
    cases mark with
    | status | body => exact ⟨_, rfl⟩
    | headerField | headerValue =>
        simp only [Net.Execution.dataEvent, handle]
        split <;> exact ⟨_, rfl⟩
  obtain ⟨later, handled⟩ := handled
  refine ⟨later, ?_⟩
  simp only [handleAll, handled, bind, Except.bind]
  split <;> rfl

theorem handleAll_callbackData {execution : Net.Execution} {fault : Fault} (begun : before.error = none)
    (failed : handleAll maxStringSize before execution.callbackData.events = .error fault) :
    handleAll maxStringSize before execution.events = .error fault := by
  cases marked : execution.mark with
  | none => rwa [Net.Execution.callbackData_unmarked marked] at failed
  | some pair =>
      rw [Net.Execution.events_callbackData marked, handleAll_append begun] at failed
      cases told : handleAll maxStringSize before execution.events with
      | error other =>
          rw [told] at failed
          exact failed
      | ok later =>
          obtain ⟨next, handled⟩ := handleAll_dataEvent later execution.parser pair.2 pair.1
          rw [told] at failed
          change (if later.error.isSome then .ok later else handleAll maxStringSize later _) = _ at failed
          rw [handled] at failed
          split at failed <;> cases failed

theorem handle_fed (event : ParserEvent) (fed : List Bytes) :
    handle maxStringSize { before with fed := fed } event =
      (handle maxStringSize before event).map fun later => { later with fed := fed } := by
  cases event with
  | headerField text | headerValue text =>
      simp only [handle]
      cases before.headerState <;> rfl
  | headersComplete contentLength =>
      obtain ⟨status, data, headers, state, name, value, started, complete, error, -⟩ := before
      simp only [handle, reserveData]
      cases state with
      | lastWasField => rfl
      | _ =>
          simp only
          split <;> rfl
  | chunkHeader contentLength =>
      simp only [handle, reserveData]
      split <;> rfl
  | _ => rfl

theorem handleAll_fed (events : List ParserEvent) (fed : List Bytes) :
    handleAll maxStringSize { before with fed := fed } events =
      (handleAll maxStringSize before events).map fun later => { later with fed := fed } := by
  induction events generalizing before with
  | nil => rfl
  | cons event events continued =>
      simp only [handleAll, handle_fed]
      cases handle maxStringSize before event with
      | error fault => rfl
      | ok later =>
          simp only [Except.map, bind, Except.bind]
          split
          · rfl
          · exact continued

theorem handle_incomplete {event : ParserEvent} (run : handle maxStringSize before event = .ok after)
    (other : event ≠ .messageComplete) : after.isComplete = before.isComplete := by
  revert run
  cases event with
  | messageComplete => exact absurd rfl other
  | headersComplete contentLength =>
      simp only [handle]
      cases before.headerState with
      | lastWasField =>
          rintro ⟨⟩
          rfl
      | _ =>
          intro run
          rw [reserveData_ok run]
  | chunkHeader contentLength =>
      intro run
      rw [reserveData_ok run]
  | headerField text | headerValue text =>
      simp only [handle]
      cases before.headerState <;>
      · rintro ⟨⟩
        rfl
  | _ =>
      rintro ⟨⟩
      rfl

theorem handleAll_incomplete {events : List ParserEvent} (run : handleAll maxStringSize before events = .ok after)
    (other : .messageComplete ∉ events) : after.isComplete = before.isComplete := by
  induction events generalizing before with
  | nil =>
      cases run
      rfl
  | cons event events continued =>
      simp only [handleAll, bind_eq_ok] at run
      obtain ⟨between, first, run⟩ := run
      rw [List.mem_cons, not_or] at other
      have kept := handle_incomplete first (Ne.symm other.1)
      split at run
      · cases run
        exact kept
      · exact (continued run other.2).trans kept

theorem handleAll_status {events : List ParserEvent} {code : Nat}
    (run : handleAll maxStringSize before (events ++ [.status code]) = .ok after) (begun : before.error = none)
    (fine : after.error = none) : after.httpStatus = code := by
  rw [handleAll_append begun] at run
  obtain ⟨between, -, run⟩ := bind_eq_ok.1 run
  split at run
  next failed =>
    cases run
    simp [fine] at failed
  next =>
    simp only [handleAll, handle, bind, Except.bind] at run
    split at run <;>
    · cases run
      rfl

end ResponseParser

namespace Net

/-! ## Between two bytes -/

structure Fits (parser : Parser) (response : ResponseParser) : Prop where
  fine : response.error = none
  suits : parser.state.suits response.headerState = true
  status : parser.state = .resStatus → response.httpStatus = parser.statusCode
  unread : parser.state = .bodyIdentity ∨ parser.state = .chunkData → 0 < parser.contentLength

variable {maxStringSize : Nat} {parser : Parser} {response after : ResponseParser} {ch : UInt8}

theorem fits_initial : Fits {} {} := by
  refine ⟨rfl, rfl, ?_, ?_⟩ <;> simp

theorem Parser.start_sound
    (unread : parser.state = .bodyIdentity ∨ parser.state = .chunkData → 0 < parser.contentLength) :
    parser.start.Sound := by
  refine ⟨?_, unread⟩
  have first : parser.start.kind = parser.firstMark.map Prod.fst := rfl
  rw [first, parser_start]
  unfold Parser.firstMark
  cases parser.state <;> rfl

theorem Fits.sound (fits : Fits parser response) : parser.start.Sound := Parser.start_sound fits.unread

theorem Fits.start (fits : Fits parser response) :
    ResponseParser.handleAll maxStringSize response parser.start.callbackData.events = .ok response := by
  obtain ⟨fine, suits, status, -⟩ := fits
  obtain ⟨httpStatus, data, headers, headerState, name, value, started, complete, error, fed⟩ := response
  cases fine
  cases is : parser.state with
  | headerField =>
      obtain rfl : headerState = .lastWasField := by simpa [is, ParserState.suits] using suits
      simp [Parser.start, Parser.firstMark, is, Execution.callbackData, Execution.notify, Execution.dataEvent,
        ResponseParser.handleAll, ResponseParser.handle, bind, Except.bind]
  | headerValue =>
      obtain rfl : headerState = .lastWasValue := by simpa [is, ParserState.suits] using suits
      simp [Parser.start, Parser.firstMark, is, Execution.callbackData, Execution.notify, Execution.dataEvent,
        ResponseParser.handleAll, ResponseParser.handle, bind, Except.bind]
  | resStatus =>
      simp [Parser.start, Parser.firstMark, is, Execution.callbackData, Execution.notify, Execution.dataEvent,
        ResponseParser.handleAll, ResponseParser.handle, bind, Except.bind, ← status is]
  | _ => simp [Parser.start, Parser.firstMark, is, Execution.callbackData, ResponseParser.handleAll]

theorem Fits.byte (fits : Fits parser response) {later : Execution} {left : Bytes}
    (run : parser.start.step ch [] = .next later left)
    (told : ResponseParser.handleAll maxStringSize response later.callbackData.events = .ok after) :
    later.Sound ∧ Fits later.parser after := by
  have works : (parser.start.step ch []).Works := by rw [run]; trivial
  have sound := Execution.step_keeps fits.sound works
  have suits := Execution.start_suits fits.sound fits.suits works
  rw [run] at sound suits
  obtain ⟨state, follows, suits⟩ := suits
  obtain ⟨moved, fine⟩ := ResponseParser.handleAll_after fits.fine follows told
  refine ⟨sound, fine, by rw [moved]; exact suits, fun is => ?_, sound.unread⟩
  have marked := sound.marked
  rw [is] at marked
  cases mark : later.mark with
  | none => simp [Execution.kind, mark, ParserState.admits] at marked
  | some pair =>
      obtain ⟨kind, text⟩ := pair
      obtain rfl : kind = .status := by simpa [Execution.kind, mark, ParserState.admits] using marked
      rw [Execution.events_callbackData mark] at told
      exact ResponseParser.handleAll_status told fits.fine fine

/-! ## A read and its bytes -/

/-- What becomes of one byte: it is read, and the parser waits for the next message if one ends with it; or the parser stops
behind it, at the end of a message; or it refuses the byte. -/
def Progress.Whole (ch : UInt8) : Progress → Prop
  | .next execution left =>
      left = [] ∧ execution.parser.errno = .ok ∧
        (.messageComplete ∈ execution.events → execution.parser.state = .startRes ∨ execution.parser.state = .dead)
  | .exit execution left =>
      execution.parser.errno = .ok ∧ .messageComplete ∈ execution.events ∧ left = [] ∨
        execution.parser.errno ≠ .ok ∧ left = [ch]

namespace Parser

theorem valueStart_errno {ch : UInt8} {before after : Parser} (started : before.valueStart ch = .ok after) :
    after.errno = before.errno := by
  revert started
  simp only [valueStart]
  repeat' split
  all_goals
    intro started
    cases started
    try rfl

theorem setConnection_errno (parser : Parser) : parser.setConnection.errno = parser.errno := by
  unfold setConnection
  split <;> rfl

theorem valueChar_errno {ch : UInt8} {before after : Parser} (passed : before.valueChar ch = .ok after) :
    after.errno = before.errno := by
  revert passed
  simp only [valueChar]
  repeat' split
  all_goals
    intro passed
    cases passed
    try rfl
  all_goals exact setConnection_errno before

theorem headerOver_errno (parser : Parser) : parser.headerOver.errno = parser.errno := by
  unfold headerOver
  split
  · rfl
  · exact setConnection_errno parser

theorem fieldChar_errno (c : UInt8) (parser : Parser) : (parser.fieldChar c).errno = parser.errno := by
  unfold fieldChar
  split <;> rfl

end Parser

namespace Execution

structure Quiet (execution : Execution) : Prop where
  working : execution.parser.errno = .ok
  unfinished : .messageComplete ∉ execution.events

variable {execution : Execution}

theorem Quiet.update {change : Parser → Parser} (quiet : execution.Quiet)
    (kept : (change execution.parser).errno = execution.parser.errno) : (execution.update change).Quiet :=
  ⟨kept.trans quiet.working, quiet.unfinished⟩

theorem Quiet.updateState {state : ParserState} (quiet : execution.Quiet) : (execution.updateState state).Quiet :=
  quiet.update rfl

theorem Quiet.setMark {mark : Mark} (quiet : execution.Quiet) : (execution.setMark mark).Quiet :=
  ⟨by rw [parser_setMark]; exact quiet.working, by rw [events_setMark]; exact quiet.unfinished⟩

theorem Quiet.notify {event : ParserEvent} (quiet : execution.Quiet) (other : .messageComplete ≠ event) :
    (execution.notify event).Quiet :=
  ⟨quiet.working, by simp [quiet.unfinished, other]⟩

theorem Quiet.callbackData (quiet : execution.Quiet) : execution.callbackData.Quiet := by
  unfold Execution.callbackData
  split
  · exact quiet
  next mark text _ =>
    have told := quiet.notify (show .messageComplete ≠ dataEvent execution.parser text mark by cases mark <;> simp [dataEvent])
    exact ⟨told.working, told.unfinished⟩

theorem Quiet.whole (quiet : execution.Quiet) : (Progress.next execution []).Whole ch :=
  ⟨rfl, quiet.working, fun finished => absurd finished quiet.unfinished⟩

theorem Quiet.consume (quiet : execution.Quiet) : (execution.consume ch []).Whole ch := by
  have moved : (execution.advance [ch]).Quiet := ⟨quiet.working, quiet.unfinished⟩
  exact moved.whole

theorem fail_whole {errno : Errno} (failed : errno ≠ .ok) : (execution.fail errno [ch]).Whole ch := .inr ⟨failed, rfl⟩

theorem Quiet.finish_exit (quiet : execution.Quiet) : (Progress.exit execution.finish []).Whole ch :=
  .inl ⟨quiet.working, by simp [finish], rfl⟩

theorem Quiet.finish_next (quiet : execution.Quiet) (ch : UInt8) : (Progress.next execution.finish []).Whole ch := by
  refine ⟨rfl, quiet.working, fun _ => ?_⟩
  simp only [finish, parser_notify, parser_update, Parser.newMessage]
  split <;> simp

theorem Quiet.finish_consume (quiet : execution.Quiet) : (execution.finish.consume ch []).Whole ch :=
  quiet.finish_next ch

theorem Quiet.messageDone (quiet : execution.Quiet) : (execution.messageDone ch []).Whole ch := by
  simp only [Execution.messageDone]
  split
  · exact quiet.finish_exit
  · exact quiet.finish_consume

theorem Quiet.headersDone (quiet : execution.Quiet) : (execution.headersDone ch []).Whole ch := by
  have counted : (execution.update fun parser => { parser with nread := 0 }).Quiet := quiet.update rfl
  simp only [Execution.headersDone]
  repeat' split
  · exact fail_whole (by decide)
  · exact counted.finish_exit
  · exact counted.updateState.consume
  · exact counted.finish_consume
  · exact counted.updateState.consume
  · exact counted.finish_consume
  · exact counted.updateState.consume

theorem Quiet.headersAlmostDone (quiet : execution.Quiet) : (execution.headersAlmostDone ch []).Whole ch := by
  simp only [Execution.headersAlmostDone]
  repeat' split
  · exact fail_whole (by decide)
  · exact (quiet.updateState.notify (by decide)).messageDone
  · exact fail_whole (by decide)
  · refine Quiet.headersDone (Quiet.notify (quiet.update ?_) ?_)
    · rfl
    · simp

theorem Quiet.headerFieldStart (quiet : execution.Quiet) : (execution.headerFieldStart ch []).Whole ch := by
  simp only [Execution.headerFieldStart]
  repeat' split
  · exact quiet.updateState.consume
  · exact quiet.updateState.headersAlmostDone
  · exact fail_whole (by decide)
  · exact (quiet.setMark.update rfl).consume

theorem Quiet.headerValueStart (quiet : execution.Quiet) : (execution.headerValueStart ch []).Whole ch := by
  simp only [Execution.headerValueStart]
  split
  next failed => exact fail_whole (valueStart_error _ failed)
  next parser started =>
    have marked : (execution.setMark .headerValue).Quiet := quiet.setMark
    have kept : ({ execution.setMark .headerValue with parser := parser } : Execution).Quiet :=
      ⟨(Parser.valueStart_errno started).trans marked.working, marked.unfinished⟩
    exact kept.consume

theorem Quiet.dispatch (quiet : execution.Quiet) (single : execution.parser.state.single = true) :
    (execution.dispatch ch []).Whole ch := by
  unfold Execution.dispatch
  cases is : execution.parser.state with
  | headerField | headerValue | bodyIdentity | bodyIdentityEof | chunkData => simp [is, ParserState.single] at single
  | headersDone => exact quiet.headersDone
  | headersAlmostDone => exact quiet.headersAlmostDone
  | headerFieldStart => exact quiet.headerFieldStart
  | headerValueStart => exact quiet.headerValueStart
  | messageDone => exact quiet.messageDone
  | headerValueDiscardWs =>
      simp only [Execution.headerValueDiscardWs]
      repeat' split
      · exact quiet.consume
      · exact quiet.updateState.consume
      · exact quiet.updateState.consume
      · exact quiet.headerValueStart
  | headerValueDiscardLws =>
      simp only [Execution.headerValueDiscardLws]
      split
      · exact quiet.updateState.consume
      · exact ((quiet.update (Parser.headerOver_errno _)).setMark.updateState.callbackData).headerFieldStart
  | headerValueLws =>
      simp only [Execution.headerValueLws]
      split
      · exact quiet.updateState.headerValueStart
      · exact (quiet.update (Parser.headerOver_errno _)).updateState.headerFieldStart
  | chunkSizeAlmostDone =>
      simp only [Execution.chunkSizeAlmostDone]
      split
      · exact fail_whole (by decide)
      · refine Quiet.consume (Quiet.notify (quiet.update ?_) ?_)
        · split <;> rfl
        · simp
  | _ =>
      simp only [Execution.startRes, Execution.expect, versionDigit, resStatusCode, Execution.headerAlmostDone, chunkSize]
      repeat' split
      all_goals first
        | exact fail_whole (by decide)
        | exact quiet.consume
        | exact quiet.updateState.consume
        | exact (quiet.update rfl).consume
        | exact quiet.updateState.callbackData.consume
        | exact (quiet.setMark.update rfl).consume
        | exact ((quiet.update rfl).notify (by decide)).consume
        | exact ((quiet.update rfl).updateState.notify (by decide)).consume

theorem Quiet.passText {text : Bytes} (quiet : execution.Quiet) : (passText text execution).Quiet := by
  have marked : (execution.setMark .body).Quiet := quiet.setMark
  exact ⟨marked.working, marked.unfinished⟩

theorem Quiet.step (quiet : execution.Quiet) (sound : execution.Sound) (noticed : (execution.step ch []).Noticed) :
    (execution.step ch []).Whole ch := by
  cases is : execution.parser.state with
  | headerField =>
      cases lowered : token ch with
      | some c =>
          rw [step_fieldChar is lowered (counted_fieldChar is lowered noticed)]
          refine Quiet.whole ⟨?_, quiet.unfinished⟩
          simp only [fieldChars, weigh, parser_update, parser_advance, List.filterMap_cons, lowered, List.filterMap_nil,
            List.foldl_cons, List.foldl_nil]
          exact (Parser.fieldChar_errno _ _).trans quiet.working
      | none =>
          have small := counted (by rw [is]; rfl) noticed
          by_cases colon : ch = 58
          · subst colon
            rw [step_fieldEnd is small]
            exact (quiet.update rfl).updateState.callbackData.whole
          · rw [step_fieldFails is lowered colon small]
            exact fail_whole (by decide)
  | headerValue =>
      have small := counted (by rw [is]; rfl) noticed
      by_cases ended : ch = 13 ∨ ch = 10
      · rw [step_valueEnd is ended small]
        split
        · exact (quiet.update rfl).updateState.callbackData.whole
        · exact (quiet.update rfl).updateState.callbackData.updateState.whole
      · rcases noticed_valueChar is ended noticed with ⟨next, valid, read, small⟩ | ⟨errno, failed, -, scan⟩
        · rw [step_valueChar is ended valid read small]
          exact Quiet.whole ⟨(Parser.valueChar_errno read).trans quiet.working, quiet.unfinished⟩
        · rw [step_valueFails is small (scan [])]
          exact fail_whole failed
  | bodyIdentity =>
      by_cases more : [ch].length < execution.parser.contentLength
      · rw [step_inBody (.inl is) more]
        exact quiet.passText.whole
      · have positive := sound.unread (.inl is)
        rw [List.length_singleton] at more
        rw [step_bodyLast is (by omega)]
        split
        · exact quiet.passText.updateState.callbackData.finish_exit
        · exact quiet.passText.updateState.callbackData.finish_next ch
  | chunkData =>
      by_cases more : [ch].length < execution.parser.contentLength
      · rw [step_inBody (.inr is) more]
        exact quiet.passText.whole
      · have positive := sound.unread (.inr is)
        rw [List.length_singleton] at more
        rw [step_chunkLast is (by omega)]
        exact quiet.passText.updateState.whole
  | bodyIdentityEof =>
      rw [step_untilEof [] is]
      have marked : (execution.setMark .body).Quiet := quiet.setMark
      exact Quiet.whole ⟨marked.working, marked.unfinished⟩
  | _ =>
      have single : execution.parser.state.single = true := by rw [is]; rfl
      have counts : (execution.weigh (execution.parser.nread + 1)).Quiet := quiet.update rfl
      by_cases header : execution.parser.state.parsingHeader = true
      · rw [step_header header (counted header noticed)]
        exact counts.dispatch single
      · simp only [Execution.step, header, Bool.false_eq_true, if_false]
        exact quiet.dispatch single

theorem silent_crawl (data : Bytes) (events : List ParserEvent) (execution : Execution) :
    crawl data (execution.after events) = (crawl data execution).after events := by
  induction data generalizing execution with
  | nil => rfl
  | cons ch data continued =>
      simp only [crawl, step_after]
      cases execution.step ch [] with
      | next later left => exact continued later
      | exit later left => rfl

theorem events_crawl (data : Bytes) (execution : Execution) :
    execution.events <+: (crawl data execution).settle.1.events := by
  rw [← execution.silent_after, silent_crawl, silent_after]
  cases crawl data execution.silent with
  | next later left =>
      change _ <+: (later.after _).callbackData.events
      rw [callbackData_after]
      exact List.prefix_append _ _
  | exit later left => exact List.prefix_append _ _

end Execution

namespace Parser

theorem bytewise_append (data more : Bytes) (parser : Parser) :
    bytewise (data ++ more) parser =
      ((bytewise more (bytewise data parser).1).1,
        (bytewise data parser).2 ++ (bytewise more (bytewise data parser).1).2) := by
  induction data generalizing parser with
  | nil => rfl
  | cons b data continued =>
      simp only [List.cons_append, bytewise, continued, List.append_assoc]

theorem bytewise_stopped {parser : Parser} (stopped : parser.errno ≠ .ok) (data : Bytes) :
    bytewise data parser = (parser, []) := by
  induction data with
  | nil => rfl
  | cons b data continued => simp only [bytewise, execute_stopped stopped, continued, List.append_nil]

structure Continues (parser : Parser) (data : Bytes) : Prop where
  fine : (bytewise data parser).1.errno = .ok
  last : ∀ shorter, shorter <+: data → shorter ≠ data → .messageComplete ∉ (bytewise shorter parser).2

theorem Continues.working {data : Bytes} (continues : parser.Continues data) : parser.errno = .ok := by
  have fine := continues.fine
  by_contra stopped
  rw [bytewise_stopped stopped] at fine
  exact stopped fine

theorem Continues.later {data more : Bytes} (continues : parser.Continues (data ++ more)) :
    (bytewise data parser).1.Continues more := by
  have fine := continues.fine
  rw [bytewise_append] at fine
  refine ⟨fine, fun shorter begins proper member => ?_⟩
  refine continues.last (data ++ shorter) ?_ ?_ ?_
  · exact (List.prefix_append_right_inj data).2 begins
  · exact fun same => proper (List.append_cancel_left same)
  · rw [bytewise_append]
    exact List.mem_append_right _ member

theorem Continues.first {data more : Bytes} (continues : parser.Continues (data ++ more)) : parser.Continues data := by
  refine ⟨continues.later.working, fun shorter begins proper => ?_⟩
  refine continues.last shorter (begins.trans (List.prefix_append _ _)) fun same => ?_
  have length := begins.length_le
  rw [same, List.length_append] at length
  have none : more = [] := List.length_eq_zero_iff.1 (by omega)
  rw [none, List.append_nil] at same
  exact proper same

theorem Continues.unfinished {data more : Bytes} (continues : parser.Continues (data ++ more)) (some : more ≠ []) :
    .messageComplete ∉ (bytewise data parser).2 := by
  refine continues.last data (List.prefix_append _ _) fun same => some ?_
  exact List.self_eq_append_right.1 same

structure Stays (parser : Parser) (data : Bytes) : Prop where
  fine : (bytewise data parser).1.errno = .ok
  unfinished : .messageComplete ∉ (bytewise data parser).2

theorem Continues.stays {data more : Bytes} (continues : parser.Continues (data ++ more)) (some : more ≠ []) :
    parser.Stays data :=
  ⟨continues.first.fine, continues.unfinished some⟩

theorem Continues.tail {data : Bytes} (continues : parser.Continues (ch :: data)) :
    (parser.execute [ch]).1.Continues data := by
  have split : ch :: data = [ch] ++ data := rfl
  rw [split] at continues
  exact continues.later

theorem Continues.unfinished_cons {data : Bytes} (continues : parser.Continues (ch :: data)) (some : data ≠ []) :
    .messageComplete ∉ (parser.execute [ch]).2.1 := by
  have split : ch :: data = [ch] ++ data := rfl
  rw [split] at continues
  simpa only [bytewise, List.append_nil] using continues.unfinished some

theorem Stays.append_iff {data more : Bytes} :
    parser.Stays (data ++ more) ↔ parser.Stays data ∧ (bytewise data parser).1.Stays more := by
  constructor
  · rintro ⟨fine, unfinished⟩
    rw [bytewise_append] at fine unfinished
    rw [List.mem_append, not_or] at unfinished
    refine ⟨⟨?_, unfinished.1⟩, fine, unfinished.2⟩
    by_contra stopped
    rw [bytewise_stopped stopped] at fine
    exact stopped fine
  · rintro ⟨first, later⟩
    refine ⟨?_, ?_⟩
    · rw [bytewise_append]
      exact later.fine
    · rw [bytewise_append, List.mem_append, not_or]
      exact ⟨first.unfinished, later.unfinished⟩

theorem Stays.cons_iff {data : Bytes} :
    parser.Stays (ch :: data) ↔ ((parser.execute [ch]).1.errno = .ok ∧ .messageComplete ∉ (parser.execute [ch]).2.1) ∧
      (parser.execute [ch]).1.Stays data := by
  have one : parser.Stays [ch] ↔ (parser.execute [ch]).1.errno = .ok ∧ .messageComplete ∉ (parser.execute [ch]).2.1 := by
    constructor
    · rintro ⟨fine, unfinished⟩
      exact ⟨fine, by simpa only [bytewise, List.append_nil] using unfinished⟩
    · rintro ⟨fine, unfinished⟩
      exact ⟨fine, by simpa only [bytewise, List.append_nil] using unfinished⟩
  rw [← one]
  exact @Stays.append_iff parser [ch] data

theorem Stays.working {data : Bytes} (stays : parser.Stays data) : parser.errno = .ok := by
  have fine := stays.fine
  by_contra stopped
  rw [bytewise_stopped stopped] at fine
  exact stopped fine

theorem Stays.first {data shorter : Bytes} (stays : parser.Stays data) (begins : shorter <+: data) : parser.Stays shorter := by
  obtain ⟨more, rfl⟩ := begins
  exact (append_iff.1 stays).1

theorem Stays.continues {data : Bytes} (stays : parser.Stays data) : parser.Continues data :=
  ⟨stays.fine, fun _ begins _ => (stays.first begins).unfinished⟩

theorem Stays.byte {data : Bytes} (stays : parser.Stays data)
    (fine : ((bytewise data parser).1.execute [ch]).1.errno = .ok) : parser.Continues (data ++ [ch]) := by
  refine ⟨?_, fun shorter begins proper => ?_⟩
  · rw [bytewise_append]
    exact fine
  · exact (stays.first ((List.prefix_concat_iff.1 begins).resolve_left proper)).unfinished

end Parser

namespace Execution

theorem start_quiet (working : parser.errno = .ok) : parser.start.Quiet := ⟨working, by simp [Parser.start]⟩

theorem execute_byte (working : parser.errno = .ok) (sound : parser.start.Sound) (ch : UInt8) :
    (parser.execute [ch]).1 = (crawl [ch] parser.start).settle.1.parser ∧
      (parser.execute [ch]).2.1 = (crawl [ch] parser.start).settle.1.events := by
  rw [Parser.execute_nonempty working (List.cons_ne_nil _ _)]
  change (loop 1 [ch] parser.start).1.parser = _ ∧ (loop 1 [ch] parser.start).1.events = _
  simp only [loop, crawl]
  cases turn : parser.start.step ch [] with
  | next later left =>
      have whole : (parser.start.step ch []).Whole ch := (start_quiet working).step sound (by rw [turn]; trivial)
      rw [turn] at whole
      obtain ⟨rfl, -⟩ := whole
      exact ⟨rfl, rfl⟩
  | exit later left => exact ⟨rfl, rfl⟩

theorem byte_noticed (working : parser.errno = .ok) (sound : parser.start.Sound)
    (noticed : (parser.execute [ch]).1.Noticed) : (parser.start.step ch []).Noticed := by
  rw [(execute_byte working sound ch).1] at noticed
  revert noticed
  simp only [crawl]
  cases parser.start.step ch [] with
  | next later left => exact fun _ => trivial
  | exit later left => exact id

theorem byte_works (working : parser.errno = .ok) (sound : parser.start.Sound)
    (fine : (parser.execute [ch]).1.errno = .ok) : (parser.start.step ch []).Works := by
  rw [(execute_byte working sound ch).1] at fine
  revert fine
  simp only [crawl]
  cases parser.start.step ch [] with
  | next later left => exact fun _ => trivial
  | exit later left => exact id

variable {execution : Execution} {before : ResponseParser}

theorem Sound.start (sound : execution.Sound) : execution.parser.start.Sound := Parser.start_sound sound.unread

theorem execute_inside (working : parser.errno = .ok) (sound : parser.start.Sound)
    (fine : (parser.execute [ch]).1.errno = .ok) (unfinished : .messageComplete ∉ (parser.execute [ch]).2.1) :
    ∃ later, parser.start.step ch [] = .next later [] ∧ (parser.execute [ch]).1 = later.parser ∧
      (parser.execute [ch]).2.1 = later.callbackData.events ∧ later.Sound := by
  have works := byte_works working sound fine
  have whole := (start_quiet working).step sound works.noticed
  have kept := step_keeps sound works
  obtain ⟨parsed, called⟩ := execute_byte working sound ch
  rw [called] at unfinished
  rw [parsed, called]
  simp only [crawl] at unfinished ⊢
  cases turn : parser.start.step ch [] with
  | next later left =>
      rw [turn] at whole kept
      obtain ⟨rfl, -⟩ := whole
      exact ⟨later, rfl, parser_callbackData _, rfl, kept⟩
  | exit later left =>
      rw [turn] at whole works
      simp only [turn] at unfinished
      rcases whole with ⟨-, finished, -⟩ | ⟨failed, -⟩
      · exact absurd finished unfinished
      · exact absurd works failed

theorem step_leads (sound : execution.Sound) (working : execution.parser.errno = .ok)
    (works : (execution.parser.start.step ch []).Works) :
    ∃ one other, one.parser = other.parser ∧
      (execution.step ch [] = .next one [] ∧ execution.parser.start.step ch [] = .next other [] ∨
        execution.step ch [] = .exit one [] ∧ execution.parser.start.step ch [] = .exit other [] ∧
          other.parser.errno = .ok ∧ .messageComplete ∈ other.events) := by
  let before : ResponseParser := { headerState := .lastWasValue }
  have told : ∃ after, ResponseParser.handleAll 0 before execution.silent.callbackData.events = .ok after ∧
      after.error = none := by
    cases marked : execution.mark with
    | none =>
        rw [callbackData_unmarked (show execution.silent.mark = none from marked)]
        exact ⟨before, rfl, rfl⟩
    | some pair =>
        obtain ⟨mark, text⟩ := pair
        rw [events_callbackData (show execution.silent.mark = some (mark, text) from marked)]
        cases mark <;> exact ⟨_, rfl, rfl⟩
  obtain ⟨after, told, fine⟩ := told
  have alike : Agrees 0 before after (execution.silent.step ch []) (execution.parser.start.step ch []) :=
    agrees ⟨sound.marked, sound.unread⟩ told rfl fine works
  have whole := (start_quiet working).step sound.start works.noticed
  have turn := execution.silent.step_after ch [] execution.events
  rw [silent_after] at turn
  rw [turn]
  generalize execution.silent.step ch [] = one at alike
  generalize execution.parser.start.step ch [] = other at alike whole works
  cases alike with
  | @next one other left same told =>
      obtain ⟨rfl, -⟩ := whole
      exact ⟨one.after execution.events, other, same, .inl ⟨rfl, rfl⟩⟩
  | @exit one other left same told =>
      rcases whole with ⟨-, finished, rfl⟩ | ⟨failed, -⟩
      · exact ⟨one.after execution.events, other, same, .inr ⟨rfl, rfl, works, finished⟩⟩
      · exact absurd works failed

theorem byte_leads (sound : execution.Sound) (working : execution.parser.errno = .ok)
    (fine : (execution.parser.execute [ch]).1.errno = .ok) :
    ∃ one, one.parser = (execution.parser.execute [ch]).1 ∧
      (execution.step ch [] = .next one [] ∧ one.Sound ∨
        execution.step ch [] = .exit one [] ∧ .messageComplete ∈ (execution.parser.execute [ch]).2.1) := by
  obtain ⟨parsed, called⟩ := execute_byte working sound.start ch
  rw [parsed, called]
  simp only [crawl]
  obtain ⟨one, other, same, ⟨turn, first⟩ | ⟨turn, first, -, finished⟩⟩ :=
    step_leads sound working (byte_works working sound.start fine)
  · have kept := step_keeps sound (show (execution.step ch []).Works by rw [turn]; trivial)
    rw [turn] at kept
    exact ⟨one, by simp only [first, Progress.settle, parser_callbackData, same], .inl ⟨turn, kept⟩⟩
  · exact ⟨one, by simp only [first, Progress.settle, same],
      .inr ⟨turn, by simpa only [first, Progress.settle] using finished⟩⟩

theorem crawl_leads {data : Bytes} (sound : execution.Sound) (continues : execution.parser.Continues data) :
    (crawl data execution).Works ∧ (crawl data execution).settle.2 = [] ∧
      (crawl data execution).settle.1.parser = (Parser.bytewise data execution.parser).1 := by
  induction data generalizing execution with
  | nil => exact ⟨trivial, rfl, parser_callbackData _⟩
  | cons ch data continued =>
      have ahead := continues.tail
      obtain ⟨one, moved, ⟨turn, kept⟩ | ⟨turn, finished⟩⟩ := byte_leads sound continues.working ahead.working
      · simp only [crawl, turn, Parser.bytewise, ← moved]
        rw [← moved] at ahead
        exact continued kept ahead
      · have ended : data = [] := by
          by_contra some
          exact continues.unfinished_cons some finished
        subst ended
        simp only [crawl, turn, Parser.bytewise, ← moved]
        rw [← moved] at ahead
        exact ⟨ahead.working, rfl, rfl⟩

/-- What the parser makes of some data at once comes to what it makes of its bytes. -/
theorem crawl_told {data : Bytes} (sound : execution.Sound) (begun : before.error = none)
    (told : ResponseParser.handleAll maxStringSize before execution.callbackData.events = .ok response)
    (fits : Fits execution.parser response) (continues : execution.parser.Continues data) :
    ResponseParser.handleAll maxStringSize before (crawl data execution).settle.1.events =
      ResponseParser.handleAll maxStringSize response (Parser.bytewise data execution.parser).2 := by
  induction data generalizing execution response with
  | nil => exact told
  | cons ch data continued =>
      have ahead := continues.tail
      have works := byte_works continues.working sound.start ahead.working
      obtain ⟨parsed, called⟩ := execute_byte continues.working sound.start ch
      have alike := agrees sound told begun fits.fine works
      obtain ⟨one, other, same, ⟨turn, first⟩ | ⟨turn, first, working, finished⟩⟩ := step_leads sound continues.working works
      · have kept := step_keeps sound (show (execution.step ch []).Works by rw [turn]; trivial)
        rw [turn, first] at alike
        rw [turn] at kept
        simp only [crawl, turn, Parser.bytewise, parsed, called, first, Progress.settle, parser_callbackData, ← same]
        cases alike with
        | next _ alike =>
          cases told : ResponseParser.handleAll maxStringSize response other.callbackData.events with
          | error fault =>
              rw [told] at alike
              rw [ResponseParser.handleAll_fault told]
              obtain ⟨more, extended⟩ := events_crawl data one
              have failed := ResponseParser.handleAll_fault (ResponseParser.handleAll_callbackData begun alike) more
              rw [extended] at failed
              exact failed
          | ok later =>
              rw [told] at alike
              obtain ⟨-, followed⟩ := fits.byte first told
              rw [ResponseParser.handleAll_append fits.fine, told]
              rw [← same] at followed
              rw [parsed] at ahead
              simp only [crawl, first, Progress.settle, parser_callbackData, ← same] at ahead
              simp only [Except.bind, followed.fine, Option.isSome_none, Bool.false_eq_true, if_false]
              exact continued kept alike followed ahead
      · have ended : data = [] := by
          by_contra some
          refine continues.unfinished_cons some ?_
          rw [called]
          simpa only [crawl, first, Progress.settle] using finished
        subst ended
        rw [turn, first] at alike
        simp only [crawl, turn, Parser.bytewise, parsed, called, first, Progress.settle, List.append_nil]
        cases alike with
        | exit _ alike => exact alike

end Execution

end Net

end IotClient
