import IotClient.Spec.HttpResponse

namespace IotClient.Net

namespace Progress

def execution : Progress → Execution
  | .next execution _ => execution
  | .exit execution _ => execution

def rest : Progress → Bytes
  | .next _ rest => rest
  | .exit _ rest => rest

@[simp] theorem execution_next (execution : Execution) (rest : Bytes) : (next execution rest).execution = execution := rfl

@[simp] theorem execution_exit (execution : Execution) (rest : Bytes) : (exit execution rest).execution = execution := rfl

@[simp] theorem rest_next (execution : Execution) (rest : Bytes) : (next execution rest).rest = rest := rfl

@[simp] theorem rest_exit (execution : Execution) (rest : Bytes) : (exit execution rest).rest = rest := rfl

end Progress

namespace Parser

theorem setConnection_state (parser : Parser) : parser.setConnection.state = parser.state := by
  unfold setConnection
  split <;> rfl

theorem fieldChar_state (c : UInt8) (parser : Parser) : (parser.fieldChar c).state = parser.state := by
  unfold fieldChar
  split <;> rfl

theorem foldl_fieldChar_state (text : Bytes) (parser : Parser) :
    (text.foldl (fun parser c => parser.fieldChar c) parser).state = parser.state := by
  induction text generalizing parser with
  | nil => rfl
  | cons c text continued => exact (continued _).trans (fieldChar_state c parser)

theorem valueStart_state {ch : UInt8} {before after : Parser} (started : before.valueStart ch = .ok after) :
    after.state = .headerValue := by
  revert started
  simp only [valueStart]
  repeat' split
  all_goals
    intro started
    cases started
    try rfl

theorem valueChar_state {ch : UInt8} {before after : Parser} (passed : before.valueChar ch = .ok after) :
    after.state = before.state := by
  revert passed
  simp only [valueChar]
  repeat' split
  all_goals
    intro passed
    cases passed
    try rfl
  all_goals exact setConnection_state before

theorem scanValue_state (text : Bytes) (skip : Bool) (parser : Parser) :
    (parser.scanValue skip text).1.state = parser.state := by
  induction text generalizing skip parser with
  | nil => rfl
  | cons ch rest continued =>
      simp only [scanValue]
      repeat' split
      · rfl
      · exact continued _ _
      · rfl
      · rfl
      next next passed => exact (continued _ _).trans (valueChar_state passed)

end Parser

namespace Execution

variable (execution : Execution) (ch : UInt8) (rest : Bytes)

@[simp] theorem parser_callbackData : execution.callbackData.parser = execution.parser := by
  unfold callbackData
  split <;> rfl

@[simp] theorem parser_setMark (mark : Mark) : (execution.setMark mark).parser = execution.parser := by
  unfold setMark
  split <;> rfl

@[simp] theorem events_setMark (mark : Mark) : (execution.setMark mark).events = execution.events := by
  unfold setMark
  split <;> rfl

@[simp] theorem parser_advance (text : Bytes) : (execution.advance text).parser = execution.parser := rfl

@[simp] theorem events_advance (text : Bytes) : (execution.advance text).events = execution.events := rfl

@[simp] theorem parser_update (change : Parser → Parser) : (execution.update change).parser = change execution.parser :=
  rfl

@[simp] theorem events_update (change : Parser → Parser) : (execution.update change).events = execution.events := rfl

@[simp] theorem parser_notify (event : ParserEvent) : (execution.notify event).parser = execution.parser := rfl

@[simp] theorem events_notify (event : ParserEvent) :
    (execution.notify event).events = execution.events ++ [event] := rfl

theorem callbackData_events : execution.events <+: execution.callbackData.events := by
  unfold callbackData
  split
  · exact List.prefix_refl _
  · exact List.prefix_append _ _

/-! ## Where a turn of the loop leads -/

def Inside (execution : Execution) : Prop :=
  .messageComplete ∈ execution.events ∨ (execution.parser.state ≠ .startRes ∧ execution.parser.state ≠ .dead)

theorem finish_inside : execution.finish.Inside := .inl (by simp [finish])

theorem messageDone_inside : (execution.messageDone ch rest).execution.Inside := by
  simp only [messageDone]
  split <;> exact execution.finish_inside

theorem headersDone_inside (state : execution.parser.state = .headersDone) :
    (execution.headersDone ch rest).execution.Inside := by
  simp only [headersDone]
  repeat' split
  all_goals simp_all [fail, consume, updateState, Inside, finish]

theorem headersAlmostDone_inside (state : execution.parser.state = .headersAlmostDone) :
    (execution.headersAlmostDone ch rest).execution.Inside := by
  simp only [headersAlmostDone]
  repeat' split
  · simp [fail, Inside, state]
  · exact messageDone_inside _ _ _
  · simp [fail, Inside, state]
  · exact headersDone_inside _ _ _ rfl

theorem headerFieldStart_inside (state : execution.parser.state = .headerFieldStart) :
    (execution.headerFieldStart ch rest).execution.Inside := by
  simp only [headerFieldStart]
  repeat' split
  · simp [consume, updateState, Inside]
  · exact headersAlmostDone_inside _ _ _ rfl
  · simp [fail, Inside, state]
  · simp [consume, Inside, Parser.fieldStart]

theorem headerValueStart_inside
    (state : execution.parser.state ≠ .startRes ∧ execution.parser.state ≠ .dead) :
    (execution.headerValueStart ch rest).execution.Inside := by
  simp only [headerValueStart, parser_setMark]
  split
  · simp [fail, Inside, state]
  next parser started =>
    simp [consume, Inside, Parser.valueStart_state started]

theorem headerAlmostDone_inside (state : execution.parser.state = .headerAlmostDone) :
    (execution.headerAlmostDone ch rest).execution.Inside := by
  simp only [headerAlmostDone]
  split
  · simp [fail, Inside, state]
  · simp [consume, updateState, Inside]

theorem countHeaderSize_inside {count : Nat} {here : Bytes} {continued : Execution → Progress}
    (state : execution.parser.state ≠ .startRes ∧ execution.parser.state ≠ .dead)
    (inside : ∀ later : Execution, later.parser.state = execution.parser.state → (continued later).execution.Inside) :
    (execution.countHeaderSize count here continued).execution.Inside := by
  simp only [countHeaderSize]
  split
  · simp [fail, Inside, state]
  · exact inside _ rfl

theorem headerField_inside (state : execution.parser.state = .headerField) :
    (execution.headerField ch rest).execution.Inside := by
  simp only [headerField]
  have same : ∀ passed : Bytes,
      ((passed.filterMap token).foldl (fun parser c => parser.fieldChar c) execution.parser).state = .headerField := by
    intro passed
    rw [Parser.foldl_fieldChar_state, state]
  apply countHeaderSize_inside
  · simp [same]
  · intro later state
    simp only [parser_advance, parser_update, same] at state
    split
    · simp [Inside, state]
    · simp [Inside, updateState]
    · simp [fail, Inside, state]

theorem headerValue_inside (state : execution.parser.state = .headerValue) :
    (execution.headerValue ch rest).execution.Inside := by
  have same := Parser.scanValue_state (ch :: rest) false execution.parser
  simp only [headerValue]
  split
  next parser passed errno after scan =>
    rw [scan, state] at same
    simp [fail, Inside, show parser.state = .headerValue from same]
  next parser passed scan =>
    rw [scan, state] at same
    have same : parser.state = .headerValue := same
    apply countHeaderSize_inside
    · simp [same]
    · intro later state
      simp only [parser_advance, same] at state
      simp [Inside, state]
  next parser passed ch rest scan =>
    split
    · apply countHeaderSize_inside
      · simp [updateState]
      · intro later state
        simp only [parser_callbackData] at state
        simp [Inside, state, updateState]
    · apply countHeaderSize_inside
      · simp [updateState]
      · intro later state
        exact headerAlmostDone_inside _ _ _ (by rw [parser_callbackData, state]; rfl)

theorem passBody_state (here : Bytes) : (execution.passBody here).1.parser.state = execution.parser.state := by
  simp [passBody]

/-- What is not between messages stays inside one until that is over. -/
theorem dispatch_inside (state : execution.parser.state ≠ .startRes ∧ execution.parser.state ≠ .dead) :
    (execution.dispatch ch rest).execution.Inside := by
  unfold dispatch
  cases is : execution.parser.state with
  | startRes => exact absurd is state.1
  | dead => exact absurd is state.2
  | headerFieldStart => exact headerFieldStart_inside _ _ _ is
  | headerField => exact headerField_inside _ _ _ is
  | headerValueDiscardWs =>
      simp only [headerValueDiscardWs]
      repeat' split
      · simp [consume, Inside, state]
      · simp [consume, updateState, Inside]
      · simp [consume, updateState, Inside]
      · exact headerValueStart_inside _ _ _ state
  | headerValueDiscardLws =>
      simp only [headerValueDiscardLws]
      split
      · simp [consume, updateState, Inside]
      · exact headerFieldStart_inside _ _ _ (by simp [updateState])
  | headerValueStart => exact headerValueStart_inside _ _ _ state
  | headerValue => exact headerValue_inside _ _ _ is
  | headerValueLws =>
      simp only [headerValueLws]
      split
      · exact headerValueStart_inside _ _ _ (by simp [updateState])
      · exact headerFieldStart_inside _ _ _ rfl
  | headerAlmostDone => exact headerAlmostDone_inside _ _ _ is
  | headersAlmostDone => exact headersAlmostDone_inside _ _ _ is
  | headersDone => exact headersDone_inside _ _ _ is
  | bodyIdentity =>
      simp only [bodyIdentity]
      split
      · exact messageDone_inside _ _ _
      · simp [Inside, passBody_state, is]
  | messageDone => exact messageDone_inside _ _ _
  | chunkSizeAlmostDone =>
      simp only [chunkSizeAlmostDone]
      split
      · simp [fail, Inside, is]
      · by_cases last : execution.parser.contentLength = 0 <;> simp [consume, Inside, last]
  | _ =>
      simp only [expect, versionDigit, resStatusCode, chunkSize, chunkData]
      repeat' split
      all_goals simp_all [fail, consume, updateState, Inside, passBody_state]

/-! ## The callbacks before a turn -/

def after (events : List ParserEvent) (execution : Execution) : Execution :=
  { execution with events := events ++ execution.events }

end Execution

def Progress.after (events : List ParserEvent) : Progress → Progress
  | .next execution rest => .next (execution.after events) rest
  | .exit execution rest => .exit (execution.after events) rest

namespace Execution

variable (execution : Execution) (ch : UInt8) (rest : Bytes) (events : List ParserEvent)

@[simp] theorem parser_after : (execution.after events).parser = execution.parser := rfl

@[simp] theorem update_after (change : Parser → Parser) :
    (execution.after events).update change = (execution.update change).after events := rfl

@[simp] theorem updateState_after (state : ParserState) :
    (execution.after events).updateState state = (execution.updateState state).after events := rfl

@[simp] theorem notify_after (event : ParserEvent) :
    (execution.after events).notify event = (execution.notify event).after events := by
  simp [notify, after]

@[simp] theorem advance_after (text : Bytes) :
    (execution.after events).advance text = (execution.advance text).after events := rfl

@[simp] theorem setMark_after (mark : Mark) :
    (execution.after events).setMark mark = (execution.setMark mark).after events := by
  obtain ⟨parser, marked, before⟩ := execution
  cases marked <;> rfl

@[simp] theorem callbackData_after : (execution.after events).callbackData = execution.callbackData.after events := by
  obtain ⟨parser, mark, before⟩ := execution
  cases mark with
  | none => rfl
  | some mark => simp [callbackData, after, notify]

@[simp] theorem finish_after : (execution.after events).finish = execution.finish.after events := by
  simp [finish]

@[simp] theorem consume_after : (execution.after events).consume ch rest = (execution.consume ch rest).after events := rfl

@[simp] theorem fail_after (errno : Errno) :
    (execution.after events).fail errno rest = (execution.fail errno rest).after events := rfl

theorem next_after : Progress.next (execution.after events) rest = (Progress.next execution rest).after events := rfl

theorem exit_after : Progress.exit (execution.after events) rest = (Progress.exit execution rest).after events := rfl

theorem ite_after {condition : Prop} [Decidable condition] (yes no : Progress) :
    (if condition then yes.after events else no.after events) = (if condition then yes else no).after events := by
  split <;> rfl

theorem countHeaderSize_after (count : Nat) (continued : Execution → Progress)
    (later : ∀ execution : Execution, continued (execution.after events) = (continued execution).after events) :
    (execution.after events).countHeaderSize count rest continued =
      (execution.countHeaderSize count rest continued).after events := by
  simp only [countHeaderSize, update_after, parser_after, fail_after, later, ite_after]

@[simp] theorem expect_after (expected : UInt8) (state : ParserState) :
    (execution.after events).expect expected state ch rest = (execution.expect expected state ch rest).after events := by
  simp only [expect, fail_after, updateState_after, consume_after, ite_after]

@[simp] theorem messageDone_after :
    (execution.after events).messageDone ch rest = (execution.messageDone ch rest).after events := by
  simp only [messageDone, finish_after, consume_after, parser_after, exit_after, ite_after]

@[simp] theorem headersDone_after :
    (execution.after events).headersDone ch rest = (execution.headersDone ch rest).after events := by
  simp only [headersDone, update_after, updateState_after, parser_after, fail_after, finish_after, consume_after,
    exit_after, ite_after]
  rfl

@[simp] theorem headersAlmostDone_after :
    (execution.after events).headersAlmostDone ch rest = (execution.headersAlmostDone ch rest).after events := by
  simp only [headersAlmostDone, update_after, updateState_after, notify_after, parser_after, fail_after,
    messageDone_after, headersDone_after, ite_after]

@[simp] theorem headerFieldStart_after :
    (execution.after events).headerFieldStart ch rest = (execution.headerFieldStart ch rest).after events := by
  simp only [headerFieldStart, update_after, updateState_after, setMark_after, consume_after, fail_after,
    headersAlmostDone_after]
  cases token ch <;> simp only [ite_after]

@[simp] theorem headerField_after :
    (execution.after events).headerField ch rest = (execution.headerField ch rest).after events := by
  simp only [headerField, update_after, advance_after]
  apply countHeaderSize_after
  intro execution
  simp only [updateState_after, callbackData_after, fail_after]
  split <;> rfl

@[simp] theorem headerValueStart_after :
    (execution.after events).headerValueStart ch rest = (execution.headerValueStart ch rest).after events := by
  simp only [headerValueStart, setMark_after, parser_after, fail_after]
  split <;> rfl

@[simp] theorem headerValueDiscardWs_after :
    (execution.after events).headerValueDiscardWs ch rest = (execution.headerValueDiscardWs ch rest).after events := by
  simp only [headerValueDiscardWs, consume_after, updateState_after, headerValueStart_after, ite_after]

@[simp] theorem headerAlmostDone_after :
    (execution.after events).headerAlmostDone ch rest = (execution.headerAlmostDone ch rest).after events := by
  simp only [headerAlmostDone, consume_after, updateState_after, fail_after, ite_after]

@[simp] theorem headerValue_after :
    (execution.after events).headerValue ch rest = (execution.headerValue ch rest).after events := by
  simp only [headerValue, parser_after]
  split
  · rfl
  next parser passed scan =>
    exact countHeaderSize_after (({ execution with parser := parser } : Execution).advance passed) [] events
      passed.length (fun execution => .next execution []) fun _ => rfl
  next parser passed ch rest scan =>
    have moved : (({ execution.after events with parser := parser } : Execution).advance passed) =
        (({ execution with parser := parser } : Execution).advance passed).after events := rfl
    simp only [moved, updateState_after, callbackData_after]
    split
    · exact countHeaderSize_after _ _ _ _ _ fun _ => rfl
    · exact countHeaderSize_after _ _ _ _ _ fun _ => by simp only [callbackData_after, headerAlmostDone_after]

@[simp] theorem headerValueLws_after :
    (execution.after events).headerValueLws ch rest = (execution.headerValueLws ch rest).after events := by
  simp only [headerValueLws, update_after, updateState_after, headerValueStart_after, headerFieldStart_after, ite_after]

@[simp] theorem headerValueDiscardLws_after :
    (execution.after events).headerValueDiscardLws ch rest = (execution.headerValueDiscardLws ch rest).after events := by
  simp only [headerValueDiscardLws, update_after, updateState_after, consume_after, setMark_after, callbackData_after,
    headerFieldStart_after, ite_after]

theorem passBody_after (here : Bytes) :
    (execution.after events).passBody here = ((execution.passBody here).1.after events, (execution.passBody here).2) := by
  simp only [passBody, setMark_after, update_after, advance_after, parser_after]

@[simp] theorem bodyIdentity_after :
    (execution.after events).bodyIdentity ch rest = (execution.bodyIdentity ch rest).after events := by
  simp only [bodyIdentity, passBody_after, parser_after, updateState_after, callbackData_after, messageDone_after,
    next_after, ite_after]

@[simp] theorem chunkData_after :
    (execution.after events).chunkData ch rest = (execution.chunkData ch rest).after events := by
  simp only [chunkData, passBody_after, parser_after, updateState_after, next_after, ite_after]

@[simp] theorem versionDigit_after (number : Parser → Nat) (set : Nat → Parser → Parser) :
    (execution.after events).versionDigit ch number set rest =
      (execution.versionDigit ch number set rest).after events := by
  simp only [versionDigit, update_after, fail_after, consume_after, parser_after, parser_update]
  by_cases big : number (set (number execution.parser * 10 + (ch.toNat - 48)) execution.parser) > 999 <;>
    simp only [big, if_true, if_false, ite_after]

@[simp] theorem resStatusCode_after :
    (execution.after events).resStatusCode ch rest = (execution.resStatusCode ch rest).after events := by
  simp only [resStatusCode, update_after, updateState_after, fail_after, consume_after, parser_after, parser_update]
  by_cases big : execution.parser.statusCode * 10 + (ch.toNat - 48) > 999 <;>
    simp only [big, if_true, if_false, ite_after]

theorem dispatch_after : (execution.after events).dispatch ch rest = (execution.dispatch ch rest).after events := by
  simp only [dispatch, parser_after]
  cases execution.parser.state with
  | chunkSizeStart => cases unhex ch <;> simp
  | chunkSize =>
      simp only [chunkSize, update_after, updateState_after, consume_after, fail_after, parser_after]
      by_cases big : (ullongMax - 16) / 16 < execution.parser.contentLength <;>
        cases unhex ch <;> simp only [big, if_true, if_false, ite_after]
  | bodyIdentityEof => simp [next_after]
  | _ =>
      simp only [startRes, chunkSizeAlmostDone, update_after, updateState_after, notify_after, parser_after, setMark_after,
        callbackData_after, consume_after, fail_after, expect_after, versionDigit_after, resStatusCode_after,
        headersDone_after, headersAlmostDone_after, headerFieldStart_after, headerField_after, headerValueStart_after,
        headerValueDiscardWs_after, headerAlmostDone_after, headerValue_after, headerValueLws_after,
        headerValueDiscardLws_after, bodyIdentity_after, chunkData_after, messageDone_after, ite_after]

@[simp] theorem step_after : (execution.after events).step ch rest = (execution.step ch rest).after events := by
  simp only [step, parser_after, dispatch_after]
  split
  · exact countHeaderSize_after _ _ _ _ _ fun later => later.dispatch_after ch rest events
  · rfl

theorem loop_after (turns : Nat) (data : Bytes) :
    loop turns data (execution.after events) =
      ((loop turns data execution).1.after events, (loop turns data execution).2) := by
  induction turns generalizing data execution with
  | zero => cases data <;> simp [loop]
  | succ turns continued =>
      cases data with
      | nil => simp [loop]
      | cons ch rest =>
          simp only [loop, step_after]
          cases execution.step ch rest with
          | next later rest => exact continued later rest
          | exit later rest => rfl

def silent : Execution := { execution with events := [] }

theorem silent_after : execution.silent.after execution.events = execution := by
  simp [silent, after]

theorem events_loop (turns : Nat) (data : Bytes) : execution.events <+: (loop turns data execution).1.events := by
  rw [← execution.silent_after, loop_after, silent_after]
  exact List.prefix_append _ _

theorem Inside.loop {turns : Nat} {data : Bytes} {execution : Execution} (inside : execution.Inside) :
    (loop turns data execution).1.Inside := by
  induction turns generalizing data execution with
  | zero =>
      cases data with
      | nil =>
          rcases inside with ended | state
          · exact .inl (execution.callbackData_events.subset ended)
          · exact .inr (by simpa [Execution.loop] using state)
      | cons ch rest => exact inside
  | succ turns continued =>
      rcases inside with ended | state
      · exact .inl ((execution.events_loop _ _).subset ended)
      · cases data with
        | nil => exact .inr (by simpa [Execution.loop] using state)
        | cons ch rest =>
            have stepped : (execution.step ch rest).execution.Inside := by
              simp only [step]
              split
              · exact countHeaderSize_inside _ state fun later same => later.dispatch_inside ch rest (same ▸ state)
              · exact execution.dispatch_inside ch rest state
            simp only [Execution.loop]
            cases next : execution.step ch rest with
            | next later rest' => exact continued (by rw [next] at stepped; exact stepped)
            | exit later rest' =>
                rw [next] at stepped
                exact stepped

theorem step_startRes (state : execution.parser.state = .startRes) :
    (∃ later, execution.step ch rest = .exit later (ch :: rest) ∧ later.parser.errno ≠ .ok) ∨
      ∃ later, execution.step ch rest = .next later rest ∧ .messageBegin ∈ later.events ∧
        if isBreak ch then later.parser.state = .startRes else later.Inside := by
  simp only [step, state, ParserState.parsingHeader, if_true, countHeaderSize]
  split
  · exact .inl ⟨_, rfl, by simp⟩
  · simp only [dispatch, parser_update, state, startRes, isBreak]
    split
    next first => exact .inr ⟨_, rfl, by simp, by simp [first, Inside, updateState]⟩
    split
    next broken => exact .inr ⟨_, rfl, by simp, by rcases broken with rfl | rfl <;> simp [state]⟩
    next => exact .inl ⟨_, rfl, by simp⟩

theorem loop_startRes {turns : Nat} {data : Bytes} (enough : data.length ≤ turns)
    (state : execution.parser.state = .startRes) :
    ((loop turns data execution).2 ≠ [] ∧ (loop turns data execution).1.parser.errno ≠ .ok) ∨
      if data.all isBreak then (loop turns data execution).1.parser.state = .startRes
      else (loop turns data execution).1.Inside := by
  induction turns generalizing data execution with
  | zero =>
      rw [List.length_eq_zero_iff.1 (Nat.le_zero.1 enough)]
      exact .inr (by simpa [loop] using state)
  | succ turns continued =>
      cases data with
      | nil => exact .inr (by simpa [loop] using state)
      | cons ch rest =>
          simp only [loop]
          rcases execution.step_startRes ch rest state with ⟨later, run, failed⟩ | ⟨later, run, -, leads⟩
          · rw [run]
            exact .inl ⟨nofun, failed⟩
          · rw [run]
            simp only [List.all_cons]
            by_cases broken : isBreak ch = true
            · simp only [broken, if_true, Bool.true_and] at leads ⊢
              exact continued later (by simpa using enough) leads
            · simp only [broken, Bool.false_eq_true, Bool.false_and, if_false] at leads ⊢
              exact .inr leads.loop

theorem loop_startRes_begins {turns : Nat} (state : execution.parser.state = .startRes) :
    ((loop (turns + 1) (ch :: rest) execution).2 ≠ [] ∧
        (loop (turns + 1) (ch :: rest) execution).1.parser.errno ≠ .ok) ∨
      .messageBegin ∈ (loop (turns + 1) (ch :: rest) execution).1.events := by
  simp only [loop]
  rcases execution.step_startRes ch rest state with ⟨later, run, failed⟩ | ⟨later, run, begins, -⟩
  · rw [run]
    exact .inl ⟨nofun, failed⟩
  · rw [run]
    exact .inr ((later.events_loop _ _).subset begins)

end Execution

end IotClient.Net
