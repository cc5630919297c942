import IotClient.Proof.HttpErrors
import IotClient.Proof.HttpParser
import IotClient.Spec.HttpSplit

namespace IotClient

open Logic

/-! ## Callbacks -/

namespace ResponseParser

variable {maxStringSize : Nat} {before after : ResponseParser}

theorem reserveData_ok {contentLength : Nat} (run : reserveData maxStringSize contentLength before = .ok after) :
    after = before := by
  revert run
  unfold reserveData
  split
  · exact nofun
  · intro run
    cases run
    rfl

structure Handled (event : ParserEvent) (before after : ResponseParser) : Prop where
  fed : after.fed = before.fed
  complete : before.isComplete = true ∨ event = .messageComplete → after.isComplete = true
  started : before.messageStarted = true ∨ event = .messageBegin → after.messageStarted = true

theorem handle_handled {event : ParserEvent} (run : handle maxStringSize before event = .ok after) :
    Handled event before after := by
  cases event with
  | headersComplete contentLength =>
      revert run
      simp only [handle]
      cases before.headerState with
      | lastWasField =>
          rintro ⟨⟩
          exact ⟨rfl, by simp, by simp⟩
      | _ =>
          intro run
          rw [reserveData_ok run]
          exact ⟨rfl, by simp, by simp⟩
  | chunkHeader contentLength =>
      rw [reserveData_ok run]
      exact ⟨rfl, by simp, by simp⟩
  | headerField text =>
      revert run
      simp only [handle]
      cases before.headerState <;>
      · rintro ⟨⟩
        exact ⟨rfl, by simp, by simp⟩
  | headerValue text =>
      revert run
      simp only [handle]
      cases before.headerState <;>
      · rintro ⟨⟩
        exact ⟨rfl, by simp, by simp⟩
  | _ =>
      cases run
      exact ⟨rfl, by simp, by simp⟩

theorem handleAll_handled {events : List ParserEvent} (run : handleAll maxStringSize before events = .ok after)
    (fine : after.error = none) :
    after.fed = before.fed ∧
      (before.isComplete = true ∨ .messageComplete ∈ events → after.isComplete = true) ∧
      (before.messageStarted = true ∨ .messageBegin ∈ events → after.messageStarted = true) := by
  induction events generalizing before with
  | nil =>
      cases run
      simp
  | cons event events continued =>
      simp only [handleAll, bind_eq_ok] at run
      obtain ⟨between, first, run⟩ := run
      have handled := handle_handled first
      split at run
      next failed =>
        cases run
        simp [fine] at failed
      next =>
        obtain ⟨fed, complete, started⟩ := continued run
        refine ⟨fed.trans handled.fed, ?_, ?_⟩
        · rintro (already | member)
          · exact complete (.inl (handled.complete (.inl already)))
          · rcases List.mem_cons.1 member with rfl | later
            · exact complete (.inl (handled.complete (.inr rfl)))
            · exact complete (.inr later)
        · rintro (already | member)
          · exact started (.inl (handled.started (.inl already)))
          · rcases List.mem_cons.1 member with rfl | later
            · exact started (.inl (handled.started (.inr rfl)))
            · exact started (.inr later)

end ResponseParser

namespace Net

theorem Parser.fedWith_append (fed : List Bytes) (data : Bytes) :
    fedWith (fed ++ [data]) = ((fedWith fed).execute data).1 := by
  simp [fedWith]

/-! ## Feeding -/

variable (platform : Platform) {parser : ResponseParser}

theorem feed_eq (fine : parser.error = none) {data : Bytes} (fed : data ≠ [] ∨ parser.messageStarted = true) :
    parser.feed (linked platform) data =
      (ResponseParser.handleAll platform.maxStringSize { parser with fed := parser.fed ++ [data] }
        ((Parser.fedWith parser.fed).execute data).2.1).bind fun later =>
          .ok (parseNoted ((Parser.fedWith parser.fed).execute data) data.length later) := by
  have admitted : ¬(data = [] ∧ (!parser.messageStarted) = true) := by
    rcases fed with some | started
    · exact fun empty => some empty.1
    · simp [started]
  simp only [ResponseParser.feed, fine, Option.isSome_none, Bool.false_eq_true, if_false, admitted, linked, httpParser]
  generalize (Parser.fedWith parser.fed).execute data = result
  obtain ⟨stopped, events, parsed⟩ := result
  refine congrArg _ (funext fun later => ?_)
  by_cases whole : parsed = data.length
  · simp only [parseNoted, whole, if_true]
    rfl
  · simp only [parseNoted, whole, if_false]
    cases stopped.parseError parsed data.length <;> rfl

theorem parseNoted_error {result : Parser × List ParserEvent × Nat} {len : Nat} {parser : ResponseParser}
    (fine : (parseNoted result len parser).error = none) :
    parseNoted result len parser = parser ∧ (result.2.2 = len ∨ result.1.errno = .ok) := by
  revert fine
  simp only [parseNoted, Parser.parseError]
  split
  next whole => exact fun _ => ⟨rfl, .inl whole⟩
  split
  next none => exact fun _ => ⟨rfl, .inr (by simpa using none)⟩
  next text _ =>
    cases parser.error with
    | none => exact nofun
    | some held => exact nofun

/-! ## Between two reads -/

/-- The response is not over and nothing is wrong with it: the `http_parser` has seen nothing but line breaks or is in the
middle of a message, unless it has stopped just at the end of the data. -/
structure Awaits (parser : ResponseParser) : Prop where
  error : parser.error = none
  incomplete : parser.isComplete = false
  started : parser.messageStarted = true ↔ parser.fed ≠ []
  state : (Parser.fedWith parser.fed).errno ≠ .ok ∨
    if parser.fed.flatten.all isBreak then (Parser.fedWith parser.fed).state = .startRes
    else (Parser.fedWith parser.fed).state ≠ .startRes ∧ (Parser.fedWith parser.fed).state ≠ .dead

theorem awaits_initial : Awaits {} where
  error := rfl
  incomplete := rfl
  started := by simp
  state := .inr rfl

theorem Parser.execute_nonempty {parser : Parser} (working : parser.errno = .ok) {data : Bytes} (some : data ≠ []) :
    parser.execute data =
      ((Execution.loop data.length data { parser := parser, mark := parser.firstMark }).1.parser,
        (Execution.loop data.length data { parser := parser, mark := parser.firstMark }).1.events,
        data.length - (Execution.loop data.length data { parser := parser, mark := parser.firstMark }).2.length) := by
  simp [execute, working, some]

theorem Parser.execute_stopped {parser : Parser} (stopped : parser.errno ≠ .ok) (data : Bytes) :
    parser.execute data = (parser, [], 0) := by
  simp [execute, stopped]

theorem Parser.execute_state {parser : Parser} {data : Bytes} {breaks : Bool} (some : data ≠ [])
    (before : parser.errno ≠ .ok ∨
      if breaks then parser.state = .startRes else parser.state ≠ .startRes ∧ parser.state ≠ .dead)
    (quiet : (parser.execute data).2.2 = data.length ∨ (parser.execute data).1.errno = .ok)
    (unfinished : .messageComplete ∉ (parser.execute data).2.1) :
    (breaks = true → .messageBegin ∈ (parser.execute data).2.1) ∧
      ((parser.execute data).1.errno ≠ .ok ∨
        if breaks && data.all isBreak then (parser.execute data).1.state = .startRes
        else (parser.execute data).1.state ≠ .startRes ∧ (parser.execute data).1.state ≠ .dead) := by
  have long : 0 < data.length := List.length_pos_iff.2 some
  by_cases working : parser.errno = .ok
  · rw [execute_nonempty working some] at quiet unfinished ⊢
    simp only at quiet unfinished ⊢
    generalize start : ({ parser := parser, mark := parser.firstMark } : Execution) = execution at quiet unfinished ⊢
    have same : execution.parser = parser := by rw [← start]
    cases breaks with
    | true =>
        have between : execution.parser.state = .startRes := by simpa [same, working] using before
        have heard : ¬((Execution.loop data.length data execution).2 ≠ [] ∧
            (Execution.loop data.length data execution).1.parser.errno ≠ .ok) := by
          rintro ⟨left, failed⟩
          have := List.length_pos_iff.2 left
          rcases quiet with whole | working
          · omega
          · exact failed working
        refine ⟨fun _ => ?_, .inr ?_⟩
        · obtain ⟨ch, rest, rfl⟩ := List.exists_cons_of_ne_nil some
          exact (execution.loop_startRes_begins ch rest between).resolve_left heard
        · have leads := (execution.loop_startRes (Nat.le_refl _) between).resolve_left heard
          revert leads
          simp only [Bool.true_and]
          split
          · exact id
          · exact fun inside => inside.resolve_left unfinished
    | false =>
        refine ⟨nofun, .inr ?_⟩
        have inside : execution.Inside := .inr (by simpa [same, working] using before)
        exact inside.loop.resolve_left unfinished
  · rw [execute_stopped working] at quiet
    rcases quiet with none | fine
    · exact absurd none (Nat.ne_of_lt long)
    · exact absurd fine working

theorem Awaits.feed (awaits : Awaits parser) {data : Bytes} (some : data ≠ []) {later : ResponseParser}
    (run : parser.feed (linked platform) data = .ok later) :
    HttpClient.complete later = true ∨ Awaits later := by
  by_cases ended : HttpClient.complete later = true
  · exact .inl ended
  refine .inr ?_
  simp only [HttpClient.complete, Bool.or_eq_true, not_or, Bool.not_eq_true, Option.isSome_eq_false_iff,
    Option.isNone_iff_eq_none] at ended
  obtain ⟨incomplete, fine⟩ := ended
  rw [feed_eq platform awaits.error (.inl some)] at run
  obtain ⟨handled, events, noted⟩ := bind_eq_ok.1 run
  cases noted
  obtain ⟨same, quiet⟩ := parseNoted_error fine
  rw [same] at incomplete fine ⊢
  obtain ⟨fed, complete, started⟩ := ResponseParser.handleAll_handled events fine
  have unfinished : .messageComplete ∉ ((Parser.fedWith parser.fed).execute data).2.1 := by
    intro finished
    rw [complete (.inr finished)] at incomplete
    cases incomplete
  obtain ⟨begins, state⟩ := Parser.execute_state some awaits.state quiet unfinished
  rw [← Parser.fedWith_append] at state
  refine ⟨fine, incomplete, ⟨fun _ => by simp [fed], fun _ => started ?_⟩, ?_⟩
  · by_cases first : parser.fed = []
    · exact .inr (begins (by simp [first]))
    · exact .inl (awaits.started.2 first)
  · simpa [fed] using state

/-! ## The end of the data -/

def Ends (fed : List Bytes) : Prop :=
  fed ≠ [] ∧ (fed.flatten.all isBreak = true ∨ (Parser.fedWith fed).errno ≠ .ok ∨
    (Parser.fedWith fed).state = .bodyIdentityEof)

theorem Parser.execute_end_refused {parser : Parser} (working : parser.errno = .ok)
    (inside : parser.state ≠ .startRes ∧ parser.state ≠ .dead) (bounded : parser.state ≠ .bodyIdentityEof) :
    parser.execute [] = ({ parser with errno := .invalidEofState }, [], 1) := by
  simp only [execute, working, ne_eq, not_true_eq_false, if_false, if_true]
  split
  next is => exact absurd is bounded
  next is => exact absurd is inside.2
  next is => exact absurd is inside.1
  next => rfl

/-- What `FeedEOF` makes of a response that is not over: an error, unless the `http_parser` does not mind; then the
response is complete only if its body lasts until the end. -/
theorem Awaits.feedEOF (awaits : Awaits parser) :
    ∃ later, parser.feed (linked platform) [] = .ok later ∧ (later.error = none ↔ Ends parser.fed) ∧
      (later.isComplete = true ↔ parser.fed.flatten.all isBreak = false ∧ (Parser.fedWith parser.fed).errno = .ok ∧
        (Parser.fedWith parser.fed).state = .bodyIdentityEof) := by
  by_cases first : parser.fed = []
  · have silent : parser.messageStarted = false := by
      rw [← Bool.not_eq_true, awaits.started]
      exact fun fed => fed first
    refine ⟨{ parser with error := parser.error.set ResponseParser.emptyResponse }, ?_, ?_, ?_⟩
    · simp [ResponseParser.feed, awaits.error, silent]
    · simp [Ends, first, awaits.error, IotClient.Status.set]
    · simp [first, awaits.incomplete]
  have begun : parser.messageStarted = true := awaits.started.2 first
  rw [feed_eq platform awaits.error (.inr begun)]
  by_cases stopped : (Parser.fedWith parser.fed).errno = .ok
  · have state := awaits.state.resolve_left (by simp [stopped])
    cases broken : parser.fed.flatten.all isBreak with
    | true =>
        have between : (Parser.fedWith parser.fed).execute [] = (Parser.fedWith parser.fed, [], 0) := by
          simp only [broken, if_true] at state
          simp [Parser.execute, stopped, state]
        rw [between]
        refine ⟨{ parser with fed := parser.fed ++ [[]] }, rfl, ?_, ?_⟩
        · simp [Ends, first, broken, awaits.error]
        · simp [awaits.incomplete]
    | false =>
        simp only [broken, Bool.false_eq_true, if_false] at state
        by_cases unbounded : (Parser.fedWith parser.fed).state = .bodyIdentityEof
        · have finished : (Parser.fedWith parser.fed).execute [] = (Parser.fedWith parser.fed, [.messageComplete], 0) := by
            simp [Parser.execute, stopped, unbounded]
          rw [finished]
          refine ⟨{ parser with fed := parser.fed ++ [[]], isComplete := true }, ?_, ?_, ?_⟩
          · simp [ResponseParser.handleAll, ResponseParser.handle, bind, Except.bind, awaits.error, parseNoted]
          · simp [Ends, first, unbounded, awaits.error]
          · simp [stopped, unbounded]
        · rw [Parser.execute_end_refused stopped state unbounded]
          refine ⟨parseNoted _ _ { parser with fed := parser.fed ++ [[]] }, rfl, ?_, ?_⟩
          · simp [parseNoted, Parser.parseError, Ends, broken, stopped, unbounded, awaits.error, IotClient.Status.set]
          · simp [parseNoted, Parser.parseError, awaits.incomplete, unbounded]
  · rw [Parser.execute_stopped stopped]
    refine ⟨{ parser with fed := parser.fed ++ [[]] }, rfl, ?_, ?_⟩
    · simp [Ends, first, stopped, awaits.error]
    · simp [awaits.incomplete, stopped]

/-! ## Whole responses -/

theorem Awaits.not_complete (awaits : Awaits parser) : HttpClient.complete parser = false := by
  simp [HttpClient.complete, awaits.incomplete, awaits.error]

theorem received_complete (readings : List Reading) (ended : HttpClient.complete parser = true) :
    received platform readings parser = .ok parser ∧ endOfReading platform readings parser = none := by
  cases readings <;> simp [received, endOfReading, ended]

def Left (fed : List Bytes) (later : ResponseParser) : Prop :=
  (later.error = none ↔ Ends fed) ∧
    (later.isComplete = true ↔ fed.flatten.all isBreak = false ∧ (Parser.fedWith fed).errno = .ok ∧
      (Parser.fedWith fed).state = .bodyIdentityEof)

theorem Left.whole_iff {fed : List Bytes} {later : ResponseParser} (left : Left fed later) (code : Int) :
    (later.error = none → later.isComplete = true ∧ Orderly code) ↔
      ¬(fed ≠ [] ∧ (fed.flatten.all isBreak = true ∨ (Parser.fedWith fed).errno ≠ .ok ∨
        (Parser.fedWith fed).state = .bodyIdentityEof ∧ ¬Orderly code)) := by
  rw [left.1, left.2, Ends]
  cases fed.flatten.all isBreak with
  | true => simp
  | false =>
      by_cases stopped : (Parser.fedWith fed).errno = .ok
      · by_cases orderly : Orderly code <;> simp [stopped, orderly]
      · simp [stopped]

theorem Reading.taken_cases (reading : Reading) :
    (reading.taken (10 * 1024)).1 ≤ 0 ∨ ¬(reading.taken (10 * 1024)).1 ≤ 0 ∧ (reading.taken (10 * 1024)).2 ≠ [] := by
  cases reading with
  | failed code nonpositive => exact .inl nonpositive
  | data first rest =>
      simp only [taken, List.take_succ_cons, List.length_cons]
      exact .inr ⟨by omega, List.cons_ne_nil _ _⟩

theorem received_cases (readings : List Reading) (awaits : Awaits parser) :
    match endOfReading (linked platform) readings parser with
    | none => ∀ later, received (linked platform) readings parser = .ok later → HttpClient.complete later = true
    | some (fed, _) => ∃ later, received (linked platform) readings parser = .ok later ∧ Left fed later := by
  induction readings generalizing parser with
  | nil =>
      simp only [endOfReading, received, awaits.not_complete, Bool.false_eq_true, if_false]
      exact awaits.feedEOF platform
  | cons reading readings continued =>
      simp only [endOfReading, received, awaits.not_complete, Bool.false_eq_true, if_false]
      rcases reading.taken_cases with empty | ⟨positive, some⟩
      · simp only [empty, if_true]
        exact awaits.feedEOF platform
      · simp only [positive, if_false]
        cases fed : parser.feed (linked platform) (reading.taken (10 * 1024)).2 with
        | error fault => simp [Except.bind]
        | ok later =>
            rcases awaits.feed platform some fed with ended | awaits
            · obtain ⟨receives, ends⟩ := received_complete (linked platform) readings ended
              simp only [Except.bind, receives, ends]
              rintro _ ⟨⟩
              exact ended
            · exact continued awaits

namespace HttpClient

variable (strerror : Int → Bytes) {client : HttpClient} {request : Request}

theorem exchange_succeeds {url : Url} {world : HttpWorld} (ready : Ready world.client)
    (taken : acceptedAll world.peer.writings (requestPieces request.method url request.headers request.data) = true) :
    (∃ after, exchange platform strerror request url world = .ok () after ∧
        after.client.response.executeStatus = .success) ↔
      ∃ parser, received platform world.peer.readings {} = .ok parser ∧ parser.error = none := by
  obtain ⟨sent, send, ready, readings⟩ := (writeAll_ready strerror _ ready).2 taken
  rw [← sendRequest_eq] at send
  have read := readLoop_received platform strerror sent.peer.readings {} ready.isOpen
  rw [readings] at read
  have proceeds : exchange platform strerror request url world = (do
      if !(← readResponse platform strerror) then
        updateNetwork NetworkImpl.close
      else do
        updateNetwork NetworkImpl.close
        updateResponse fun response => { response with executeStatus := .success } : HttpM Unit) sent := run_bind_ok send
  rw [proceeds, ← read]
  cases loop : readLoop platform strerror world.peer.readings {} sent.client with
  | error fault state =>
      simp [loop, readResponse, outcome, readings, run_bind_eq_ok]
  | ok parser state =>
      have returned : ∃ after, readResponse platform strerror sent = .ok (!parser.error.isSome) after ∧
          (parser.error.isSome = true → after.client.response.executeStatus = .parseError) := by
        simp only [readResponse, readings, loop]
        cases parser.error <;> exact ⟨_, rfl, by simp⟩
      obtain ⟨after, returned, rejected⟩ := returned
      rw [run_bind_ok returned]
      simp only [outcome, Except.ok.injEq, exists_eq_left']
      cases held : parser.error with
      | none => exact ⟨fun _ => rfl, fun _ => ⟨_, rfl, rfl⟩⟩
      | some text =>
          simp only [Option.isSome_some, Bool.not_true, Bool.not_false, if_true, reduceCtorEq, iff_false]
          rintro ⟨later, run, success⟩
          simp only [updateNetwork, run_modify_eq_ok] at run
          rw [← run] at success
          have rejected := rejected (by simp [held])
          simp only at success
          rw [rejected] at success
          cases success

theorem execute_succeeds_iff (peer : Peer) (consistent : client.network.Consistent) :
    (∃ after, execute platform strerror request ⟨client, peer⟩ = .ok () after ∧
        after.client.response.executeStatus = .success) ↔
      Sends strerror client request peer ∧
        ∃ parser, received platform peer.readings {} = .ok parser ∧ parser.error = none := by
  cases hindered : hindrance strerror client request peer with
  | some hindrance =>
      obtain ⟨held, message⟩ := hindrance
      obtain ⟨after, run, failed, -⟩ := execute_hindered platform strerror peer consistent hindered
      simp only [Sends, hindered, reduceCtorEq, false_and, iff_false, run]
      rintro ⟨_, ⟨⟩, success⟩
      exact failed success
  | none =>
      obtain ⟨url, valid, ready, run⟩ := execute_connected platform strerror peer consistent hindered
      simp only [Sends, hindered, valid, Option.some.injEq, forall_eq', true_and, run]
      cases taken : acceptedAll peer.writings (requestPieces request.method url request.headers request.data) with
      | true =>
          rw [exchange_succeeds platform strerror ready taken]
          simp [asked]
      | false =>
          obtain ⟨after, run, unreported⟩ := exchange_refused platform strerror request url ready taken
          simp only [run, Bool.false_eq_true, false_and, iff_false]
          rintro ⟨_, ⟨⟩, success⟩
          rw [unreported.status] at success
          cases success

def Whole (readings : List Reading) : Prop :=
  ∃ parser, received platform readings {} = .ok parser ∧ parser.isComplete = true ∧
    ∀ fed code, endOfReading platform readings {} = some (fed, code) → Orderly code

theorem whole_iff (readings : List Reading) :
    ((∃ parser, received (linked platform) readings {} = .ok parser ∧ parser.error = none) →
        Whole (linked platform) readings) ↔
      ¬CutShort (linked platform) readings := by
  have ways := received_cases platform readings awaits_initial
  unfold Whole CutShort
  cases ended : endOfReading (linked platform) readings {} with
  | none =>
      rw [ended] at ways
      simp only [reduceCtorEq, false_and, exists_false, not_false_eq_true, iff_true]
      rintro ⟨parser, receives, fine⟩
      have finished := ways parser receives
      simp only [complete, fine, Option.isSome_none, Bool.or_false] at finished
      exact ⟨parser, receives, finished, nofun⟩
  | some result =>
      obtain ⟨fed, code⟩ := result
      rw [ended] at ways
      obtain ⟨later, receives, left⟩ := ways
      simpa [receives] using left.whole_iff code

theorem completes_iff (peer : Peer) (consistent : client.network.Consistent) :
    Completes (linked platform) strerror client request peer ↔
      ¬(Sends strerror client request peer ∧ CutShort (linked platform) peer.readings) := by
  calc
    _ ↔ ((∃ after, execute (linked platform) strerror request ⟨client, peer⟩ = .ok () after ∧
          after.client.response.executeStatus = .success) → Whole (linked platform) peer.readings) :=
        ⟨fun completes ⟨after, run, success⟩ => completes after run success,
          fun completes after run success => completes ⟨after, run, success⟩⟩
    _ ↔ (Sends strerror client request peer → ¬CutShort (linked platform) peer.readings) := by
        rw [execute_succeeds_iff (linked platform) strerror peer consistent, and_imp, whole_iff]
    _ ↔ _ := not_and.symm

theorem execute_completes_iff (history : List HttpCall) (request : Request) (peer : Peer) :
    Completes (linked platform) strerror (HttpClient.new.run (linked platform) strerror history) request peer ↔
      ¬(Sends strerror (HttpClient.new.run (linked platform) strerror history) request peer ∧
        CutShort (linked platform) peer.readings) :=
  completes_iff platform strerror peer (run_consistent (linked platform) strerror new_consistent history)

/-- The body of the response lasts until the end of the stream; a read times out and the call succeeds. -/
theorem not_completes_timeout :
    ¬Completes (linked (plainPlatform .signed)) (fun _ => [])
      (HttpClient.new.run (linked (plainPlatform .signed)) (fun _ => []) []) (getRequest "http://h/")
      (obligingPeer "HTTP/1.1 200 OK\r\n\r\nab") := by
  rw [completes_iff _ _ _ (run_consistent (linked (plainPlatform .signed)) _ new_consistent [])]
  refine not_not_intro ⟨⟨by decide +kernel, ?_⟩, [bytes "HTTP/1.1 200 OK\r\n\r\nab"], timeoutCode, by decide +kernel, by decide, ?_⟩
  · have valid : (getRequest "http://h/").url = some ⟨.http, bytes "h", bytes "80", bytes "/"⟩ := by decide +kernel
    rw [valid]
    rintro _ ⟨⟩
    decide +kernel
  · exact .inr (.inr ⟨by decide +kernel, by decide⟩)

end HttpClient

end Net

end IotClient
