import IotClient.Proof.HttpBytes

namespace IotClient.Net

open Logic

variable {maxStringSize : Nat} {parser : Parser} {ch : UInt8}

/-! ## A byte that is refused -/

def ParserState.losing : ParserState → Bool
  | .headerField | .headerValue | .chunkDataAlmostDone => true
  | _ => false

namespace Execution

variable {execution : Execution}

theorem execute_refused (working : parser.errno = .ok) (sound : parser.start.Sound)
    (failed : (parser.execute [ch]).1.errno ≠ .ok) (noticed : (parser.execute [ch]).1.Noticed) :
    ∃ other, parser.start.step ch [] = .exit other [ch] ∧ (parser.execute [ch]).1 = other.parser ∧
      (parser.execute [ch]).2.1 = other.events := by
  have whole := (start_quiet working).step sound (byte_noticed working sound noticed)
  obtain ⟨parsed, called⟩ := execute_byte working sound ch
  rw [parsed] at failed ⊢
  rw [called]
  simp only [crawl] at failed ⊢
  cases turn : parser.start.step ch [] with
  | next later left =>
      rw [turn] at whole
      simp only [turn, Progress.settle, parser_callbackData] at failed
      exact absurd whole.2.1 failed
  | exit later left =>
      rw [turn] at whole
      simp only [turn, Progress.settle] at failed
      rcases whole with ⟨fine, -⟩ | ⟨-, rfl⟩
      · exact absurd fine failed
      · exact ⟨later, rfl, rfl, rfl⟩

/-- Whatever is marked, a byte that is refused at the start of the data is refused, and what is marked is not handed on. -/
theorem step_refused (sound : execution.Sound) (working : execution.parser.errno = .ok)
    (failed : (execution.parser.execute [ch]).1.errno ≠ .ok) (noticed : (execution.parser.execute [ch]).1.Noticed) :
    ∃ one, execution.step ch [] = .exit one [ch] ∧ one.parser = (execution.parser.execute [ch]).1 ∧
      one.events = execution.events ++ (execution.parser.execute [ch]).2.1 ∧
      (execution.mark = none ∨ execution.parser.state.losing = true ∧ (execution.parser.execute [ch]).2.1 = []) := by
  have heard := byte_noticed working sound.start noticed
  obtain ⟨other, first, parsed, called⟩ := execute_refused working sound.start failed noticed
  rw [parsed] at failed
  rw [parsed, called]
  have stops {change : Parser → Parser} {errno : Errno} {state : ParserState} (losing : state.losing = true)
      (run : execution.step ch [] = (execution.update change).fail errno [ch])
      (begun : execution.parser.start.step ch [] = (execution.parser.start.update change).fail errno [ch]) :
      ∃ one, execution.step ch [] = .exit one [ch] ∧ one.parser = other.parser ∧
        one.events = execution.events ++ other.events ∧
        (execution.mark = none ∨ state.losing = true ∧ other.events = []) := by
    rw [first] at begun
    cases begun
    exact ⟨_, run, rfl, (List.append_nil _).symm, .inr ⟨losing, rfl⟩⟩
  by_cases is : execution.mark = none
  · have turn := execution.parser.start.step_after ch [] execution.events
    rw [start_after sound is, first] at turn
    exact ⟨_, turn, rfl, rfl, .inl is⟩
  obtain ⟨pair, is⟩ := Option.ne_none_iff_exists'.1 is
  have marked := sound.marked
  rw [kind, is] at marked
  cases state : execution.parser.state with
  | headerField =>
      have begins : execution.parser.start.parser.state = .headerField := state
      have small := counted (by rw [begins]; rfl) heard
      cases lowered : token ch with
      | some c => simp [step_fieldChar begins lowered (counted_fieldChar begins lowered heard)] at first
      | none =>
          by_cases colon : ch = 58
          · subst colon
            simp [step_fieldEnd begins small] at first
          · exact stops rfl (step_fieldFails state lowered colon small) (step_fieldFails begins lowered colon small)
  | headerValue =>
      have begins : execution.parser.start.parser.state = .headerValue := state
      have small := counted (by rw [begins]; rfl) heard
      by_cases ended : ch = 13 ∨ ch = 10
      · rw [step_valueEnd begins ended small] at first
        split at first <;> cases first
      · rcases noticed_valueChar begins ended heard with ⟨next, valid, read, small⟩ | ⟨errno, -, -, scan⟩
        · simp [step_valueChar begins ended valid read small] at first
        · exact stops rfl (step_valueFails state small (scan [])) (step_valueFails begins small (scan []))
  | resStatus =>
      have begins : execution.parser.start.parser.state = .resStatus := state
      rw [step_resStatus begins (counted (by rw [begins]; rfl) heard)] at first
      repeat' split at first
      all_goals cases first
  | bodyIdentity =>
      have begins : execution.parser.start.parser.state = .bodyIdentity := state
      by_cases more : [ch].length < execution.parser.start.parser.contentLength
      · simp [step_inBody (.inl begins) more] at first
      · have positive := sound.start.unread (.inl begins)
        rw [List.length_singleton] at more
        rw [step_bodyLast begins (by omega)] at first
        split at first
        · cases first
        · cases first
  | chunkData =>
      have begins : execution.parser.start.parser.state = .chunkData := state
      by_cases more : [ch].length < execution.parser.start.parser.contentLength
      · simp [step_inBody (.inr begins) more] at first
      · have positive := sound.start.unread (.inr begins)
        rw [List.length_singleton] at more
        simp [step_chunkLast begins (by omega)] at first
  | bodyIdentityEof => simp [step_untilEof [] (show execution.parser.start.parser.state = _ from state)] at first
  | chunkDataAlmostDone =>
      have refuses {at' : Execution} (state : at'.parser.state = .chunkDataAlmostDone) (other : ch ≠ 13) :
          at'.step ch [] = (at'.update id).fail .strict [ch] := by
        simp only [step, state, ParserState.parsingHeader, Bool.false_eq_true, if_false, dispatch, ne_eq, other,
          not_false_eq_true, if_true]
        rfl
      have begins : execution.parser.start.parser.state = .chunkDataAlmostDone := state
      by_cases returned : ch = 13
      · simp [step, begins, ParserState.parsingHeader, dispatch, returned, consume] at first
      · exact stops rfl (refuses state returned) (refuses begins returned)
  | _ => simp [state, ParserState.admits] at marked

/-! ## A read and the byte that decides -/

theorem crawl_append (data more : Bytes) (execution : Execution) :
    crawl (data ++ more) execution =
      match crawl data execution with
      | .next later _ => crawl more later
      | .exit later left => .exit later (left ++ more) := by
  induction data generalizing execution with
  | nil => rfl
  | cons ch data continued =>
      simp only [List.cons_append, crawl]
      cases execution.step ch [] with
      | next later left => exact continued later
      | exit later left => simp

theorem crawl_stays {data : Bytes} (sound : execution.Sound) (stays : execution.parser.Stays data) :
    ∃ later, crawl data execution = .next later [] ∧ later.Sound ∧
      later.parser = (Parser.bytewise data execution.parser).1 := by
  induction data generalizing execution with
  | nil => exact ⟨execution, rfl, sound, rfl⟩
  | cons ch data continued =>
      obtain ⟨⟨fine, unfinished⟩, ahead⟩ := Parser.Stays.cons_iff.1 stays
      obtain ⟨one, moved, ⟨turn, kept⟩ | ⟨-, finished⟩⟩ := byte_leads sound stays.working fine
      · rw [← moved] at ahead
        simp only [crawl_cons turn, Parser.bytewise, ← moved]
        exact continued kept ahead
      · exact absurd finished unfinished

theorem crawl_noticed {data : Bytes} (sound : execution.Sound) (working : execution.parser.errno = .ok)
    (noticed : (Parser.bytewise data execution.parser).1.Noticed) : (crawl data execution).Noticed := by
  induction data generalizing execution with
  | nil => trivial
  | cons ch data continued =>
      simp only [Parser.bytewise] at noticed
      by_cases fine : (execution.parser.execute [ch]).1.errno = .ok
      · obtain ⟨one, moved, ⟨turn, kept⟩ | ⟨turn, -⟩⟩ := byte_leads sound working fine
        · rw [← moved] at noticed fine
          rw [crawl_cons turn]
          exact continued kept fine noticed
        · rw [← moved] at fine
          simp only [crawl, turn]
          exact Progress.Works.noticed fine
      · rw [Parser.bytewise_stopped fine] at noticed
        obtain ⟨one, turn, parsed, -⟩ := step_refused sound working fine noticed
        simp only [crawl, turn, Progress.Noticed, parsed]
        exact noticed

theorem crawl_refused {back : Bytes} (sound : execution.Sound) (stays : execution.parser.Stays back)
    (failed : ((Parser.bytewise back execution.parser).1.execute [ch]).1.errno ≠ .ok)
    (noticed : ((Parser.bytewise back execution.parser).1.execute [ch]).1.Noticed) :
    ∃ later one, crawl back execution = .next later [] ∧ later.Sound ∧
      later.parser = (Parser.bytewise back execution.parser).1 ∧
      one.parser = ((Parser.bytewise back execution.parser).1.execute [ch]).1 ∧
      one.events = later.events ++ ((Parser.bytewise back execution.parser).1.execute [ch]).2.1 ∧
      (later.mark = none ∨ (Parser.bytewise back execution.parser).1.state.losing = true ∧
        ((Parser.bytewise back execution.parser).1.execute [ch]).2.1 = []) ∧
      ∀ more, crawl (back ++ ch :: more) execution = .exit one (ch :: more) := by
  obtain ⟨later, run, kept, parsed⟩ := crawl_stays sound stays
  have working : later.parser.errno = .ok := by
    rw [parsed]
    exact stays.fine
  rw [← parsed] at failed noticed ⊢
  obtain ⟨one, turn, stopped, events, lost⟩ := step_refused kept working failed noticed
  refine ⟨later, one, run, kept, rfl, stopped, events, lost, fun more => ?_⟩
  rw [crawl_append, run]
  simp only [crawl, turn, List.singleton_append]

theorem Sound.between (sound : execution.Sound)
    (state : execution.parser.state = .startRes ∨ execution.parser.state = .dead) : execution.mark = none := by
  have marked := sound.marked
  rcases state with state | state <;>
  · rw [state] at marked
    simpa [kind, ParserState.admits] using marked

/-- Behind a message nothing is marked, so that the parser goes on as if the data began there. -/
theorem step_finished (sound : execution.Sound) (working : execution.parser.errno = .ok)
    (fine : (execution.parser.execute [ch]).1.errno = .ok)
    (finished : .messageComplete ∈ (execution.parser.execute [ch]).2.1) :
    ∃ one other, one.parser = other.parser ∧ (execution.parser.execute [ch]).2.1 = other.events ∧
      (execution.step ch [] = .next one [] ∧ execution.parser.start.step ch [] = .next other [] ∧
          one.parser.start.after one.events = one ∧ other.parser.start.after other.events = other ∧ one.mark = none ∨
        execution.step ch [] = .exit one [] ∧ execution.parser.start.step ch [] = .exit other []) := by
  have works := byte_works working sound.start fine
  have whole := (start_quiet working).step sound.start works.noticed
  have begun := step_keeps sound.start works
  rw [(execute_byte working sound.start ch).2] at finished ⊢
  simp only [crawl] at finished ⊢
  obtain ⟨one, other, same, ⟨turn, first⟩ | ⟨turn, first, -, -⟩⟩ := step_leads sound working works
  · have kept := step_keeps sound (show (execution.step ch []).Works by rw [turn]; trivial)
    rw [turn] at kept
    rw [first] at whole begun
    simp only [first, Progress.settle] at finished ⊢
    have ended : .messageComplete ∈ other.events := by
      by_contra unfinished
      exact (Quiet.callbackData ⟨whole.2.1, unfinished⟩).unfinished finished
    have between := whole.2.2 ended
    have unmarked := begun.between between
    have free := kept.between (by rw [same]; exact between)
    rw [callbackData_unmarked unmarked]
    exact ⟨one, other, same, rfl, .inl ⟨turn, rfl, start_after kept free, start_after begun unmarked, free⟩⟩
  · simp only [first, Progress.settle] at finished ⊢
    exact ⟨one, other, same, rfl, .inr ⟨turn, rfl⟩⟩

end Execution

theorem Progress.settle_after (progress : Progress) (events : List ParserEvent) :
    (progress.after events).settle = (progress.settle.1.after events, progress.settle.2) := by
  cases progress with
  | next execution rest =>
      simp only [Progress.after, Progress.settle, Execution.callbackData_after]
  | exit execution rest => rfl

namespace Execution

variable {execution : Execution} {before response between : ResponseParser}

theorem crawl_finished {back : Bytes} (sound : execution.Sound) (stays : execution.parser.Stays back)
    (fine : ((Parser.bytewise back execution.parser).1.execute [ch]).1.errno = .ok)
    (finished : .messageComplete ∈ ((Parser.bytewise back execution.parser).1.execute [ch]).2.1) :
    ∃ told, (crawl (back ++ [ch]) execution).settle.1.events = told ∧ ∀ more, ∃ events,
      (crawl (back ++ ch :: more) execution).settle.1.events = told ++ events ∧
      (crawl (ch :: more) (Parser.bytewise back execution.parser).1.start).settle.1.events =
        ((Parser.bytewise back execution.parser).1.execute [ch]).2.1 ++ events ∧
      (crawl (back ++ ch :: more) execution).settle.1.parser =
        (crawl (ch :: more) (Parser.bytewise back execution.parser).1.start).settle.1.parser ∧
      (crawl (back ++ ch :: more) execution).settle.2 =
        (crawl (ch :: more) (Parser.bytewise back execution.parser).1.start).settle.2 := by
  obtain ⟨later, run, kept, parsed⟩ := crawl_stays sound stays
  have working : later.parser.errno = .ok := by
    rw [parsed]
    exact stays.fine
  rw [← parsed] at fine finished ⊢
  simp only [crawl_append, run]
  obtain ⟨one, other, same, called, ⟨turn, first, began, begun, free⟩ | ⟨turn, first⟩⟩ :=
    step_finished kept working fine finished
  · refine ⟨one.events, ?_, fun more => ⟨(crawl more other.parser.start).settle.1.events, ?_⟩⟩
    · simp only [crawl, turn, Progress.settle, callbackData_unmarked free]
    · have on : crawl more one = (crawl more other.parser.start).after one.events := by
        rw [← silent_crawl, ← same, began]
      have off : crawl more other = (crawl more other.parser.start).after other.events := by
        rw [← silent_crawl, begun]
      simp only [crawl, turn, first, on, off, Progress.settle_after, called]
      exact ⟨rfl, rfl, rfl, trivial⟩
  · refine ⟨one.events, ?_, fun more => ⟨[], ?_⟩⟩
    · simp only [crawl, turn, Progress.settle]
    · simp only [crawl, turn, first, Progress.settle, same, called, List.append_nil]
      exact ⟨trivial, trivial, trivial, trivial⟩

theorem told_finished {back : Bytes} (sound : execution.Sound) (begun : before.error = none)
    (told : ResponseParser.handleAll maxStringSize before execution.callbackData.events = .ok response)
    (fits : Fits execution.parser response) (stays : execution.parser.Stays back)
    (pending : ResponseParser.handleAll maxStringSize response (Parser.bytewise back execution.parser).2 = .ok between)
    (clean : between.error = none)
    (fine : ((Parser.bytewise back execution.parser).1.execute [ch]).1.errno = .ok)
    (finished : .messageComplete ∈ ((Parser.bytewise back execution.parser).1.execute [ch]).2.1) (more : Bytes) :
    ResponseParser.handleAll maxStringSize before (crawl (back ++ ch :: more) execution).settle.1.events =
      ResponseParser.handleAll maxStringSize between
        (crawl (ch :: more) (Parser.bytewise back execution.parser).1.start).settle.1.events := by
  obtain ⟨events, first, runs⟩ := crawl_finished sound stays fine finished
  obtain ⟨tail, one, other, -, -⟩ := runs more
  have joined : ResponseParser.handleAll maxStringSize before events =
      ResponseParser.handleAll maxStringSize between ((Parser.bytewise back execution.parser).1.execute [ch]).2.1 := by
    rw [← first, crawl_told sound begun told fits (stays.byte fine), Parser.bytewise_append,
      ResponseParser.handleAll_append fits.fine, pending]
    simp only [Except.bind, clean, Option.isSome_none, Bool.false_eq_true, if_false, Parser.bytewise, List.append_nil]
  rw [one, other, ResponseParser.handleAll_append begun, ResponseParser.handleAll_append clean, joined]

theorem told_fault {data : Bytes} {fault : Fault} (begun : before.error = none)
    (failed : ResponseParser.handleAll maxStringSize before (crawl data execution).settle.1.events = .error fault)
    (more : Bytes) :
    ResponseParser.handleAll maxStringSize before (crawl (data ++ more) execution).settle.1.events = .error fault := by
  rw [crawl_append]
  revert failed
  cases crawl data execution with
  | next later left =>
      intro failed
      obtain ⟨events, extended⟩ := events_crawl more later
      have sooner := ResponseParser.handleAll_fault (ResponseParser.handleAll_callbackData begun failed) events
      rw [extended] at sooner
      exact sooner
  | exit later left => exact id

end Execution

end IotClient.Net
