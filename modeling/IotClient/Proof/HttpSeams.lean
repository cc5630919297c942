import IotClient.Proof.HttpSplit

namespace IotClient.Net

open Logic

variable {maxStringSize : Nat} {parser : Parser} {response after : ResponseParser} (platform : Platform)

/-! ## The read that decides -/

theorem Parser.Noticed.first {data more : Bytes} (noticed : (Parser.bytewise (data ++ more) parser).1.Noticed) :
    (Parser.bytewise data parser).1.Noticed := by
  by_cases fine : (Parser.bytewise data parser).1.errno = .ok
  · simp [Parser.Noticed, fine]
  · rw [Parser.bytewise_append, Parser.bytewise_stopped fine] at noticed
    exact noticed

namespace Pending

variable {front back : Bytes}

theorem first (pending : Pending maxStringSize (front ++ back)) : Pending maxStringSize front := by
  obtain ⟨fine, unfinished, response, told⟩ := pending
  have stays := (Parser.Stays.append_iff.1 ⟨fine, unfinished⟩).1
  rw [Parser.bytewise_append, ResponseParser.handleAll_append rfl] at told
  obtain ⟨between, told, -⟩ := bind_eq_ok.1 told
  exact ⟨stays.fine, stays.unfinished, between, told⟩

theorem fits (pending : Pending maxStringSize front) :
    ∃ response, ResponseParser.handleAll maxStringSize {} (Parser.bytewise front {}).2 = .ok response ∧
      Fits (Parser.bytewise front {}).1 response ∧ response.isComplete = false := by
  obtain ⟨fine, unfinished, response, told⟩ := pending
  exact ⟨response, told, fits_initial.bytes ⟨fine, unfinished⟩ told, ResponseParser.handleAll_incomplete told unfinished⟩

end Pending

theorem learned_eq {before : Bytes} (told : ResponseParser.handleAll maxStringSize {} (Parser.bytewise before {}).2 = .ok response)
    (data : Bytes) :
    learned maxStringSize before data =
      (ResponseParser.handleAll maxStringSize response ((Parser.bytewise before {}).1.execute data).2.1).map fun later =>
        visible (parseNoted ((Parser.bytewise before {}).1.execute data) data.length later) := by
  simp only [learned, told, bind, Except.bind]
  cases ResponseParser.handleAll maxStringSize response ((Parser.bytewise before {}).1.execute data).2.1 <;> rfl

def Halts (maxStringSize : Nat) (front data : Bytes) : Prop :=
  ∀ response later, ResponseParser.handleAll maxStringSize {} (Parser.bytewise front {}).2 = .ok response →
    ResponseParser.handleAll maxStringSize response ((Parser.bytewise front {}).1.execute data).2.1 = .ok later →
      HttpClient.complete (parseNoted ((Parser.bytewise front {}).1.execute data) data.length later) = true

theorem received_at {first : List Reading} {front : Bytes} (reading : Reading) (others : List Reading)
    (splits : Brings first front) (pending : Pending platform.maxStringSize front) (some : reading.text ≠ [])
    (short : reading.text.length ≤ 10 * 1024) (noticed : (Parser.bytewise (front ++ reading.text) {}).1.Noticed)
    (halts : Halts platform.maxStringSize front reading.text) :
    (received (linked platform) (first ++ reading :: others) {}).map visible =
      learned platform.maxStringSize front reading.text := by
  obtain ⟨response, told, fits, incomplete⟩ := pending.fits
  obtain ⟨fed, run, lighter⟩ := received_stays platform (reading :: others) {} splits (Parser.Lighter.refl {}) fits_initial
    rfl ⟨pending.1, pending.2.1⟩ told
  rw [Parser.bytewise_append] at noticed
  have heard := Execution.crawl_noticed fits.sound pending.1 noticed
  rw [run, learned_eq told]
  rw [received_window platform others { response with fed := fed } lighter
    ⟨fits.fine, fits.suits, fits.status, fits.unread⟩ pending.1 incomplete some short heard]
  · rw [ResponseParser.handleAll_fed]
    cases ResponseParser.handleAll platform.maxStringSize response
        ((Parser.bytewise front {}).1.execute reading.text).2.1 with
    | error fault => rfl
    | ok later =>
        simp only [Except.map]
        rw [parseNoted_fed]
        rfl
  · intro later handled
    rw [ResponseParser.handleAll_fed] at handled
    cases told' : ResponseParser.handleAll platform.maxStringSize response
        ((Parser.bytewise front {}).1.execute reading.text).2.1 with
    | error fault =>
        rw [told'] at handled
        cases handled
    | ok between =>
        rw [told'] at handled
        cases handled
        rw [parseNoted_fed]
        exact halts response between told told'

section deciding

variable {before front back : Bytes} {b : UInt8}

theorem execute_window (fits : Fits parser response) (working : parser.errno = .ok) {data : Bytes} (some : data ≠ [])
    (noticed : (Parser.bytewise data parser).1.Noticed) :
    (parser.execute data).1.errno = (Execution.crawl data parser.start).settle.1.parser.errno ∧
      (parser.execute data).2 = ((Execution.crawl data parser.start).settle.1.events,
        data.length - (Execution.crawl data parser.start).settle.2.length) := by
  have heard := Execution.crawl_noticed fits.sound working noticed
  obtain ⟨⟨nread, -, moved⟩, told⟩ := (Parser.Lighter.refl parser).window fits.sound working some heard
  rw [moved]
  exact ⟨rfl, told⟩

theorem parseNoted_refused {result : Parser × List ParserEvent × Nat} {len : Nat} (short : result.2.2 ≠ len)
    (failed : result.1.errno ≠ .ok) (later : ResponseParser) :
    visible (parseNoted result len later) = (false, later.httpStatus, later.headers, later.data) ∧
      HttpClient.complete (parseNoted result len later) = true := by
  simp only [parseNoted, short, if_false, Parser.parseError, failed]
  cases later.error <;> simp [visible, HttpClient.complete, IotClient.Status.set]

def refusedWith (response : ResponseParser) : Bool × Int × List (Bytes × Bytes) × Bytes :=
  (false, response.httpStatus, response.headers, response.data)

/-- A read with a byte that is refused in it: what the callbacks have been told before, without what is marked. -/
theorem refused_calls (pending : Pending maxStringSize before) (split : before = front ++ back)
    (failed : ((Parser.bytewise before {}).1.execute [b]).1.errno ≠ .ok)
    (noticed : ((Parser.bytewise before {}).1.execute [b]).1.Noticed) :
    ∃ (response : ResponseParser) (later : Execution),
      ResponseParser.handleAll maxStringSize {} (Parser.bytewise front {}).2 = .ok response ∧ response.error = none ∧
      later.Sound ∧ later.parser = (Parser.bytewise before {}).1 ∧
      ResponseParser.handleAll maxStringSize response later.callbackData.events =
        ResponseParser.handleAll maxStringSize {} (Parser.bytewise before {}).2 ∧
      (later.mark = none ∨ later.parser.state.losing = true ∧ ((Parser.bytewise before {}).1.execute [b]).2.1 = []) ∧
      ∀ more, Halts maxStringSize front (back ++ b :: more) ∧
        learned maxStringSize front (back ++ b :: more) =
          (ResponseParser.handleAll maxStringSize response
            (later.events ++ ((Parser.bytewise before {}).1.execute [b]).2.1)).map refusedWith := by
  subst split
  obtain ⟨response, told, fits, -⟩ := pending.first.fits
  have stays := (Parser.Stays.append_iff.1 ⟨pending.1, pending.2.1⟩).2
  rw [Parser.bytewise_append] at failed noticed ⊢
  obtain ⟨later, one, run, sound, parsed, stopped, events, lost, runs⟩ :=
    Execution.crawl_refused fits.sound stays failed noticed
  rw [Parser.parser_start] at parsed
  have calls : ResponseParser.handleAll maxStringSize response
        (Execution.crawl back (Parser.bytewise front {}).1.start).settle.1.events =
      ResponseParser.handleAll maxStringSize response (Parser.bytewise back (Parser.bytewise front {}).1).2 :=
    Execution.crawl_told fits.sound fits.fine fits.start fits stays.continues
  rw [run] at calls
  refine ⟨response, later, told, fits.fine, sound, parsed, ?_, by rw [parsed]; exact lost, fun more => ?_⟩
  · rw [ResponseParser.handleAll_append rfl, told]
    simp only [Except.bind, fits.fine, Option.isSome_none, Bool.false_eq_true, if_false]
    exact calls
  have heard : (Parser.bytewise (back ++ b :: more) (Parser.bytewise front {}).1).1.Noticed := by
    rw [Parser.bytewise_append]
    simp only [Parser.bytewise]
    rw [Parser.bytewise_stopped failed]
    exact noticed
  obtain ⟨errno, window⟩ := execute_window fits pending.first.1 (by simp) heard
  rw [runs more] at errno window
  have short : ((Parser.bytewise front {}).1.execute (back ++ b :: more)).2.2 ≠ (back ++ b :: more).length := by
    rw [window]
    simp only [Progress.settle, List.length_append, List.length_cons]
    omega
  have wrong : ((Parser.bytewise front {}).1.execute (back ++ b :: more)).1.errno ≠ .ok := by
    rw [errno, show (Progress.exit one (b :: more)).settle.1.parser = one.parser from rfl, stopped]
    exact failed
  refine ⟨fun _ later _ _ => (parseNoted_refused short wrong later).2, ?_⟩
  rw [learned_eq told, funext fun later => (parseNoted_refused short wrong later).1, window]
  exact congrArg (fun events => (ResponseParser.handleAll maxStringSize response events).map refusedWith) events

theorem window_refused (pending : Pending maxStringSize before) (split : before = front ++ back)
    (failed : ((Parser.bytewise before {}).1.execute [b]).1.errno ≠ .ok)
    (noticed : ((Parser.bytewise before {}).1.execute [b]).1.Noticed) (more : Bytes) :
    Halts maxStringSize front (back ++ b :: more) ∧
      learned maxStringSize front (back ++ b :: more) = learned maxStringSize front (back ++ [b]) := by
  obtain ⟨response, later, -, -, -, -, -, -, runs⟩ := refused_calls pending split failed noticed
  exact ⟨(runs more).1, (runs more).2.trans (runs []).2.symm⟩

theorem refusedWith_value {text : Bytes} (fine : after.error = none) (begun : response.error = none)
    (told : ResponseParser.handleAll maxStringSize response [.headerValue text] = .ok after) :
    refusedWith response = refusedWith after := by
  simp only [ResponseParser.handleAll, ResponseParser.handle, bind, Except.bind] at told
  cases state : response.headerState with
  | initial =>
      simp only [state, begun, IotClient.Status.set] at told
      split at told <;> cases told <;> cases fine
  | lastWasField | lastWasValue =>
      simp only [state] at told
      split at told <;> cases told <;> rfl

/-- Nothing is lost that a caller would learn of, unless the byte is refused in the name of a header or in the place of the
line break behind the data of a chunk. -/
theorem learned_refused (pending : Pending maxStringSize before) (split : before = front ++ back)
    (failed : ((Parser.bytewise before {}).1.execute [b]).1.errno ≠ .ok)
    (noticed : ((Parser.bytewise before {}).1.execute [b]).1.Noticed)
    (named : (Parser.bytewise before {}).1.state ≠ .headerField)
    (chunked : (Parser.bytewise before {}).1.state ≠ .chunkDataAlmostDone)
    (told : ResponseParser.handleAll maxStringSize {} (Parser.bytewise before {}).2 = .ok response) :
    learned maxStringSize front (back ++ [b]) =
      (ResponseParser.handleAll maxStringSize response ((Parser.bytewise before {}).1.execute [b]).2.1).map refusedWith := by
  obtain ⟨between, told', fits, -⟩ := pending.fits
  rw [told] at told'
  cases told'
  obtain ⟨first, later, -, begun, sound, parsed, calls, lost, runs⟩ := refused_calls pending split failed noticed
  rw [told] at calls
  rw [(runs []).2, ResponseParser.handleAll_append begun]
  rcases lost with unmarked | ⟨losing, none⟩
  · rw [Execution.callbackData_unmarked unmarked] at calls
    rw [calls]
    simp only [Except.bind, fits.fine, Option.isSome_none, Bool.false_eq_true, if_false]
  · rw [← parsed] at named chunked
    have state : later.parser.state = .headerValue := by
      revert losing named chunked
      cases later.parser.state <;> simp [ParserState.losing]
    obtain ⟨text, marked⟩ : ∃ text, later.mark = some (.headerValue, text) := by
      have marked := sound.marked
      rw [state] at marked
      cases is : later.mark with
      | none => simp [Execution.kind, is, ParserState.admits] at marked
      | some pair =>
          obtain ⟨mark, text⟩ := pair
          obtain rfl : mark = .headerValue := by simpa [Execution.kind, is, ParserState.admits] using marked
          exact ⟨text, rfl⟩
    rw [Execution.events_callbackData marked, ResponseParser.handleAll_append begun] at calls
    obtain ⟨between, handled, calls⟩ := bind_eq_ok.1 calls
    rw [handled, none]
    by_cases wrong : between.error.isSome = true
    · rw [if_pos wrong] at calls
      cases calls
      simp [fits.fine] at wrong
    · rw [if_neg wrong] at calls
      simp only [Except.bind, wrong, Bool.false_eq_true, if_false]
      exact congrArg Except.ok (refusedWith_value fits.fine (by simpa using wrong) calls)

theorem parseNoted_visible {result other : Parser × List ParserEvent × Nat} {len len' : Nat}
    (whole : result.2.2 = len ↔ other.2.2 = len') (errno : result.1.errno = other.1.errno) (later : ResponseParser) :
    visible (parseNoted result len later) = visible (parseNoted other len' later) := by
  simp only [parseNoted, whole, Parser.parseError, errno]
  split
  · rfl
  split
  next none =>
    split at none
    next fine => simp [fine]
    · cases none
  next text found =>
    split at found
    · cases found
    next failed => cases later.error <;> simp [failed, visible, IotClient.Status.set]

theorem parseNoted_complete {result : Parser × List ParserEvent × Nat} {len : Nat} {later : ResponseParser}
    (ended : HttpClient.complete later = true) : HttpClient.complete (parseNoted result len later) = true := by
  unfold parseNoted
  split
  · exact ended
  split
  · exact ended
  · cases later.error <;> simp [HttpClient.complete, IotClient.Status.set]

theorem handleAll_complete {events : List ParserEvent} (run : ResponseParser.handleAll maxStringSize response events = .ok after)
    (finished : .messageComplete ∈ events) : HttpClient.complete after = true := by
  cases failed : after.error with
  | some text => simp [HttpClient.complete, failed]
  | none => simp [HttpClient.complete, (ResponseParser.handleAll_handled run failed).2.1 (.inr finished)]

theorem window_finished (pending : Pending maxStringSize before) (split : before = front ++ back)
    (fine : ((Parser.bytewise before {}).1.execute [b]).1.errno = .ok)
    (finished : .messageComplete ∈ ((Parser.bytewise before {}).1.execute [b]).2.1) {more : Bytes}
    (noticed : (Parser.bytewise (before ++ b :: more) {}).1.Noticed) :
    Halts maxStringSize front (back ++ b :: more) ∧
      learned maxStringSize front (back ++ b :: more) = learned maxStringSize before (b :: more) := by
  subst split
  obtain ⟨response, told, fits, -⟩ := pending.first.fits
  obtain ⟨between, whole, settled, -⟩ := pending.fits
  have stays := (Parser.Stays.append_iff.1 ⟨pending.1, pending.2.1⟩).2
  have joined : ResponseParser.handleAll maxStringSize response (Parser.bytewise back (Parser.bytewise front {}).1).2 =
      .ok between := by
    rw [Parser.bytewise_append, ResponseParser.handleAll_append rfl, told] at whole
    simpa only [Except.bind, fits.fine, Option.isSome_none, Bool.false_eq_true, if_false] using whole
  have behind := learned_eq whole (b :: more)
  have heard : (Parser.bytewise (b :: more) (Parser.bytewise (front ++ back) {}).1).1.Noticed := by
    rw [Parser.bytewise_append] at noticed
    exact noticed
  obtain ⟨errno, parsed⟩ := execute_window settled pending.1 (by simp) heard
  rw [List.append_assoc, Parser.bytewise_append] at noticed
  obtain ⟨errno', parsed'⟩ := execute_window fits pending.first.1 (by simp) noticed
  rw [Parser.bytewise_append] at fine finished settled errno parsed behind
  obtain ⟨_, -, runs⟩ := Execution.crawl_finished fits.sound stays fine finished
  obtain ⟨tail, -, events, same, left⟩ := runs more
  have calls := Execution.told_finished fits.sound fits.fine fits.start fits stays joined settled.fine fine finished more
  have alike : ResponseParser.handleAll maxStringSize response
        ((Parser.bytewise front {}).1.execute (back ++ b :: more)).2.1 =
      ResponseParser.handleAll maxStringSize between
        ((Parser.bytewise back (Parser.bytewise front {}).1).1.execute (b :: more)).2.1 := by
    rw [parsed, parsed']
    exact calls
  refine ⟨fun other later first handled => ?_, ?_⟩
  · rw [told] at first
    cases first
    rw [alike] at handled
    refine parseNoted_complete (handleAll_complete handled ?_)
    rw [parsed]
    exact events ▸ List.mem_append_left tail finished
  · rw [learned_eq told, behind, alike]
    congr 1
    funext later
    apply parseNoted_visible
    · rw [parsed, parsed']
      rw [Parser.parser_start] at left
      simp only [left, List.length_append, List.length_cons]
      omega
    · rw [errno, errno']
      exact congrArg Parser.errno same

theorem window_fault (pending : Pending maxStringSize before) (split : before = front ++ back)
    (fine : ((Parser.bytewise before {}).1.execute [b]).1.errno = .ok) {fault : Fault}
    (failed : ResponseParser.handleAll maxStringSize {} (Parser.bytewise (before ++ [b]) {}).2 = .error fault)
    {more : Bytes} (noticed : (Parser.bytewise (before ++ b :: more) {}).1.Noticed) :
    Halts maxStringSize front (back ++ b :: more) ∧ learned maxStringSize front (back ++ b :: more) = .error fault := by
  subst split
  obtain ⟨response, told, fits, -⟩ := pending.first.fits
  have stays := (Parser.Stays.append_iff.1 ⟨pending.1, pending.2.1⟩).2
  have calls : ResponseParser.handleAll maxStringSize response
      (Execution.crawl (back ++ [b]) (Parser.bytewise front {}).1.start).settle.1.events = .error fault := by
    rw [Parser.bytewise_append] at fine
    rw [List.append_assoc, Parser.bytewise_append, ResponseParser.handleAll_append rfl, told] at failed
    rw [Execution.crawl_told fits.sound fits.fine fits.start fits (stays.byte fine)]
    simp only [Except.bind, fits.fine, Option.isSome_none, Bool.false_eq_true, if_false] at failed
    exact failed
  rw [List.append_assoc, Parser.bytewise_append] at noticed
  obtain ⟨-, parsed⟩ := execute_window fits pending.first.1 (by simp) noticed
  have thrown := Execution.told_fault fits.fine calls more
  rw [List.append_assoc, List.singleton_append] at thrown
  rw [learned_eq told, parsed, thrown]
  refine ⟨fun other later same handled => ?_, rfl⟩
  rw [told] at same
  cases same
  rw [parsed, thrown] at handled
  cases handled

theorem Pending.byte (pending : Pending maxStringSize (before ++ [b])) :
    ((Parser.bytewise before {}).1.execute [b]).1.errno = .ok ∧
      .messageComplete ∉ ((Parser.bytewise before {}).1.execute [b]).2.1 := by
  obtain ⟨⟨fine, unfinished⟩, -⟩ :=
    Parser.Stays.cons_iff.1 (Parser.Stays.append_iff.1 ⟨pending.1, pending.2.1⟩).2
  exact ⟨fine, unfinished⟩

theorem noticed_byte {rest : Bytes} (noticed : (Parser.bytewise (before ++ b :: rest) {}).1.Noticed) :
    ((Parser.bytewise before {}).1.execute [b]).1.Noticed := by
  rw [← List.singleton_append, ← List.append_assoc] at noticed
  have heard := noticed.first
  rw [Parser.bytewise_append] at heard
  exact heard

theorem noticed_more {more others : Bytes} (noticed : (Parser.bytewise (before ++ b :: (more ++ others)) {}).1.Noticed) :
    (Parser.bytewise (before ++ b :: more) {}).1.Noticed := by
  rw [← List.cons_append, ← List.append_assoc] at noticed
  exact noticed.first

theorem decided {rest : Bytes} (seamless : Seamless maxStringSize (before ++ b :: rest))
    (noticed : (Parser.bytewise (before ++ b :: rest) {}).1.Noticed) (pending : Pending maxStringSize before)
    (ended : ¬Pending maxStringSize (before ++ [b])) :
    ∃ value, ∀ front back more, before = front ++ back → more <+: rest → (back ++ b :: more).length ≤ 10 * 1024 →
      Halts maxStringSize front (back ++ b :: more) ∧ learned maxStringSize front (back ++ b :: more) = value := by
  obtain ⟨refused, finishing⟩ := seamless before b rest rfl pending
  by_cases fine : ((Parser.bytewise before {}).1.execute [b]).1.errno = .ok
  · cases told : ResponseParser.handleAll maxStringSize {} (Parser.bytewise (before ++ [b]) {}).2 with
    | error fault =>
        refine ⟨.error fault, fun front back more split begins _ => ?_⟩
        obtain ⟨others, rfl⟩ := begins
        exact window_fault pending split fine told (noticed_more noticed)
    | ok response =>
        have finished : .messageComplete ∈ ((Parser.bytewise before {}).1.execute [b]).2.1 := by
          by_contra unfinished
          refine ended ⟨?_, ?_, response, told⟩
          · rw [Parser.bytewise_append]
            exact fine
          · rw [Parser.bytewise_append, List.mem_append, not_or]
            exact ⟨pending.2.1, by simpa only [Parser.bytewise, List.append_nil] using unfinished⟩
        refine ⟨learned maxStringSize before [b], fun front back more split begins short => ?_⟩
        rw [List.length_append, List.length_cons] at short
        have alike := finishing finished more begins (by omega)
        obtain ⟨others, rfl⟩ := begins
        obtain ⟨halts, same⟩ := window_finished pending split fine finished (noticed_more noticed)
        exact ⟨halts, same.trans alike⟩
  · refine ⟨learned maxStringSize before [b], fun front back more split _ short => ?_⟩
    rw [List.length_append, List.length_cons] at short
    obtain ⟨halts, same⟩ := window_refused pending split fine (noticed_byte noticed) more
    exact ⟨halts, same.trans (refused fine front back split (by omega))⟩

theorem deciding_unique {before' rest rest' : Bytes} {b' : UInt8} (split : before ++ b :: rest = before' ++ b' :: rest')
    (pending : Pending maxStringSize before) (ended : ¬Pending maxStringSize (before ++ [b]))
    (pending' : Pending maxStringSize before') (ended' : ¬Pending maxStringSize (before' ++ [b'])) :
    before = before' ∧ b = b' ∧ rest = rest' := by
  have longer {before more : Bytes} {b : UInt8} (pending : Pending maxStringSize (before ++ b :: more)) :
      Pending maxStringSize (before ++ [b]) := by
    rw [← List.singleton_append, ← List.append_assoc] at pending
    exact pending.first
  rcases List.append_eq_append_iff.1 split with ⟨more, rfl, same⟩ | ⟨more, rfl, same⟩
  · cases more with
    | nil =>
        cases same
        exact ⟨(List.append_nil before).symm, rfl, rfl⟩
    | cons c more =>
        cases same
        exact absurd (longer pending') ended
  · cases more with
    | nil =>
        cases same
        exact ⟨List.append_nil before', rfl, rfl⟩
    | cons c more =>
        cases same
        exact absurd (longer pending) ended'

theorem seamless_of_refused {rest : Bytes} (pending : Pending maxStringSize before)
    (failed : ((Parser.bytewise before {}).1.execute [b]).1.errno ≠ .ok)
    (noticed : ((Parser.bytewise before {}).1.execute [b]).1.Noticed)
    (named : (Parser.bytewise before {}).1.state ≠ .headerField)
    (chunked : (Parser.bytewise before {}).1.state ≠ .chunkDataAlmostDone) :
    Seamless maxStringSize (before ++ b :: rest) := by
  intro before' b' rest' split pending'
  have ended : ¬Pending maxStringSize (before ++ [b]) := fun pending => failed pending.byte.1
  refine ⟨fun refused front back split' short => ?_, fun finished more begins short => ?_⟩
  · obtain ⟨rfl, rfl, rfl⟩ := deciding_unique split pending ended pending' fun pending => refused pending.byte.1
    obtain ⟨response, told, -⟩ := pending.fits
    rw [learned_refused pending split' failed noticed named chunked told]
    exact (learned_refused pending (List.append_nil before).symm failed noticed named chunked told).symm
  · obtain ⟨rfl, rfl, rfl⟩ := deciding_unique split pending ended pending' fun pending => pending.byte.2 finished
    exact (window_refused pending (List.append_nil before).symm failed noticed more).2

example : Seamless 0 (bytes "HTTP/1.1 2x0") := by
  have pending : Pending 0 (bytes "HTTP/1.1 2") :=
    ⟨by decide +kernel, by decide +kernel, { messageStarted := true }, by decide +kernel⟩
  have split : bytes "HTTP/1.1 2x0" = bytes "HTTP/1.1 2" ++ 120 :: bytes "0" := by decide +kernel
  rw [split]
  exact seamless_of_refused pending (by decide +kernel) (by decide +kernel) (by decide +kernel) (by decide +kernel)

end deciding

namespace HttpClient

variable (strerror : Int → Bytes)

theorem readLoop_response (readings : List Reading) (parser : ResponseParser) (client : HttpClient) {later : ResponseParser}
    {rest : List Reading} {after : HttpClient}
    (run : readLoop platform strerror readings parser client = .ok later (rest, after)) :
    after.response = client.response := by
  induction readings generalizing parser client with
  | nil =>
      revert run
      simp only [readLoop]
      repeat' split
      · rintro ⟨⟩
        rfl
      · rintro ⟨⟩
      · rintro ⟨⟩
        rfl
  | cons reading readings continued =>
      revert run
      simp only [readLoop]
      repeat' split
      · rintro ⟨⟩
        rfl
      · rintro ⟨⟩
      · rintro ⟨⟩
        rfl
      · rintro ⟨⟩
      · intro run
        have kept := continued _ _ run
        exact kept

def reported (response : Response) : Bool × Int × List (Bytes × Bytes) × Bytes → Bool × Response
  | (success, httpStatus, headers, data) =>
      (success, { response with
        httpStatus := httpStatus, headers := headers, data := data
        executeStatus := if success then response.executeStatus else .parseError })

theorem reported_injective (response : Response) : Function.Injective (reported response) := by
  rintro ⟨success, httpStatus, headers, data⟩ ⟨success', httpStatus', headers', data'⟩ same
  simp only [reported, Prod.mk.injEq, Response.mk.injEq] at same ⊢
  tauto

theorem answer_eq (readings : List Reading) {world : HttpWorld} (isOpen : world.client.network.IsOpen) :
    answer platform strerror world readings =
      ((received platform readings {}).map visible).map (reported world.client.response) := by
  rw [← readLoop_received platform strerror readings {} isOpen]
  simp only [answer, readResponse]
  cases run : readLoop platform strerror readings {} world.client with
  | error fault state => rfl
  | ok parser state =>
      obtain ⟨rest, client⟩ := state
      have kept := readLoop_response platform strerror readings {} world.client run
      simp only [outcome, Except.map, visible, reported]
      cases parser.error with
      | none => simp [kept]
      | some text => rfl

def singly (text : Bytes) : List Reading := text.map (Reading.data · [])

theorem brings_singly (text : Bytes) : Brings (singly text) text := by
  refine ⟨fun reading member => ?_, ?_⟩
  · obtain ⟨b, -, rfl⟩ := List.mem_map.1 member
    simp [Reading.text]
  · induction text with
    | nil => rfl
    | cons b text continued => exact congrArg (b :: ·) continued

variable {platform strerror}

theorem SplitIndependent.learned {world : HttpWorld} (isOpen : world.client.network.IsOpen) {stream : Bytes}
    (same : SplitIndependent (linked platform) strerror world stream) (noticed : (Parser.bytewise stream {}).1.Noticed) :
    ∃ value, ∀ front data rest, stream = front ++ data ++ rest → Pending platform.maxStringSize front → data ≠ [] →
      data.length ≤ 10 * 1024 → Halts platform.maxStringSize front data →
        learned platform.maxStringSize front data = value := by
  let ending : Reading := .failed 0 (by decide)
  refine ⟨(received (linked platform) (singly stream ++ [ending]) {}).map visible, ?_⟩
  rintro front data rest rfl pending some short halts
  obtain ⟨head, tail, rfl⟩ := List.exists_cons_of_ne_nil some
  have splits : Brings (singly front ++ Reading.data head tail :: singly rest) (front ++ head :: tail ++ rest) := by
    have before := brings_singly front
    have behind := brings_singly rest
    refine ⟨fun reading member => ?_, ?_⟩
    · rcases List.mem_append.1 member with member | member
      · exact before.1 reading member
      rcases List.mem_cons.1 member with rfl | member
      · exact ⟨some, short⟩
      · exact behind.1 reading member
    · rw [List.flatMap_append, List.flatMap_cons, before.2, behind.2, List.append_assoc]
      rfl
  have answered := same _ _ ending splits (brings_singly _) rfl
  rw [answer_eq _ _ _ isOpen, answer_eq _ _ _ isOpen] at answered
  have read := received_at platform (.data head tail) (singly rest ++ [ending]) (brings_singly front) pending some short
    noticed.first halts
  rw [← List.cons_append, ← List.append_assoc] at read
  exact read.symm.trans (map_injective (reported_injective _) answered)

end HttpClient

end IotClient.Net
