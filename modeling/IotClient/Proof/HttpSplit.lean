import IotClient.Proof.HttpHalts

namespace IotClient.Net

open Logic

variable {maxStringSize : Nat} {parser : Parser} {response after : ResponseParser} {ch : UInt8}

/-! ## One read -/

/-- One parser has counted no more header bytes than the other, and that is all the difference. -/
def Parser.Lighter (one other : Parser) : Prop := ∃ nread ≤ other.nread, one = { other with nread := nread }

theorem Progress.Lighter.settle {one other : Progress} (lighter : one.Lighter other) :
    one.settle.1.parser.Lighter other.settle.1.parser ∧ one.settle.1.events = other.settle.1.events ∧
      one.settle.2 = other.settle.2 := by
  cases lighter with
  | next lighter =>
      obtain ⟨nread, less, rfl⟩ := lighter
      simp only [Progress.settle, Execution.callbackData_weigh]
      refine ⟨⟨nread, ?_, rfl⟩, rfl, trivial⟩
      rwa [Execution.parser_callbackData]
  | exit lighter =>
      obtain ⟨nread, less, rfl⟩ := lighter
      exact ⟨⟨nread, less, rfl⟩, rfl, rfl⟩

variable {one : Parser}

theorem Parser.Lighter.window (lighter : one.Lighter parser) (sound : parser.start.Sound) (working : parser.errno = .ok)
    {piece : Bytes} (some : piece ≠ []) (noticed : (Execution.crawl piece parser.start).Noticed) :
    (one.execute piece).1.Lighter (Execution.crawl piece parser.start).settle.1.parser ∧
      (one.execute piece).2 = ((Execution.crawl piece parser.start).settle.1.events,
        piece.length - (Execution.crawl piece parser.start).settle.2.length) := by
  obtain ⟨nread, less, rfl⟩ := lighter
  have starts : ({ parser with nread := nread } : Parser).start.Lighter parser.start := ⟨nread, less, rfl⟩
  obtain ⟨ended, alike, run⟩ := starts.loop (Nat.le_refl _) sound noticed
  obtain ⟨settled, events, rest⟩ := alike.settle
  have begins : ({ parser with nread := nread } : Parser).errno = .ok := working
  rw [Parser.execute_nonempty begins some]
  change (Execution.loop _ _ (Parser.start _)).1.parser.Lighter _ ∧
    ((Execution.loop _ _ (Parser.start _)).1.events, _ - (Execution.loop _ _ (Parser.start _)).2.length) = _
  rw [run, events, rest]
  exact ⟨settled, rfl⟩

theorem Parser.Lighter.executed (lighter : one.Lighter parser) (sound : parser.start.Sound) {piece : Bytes}
    (some : piece ≠ []) (continues : parser.Continues piece) :
    (one.execute piece).1.Lighter (Parser.bytewise piece parser).1 ∧
      (one.execute piece).2 = ((Execution.crawl piece parser.start).settle.1.events, piece.length) := by
  obtain ⟨works, left, parsed⟩ := Execution.crawl_leads sound continues
  obtain ⟨moved, told⟩ := lighter.window sound continues.working some works.noticed
  rw [parsed] at moved
  rw [left] at told
  exact ⟨moved, told⟩

theorem Parser.start_bytes {piece : Bytes} (sound : parser.start.Sound) (stays : parser.Stays piece) :
    (Parser.bytewise piece parser).1.start.Sound := by
  obtain ⟨later, -, kept, parsed⟩ := Execution.crawl_stays sound stays
  rw [Parser.parser_start] at parsed
  rw [← parsed]
  exact kept.start

theorem Parser.Lighter.pieces {pieces : List Bytes} (some : ∀ piece ∈ pieces, piece ≠ []) (lighter : one.Lighter parser)
    (sound : parser.start.Sound) (continues : parser.Continues pieces.flatten) :
    (pieces.foldl (fun parser data => (parser.execute data).1) one).Lighter (Parser.bytewise pieces.flatten parser).1 := by
  induction pieces generalizing one parser with
  | nil => exact lighter
  | cons piece pieces continued =>
      rw [List.flatten_cons] at continues ⊢
      rw [Parser.bytewise_append]
      have others := fun other member => some other (List.mem_cons_of_mem piece member)
      have moved := (lighter.executed sound (some piece List.mem_cons_self) continues.first).1
      cases pieces with
      | nil => exact moved
      | cons next pieces =>
          have more : (next :: pieces).flatten ≠ [] := by
            rw [List.flatten_cons]
            exact List.append_ne_nil_of_left_ne_nil (others next List.mem_cons_self) _
          exact continued others moved (Parser.start_bytes sound (continues.stays more)) continues.later

/-- How a stream is cut into pieces makes no difference for the `http_parser`, apart from the header bytes it has counted. -/
theorem fedWith_alike {one other : List Bytes} (some : ∀ piece ∈ one ++ other, piece ≠ [])
    (same : one.flatten = other.flatten) (regular : Regular one.flatten) :
    { Parser.fedWith one with nread := 0 } = { Parser.fedWith other with nread := 0 } := by
  have sound : ({} : Parser).start.Sound := fits_initial.sound
  have cut : ∀ {pieces : List Bytes}, (∀ piece ∈ pieces, piece ≠ []) → pieces.flatten = one.flatten →
      { Parser.fedWith pieces with nread := 0 } = { (Parser.bytewise one.flatten {}).1 with nread := 0 } := by
    intro pieces some same
    have regular : ({} : Parser).Continues pieces.flatten := by
      rw [same]
      exact ⟨regular.1, regular.2⟩
    obtain ⟨nread, -, is⟩ := Parser.Lighter.pieces some ⟨0, Nat.le_refl _, rfl⟩ sound regular
    rw [Parser.fedWith, is, same]
  rw [cut (fun piece member => some piece (List.mem_append_left _ member)) rfl,
    cut (fun piece member => some piece (List.mem_append_right _ member)) same.symm]

def shortResponse : Bytes := bytes "HTTP/1.1 200 OK\r\nContent-Length: 2\r\n\r\nok"

theorem shortResponse_regular : Regular shortResponse := by
  have each : ∀ shorter ∈ shortResponse.inits, shorter ≠ shortResponse →
      .messageComplete ∉ (Parser.bytewise shorter {}).2 := by
    decide +kernel
  refine ⟨by decide +kernel, fun shorter begins => each shorter ((List.mem_inits _ _).2 begins)⟩

theorem fedWith_alike_halves :
    Regular shortResponse ∧
      { Parser.fedWith [shortResponse] with nread := 0 } =
        { Parser.fedWith [shortResponse.take 20, shortResponse.drop 20] with nread := 0 } := by
  refine ⟨shortResponse_regular, fedWith_alike ?_ ?_ ?_⟩
  · decide +kernel
  · decide +kernel
  · rw [List.flatten_singleton]
    exact shortResponse_regular

/-! ## All reads -/

variable (platform : Platform)

theorem Parser.Lighter.refl (parser : Parser) : parser.Lighter parser := ⟨parser.nread, Nat.le_refl _, rfl⟩

theorem parseNoted_alike {result other : Parser × List ParserEvent × Nat} (same : result.2 = other.2)
    (errno : result.1.errno = other.1.errno) (len : Nat) (response : ResponseParser) :
    parseNoted result len response = parseNoted other len response := by
  simp only [parseNoted, same, Parser.parseError, errno]

theorem parseNoted_fed (result : Parser × List ParserEvent × Nat) (len : Nat) (response : ResponseParser) (fed : List Bytes) :
    parseNoted result len { response with fed := fed } = { parseNoted result len response with fed := fed } := by
  unfold parseNoted
  repeat' split
  all_goals rfl

theorem feed_window (lighter : (Parser.fedWith response.fed).Lighter parser) (fits : Fits parser response)
    (working : parser.errno = .ok) {piece : Bytes} (some : piece ≠ [])
    (noticed : (Execution.crawl piece parser.start).Noticed) :
    response.feed (linked platform) piece =
      (ResponseParser.handleAll platform.maxStringSize response (parser.execute piece).2.1).map fun later =>
        { parseNoted (parser.execute piece) piece.length later with fed := response.fed ++ [piece] } := by
  obtain ⟨⟨_, -, fed⟩, told⟩ := lighter.window fits.sound working some noticed
  obtain ⟨⟨_, -, bare⟩, same⟩ := (Parser.Lighter.refl parser).window fits.sound working some noticed
  have alike := told.trans same.symm
  have errno : ((Parser.fedWith response.fed).execute piece).1.errno = (parser.execute piece).1.errno := by
    rw [fed, bare]
  rw [feed_eq platform fits.fine (.inl some), ResponseParser.handleAll_fed, alike]
  cases ResponseParser.handleAll platform.maxStringSize response (parser.execute piece).2.1 with
  | error fault => rfl
  | ok later =>
      simp only [Except.map, Except.bind]
      rw [parseNoted_fed, parseNoted_alike alike errno]

theorem feed_piece (lighter : (Parser.fedWith response.fed).Lighter parser) (fits : Fits parser response) {piece : Bytes}
    (some : piece ≠ []) (continues : parser.Continues piece) :
    response.feed (linked platform) piece =
      (ResponseParser.handleAll platform.maxStringSize response (Parser.bytewise piece parser).2).map fun later =>
        { later with fed := response.fed ++ [piece] } := by
  obtain ⟨-, calls⟩ := (Parser.Lighter.refl parser).executed fits.sound some continues
  have told : ResponseParser.handleAll platform.maxStringSize response
        (Execution.crawl piece parser.start).settle.1.events =
      ResponseParser.handleAll platform.maxStringSize response (Parser.bytewise piece parser).2 :=
    Execution.crawl_told fits.sound fits.fine fits.start fits continues
  rw [feed_window platform lighter fits continues.working some (Execution.crawl_leads fits.sound continues).1.noticed,
    calls, told]
  simp only [parseNoted, calls, if_true]

theorem Fits.bytes {piece : Bytes} (fits : Fits parser response) (stays : parser.Stays piece)
    (told : ResponseParser.handleAll maxStringSize response (Parser.bytewise piece parser).2 = .ok after) :
    Fits (Parser.bytewise piece parser).1 after := by
  induction piece generalizing parser response with
  | nil =>
      cases told
      exact fits
  | cons ch piece continued =>
      obtain ⟨⟨fine, unfinished⟩, ahead⟩ := Parser.Stays.cons_iff.1 stays
      obtain ⟨later, turn, parsed, called, -⟩ := Execution.execute_inside stays.working fits.sound fine unfinished
      simp only [Parser.bytewise] at told ⊢
      rw [ResponseParser.handleAll_append fits.fine] at told
      obtain ⟨between, first, told⟩ := bind_eq_ok.1 told
      rw [called] at first
      have followed := (fits.byte turn first).2
      rw [← parsed] at followed
      simp only [followed.fine, Option.isSome_none, Bool.false_eq_true, if_false] at told
      exact continued followed ahead told

theorem received_data {head : UInt8} {tail : Bytes} (readings : List Reading)
    (unfinished : HttpClient.complete response = false) (sized : (head :: tail).length ≤ 10 * 1024) :
    received platform (.data head tail :: readings) response =
      (response.feed platform (head :: tail)).bind (received platform readings) := by
  have whole : (head :: tail).take (10 * 1024) = head :: tail := List.take_of_length_le sized
  have some : ¬(((head :: tail).length : Int) ≤ 0) := by
    rw [List.length_cons]
    omega
  simp only [received, unfinished, Bool.false_eq_true, if_false, Reading.taken, whole, some]

def forget (response : ResponseParser) : ResponseParser := { response with fed := [] }

theorem received_stays {readings : List Reading} {stream : Bytes} (rest : List Reading) (response : ResponseParser)
    (splits : Brings readings stream) (lighter : (Parser.fedWith response.fed).Lighter parser) (fits : Fits parser response)
    (incomplete : response.isComplete = false) (stays : parser.Stays stream)
    (told : ResponseParser.handleAll platform.maxStringSize response (Parser.bytewise stream parser).2 = .ok after) :
    ∃ fed, received (linked platform) (readings ++ rest) response =
        received (linked platform) rest { after with fed := fed } ∧
      (Parser.fedWith fed).Lighter (Parser.bytewise stream parser).1 := by
  obtain ⟨sized, rfl⟩ := splits
  induction readings generalizing parser response after with
  | nil =>
      cases told
      exact ⟨_, rfl, lighter⟩
  | cons reading readings continued =>
      have others := fun other member => sized other (List.mem_cons_of_mem reading member)
      obtain ⟨some, short⟩ := sized reading List.mem_cons_self
      cases reading with
      | failed code nonpositive => exact absurd rfl some
      | data head tail =>
          have unfinished : HttpClient.complete response = false := by
            simp [HttpClient.complete, incomplete, fits.fine]
          have text : (Reading.data head tail).text = head :: tail := rfl
          rw [text] at some short
          rw [List.flatMap_cons, text] at stays told ⊢
          obtain ⟨first, ahead⟩ := Parser.Stays.append_iff.1 stays
          obtain ⟨moved, -⟩ := lighter.executed fits.sound some first.continues
          rw [← Parser.fedWith_append] at moved
          rw [Parser.bytewise_append, ResponseParser.handleAll_append fits.fine] at told
          obtain ⟨between, handled, told⟩ := bind_eq_ok.1 told
          have followed := fits.bytes first handled
          have kept := ResponseParser.handleAll_incomplete handled first.unfinished
          simp only [followed.fine, Option.isSome_none, Bool.false_eq_true, if_false] at told
          rw [List.cons_append, received_data _ _ unfinished short,
            feed_piece platform lighter fits some first.continues, handled, Parser.bytewise_append]
          have refed : ResponseParser.handleAll platform.maxStringSize { between with fed := response.fed ++ [head :: tail] }
              (Parser.bytewise (readings.flatMap Reading.text) (Parser.bytewise (head :: tail) parser).1).2 =
                .ok { after with fed := response.fed ++ [head :: tail] } := by
            rw [ResponseParser.handleAll_fed, told]
            rfl
          obtain ⟨fed, run, alike⟩ := continued { between with fed := response.fed ++ [head :: tail] } moved
            ⟨followed.fine, followed.suits, followed.status, followed.unread⟩ (kept.trans incomplete) others ahead refed
          exact ⟨fed, run, alike⟩

theorem received_window {reading : Reading} (others : List Reading) (response : ResponseParser)
    (lighter : (Parser.fedWith response.fed).Lighter parser) (fits : Fits parser response) (working : parser.errno = .ok)
    (incomplete : response.isComplete = false) (some : reading.text ≠ []) (short : reading.text.length ≤ 10 * 1024)
    (noticed : (Execution.crawl reading.text parser.start).Noticed)
    (halts : ∀ later, ResponseParser.handleAll platform.maxStringSize response (parser.execute reading.text).2.1 = .ok later →
      HttpClient.complete (parseNoted (parser.execute reading.text) reading.text.length later) = true) :
    (received (linked platform) (reading :: others) response).map visible =
      (ResponseParser.handleAll platform.maxStringSize response (parser.execute reading.text).2.1).map fun later =>
        visible (parseNoted (parser.execute reading.text) reading.text.length later) := by
  have unfinished : HttpClient.complete response = false := by
    simp [HttpClient.complete, incomplete, fits.fine]
  cases reading with
  | failed code nonpositive => exact absurd rfl some
  | data head tail =>
      rw [show (Reading.data head tail).text = head :: tail from rfl] at *
      rw [received_data _ _ unfinished short, feed_window platform lighter fits working some noticed]
      cases handled : ResponseParser.handleAll platform.maxStringSize response (parser.execute (head :: tail)).2.1 with
      | error fault => rfl
      | ok later =>
          have ended := halts later handled
          simp only [Except.map, Except.bind]
          rw [(received_complete (linked platform) others (by exact ended)).1]
          rfl

end IotClient.Net
