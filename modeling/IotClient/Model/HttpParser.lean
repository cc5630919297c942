import IotClient.Model.Url

namespace IotClient.Net

/-! ## The state of an `http_parser` of responses -/

/-- The states that a parser of responses can be in; `s_` is left out. -/
inductive ParserState where
  | dead
  | startRes
  | resH
  | resHT
  | resHTT
  | resHTTP
  | resFirstHttpMajor
  | resHttpMajor
  | resFirstHttpMinor
  | resHttpMinor
  | resFirstStatusCode
  | resStatusCode
  | resStatusStart
  | resStatus
  | resLineAlmostDone
  | headerFieldStart
  | headerField
  | headerValueDiscardWs
  | headerValueDiscardWsAlmostDone
  | headerValueDiscardLws
  | headerValueStart
  | headerValue
  | headerValueLws
  | headerAlmostDone
  | chunkSizeStart
  | chunkSize
  | chunkParameters
  | chunkSizeAlmostDone
  | headersAlmostDone
  | headersDone
  | chunkData
  | chunkDataAlmostDone
  | chunkDataDone
  | bodyIdentity
  | bodyIdentityEof
  | messageDone
  deriving DecidableEq, Repr

def ParserState.parsingHeader : ParserState → Bool
  | .chunkData | .chunkDataAlmostDone | .chunkDataDone | .bodyIdentity | .bodyIdentityEof | .messageDone => false
  | _ => true

inductive HeaderStates where
  | general
  | c
  | co
  | con
  | matchingConnection
  | matchingProxyConnection
  | matchingContentLength
  | matchingTransferEncoding
  | matchingUpgrade
  | connection
  | contentLength
  | transferEncoding
  | upgrade
  | matchingTransferEncodingChunked
  | matchingConnectionTokenStart
  | matchingConnectionKeepAlive
  | matchingConnectionClose
  | matchingConnectionUpgrade
  | matchingConnectionToken
  | transferEncodingChunked
  | connectionKeepAlive
  | connectionClose
  | connectionUpgrade
  deriving DecidableEq, Repr

/-- The errors that the parser of a response can stop with; `HPE_` is left out. -/
inductive Errno where
  | ok
  | invalidEofState
  | headerOverflow
  | closedConnection
  | invalidVersion
  | invalidStatus
  | lfExpected
  | invalidHeaderToken
  | invalidContentLength
  | unexpectedContentLength
  | invalidChunkSize
  | invalidConstant
  | strict
  deriving DecidableEq, Repr

def Errno.name : Errno → String
  | .ok => "HPE_OK"
  | .invalidEofState => "HPE_INVALID_EOF_STATE"
  | .headerOverflow => "HPE_HEADER_OVERFLOW"
  | .closedConnection => "HPE_CLOSED_CONNECTION"
  | .invalidVersion => "HPE_INVALID_VERSION"
  | .invalidStatus => "HPE_INVALID_STATUS"
  | .lfExpected => "HPE_LF_EXPECTED"
  | .invalidHeaderToken => "HPE_INVALID_HEADER_TOKEN"
  | .invalidContentLength => "HPE_INVALID_CONTENT_LENGTH"
  | .unexpectedContentLength => "HPE_UNEXPECTED_CONTENT_LENGTH"
  | .invalidChunkSize => "HPE_INVALID_CHUNK_SIZE"
  | .invalidConstant => "HPE_INVALID_CONSTANT"
  | .strict => "HPE_STRICT"

def Errno.description : Errno → String
  | .ok => "success"
  | .invalidEofState => "stream ended at an unexpected time"
  | .headerOverflow => "too many header bytes seen; overflow detected"
  | .closedConnection => "data received after completed connection: close message"
  | .invalidVersion => "invalid HTTP version"
  | .invalidStatus => "invalid HTTP status code"
  | .lfExpected => "LF character expected"
  | .invalidHeaderToken => "invalid character in header"
  | .invalidContentLength => "invalid character in content-length header"
  | .unexpectedContentLength => "unexpected content-length header"
  | .invalidChunkSize => "invalid character in chunk size header"
  | .invalidConstant => "invalid constant string"
  | .strict => "strict mode assertion failed"

/-- `F_SKIPBODY` is left out: no callback of the client asks for it. -/
structure Flags where
  chunked : Bool := false
  connectionKeepAlive : Bool := false
  connectionClose : Bool := false
  connectionUpgrade : Bool := false
  trailing : Bool := false
  upgrade : Bool := false
  contentLength : Bool := false
  deriving DecidableEq, Repr

structure Parser where
  state : ParserState := .startRes
  headerState : HeaderStates := .general
  index : Nat := 0
  nread : Nat := 0
  contentLength : Nat := 0
  httpMajor : Nat := 0
  httpMinor : Nat := 0
  statusCode : Nat := 0
  flags : Flags := {}
  errno : Errno := .ok
  upgrade : Bool := false
  deriving DecidableEq, Repr

def ullongMax : Nat := 2 ^ 64 - 1

def httpMaxHeaderSize : Nat := 80 * 1024

/-- `tokens`, in lower case; the table is that of the strict parser. -/
def token (ch : UInt8) : Option UInt8 :=
  if isAlpha ch then some (lower ch)
  else if isNum ch || (bytes "!#$%&'*+-.^_\x60|~").contains ch then some ch
  else none

def unhex (ch : UInt8) : Option Nat :=
  -- the table of 256 entries has initialisers for the first 128 only, the others are 0
  if 128 ≤ ch then some 0
  else if isNum ch then some (ch.toNat - 48)
  else if 97 ≤ lower ch && lower ch ≤ 102 then some ((lower ch).toNat - 87)
  else none

def isHeaderChar (ch : UInt8) : Bool := ch == 13 || ch == 10 || ch == 9 || (ch > 31 && ch != 127)

namespace Parser

def needsEof (parser : Parser) : Bool :=
  if parser.statusCode / 100 = 1 ∨ parser.statusCode = 204 ∨ parser.statusCode = 304 then false
  else !(parser.flags.chunked || parser.contentLength != ullongMax)

def shouldKeepAlive (parser : Parser) : Bool :=
  if parser.httpMajor > 0 ∧ parser.httpMinor > 0 then !parser.flags.connectionClose && !parser.needsEof
  else parser.flags.connectionKeepAlive && !parser.needsEof

def newMessage (parser : Parser) : ParserState :=
  if parser.shouldKeepAlive then .startRes else .dead

def matchName (name : String) (whole fallback : HeaderStates) (c : UInt8) (parser : Parser) : Parser :=
  let index := parser.index + 1
  let headerState :=
    if (bytes name)[index]? ≠ some c then fallback
    else if index + 1 = (bytes name).length then whole
    else parser.headerState
  { parser with index := index, headerState := headerState }

def fieldStart (c : UInt8) (parser : Parser) : Parser :=
  { parser with
    state := .headerField
    index := 0
    headerState :=
      if c = 99 then .c
      else if c = 112 then .matchingProxyConnection
      else if c = 116 then .matchingTransferEncoding
      else if c = 117 then .matchingUpgrade
      else .general }

def fieldChar (c : UInt8) (parser : Parser) : Parser :=
  match parser.headerState with
  | .c => { parser with index := parser.index + 1, headerState := if c = 111 then .co else .general }
  | .co => { parser with index := parser.index + 1, headerState := if c = 110 then .con else .general }
  | .con =>
      { parser with
        index := parser.index + 1
        headerState :=
          if c = 110 then .matchingConnection
          else if c = 116 then .matchingContentLength
          else .general }
  | .matchingConnection => parser.matchName "connection" .connection .general c
  | .matchingProxyConnection => parser.matchName "proxy-connection" .connection .general c
  | .matchingContentLength => parser.matchName "content-length" .contentLength .general c
  | .matchingTransferEncoding => parser.matchName "transfer-encoding" .transferEncoding .general c
  | .matchingUpgrade => parser.matchName "upgrade" .upgrade .general c
  | .connection | .contentLength | .transferEncoding | .upgrade => { parser with headerState := .general }
  | _ => parser

def connectionToken (c : UInt8) (other : HeaderStates) : HeaderStates :=
  if c = 107 then .matchingConnectionKeepAlive
  else if c = 99 then .matchingConnectionClose
  else if c = 117 then .matchingConnectionUpgrade
  else other

def valueStart (ch : UInt8) (parser : Parser) : Except Errno Parser :=
  let parser := { parser with state := .headerValue, index := 0 }
  let c := lower ch
  match parser.headerState with
  | .upgrade => .ok { parser with flags := { parser.flags with upgrade := true }, headerState := .general }
  | .transferEncoding =>
      .ok { parser with headerState := if c = 99 then .matchingTransferEncodingChunked else .general }
  | .contentLength =>
      if !isNum ch then .error .invalidContentLength
      else if parser.flags.contentLength then .error .unexpectedContentLength
      else .ok { parser with
        flags := { parser.flags with contentLength := true }
        contentLength := ch.toNat - 48 }
  | .connection => .ok { parser with headerState := connectionToken c .matchingConnectionToken }
  | .matchingConnectionTokenStart => .ok parser
  | _ => .ok { parser with headerState := .general }

def setConnection (parser : Parser) : Parser :=
  match parser.headerState with
  | .connectionKeepAlive => { parser with flags := { parser.flags with connectionKeepAlive := true } }
  | .connectionClose => { parser with flags := { parser.flags with connectionClose := true } }
  | .connectionUpgrade => { parser with flags := { parser.flags with connectionUpgrade := true } }
  | _ => parser

def valueChar (ch : UInt8) (parser : Parser) : Except Errno Parser :=
  let c := lower ch
  match parser.headerState with
  | .general => .ok parser
  | .contentLength =>
      if ch = 32 then .ok parser
      else if !isNum ch then .error .invalidContentLength
      else if (ullongMax - 10) / 10 < parser.contentLength then .error .invalidContentLength
      else .ok { parser with contentLength := parser.contentLength * 10 + (ch.toNat - 48) }
  | .matchingTransferEncodingChunked => .ok (parser.matchName "chunked" .transferEncodingChunked .general c)
  | .matchingConnectionTokenStart =>
      .ok { parser with
        headerState := connectionToken c
          (if (token c).isSome then .matchingConnectionToken
          else if c = 32 ∨ c = 9 then .matchingConnectionTokenStart
          else .general) }
  | .matchingConnectionKeepAlive =>
      .ok (parser.matchName "keep-alive" .connectionKeepAlive .matchingConnectionToken c)
  | .matchingConnectionClose => .ok (parser.matchName "close" .connectionClose .matchingConnectionToken c)
  | .matchingConnectionUpgrade => .ok (parser.matchName "upgrade" .connectionUpgrade .matchingConnectionToken c)
  | .matchingConnectionToken =>
      if ch = 44 then .ok { parser with headerState := .matchingConnectionTokenStart, index := 0 }
      else .ok parser
  | .transferEncodingChunked => .ok (if ch ≠ 32 then { parser with headerState := .general } else parser)
  | .connectionKeepAlive | .connectionClose | .connectionUpgrade =>
      if ch = 44 then .ok { parser.setConnection with headerState := .matchingConnectionTokenStart, index := 0 }
      else if ch ≠ 32 then .ok { parser with headerState := .matchingConnectionToken }
      else .ok parser
  | _ => .ok { parser with headerState := .general }

/-- The loop over a header value, up to its CR or LF: the characters passed, the error and what is left. After a
character in `h_general`, `memchr` finds the end of the value: the ones between are not checked. The client's
buffer is smaller than the limit of the search. -/
def scanValue : (skip : Bool) → Parser → Bytes → Parser × Bytes × Option Errno × Bytes
  | _, parser, [] => (parser, [], none, [])
  | skip, parser, ch :: rest =>
      if ch = 13 ∨ ch = 10 then (parser, [], none, ch :: rest)
      else if skip then
        let (parser, passed, error, rest) := scanValue true parser rest
        (parser, ch :: passed, error, rest)
      else if !isHeaderChar ch then (parser, [], some .invalidHeaderToken, ch :: rest)
      else match parser.valueChar ch with
        | .error errno => (parser, [], some errno, ch :: rest)
        | .ok next =>
            let (parser, passed, error, rest) := scanValue (parser.headerState = .general) next rest
            (parser, ch :: passed, error, rest)

def headerOver (parser : Parser) : Parser :=
  match parser.headerState with
  | .transferEncodingChunked => { parser with flags := { parser.flags with chunked := true } }
  | _ => parser.setConnection

end Parser

/-! ## `http_parser_execute` -/

/-- The marks; at most one of them is set at a time. -/
inductive Mark where
  | headerField
  | headerValue
  | body
  | status
  deriving DecidableEq, Repr

/-- `http_parser_execute` at some byte: a mark that is set comes with the text from there up to that byte. -/
structure Execution where
  parser : Parser
  mark : Option (Mark × Bytes) := none
  events : List ParserEvent := []
  deriving DecidableEq, Repr

inductive Progress where
  | next (execution : Execution) (rest : Bytes)
  | exit (execution : Execution) (rest : Bytes)
  deriving DecidableEq, Repr

namespace Execution

def update (change : Parser → Parser) (execution : Execution) : Execution :=
  { execution with parser := change execution.parser }

def updateState (state : ParserState) (execution : Execution) : Execution :=
  execution.update fun parser => { parser with state := state }

def notify (event : ParserEvent) (execution : Execution) : Execution :=
  { execution with events := execution.events ++ [event] }

def setMark (mark : Mark) (execution : Execution) : Execution :=
  if execution.mark.isSome then execution else { execution with mark := some (mark, []) }

def advance (text : Bytes) (execution : Execution) : Execution :=
  { execution with mark := execution.mark.map fun (mark, marked) => (mark, marked ++ text) }

def dataEvent (parser : Parser) (text : Bytes) : Mark → ParserEvent
  | .headerField => .headerField text
  | .headerValue => .headerValue text
  | .body => .body text
  | .status => .status parser.statusCode

def callbackData (execution : Execution) : Execution :=
  match execution.mark with
  | none => execution
  | some (mark, text) => { execution.notify (dataEvent execution.parser text mark) with mark := none }

def fail (errno : Errno) (here : Bytes) (execution : Execution) : Progress :=
  .exit (execution.update fun parser => { parser with errno := errno }) here

def countHeaderSize (count : Nat) (here : Bytes) (execution : Execution) (continued : Execution → Progress) :
    Progress :=
  let execution := execution.update fun parser => { parser with nread := parser.nread + count }
  if execution.parser.nread > httpMaxHeaderSize then execution.fail .headerOverflow here
  else continued execution

def finish (execution : Execution) : Execution :=
  (execution.update fun parser => { parser with state := parser.newMessage }).notify .messageComplete

def consume (ch : UInt8) (rest : Bytes) (execution : Execution) : Progress :=
  .next (execution.advance [ch]) rest

def expect (expected : UInt8) (state : ParserState) (ch : UInt8) (rest : Bytes) (execution : Execution) : Progress :=
  if ch ≠ expected then execution.fail .strict (ch :: rest)
  else (execution.updateState state).consume ch rest

def messageDone (ch : UInt8) (rest : Bytes) (execution : Execution) : Progress :=
  let execution := execution.finish
  if execution.parser.upgrade then .exit execution rest else execution.consume ch rest

def headersDone (ch : UInt8) (rest : Bytes) (execution : Execution) : Progress :=
  if ch ≠ 10 then execution.fail .strict (ch :: rest)
  else
    let execution := execution.update fun parser => { parser with nread := 0 }
    let parser := execution.parser
    let hasBody := parser.flags.chunked || (parser.contentLength > 0 && parser.contentLength != ullongMax)
    if parser.upgrade && !hasBody then .exit execution.finish rest
    else if parser.flags.chunked then (execution.updateState .chunkSizeStart).consume ch rest
    else if parser.contentLength = 0 then execution.finish.consume ch rest
    else if parser.contentLength ≠ ullongMax then (execution.updateState .bodyIdentity).consume ch rest
    else if !parser.needsEof then execution.finish.consume ch rest
    else (execution.updateState .bodyIdentityEof).consume ch rest

def headersAlmostDone (ch : UInt8) (rest : Bytes) (execution : Execution) : Progress :=
  let flags := execution.parser.flags
  if ch ≠ 10 then execution.fail .strict (ch :: rest)
  else if flags.trailing then
    ((execution.updateState .messageDone).notify .chunkComplete).messageDone ch rest
  else if flags.chunked && flags.contentLength then execution.fail .unexpectedContentLength (ch :: rest)
  else
    let execution := execution.update fun parser =>
      { parser with state := .headersDone, upgrade := flags.upgrade && flags.connectionUpgrade }
    (execution.notify (.headersComplete execution.parser.contentLength)).headersDone ch rest

def headerFieldStart (ch : UInt8) (rest : Bytes) (execution : Execution) : Progress :=
  if ch = 13 then (execution.updateState .headersAlmostDone).consume ch rest
  else if ch = 10 then (execution.updateState .headersAlmostDone).headersAlmostDone ch rest
  else match token ch with
    | none => execution.fail .invalidHeaderToken (ch :: rest)
    | some c => ((execution.setMark .headerField).update (·.fieldStart c)).consume ch rest

def headerField (ch : UInt8) (rest : Bytes) (execution : Execution) : Progress :=
  let here := ch :: rest
  let passed := here.takeWhile fun ch => (token ch).isSome
  let after := here.dropWhile fun ch => (token ch).isSome
  let execution := (execution.update fun parser =>
    (passed.filterMap token).foldl (fun parser c => parser.fieldChar c) parser).advance passed
  execution.countHeaderSize passed.length after fun execution =>
    match after with
    | [] => .next execution []
    | 58 :: rest => .next (execution.updateState .headerValueDiscardWs).callbackData rest
    | ch :: rest => execution.fail .invalidHeaderToken (ch :: rest)

def headerValueStart (ch : UInt8) (rest : Bytes) (execution : Execution) : Progress :=
  let execution := execution.setMark .headerValue
  match execution.parser.valueStart ch with
  | .error errno => execution.fail errno (ch :: rest)
  | .ok parser => { execution with parser := parser }.consume ch rest

def headerValueDiscardWs (ch : UInt8) (rest : Bytes) (execution : Execution) : Progress :=
  if ch = 32 ∨ ch = 9 then execution.consume ch rest
  else if ch = 13 then (execution.updateState .headerValueDiscardWsAlmostDone).consume ch rest
  else if ch = 10 then (execution.updateState .headerValueDiscardLws).consume ch rest
  else execution.headerValueStart ch rest

def headerAlmostDone (ch : UInt8) (rest : Bytes) (execution : Execution) : Progress :=
  if ch ≠ 10 then execution.fail .lfExpected (ch :: rest)
  else (execution.updateState .headerValueLws).consume ch rest

def headerValue (ch : UInt8) (rest : Bytes) (execution : Execution) : Progress :=
  match execution.parser.scanValue false (ch :: rest) with
  | (parser, passed, some errno, after) => ({ execution with parser := parser }.advance passed).fail errno after
  | (parser, passed, none, []) =>
      ({ execution with parser := parser }.advance passed).countHeaderSize passed.length [] fun execution =>
        .next execution []
  | (parser, passed, none, ch :: rest) =>
      let execution := ({ execution with parser := parser }.advance passed).updateState .headerAlmostDone
      if ch = 13 then
        execution.callbackData.countHeaderSize passed.length (ch :: rest) fun execution => .next execution rest
      else
        execution.countHeaderSize passed.length (ch :: rest) fun execution =>
          execution.callbackData.headerAlmostDone ch rest

def headerValueLws (ch : UInt8) (rest : Bytes) (execution : Execution) : Progress :=
  if ch = 32 ∨ ch = 9 then (execution.updateState .headerValueStart).headerValueStart ch rest
  else ((execution.update Parser.headerOver).updateState .headerFieldStart).headerFieldStart ch rest

def headerValueDiscardLws (ch : UInt8) (rest : Bytes) (execution : Execution) : Progress :=
  if ch = 32 ∨ ch = 9 then (execution.updateState .headerValueDiscardWs).consume ch rest
  else
    (((execution.update Parser.headerOver).setMark .headerValue).updateState .headerFieldStart).callbackData.headerFieldStart
      ch rest

def passBody (here : Bytes) (execution : Execution) : Execution × Bytes :=
  let toRead := min execution.parser.contentLength here.length
  (((execution.setMark .body).update fun parser =>
    { parser with contentLength := parser.contentLength - toRead }).advance (here.take toRead), here.drop toRead)

def bodyIdentity (ch : UInt8) (rest : Bytes) (execution : Execution) : Progress :=
  let (execution, after) := execution.passBody (ch :: rest)
  if execution.parser.contentLength = 0 then (execution.updateState .messageDone).callbackData.messageDone ch after
  else .next execution after

def chunkData (ch : UInt8) (rest : Bytes) (execution : Execution) : Progress :=
  let (execution, after) := execution.passBody (ch :: rest)
  if execution.parser.contentLength = 0 then .next (execution.updateState .chunkDataAlmostDone) after
  else .next execution after

def versionDigit (ch : UInt8) (number : Parser → Nat) (set : Nat → Parser → Parser) (rest : Bytes)
    (execution : Execution) : Progress :=
  if !isNum ch then execution.fail .invalidVersion (ch :: rest)
  else
    let execution := execution.update fun parser => set (number parser * 10 + (ch.toNat - 48)) parser
    if number execution.parser > 999 then execution.fail .invalidVersion (ch :: rest)
    else execution.consume ch rest

def startRes (ch : UInt8) (rest : Bytes) (execution : Execution) : Progress :=
  let execution := execution.update fun parser => { parser with flags := {}, contentLength := ullongMax }
  if ch = 72 then ((execution.updateState .resH).notify .messageBegin).consume ch rest
  else if ch = 13 ∨ ch = 10 then (execution.notify .messageBegin).consume ch rest
  else execution.fail .invalidConstant (ch :: rest)

def resStatusCode (ch : UInt8) (rest : Bytes) (execution : Execution) : Progress :=
  if !isNum ch then
    if ch = 32 then (execution.updateState .resStatusStart).consume ch rest
    else if ch = 13 then (execution.updateState .resLineAlmostDone).consume ch rest
    else if ch = 10 then (execution.updateState .headerFieldStart).consume ch rest
    else execution.fail .invalidStatus (ch :: rest)
  else
    let execution := execution.update fun parser =>
      { parser with statusCode := parser.statusCode * 10 + (ch.toNat - 48) }
    if execution.parser.statusCode > 999 then execution.fail .invalidStatus (ch :: rest)
    else execution.consume ch rest

def chunkSize (ch : UInt8) (rest : Bytes) (execution : Execution) : Progress :=
  if ch = 13 then (execution.updateState .chunkSizeAlmostDone).consume ch rest
  else match unhex ch with
    | none =>
        if ch = 59 ∨ ch = 32 then (execution.updateState .chunkParameters).consume ch rest
        else execution.fail .invalidChunkSize (ch :: rest)
    | some digit =>
        if (ullongMax - 16) / 16 < execution.parser.contentLength then
          execution.fail .invalidContentLength (ch :: rest)
        else
          (execution.update fun parser =>
            { parser with contentLength := parser.contentLength * 16 + digit }).consume ch rest

def chunkSizeAlmostDone (ch : UInt8) (rest : Bytes) (execution : Execution) : Progress :=
  if ch ≠ 10 then execution.fail .strict (ch :: rest)
  else
    let execution := execution.update fun parser =>
      if parser.contentLength = 0 then
        { parser with nread := 0, flags := { parser.flags with trailing := true }, state := .headerFieldStart }
      else { parser with nread := 0, state := .chunkData }
    (execution.notify (.chunkHeader execution.parser.contentLength)).consume ch rest

def dispatch (ch : UInt8) (rest : Bytes) (execution : Execution) : Progress :=
  match execution.parser.state with
  | .dead =>
      if ch = 13 ∨ ch = 10 then execution.consume ch rest
      else execution.fail .closedConnection (ch :: rest)
  | .startRes => execution.startRes ch rest
  | .resH => execution.expect 84 .resHT ch rest
  | .resHT => execution.expect 84 .resHTT ch rest
  | .resHTT => execution.expect 80 .resHTTP ch rest
  | .resHTTP => execution.expect 47 .resFirstHttpMajor ch rest
  | .resFirstHttpMajor =>
      if !isNum ch then execution.fail .invalidVersion (ch :: rest)
      else
        (execution.update fun parser =>
          { parser with httpMajor := ch.toNat - 48, state := .resHttpMajor }).consume ch rest
  | .resHttpMajor =>
      if ch = 46 then (execution.updateState .resFirstHttpMinor).consume ch rest
      else execution.versionDigit ch (·.httpMajor) (fun number parser => { parser with httpMajor := number }) rest
  | .resFirstHttpMinor =>
      if !isNum ch then execution.fail .invalidVersion (ch :: rest)
      else
        (execution.update fun parser =>
          { parser with httpMinor := ch.toNat - 48, state := .resHttpMinor }).consume ch rest
  | .resHttpMinor =>
      if ch = 32 then (execution.updateState .resFirstStatusCode).consume ch rest
      else execution.versionDigit ch (·.httpMinor) (fun number parser => { parser with httpMinor := number }) rest
  | .resFirstStatusCode =>
      if !isNum ch then
        if ch = 32 then execution.consume ch rest else execution.fail .invalidStatus (ch :: rest)
      else
        (execution.update fun parser =>
          { parser with statusCode := ch.toNat - 48, state := .resStatusCode }).consume ch rest
  | .resStatusCode => execution.resStatusCode ch rest
  | .resStatusStart =>
      if ch = 13 then (execution.updateState .resLineAlmostDone).consume ch rest
      else if ch = 10 then (execution.updateState .headerFieldStart).consume ch rest
      else
        ((execution.setMark .status).update fun parser =>
          { parser with state := .resStatus, index := 0 }).consume ch rest
  | .resStatus =>
      if ch = 13 then (execution.updateState .resLineAlmostDone).callbackData.consume ch rest
      else if ch = 10 then (execution.updateState .headerFieldStart).callbackData.consume ch rest
      else execution.consume ch rest
  | .resLineAlmostDone => execution.expect 10 .headerFieldStart ch rest
  | .headerFieldStart => execution.headerFieldStart ch rest
  | .headerField => execution.headerField ch rest
  | .headerValueDiscardWs => execution.headerValueDiscardWs ch rest
  | .headerValueDiscardWsAlmostDone => execution.expect 10 .headerValueDiscardLws ch rest
  | .headerValueDiscardLws => execution.headerValueDiscardLws ch rest
  | .headerValueStart => execution.headerValueStart ch rest
  | .headerValue => execution.headerValue ch rest
  | .headerValueLws => execution.headerValueLws ch rest
  | .headerAlmostDone => execution.headerAlmostDone ch rest
  | .headersAlmostDone => execution.headersAlmostDone ch rest
  | .headersDone => execution.headersDone ch rest
  | .bodyIdentity => execution.bodyIdentity ch rest
  | .bodyIdentityEof => .next ((execution.setMark .body).advance (ch :: rest)) []
  | .messageDone => execution.messageDone ch rest
  | .chunkSizeStart =>
      match unhex ch with
      | none => execution.fail .invalidChunkSize (ch :: rest)
      | some digit =>
          (execution.update fun parser =>
            { parser with contentLength := digit, state := .chunkSize }).consume ch rest
  | .chunkSize => execution.chunkSize ch rest
  | .chunkParameters =>
      if ch = 13 then (execution.updateState .chunkSizeAlmostDone).consume ch rest
      else execution.consume ch rest
  | .chunkSizeAlmostDone => execution.chunkSizeAlmostDone ch rest
  | .chunkData => execution.chunkData ch rest
  | .chunkDataAlmostDone =>
      if ch ≠ 13 then execution.fail .strict (ch :: rest)
      else (execution.updateState .chunkDataDone).callbackData.consume ch rest
  | .chunkDataDone =>
      if ch ≠ 10 then execution.fail .strict (ch :: rest)
      else
        ((execution.update fun parser => { parser with nread := 0, state := .chunkSizeStart }).notify
          .chunkComplete).consume ch rest

def step (ch : UInt8) (rest : Bytes) (execution : Execution) : Progress :=
  if execution.parser.state.parsingHeader then
    execution.countHeaderSize 1 (ch :: rest) fun execution => execution.dispatch ch rest
  else execution.dispatch ch rest

def loop : Nat → Bytes → Execution → Execution × Bytes
  | _, [], execution => (execution.callbackData, [])
  | 0, rest, execution => (execution, rest)
  | turns + 1, ch :: rest, execution =>
      match execution.step ch rest with
      | .next execution rest => loop turns rest execution
      | .exit execution rest => (execution, rest)

end Execution

namespace Parser

def firstMark (parser : Parser) : Option (Mark × Bytes) :=
  match parser.state with
  | .headerField => some (.headerField, [])
  | .headerValue => some (.headerValue, [])
  | .resStatus => some (.status, [])
  | _ => none

def execute (parser : Parser) (data : Bytes) : Parser × List ParserEvent × Nat :=
  if parser.errno ≠ .ok then (parser, [], 0)
  else if data = [] then
    match parser.state with
    | .bodyIdentityEof => (parser, [.messageComplete], 0)
    | .dead | .startRes => (parser, [], 0)
    | _ => ({ parser with errno := .invalidEofState }, [], 1)
  else
    let (execution, rest) := Execution.loop data.length data { parser := parser, mark := parser.firstMark }
    (execution.parser, execution.events, data.length - rest.length)

def fedWith (fed : List Bytes) : Parser := fed.foldl (fun parser data => (parser.execute data).1) {}

/-- What `OnParseError` sets: a code that is 0 is no error for `HasErrors`. -/
def parseError (parser : Parser) (pos len : Nat) : Option Bytes :=
  if parser.errno = .ok then none
  else some (bytes ("http_parser_execute() failed (code=" ++ parser.errno.name ++ ", pos=" ++ toString pos ++
    ", len=" ++ toString len ++ "): " ++ parser.errno.description))

end Parser

def httpParser : HttpParser where
  parseUrl := urlSet
  execute fed data :=
    let (parser, events, parsed) := (Parser.fedWith fed).execute data
    (events, if parsed = data.length then none else parser.parseError parsed data.length)

def linked (platform : Platform) : Platform := { platform with http := httpParser }

end IotClient.Net
