import IotClient.Model.Machine

namespace IotClient

/-! ## `ResponseParser` -/

inductive HeaderState where
  | initial
  | lastWasField
  | lastWasValue
  deriving DecidableEq, Repr

/-- The parser with the `Response` it fills; `NON_HTTP_ERROR` is -1. -/
structure ResponseParser where
  httpStatus : Int := -1
  data : Bytes := []
  headers : List (Bytes × Bytes) := []
  headerState : HeaderState := .initial
  name : Bytes := []
  value : Bytes := []
  messageStarted : Bool := false
  isComplete : Bool := false
  error : Status := none
  fed : List Bytes := []
  deriving DecidableEq, Repr

namespace ResponseParser

def addHeader (name value : Bytes) : List (Bytes × Bytes) → List (Bytes × Bytes)
  | [] => [(name, value)]
  | (other, old) :: rest =>
      if other = name then (other, old ++ bytes ", " ++ value) :: rest
      else (other, old) :: addHeader name value rest

/-- `ReserveData`: `std::string::reserve` throws when it is asked for more than `max_size`. The sum is
one of `size_t`. -/
def reserveData (maxStringSize contentLength : Nat) (parser : ResponseParser) :
    Except Fault ResponseParser :=
  if contentLength > 0 ∧ contentLength ≠ 2 ^ 64 - 1 ∧
      (parser.data.length + contentLength) % 2 ^ 64 > maxStringSize then .error .lengthError
  else .ok parser

def missingField (text : Bytes) : Bytes :=
  bytes "OnHeaderValue() failed (code=-1, " ++ text ++ bytes "): Missing OnHeaderField() call"

def missingValue : Bytes :=
  bytes "OnHeadersComplete() failed (code=-1): Missing OnHeaderValue() call"

/-- One callback. When it sets an error, it returns -1 and the parser stops. -/
def handle (maxStringSize : Nat) (parser : ResponseParser) : ParserEvent → Except Fault ResponseParser
  | .messageBegin => .ok { parser with messageStarted := true }
  | .status code => .ok { parser with httpStatus := code }
  | .headerField text =>
      match parser.headerState with
      | .lastWasField => .ok { parser with name := parser.name ++ text }
      | .lastWasValue =>
          .ok { parser with
            headers := addHeader parser.name parser.value parser.headers
            name := text
            headerState := .lastWasField }
      | .initial => .ok { parser with name := text, headerState := .lastWasField }
  | .headerValue text =>
      match parser.headerState with
      | .lastWasField => .ok { parser with value := text, headerState := .lastWasValue }
      | .lastWasValue => .ok { parser with value := parser.value ++ text }
      | .initial => .ok { parser with error := parser.error.set (missingField text) }
  | .headersComplete contentLength =>
      match parser.headerState with
      | .initial => reserveData maxStringSize contentLength parser
      | .lastWasValue =>
          reserveData maxStringSize contentLength { parser with
            headers := addHeader parser.name parser.value parser.headers
            headerState := .initial }
      | .lastWasField => .ok { parser with error := parser.error.set missingValue }
  | .body text => .ok { parser with data := parser.data ++ text }
  | .messageComplete => .ok { parser with isComplete := true }
  | .chunkHeader contentLength => reserveData maxStringSize contentLength parser
  | .chunkComplete => .ok parser

def handleAll (maxStringSize : Nat) : ResponseParser → List ParserEvent → Except Fault ResponseParser
  | parser, [] => .ok parser
  | parser, event :: rest => do
      let parser ← handle maxStringSize parser event
      if parser.error.isSome then return parser else handleAll maxStringSize parser rest

def emptyResponse : Bytes :=
  bytes "ResponseParser::Feed() failed (code=-1): Empty response received"

def feed (platform : Platform) (parser : ResponseParser) (data : Bytes) : Except Fault ResponseParser :=
  if parser.error.isSome then .ok parser
  else if data = [] ∧ !parser.messageStarted then
    .ok { parser with error := parser.error.set emptyResponse }
  else do
    let (events, error) := platform.http.execute parser.fed data
    let parser ← handleAll platform.maxStringSize { parser with fed := parser.fed ++ [data] } events
    match error with
    | some text => return { parser with error := parser.error.set text }
    | none => return parser

end ResponseParser

/-! ## `http::Client` -/

def Method.name : Method → String
  | .get => "GET"
  | .post => "POST"

def Url.text (url : Url) : Bytes :=
  (match url.scheme with
    | .http => bytes "http"
    | .https => bytes "https"
    | .other name => name) ++ bytes "://" ++ url.host ++ bytes ":" ++ url.port ++ url.path

namespace Http

def update (change : Http → Http) : M Unit :=
  modify fun m => { m with http := change m.http }

def connectionOf (http : Http) : Transport → Connection
  | .tcp => http.tcp
  | .tls => http.tls

def setConnection (http : Http) : Transport → Connection → Http
  | .tcp, connection => { http with tcp := connection }
  | .tls, connection => { http with tls := connection }

def close : M Unit :=
  update fun http =>
    match http.connection with
    | none => http
    | some transport =>
        { http.setConnection transport { http.connectionOf transport with connected := false } with
          connection := none }

def transportOf : Scheme → Option Transport
  | .http => some .tcp
  | .https => some .tls
  | .other _ => none

def unsupportedProtocol (url : Url) : Bytes :=
  bytes "NetworkImpl::ConnectTo() failed (code=-1): Unsupported protocol for URL: " ++ url.text

def connectTo (url : Url) : M (Option Exchange) := do
  close
  match transportOf url.scheme with
  | none => do
      update fun http => { http with networkError := http.networkError.set (unsupportedProtocol url) }
      return none
  | some transport => do
      let exchange ← nextExchange
      match exchange.connect with
      | some error => do
          update fun http =>
            let connection := ({ http.connectionOf transport with host := url.host, port := url.port }).fail error
            { http.setConnection transport connection with
              networkError := connection.lastError, connection := none }
          return none
      | none => do
          update fun http =>
            { http.setConnection transport ⟨url.host, url.port, true, none⟩ with
              networkError := none, connection := some transport }
          return some exchange

def drop (error : Status) : M Unit :=
  update fun http =>
    match http.connection, error with
    | some transport, some text =>
        { http.setConnection transport { (http.connectionOf transport).fail text with connected := false } with
          connection := none }
    | _, _ => http

def readResponse (platform : Platform) (stop : Status) : ResponseParser → List Bytes → M ResponseParser
  | parser, [] =>
      if parser.isComplete || parser.error.isSome then return parser
      else do
        drop stop
        M.ofExcept (parser.feed platform [])
  | parser, data :: rest =>
      if parser.isComplete || parser.error.isSome then return parser
      else do readResponse platform stop (← M.ofExcept (parser.feed platform data)) rest

def invalidUrl (url : Bytes) : Bytes :=
  bytes "http::Client::Execute() failed (code=INVALID_URL): Invalid url: " ++ url

def execute (platform : Platform) (method : Method) (url data : Bytes) : M (Option ResponseParser) := do
  match platform.http.parseUrl url with
  | none => do
      update fun http => { http with error := http.error.set (invalidUrl url) }
      return none
  | some target => do
      match ← connectTo target with
      | none => do
          update fun http => { http with error := http.networkError }
          return none
      | some exchange => do
          emit (.requested method target data)
          if exchange.write.isSome then do
            drop exchange.write.join
            update fun http => { http with error := http.networkError }
            close
            return none
          else do
            let parser ← readResponse platform exchange.stop {} exchange.reads
            if parser.error.isSome then do
              update fun http => { http with error := parser.error }
              close
              return none
            else do
              close
              return some parser

def requestFailed (url : Bytes) (error : Status) : Fault :=
  .iot (bytes "Request to " ++ url ++ bytes " failed: " ++ error.text)

def httpError (method : Method) (url : Bytes) (httpStatus : Int) : Fault :=
  .iot (bytes (method.name ++ " request to ") ++ url ++
    bytes (" returned http status code " ++ toString httpStatus))

/-- `JsonHttpClient::MakeRequest`. What is parsed is converted to an object without a check: anything
else becomes an empty one. -/
def makeRequest (platform : Platform) (method : Method) (url data : Bytes) : M Json := do
  match ← execute platform method url data with
  | none => throw (requestFailed url (← get).http.error)
  | some response =>
      if response.httpStatus ≠ 200 then throw (httpError method url response.httpStatus)
      else if response.data = [] then return .object []
      else do
        match ← M.ofExcept (jsonParse platform.sign response.data) with
        | .object members => return .object members
        | _ => return .object []

end Http

end IotClient
