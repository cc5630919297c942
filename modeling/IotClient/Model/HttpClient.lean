import IotClient.Logic.SortedMap
import IotClient.Model.Http
import IotClient.Model.Net
import IotClient.Model.Url

namespace IotClient.Net

def Status.shown (status : Status) : IotClient.Status :=
  if status.isOK then none else some status.text

structure Peer where
  attempt : Attempt
  writings : List Writing
  readings : List Reading
  deriving DecidableEq, Repr

/-! ## `NetworkImpl` -/

structure NetworkImpl where
  tcp : TcpConnection
  tls : TlsConnection
  connection : Option Transport
  error : IotClient.Status
  deriving DecidableEq, Repr

namespace NetworkImpl

variable (strerror : Int → Bytes)

def close (network : NetworkImpl) : NetworkImpl :=
  match network.connection with
  | none => network
  | some .tcp => { network with tcp := network.tcp.close, connection := none }
  | some .tls => { network with tls := network.tls.close, connection := none }

/-- `ConnectTo` leaves its timeout unused. -/
def connectTo (url : Url) (attempt : Attempt) (network : NetworkImpl) : Bool × NetworkImpl :=
  let network := network.close
  let addr : Addr := ⟨url.host, url.port⟩
  match url.scheme with
  | .http =>
      let (ret, tcp) := TcpConnection.connect strerror attempt.connect ⟨{ network.tcp.toConnection with addr := addr }⟩
      if ret ≠ 0 then (false, { network with tcp := tcp, connection := none, error := tcp.lastError.shown })
      else (true, { network with tcp := tcp, connection := some .tcp, error := none })
  | .https =>
      let (ret, tls) := TlsConnection.connect strerror attempt
        { network.tls with toConnection := { network.tls.toConnection with addr := addr } }
      if ret ≠ 0 then (false, { network with tls := tls, connection := none, error := tls.lastError.shown })
      else (true, { network with tls := tls, connection := some .tls, error := none })
  | .other _ => (false, { network with error := network.error.set (Http.unsupportedProtocol url) })

def readDisconnected : Bytes :=
  bytes "NetworkImpl::Read() failed (code=-1): Network disconnected"

def writeDisconnected : Bytes :=
  bytes "NetworkImpl::Write() failed (code=-1): Network disconnected"

def stillConnected (transport : Transport) (connection : Connection) : Option Transport :=
  if connection.connected then some transport else none

def read (len : Nat) (timeoutMillisec : Int) (reading : Reading) (network : NetworkImpl) :
    (Int × Bytes) × NetworkImpl :=
  match network.connection with
  | none => ((-1, []), { network with error := network.error.set readDisconnected })
  | some .tcp =>
      let (result, tcp) := network.tcp.read strerror len timeoutMillisec reading
      (result, { network with tcp := tcp, connection := stillConnected .tcp tcp.toConnection })
  | some .tls =>
      let (result, tls) := network.tls.read strerror len reading
      (result, { network with tls := tls, connection := stillConnected .tls tls.toConnection })

def write (data : Bytes) (timeoutMillisec : Int) (writing : Writing) (network : NetworkImpl) : Int × NetworkImpl :=
  match network.connection with
  | none => (-1, { network with error := network.error.set writeDisconnected })
  | some .tcp =>
      let (result, tcp) := network.tcp.write strerror data timeoutMillisec writing
      (result, { network with tcp := tcp, connection := stillConnected .tcp tcp.toConnection })
  | some .tls =>
      let (result, tls) := network.tls.write strerror data timeoutMillisec writing
      (result, { network with tls := tls, connection := stillConnected .tls tls.toConnection })

end NetworkImpl

/-! ## Requests and responses -/

inductive Method where
  | unknown (value : Int)
  | get
  | put
  | post
  | del
  | head
  deriving DecidableEq, Repr

def methodToString : Method → String
  | .get => "GET"
  | .put => "PUT"
  | .post => "POST"
  | .del => "DELETE"
  | .head => "HEAD"
  | .unknown _ => ""

def Method.value : Method → Int
  | .unknown value => value
  | .get => 0
  | .put => 1
  | .post => 2
  | .del => 3
  | .head => 4

def Method.sendsBody (method : Method) : Bool := method = .post || method = .put

inductive ExecuteStatus where
  | invalid
  | success
  | invalidUrl
  | invalidMethod
  | networkError
  | parseError
  deriving DecidableEq, Repr

abbrev StringMap := Logic.SortedMap Bytes Bytes

structure Request where
  method : Method
  originalUrl : Bytes
  url : Option Url
  headers : StringMap
  data : Bytes

structure Response where
  executeStatus : ExecuteStatus
  httpStatus : Int
  headers : List (Bytes × Bytes)
  data : Bytes
  deriving DecidableEq, Repr

def Response.reset : Response := ⟨.invalid, -1, [], []⟩

/-! ## `http::Client` -/

structure HttpClient where
  network : NetworkImpl
  timeout : Int
  response : Response
  error : IotClient.Status
  deriving DecidableEq, Repr

structure HttpWorld where
  client : HttpClient
  peer : Peer
  deriving DecidableEq, Repr

abbrev HttpM := EStateM Fault HttpWorld

namespace HttpClient

def updateNetwork (change : NetworkImpl → NetworkImpl) : HttpM Unit :=
  modify fun world => { world with client := { world.client with network := change world.client.network } }

def updateResponse (change : Response → Response) : HttpM Unit :=
  modify fun world => { world with client := { world.client with response := change world.client.response } }

def setError (change : IotClient.Status → IotClient.Status) : HttpM Unit :=
  modify fun world => { world with client := { world.client with error := change world.client.error } }

def networkFailed (client : HttpClient) : HttpClient :=
  { client with
    error := client.network.error
    response := { client.response with executeStatus := .networkError } }

variable (platform : Platform) (strerror : Int → Bytes)

def intOfSize (size : Nat) : Int :=
  let low : Nat := size % 2 ^ 32
  if low < 2 ^ 31 then low else (low : Int) - 2 ^ 32

/-- The bytes that one call of `Network::Write` is given; a length that is not positive gives none. -/
def portion (data : Bytes) : Bytes := data.take (intOfSize data.length).toNat

def writeLoop : List Writing → Bytes → HttpClient → (Bool × List Writing) × HttpClient
  | writings, [], client => ((true, writings), client)
  | [], first :: more, client =>
      let (_, network) := client.network.write strerror (portion (first :: more)) client.timeout
        (.failed timeoutCode (by decide))
      ((false, []), networkFailed { client with network := network })
  | writing :: rest, first :: more, client =>
      let (res, network) := client.network.write strerror (portion (first :: more)) client.timeout writing
      let client := { client with network := network }
      if res ≤ 0 then ((false, rest), networkFailed client)
      else writeLoop rest ((first :: more).drop res.toNat) client

def write (data : Bytes) : HttpM Bool :=
  modifyGet fun world =>
    let ((written, writings), client) := writeLoop strerror world.peer.writings data world.client
    (written, { world with client := client, peer := { world.peer with writings := writings } })

/-- The headers that `SendRequest` sends: `insert` does not replace those that are there. -/
def requestHeaders (method : Method) (url : Url) (headers : StringMap) (data : Bytes) : StringMap :=
  let own := Logic.SortedMap.empty.set (bytes "Host") url.host
  let own := if method.sendsBody then own.set (bytes "Content-Length") (bytes (toString data.length)) else own
  let own := own.set (bytes "Connection") (bytes "close")
  own.insertAll headers.entries

def requestLine (method : String) (url : Url) : Bytes :=
  let path := if url.path = [] then bytes "/" else url.path
  bytes method ++ bytes " " ++ path ++ bytes " HTTP/1.1\r\n"

def headerLine (name value : Bytes) : Bytes :=
  name ++ bytes ": " ++ value ++ bytes "\r\n"

def writeAll : List Bytes → HttpM Bool
  | [] => pure true
  | data :: rest => do
      if ← write strerror data then writeAll rest
      else return false

def sendRequest (method : Method) (url : Url) (headers : StringMap) (data : Bytes) : HttpM Bool := do
  if !(← write strerror (requestLine (methodToString method) url)) then return false
  else if !(← writeAll strerror ((requestHeaders method url headers data).entries.map
      fun header => headerLine header.1 header.2)) then return false
  else if !(← write strerror (bytes "\r\n")) then return false
  else if method.sendsBody then write strerror data
  else return true

/-! ## `ReadResponse` and `Execute` -/

def complete (parser : ResponseParser) : Bool := parser.isComplete || parser.error.isSome

/-- The loop of `ReadResponse`, with its buffer of 10 KiB; when no result is left, reads time out. Whatever is not
data is taken for the end of the stream. -/
def readLoop : List Reading → ResponseParser → HttpClient →
    EStateM.Result Fault (List Reading × HttpClient) ResponseParser
  | [], parser, client =>
      if complete parser then .ok parser ([], client)
      else
        let (_, network) := client.network.read strerror (10 * 1024) client.timeout (.failed timeoutCode (by decide))
        let client := { client with network := network }
        match parser.feed platform [] with
        | .error fault => .error fault ([], client)
        | .ok parser => .ok parser ([], client)
  | reading :: rest, parser, client =>
      if complete parser then .ok parser (reading :: rest, client)
      else
        let ((len, data), network) := client.network.read strerror (10 * 1024) client.timeout reading
        let client := { client with network := network }
        if len ≤ 0 then
          match parser.feed platform [] with
          | .error fault => .error fault (rest, client)
          | .ok parser => .ok parser (rest, client)
        else
          match parser.feed platform data with
          | .error fault => .error fault (rest, client)
          | .ok parser => readLoop rest parser client

def readResponse : HttpM Bool := fun world =>
  let fill (parser : ResponseParser) (client : HttpClient) : HttpClient :=
    { client with response := { client.response with
        httpStatus := parser.httpStatus, headers := parser.headers, data := parser.data } }
  match readLoop platform strerror world.peer.readings {} world.client with
  | .error fault (readings, client) =>
      .error fault { world with client := client, peer := { world.peer with readings := readings } }
  | .ok parser (readings, client) =>
      let client := fill parser client
      let world := { world with peer := { world.peer with readings := readings } }
      if parser.error.isSome then
        .ok false { world with client := { client with
          error := parser.error, response := { client.response with executeStatus := .parseError } } }
      else .ok true { world with client := client }

def connectTo (url : Url) : HttpM Bool :=
  modifyGet fun world =>
    let (made, network) := world.client.network.connectTo strerror url world.peer.attempt
    (made, { world with client := { world.client with network := network } })

def invalidMethod (method : Method) : Bytes :=
  bytes ("http::Client::Execute() failed (code=INVALID_METHOD): Invalid HTTP method: " ++ toString method.value)

def exchange (request : Request) (url : Url) : HttpM Unit := do
  if !(← sendRequest strerror request.method url request.headers request.data) then
    updateNetwork NetworkImpl.close
  else if !(← readResponse platform strerror) then
    updateNetwork NetworkImpl.close
  else do
    updateNetwork NetworkImpl.close
    updateResponse fun response => { response with executeStatus := .success }

def execute (request : Request) : HttpM Unit := do
  updateResponse fun _ => .reset
  match request.url with
  | none => do
      setError fun error => error.set (Http.invalidUrl request.originalUrl)
      updateResponse fun response => { response with executeStatus := .invalidUrl }
  | some url =>
      if methodToString request.method = "" then do
        setError fun error => error.set (invalidMethod request.method)
        updateResponse fun response => { response with executeStatus := .invalidMethod }
      else if !(← connectTo strerror url) then
        modify fun world => { world with client := networkFailed world.client }
      else exchange platform strerror request url

end HttpClient

end IotClient.Net
