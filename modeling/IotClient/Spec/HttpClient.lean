import IotClient.Logic.Program
import IotClient.Model.HttpClient
import IotClient.Spec.Net

namespace IotClient.Net

/-! ## Calls -/

inductive NetworkCall where
  | setX509CaChain
  | connectTo (url : Url) (attempt : Attempt)
  | close
  | read (len : Nat) (timeoutMillisec : Int) (reading : Reading)
  | write (data : Bytes) (timeoutMillisec : Int) (writing : Writing)
  deriving DecidableEq, Repr

namespace NetworkImpl

def new : NetworkImpl := ⟨⟨.new⟩, .new, none, none⟩

def setX509CaChain (network : NetworkImpl) : NetworkImpl :=
  { network with tls := { network.tls with caChain := true } }

def perform (strerror : Int → Bytes) (network : NetworkImpl) : NetworkCall → NetworkImpl
  | .setX509CaChain => network.setX509CaChain
  | .connectTo url attempt => (network.connectTo strerror url attempt).2
  | .close => network.close
  | .read len timeoutMillisec reading => (network.read strerror len timeoutMillisec reading).2
  | .write data timeoutMillisec writing => (network.write strerror data timeoutMillisec writing).2

def run (strerror : Int → Bytes) (calls : List NetworkCall) (network : NetworkImpl) : NetworkImpl :=
  calls.foldl (perform strerror) network

def Consistent (network : NetworkImpl) : Prop :=
  match network.connection with
  | none => network.tcp.connected = false ∧ network.tls.connected = false
  | some .tcp => network.tcp.connected = true ∧ network.tls.connected = false
  | some .tls => network.tcp.connected = false ∧ network.tls.connected = true

def Closed (network : NetworkImpl) : Prop :=
  network.connection = none ∧ network.tcp.connected = false ∧ network.tls.connected = false

def connectionOf (network : NetworkImpl) : Transport → Connection
  | .tcp => network.tcp.toConnection
  | .tls => network.tls.toConnection

def IsOpen (network : NetworkImpl) : Prop :=
  ∃ transport, network.connection = some transport ∧ (network.connectionOf transport).connected = true

end NetworkImpl

inductive HttpCall where
  | setTimeout (timeoutMillisec : Int)
  | setX509CaChain
  | execute (request : Request) (peer : Peer)

namespace HttpClient

def new : HttpClient := ⟨.new, 0, .reset, none⟩

variable (platform : Platform) (strerror : Int → Bytes)

def perform (client : HttpClient) : HttpCall → HttpClient
  | .setTimeout timeoutMillisec => { client with timeout := timeoutMillisec }
  | .setX509CaChain => { client with network := client.network.setX509CaChain }
  | .execute request peer => (Logic.last (execute platform strerror request ⟨client, peer⟩)).client

def run (calls : List HttpCall) (client : HttpClient) : HttpClient :=
  calls.foldl (perform platform strerror) client

end HttpClient

/-! ## Where requests go -/

def Op.isWrite : Op → Bool
  | .sslWrite _ _ => true
  | .netSend _ _ => true
  | _ => false

def dialled (url : Url) : List Op → Bool
  | [] => false
  | .netConnect host port ret :: _ => host == cString url.host && port == cString url.port && ret == 0
  | .netFree :: _ => false
  | _ :: older => dialled url older

def secured (url : Url) : List Op → Bool
  | [] => false
  | .sslHandshake ret :: older => ret == 0 && dialled url older
  | .netFree :: _ => false
  | _ :: older => secured url older

def openFor : Option Url → Transport → List Op → Bool
  | none, _, _ => false
  | some url, .tcp, ops => url.scheme == .http && dialled url ops
  | some url, .tls, ops => url.scheme == .https && secured url ops

def WritesInto (isOpen : List Op → Bool) : List Op → Prop
  | [] => True
  | op :: older => (op.isWrite → isOpen older) ∧ WritesInto isOpen older

def WritesOnly (url : Option Url) (before after : NetworkImpl) : Prop :=
  ∀ transport, ∃ ops, (after.connectionOf transport).trace = ops ++ (before.connectionOf transport).trace ∧
    WritesInto (openFor url transport) ops

def Consistently (strerror : Int → Bytes) (before after : NetworkImpl) : Prop :=
  ∃ calls, after = before.run strerror calls ∧
    ∀ earlier, earlier <+: calls → (before.run strerror earlier).Consistent

namespace HttpClient

def Turned (request : Request) : Prop := request.url = none ∨ methodToString request.method = ""

/-- The call of `Execute` writes only to connections that it opens for its URL, and keeps the network consistent; when
it returns, the network is closed. -/
def Confines (platform : Platform) (strerror : Int → Bytes) (client : HttpClient) (request : Request) (peer : Peer) :
    Prop :=
  let result := execute platform strerror request ⟨client, peer⟩
  let network := (Logic.last result).client.network
  WritesOnly request.url client.network network ∧ Consistently strerror client.network network ∧
    ∀ after, result = .ok () after → after.client.network.Closed

end HttpClient

/-! ## What goes over the connection of a request -/

def Writing.result (data : Bytes) (writing : Writing) : Int :=
  if data = [] then 0
  else match writing with
    | .failed code _ => code
    | .wrote more => (min (more + 1) data.length : Nat)

def accepted : List Writing → Bytes → Option (List Writing)
  | writings, [] => some writings
  | [], _ :: _ => none
  | writing :: rest, first :: more =>
      let res := writing.result (HttpClient.portion (first :: more))
      if res ≤ 0 then none else accepted rest ((first :: more).drop res.toNat)

def acceptedAll : List Writing → List Bytes → Bool
  | _, [] => true
  | writings, piece :: rest =>
      match accepted writings piece with
      | none => false
      | some writings => acceptedAll writings rest

def requestPieces (method : Method) (url : Url) (headers : StringMap) (data : Bytes) : List Bytes :=
  HttpClient.requestLine (methodToString method) url ::
    ((HttpClient.requestHeaders method url headers data).entries.map fun header =>
      HttpClient.headerLine header.1 header.2) ++
    bytes "\r\n" :: if method.sendsBody then [data] else []

def received (platform : Platform) : List Reading → ResponseParser → Except Fault ResponseParser
  | [], parser => if HttpClient.complete parser then .ok parser else parser.feed platform []
  | reading :: rest, parser =>
      if HttpClient.complete parser then .ok parser
      else
        let (len, data) := reading.taken (10 * 1024)
        if len ≤ 0 then parser.feed platform []
        else (parser.feed platform data).bind (received platform rest)

/-! ## What is reported -/

namespace HttpClient

def failureText (strerror : Int → Bytes) (failure : String × Int) : Bytes :=
  Status.text ⟨.ofInt failure.2, strerror failure.2, bytes failure.1, []⟩

/-- What keeps the call from getting a connection: the status that holds the errors of the kind, and the message. -/
def hindrance (strerror : Int → Bytes) (client : HttpClient) (request : Request) (peer : Peer) :
    Option (IotClient.Status × Bytes) :=
  match request.url with
  | none => some (client.error, Http.invalidUrl request.originalUrl)
  | some url =>
      if methodToString request.method = "" then some (client.error, invalidMethod request.method)
      else match url.scheme with
        | .http =>
            if peer.attempt.connect = 0 then none
            else some (client.network.tcp.lastError.shown,
              failureText strerror ("mbedtls_net_connect", peer.attempt.connect))
        | .https =>
            (peer.attempt.failure client.network.tls.rngSeeded client.network.tls.caChain).map fun failure =>
              (client.network.tls.lastError.shown, failureText strerror failure)
        | .other _ => some (client.network.error, Http.unsupportedProtocol url)

def Describes (platform : Platform) (request : Request) (peer : Peer) (after : HttpClient) : Prop :=
  match after.response.executeStatus with
  | .parseError => ∃ parser, received platform peer.readings {} = .ok parser ∧ parser.error.isSome ∧
      after.error = parser.error
  | _ => ∃ url transport, request.url = some url ∧ Http.transportOf url.scheme = some transport ∧
      (after.network.connectionOf transport).lastError.isOK = false ∧
      after.error = (after.network.connectionOf transport).lastError.shown

def Attributes (platform : Platform) (strerror : Int → Bytes) (client : HttpClient) (request : Request) (peer : Peer) :
    Prop :=
  ∀ after, execute platform strerror request ⟨client, peer⟩ = .ok () after →
    after.client.response.executeStatus ≠ .success →
      match hindrance strerror client request peer with
      | some (_, message) => after.client.error = some message
      | none => Describes platform request peer after.client

/-- No other error is held where that of the call belongs, and nothing fails that is not reported. -/
def Attributable (strerror : Int → Bytes) (client : HttpClient) (request : Request) (peer : Peer) : Prop :=
  match hindrance strerror client request peer with
  | some (held, message) => held = none ∨ held = some message
  | none => ∀ url, request.url = some url →
      acceptedAll peer.writings (requestPieces request.method url request.headers request.data) = true

end HttpClient

end IotClient.Net
