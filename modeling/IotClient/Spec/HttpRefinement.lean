import IotClient.Logic.Simulation
import IotClient.Spec.HttpClient

namespace IotClient.Net

open Logic

/-! ## What the session sees of the HTTP client -/

def Connection.shown (connection : Connection) : IotClient.Connection where
  host := connection.addr.host
  port := connection.addr.port
  connected := connection.connected
  lastError := connection.lastError.shown

def HttpClient.shown (client : HttpClient) : Http where
  error := client.error
  networkError := client.network.error
  tcp := client.network.tcp.shown
  tls := client.network.tls.shown
  connection := client.network.connection

def Response.shown (response : Response) : Option (Int × List (Bytes × Bytes) × Bytes) :=
  if response.executeStatus = .success then some (response.httpStatus, response.headers, response.data) else none

def methodOf : IotClient.Method → Method
  | .get => .get
  | .post => .post

def requestOf (platform : Platform) (method : IotClient.Method) (url : Bytes) (headers : StringMap) (data : Bytes) :
    Request where
  method := methodOf method
  originalUrl := url
  url := platform.http.parseUrl url
  headers := headers
  data := data

def Shows (world : HttpWorld) (m : Machine) : Prop := m.http = world.client.shown

def Executed (world : HttpWorld) (parser : Option ResponseParser) (m : Machine) : Prop :=
  Shows world m ∧ world.client.response.shown =
    parser.map fun parser => (parser.httpStatus, parser.headers, parser.data)

/-- With one and the same exchange for what mbedtls answers, `Execute` of the session goes the same way: it leaves the
same errors and connections and gives the same response, or ends with the same exception. -/
def HttpClient.Refines (platform : Platform) (strerror : Int → Bytes) (client : HttpClient) (peer : Peer)
    (method : IotClient.Method) (url : Bytes) (headers : StringMap) (data : Bytes) : Prop :=
  ∃ exchange : Exchange, ∀ (m : Machine) (later : List Exchange), m.http = client.shown →
    m.replies.exchanges = exchange :: later →
    Agree (fun _ => Executed) Shows
      (HttpClient.execute platform strerror (requestOf platform method url headers data) ⟨client, peer⟩)
      (Http.execute platform method url data m)

end IotClient.Net
