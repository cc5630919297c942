import IotClient.Model.Bytes

namespace IotClient.Net

/-! ## `net::Status` and `net::Addr` -/

structure Code where
  value : Int
  name : Bytes
  deriving DecidableEq, Repr

def Code.ofInt (value : Int) : Code := ⟨value, bytes (toString value)⟩

structure Status where
  code : Code
  error : Bytes
  failedFunc : Bytes
  context : Bytes
  deriving DecidableEq, Repr

namespace Status

def ok : Status := ⟨⟨0, bytes "OK"⟩, [], [], []⟩

def isOK (status : Status) : Bool :=
  status.code.value = 0 && status.failedFunc = [] && status.error = []

def set (status : Status) (code : Code) (error : Bytes) (func : String) (context : Bytes) : Status :=
  if !status.isOK then status else ⟨code, error, bytes func, context⟩

def text (status : Status) : Bytes :=
  if status.isOK then bytes "OK"
  else
    let context := if status.context = [] then bytes "code=" ++ status.code.name
      else bytes "code=" ++ status.code.name ++ bytes ", " ++ status.context
    status.failedFunc ++ bytes "() failed (" ++ context ++ bytes "): " ++ status.error

end Status

structure Addr where
  host : Bytes
  port : Bytes
  deriving DecidableEq, Repr

/-! ## What mbedtls answers -/

def timeoutCode : Int := -0x6800

/-- The result of one read: bytes, of which no more are taken than were asked for, or a code. -/
inductive Reading where
  | data (first : UInt8) (rest : Bytes)
  | failed (code : Int) (nonpositive : code ≤ 0)
  deriving DecidableEq, Repr

def Reading.taken (len : Nat) : Reading → Int × Bytes
  | .data first rest => (((first :: rest).take len).length, (first :: rest).take len)
  | .failed code _ => (code, [])

def Reading.left (len : Nat) : Reading → List Reading
  | .data first rest =>
      match (first :: rest).drop len with
      | [] => []
      | next :: later => [.data next later]
  | .failed _ _ => []

inductive Writing where
  | wrote (more : Nat)
  | failed (code : Int) (nonpositive : code ≤ 0)
  deriving DecidableEq, Repr

structure Attempt where
  seed : Int
  setup : Int
  hostname : Int
  connect : Int
  handshake : Int
  deriving DecidableEq, Repr

inductive Op where
  | sslInit
  | sslSetup (ret : Int)
  | sslSetHostname (host : Bytes) (ret : Int)
  | netInit
  | netConnect (host port : Bytes) (ret : Int)
  | sslSetBio
  | sslHandshake (ret : Int)
  | sslRead (ret : Int)
  | sslWrite (data : Bytes) (ret : Int)
  | sslCloseNotify
  | sslFree
  | netRecvTimeout (timeoutMillisec : Int) (ret : Int)
  | netSend (data : Bytes) (ret : Int)
  | setSendTimeout (timeoutMillisec : Int)
  | netFree
  deriving DecidableEq, Repr

/-! ## Connections -/

structure Connection where
  addr : Addr
  connected : Bool
  timedOut : Bool
  lastError : Status
  trace : List Op
  deriving DecidableEq, Repr

def Connection.new : Connection := ⟨⟨[], []⟩, false, false, .ok, []⟩

structure TlsConnection extends Connection where
  rngSeeded : Bool
  caChain : Bool
  deriving DecidableEq, Repr

structure TcpConnection extends Connection where
  deriving DecidableEq, Repr

namespace Connection

def calls (connection : Connection) (ops : List Op) : Connection :=
  { connection with trace := ops.reverse ++ connection.trace }

variable (strerror : Int → Bytes)

def fail (func : String) (ret : Int) (connection : Connection) : Connection :=
  { connection with lastError := connection.lastError.set (.ofInt ret) (strerror ret) func [] }

def disconnected (func : String) (connection : Connection) : Connection :=
  { connection with lastError := connection.lastError.set (.ofInt (-1)) (bytes "Network disconnected") func [] }

def established (connection : Connection) : Connection :=
  { connection with connected := true, timedOut := false, lastError := .ok }

def readFailed (func : String) (close : Connection → Connection) (ret : Int) (connection : Connection) : Connection :=
  if ret = timeoutCode then { connection with timedOut := true }
  else close (connection.fail strerror func ret)

/-- The loop of `ReadAll` with the buffer as far as it is filled; `read` notes one call and its result. It returns
`received`, the buffer, and the results that are left. When there are none, reads time out. -/
def readLoop (read failed : Int → Connection → Connection) (len : Nat) :
    List Reading → Bytes → Connection → (Int × Bytes × List Reading) × Connection
  | [], buffer, connection =>
      if buffer.length < len then
        ((timeoutCode, buffer, []), failed timeoutCode (read timeoutCode connection))
      else ((buffer.length, buffer, []), connection)
  | reading :: rest, buffer, connection =>
      if buffer.length < len then
        match reading with
        | .failed code _ => ((code, buffer, rest), failed code (read code connection))
        | .data first more =>
            let data := first :: more
            match data.drop (len - buffer.length) with
            | [] => readLoop read failed len rest (buffer ++ data) (read data.length connection)
            -- the buffer is full, and the loop ends
            | next :: later =>
                ((len, buffer ++ data.take (len - buffer.length), .data next later :: rest),
                  read (len - buffer.length : Nat) connection)
      else ((buffer.length, buffer, reading :: rest), connection)

end Connection

/-! ## `TlsConnection` -/

namespace TlsConnection

variable (strerror : Int → Bytes)

def connect (attempt : Attempt) (tls : TlsConnection) : Int × TlsConnection :=
  if tls.connected then (0, tls)
  else if !tls.rngSeeded && attempt.seed != 0 then
    (attempt.seed, { tls with toConnection := tls.fail strerror "mbedtls_ctr_drbg_seed" attempt.seed })
  else
    let tls := { tls with toConnection := tls.calls [.sslInit, .sslSetup attempt.setup], rngSeeded := true }
    if attempt.setup ≠ 0 then
      (attempt.setup, { tls with
        toConnection := (tls.calls [.sslFree]).fail strerror "mbedtls_ssl_setup" attempt.setup })
    else
      let host := cString tls.addr.host
      let tls := if tls.caChain then
        { tls with toConnection := tls.calls [.sslSetHostname host attempt.hostname] } else tls
      if tls.caChain && attempt.hostname != 0 then
        (attempt.hostname, { tls with
          toConnection := tls.fail strerror "mbedtls_ssl_set_hostname" attempt.hostname })
      else
        let tls := { tls with
          toConnection := tls.calls [.netInit, .netConnect host (cString tls.addr.port) attempt.connect] }
        if attempt.connect ≠ 0 then
          (attempt.connect, { tls with
            toConnection := (tls.calls [.netFree, .sslFree]).fail strerror "mbedtls_net_connect" attempt.connect })
        else
          let tls := { tls with toConnection := tls.calls [.sslSetBio, .sslHandshake attempt.handshake] }
          if attempt.handshake ≠ 0 then
            (attempt.handshake, { tls with
              toConnection := (tls.calls [.netFree, .sslFree]).fail strerror "mbedtls_ssl_handshake" attempt.handshake })
          else (0, { tls with toConnection := tls.established })

def closeConnection (connection : Connection) : Connection :=
  if !connection.connected then connection
  else { connection.calls [.sslCloseNotify, .netFree, .sslFree] with connected := false }

def close (tls : TlsConnection) : TlsConnection :=
  { tls with toConnection := closeConnection tls.toConnection }

def readFailed (ret : Int) (connection : Connection) : Connection :=
  connection.readFailed strerror "mbedtls_ssl_read" closeConnection ret

def noteRead (ret : Int) (connection : Connection) : Connection :=
  connection.calls [.sslRead ret]

/-- `Read` and `ReadAll` set the read timeout of the configuration and reset it; that of the configuration is no
resource of the connection. `Read` is for at most `len` bytes. -/
def read (len : Nat) (reading : Reading) (tls : TlsConnection) : (Int × Bytes) × TlsConnection :=
  if !tls.connected then ((-1, []), { tls with toConnection := tls.disconnected "TlsConnection::read" })
  else
    let (ret, data) := reading.taken len
    let connection := noteRead ret { tls.toConnection with timedOut := false }
    ((ret, data), { tls with toConnection := if ret ≤ 0 then readFailed strerror ret connection else connection })

def readAll (len : Nat) (readings : List Reading) (tls : TlsConnection) :
    (Int × Bytes × List Reading) × TlsConnection :=
  if !tls.connected then ((-1, [], readings), { tls with toConnection := tls.disconnected "TlsConnection::read" })
  else
    let connection := { tls.toConnection with timedOut := false }
    let (result, connection) := connection.readLoop noteRead (readFailed strerror) len readings []
    (result, { tls with toConnection := connection })

def write (data : Bytes) (timeoutMillisec : Int) (writing : Writing) (tls : TlsConnection) : Int × TlsConnection :=
  if !tls.connected then (-1, { tls with toConnection := tls.disconnected "TlsConnection::write" })
  else if data = [] then (0, tls)
  else
    let connection := tls.calls [.setSendTimeout timeoutMillisec]
    match writing with
    | .failed code _ =>
        let connection := (connection.calls [.sslWrite data code]).fail strerror "mbedtls_ssl_write" code
        (code, { tls with toConnection := closeConnection connection })
    | .wrote more =>
        let ret := min (more + 1) data.length
        (ret, { tls with toConnection := connection.calls [.sslWrite data ret, .setSendTimeout 0] })

end TlsConnection

/-! ## `TcpConnection` -/

namespace TcpConnection

variable (strerror : Int → Bytes)

def connect (ret : Int) (tcp : TcpConnection) : Int × TcpConnection :=
  if tcp.connected then (0, tcp)
  else
    let connection := tcp.calls [.netInit, .netConnect (cString tcp.addr.host) (cString tcp.addr.port) ret]
    if ret ≠ 0 then (ret, ⟨(connection.calls [.netFree]).fail strerror "mbedtls_net_connect" ret⟩)
    else (0, ⟨connection.established⟩)

def closeConnection (connection : Connection) : Connection :=
  if !connection.connected then connection
  else { connection.calls [.netFree] with connected := false }

def close (tcp : TcpConnection) : TcpConnection :=
  ⟨closeConnection tcp.toConnection⟩

def readFailed (ret : Int) (connection : Connection) : Connection :=
  connection.readFailed strerror "mbedtls_net_recv_timeout" closeConnection ret

def noteRead (timeoutMillisec ret : Int) (connection : Connection) : Connection :=
  connection.calls [.netRecvTimeout timeoutMillisec ret]

def read (len : Nat) (timeoutMillisec : Int) (reading : Reading) (tcp : TcpConnection) :
    (Int × Bytes) × TcpConnection :=
  if !tcp.connected then ((-1, []), ⟨tcp.disconnected "TcpConnection::Read"⟩)
  else
    let (ret, data) := reading.taken len
    let connection := noteRead timeoutMillisec ret { tcp.toConnection with timedOut := false }
    ((ret, data), ⟨if ret ≤ 0 then readFailed strerror ret connection else connection⟩)

def readAll (len : Nat) (timeoutMillisec : Int) (readings : List Reading) (tcp : TcpConnection) :
    (Int × Bytes × List Reading) × TcpConnection :=
  if !tcp.connected then ((-1, [], readings), ⟨tcp.disconnected "TcpConnection::Read"⟩)
  else
    let connection := { tcp.toConnection with timedOut := false }
    let (result, connection) := connection.readLoop (noteRead timeoutMillisec) (readFailed strerror) len readings []
    (result, ⟨connection⟩)

/-- The error of a failed write names `mbedtls_ssl_write`. -/
def write (data : Bytes) (timeoutMillisec : Int) (writing : Writing) (tcp : TcpConnection) : Int × TcpConnection :=
  if !tcp.connected then (-1, ⟨tcp.disconnected "TcpConnection::Write"⟩)
  else if data = [] then (0, tcp)
  else
    let connection := tcp.calls [.setSendTimeout timeoutMillisec]
    match writing with
    | .failed code _ =>
        let connection := (connection.calls [.netSend data code]).fail strerror "mbedtls_ssl_write" code
        (code, ⟨closeConnection connection⟩)
    | .wrote more =>
        let ret := min (more + 1) data.length
        (ret, ⟨connection.calls [.netSend data ret, .setSendTimeout 0]⟩)

end TcpConnection

end IotClient.Net
