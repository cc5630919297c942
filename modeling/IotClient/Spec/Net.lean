import IotClient.Model.Net

namespace IotClient.Net

/-! ## Resources -/

inductive Context where
  | released
  | initialised
  | live
  deriving DecidableEq, Repr

structure Contexts where
  ssl : Context
  socket : Context
  deriving DecidableEq, Repr

namespace Contexts

/-- What a call does to the two; nothing when it must not be made: a context that is not live is used, one that holds
resources is initialised, or one that holds none is freed. -/
def step (contexts : Contexts) : Op → Option Contexts
  | .sslInit => if contexts.ssl = .released then some { contexts with ssl := .initialised } else none
  | .sslSetup ret =>
      if contexts.ssl = .initialised then some (if ret = 0 then { contexts with ssl := .live } else contexts) else none
  | .sslSetHostname _ _ => if contexts.ssl = .live then some contexts else none
  | .netInit => if contexts.socket = .released then some { contexts with socket := .initialised } else none
  | .netConnect _ _ ret =>
      if contexts.socket = .initialised then some (if ret = 0 then { contexts with socket := .live } else contexts)
      else none
  | .sslSetBio => if contexts = ⟨.live, .live⟩ then some contexts else none
  | .sslHandshake _ => if contexts = ⟨.live, .live⟩ then some contexts else none
  | .sslRead _ => if contexts = ⟨.live, .live⟩ then some contexts else none
  | .sslWrite _ _ => if contexts = ⟨.live, .live⟩ then some contexts else none
  | .sslCloseNotify => if contexts = ⟨.live, .live⟩ then some contexts else none
  | .sslFree => if contexts.ssl = .released then none else some { contexts with ssl := .released }
  | .netRecvTimeout _ _ => if contexts.socket = .live then some contexts else none
  | .netSend _ _ => if contexts.socket = .live then some contexts else none
  | .setSendTimeout _ => if contexts.socket = .live then some contexts else none
  | .netFree => if contexts.socket = .released then none else some { contexts with socket := .released }

def after : List Op → Option Contexts
  | [] => some ⟨.released, .released⟩
  | op :: older => (after older).bind (·.step op)

end Contexts

def TlsConnection.Matched (tls : TlsConnection) : Prop :=
  Contexts.after tls.trace = some (if tls.connected then ⟨.live, .live⟩ else ⟨.released, .released⟩)

instance (tls : TlsConnection) : Decidable tls.Matched := inferInstanceAs (Decidable (_ = _))

inductive TlsCall where
  | setAddress (addr : Addr)
  | setX509CaChain
  | connect (attempt : Attempt)
  | close
  | read (len : Nat) (reading : Reading)
  | readAll (len : Nat) (readings : List Reading)
  | write (data : Bytes) (timeoutMillisec : Int) (writing : Writing)
  deriving DecidableEq, Repr

namespace TlsConnection

def new : TlsConnection := { Connection.new with rngSeeded := false, caChain := false }

def perform (strerror : Int → Bytes) (tls : TlsConnection) : TlsCall → TlsConnection
  | .setAddress addr => { tls with addr := addr }
  | .setX509CaChain => { tls with caChain := true }
  | .connect attempt => (tls.connect strerror attempt).2
  | .close => tls.close
  | .read len reading => (tls.read strerror len reading).2
  | .readAll len readings => (tls.readAll strerror len readings).2
  | .write data timeoutMillisec writing => (tls.write strerror data timeoutMillisec writing).2

def run (strerror : Int → Bytes) (calls : List TlsCall) (tls : TlsConnection) : TlsConnection :=
  calls.foldl (perform strerror) tls

def leaks (tls : TlsConnection) : TlsCall → Bool
  | .connect attempt => !tls.connected && (tls.rngSeeded || attempt.seed == 0) && attempt.setup == 0 && tls.caChain &&
      attempt.hostname != 0
  | _ => false

def everLeaks (strerror : Int → Bytes) : List TlsCall → TlsConnection → Bool
  | [], _ => false
  | call :: rest, tls => tls.leaks call || everLeaks strerror rest (tls.perform strerror call)

end TlsConnection

inductive TcpCall where
  | setAddress (addr : Addr)
  | connect (ret : Int)
  | close
  | read (len : Nat) (timeoutMillisec : Int) (reading : Reading)
  | readAll (len : Nat) (timeoutMillisec : Int) (readings : List Reading)
  | write (data : Bytes) (timeoutMillisec : Int) (writing : Writing)
  deriving DecidableEq, Repr

namespace TcpConnection

def new : TcpConnection := ⟨Connection.new⟩

def perform (strerror : Int → Bytes) (tcp : TcpConnection) : TcpCall → TcpConnection
  | .setAddress addr => ⟨{ tcp.toConnection with addr := addr }⟩
  | .connect ret => (tcp.connect strerror ret).2
  | .close => tcp.close
  | .read len timeoutMillisec reading => (tcp.read strerror len timeoutMillisec reading).2
  | .readAll len timeoutMillisec readings => (tcp.readAll strerror len timeoutMillisec readings).2
  | .write data timeoutMillisec writing => (tcp.write strerror data timeoutMillisec writing).2

def run (strerror : Int → Bytes) (calls : List TcpCall) (tcp : TcpConnection) : TcpConnection :=
  calls.foldl (perform strerror) tcp

end TcpConnection

/-! ## Errors of an attempt to connect -/

def Attempt.calls (attempt : Attempt) (rngSeeded caChain : Bool) : List (String × Int) :=
  (if rngSeeded then [] else [("mbedtls_ctr_drbg_seed", attempt.seed)]) ++
    ("mbedtls_ssl_setup", attempt.setup) ::
      (if caChain then [("mbedtls_ssl_set_hostname", attempt.hostname)] else []) ++
        [("mbedtls_net_connect", attempt.connect), ("mbedtls_ssl_handshake", attempt.handshake)]

def Attempt.failure (attempt : Attempt) (rngSeeded caChain : Bool) : Option (String × Int) :=
  (attempt.calls rngSeeded caChain).find? (·.2 != 0)

def Status.names (status : Status) (failure : String × Int) : Prop :=
  status.code.value = failure.2 ∧ status.failedFunc = bytes failure.1

def TlsConnection.ReportsAttempt (strerror : Int → Bytes) (attempt : Attempt) (tls : TlsConnection) : Prop :=
  (tls.connect strerror attempt).1 ≠ 0 → ∃ failure, attempt.failure tls.rngSeeded tls.caChain = some failure ∧
    (tls.connect strerror attempt).1 = failure.2 ∧ (tls.connect strerror attempt).2.lastError.names failure

def TcpConnection.ReportsAttempt (strerror : Int → Bytes) (ret : Int) (tcp : TcpConnection) : Prop :=
  (tcp.connect strerror ret).1 ≠ 0 →
    (tcp.connect strerror ret).1 = ret ∧ (tcp.connect strerror ret).2.lastError.names ("mbedtls_net_connect", ret)

/-! ## Reading a given number of bytes -/

def Op.isRead : Op → Bool
  | .sslRead _ => true
  | .netRecvTimeout _ _ => true
  | _ => false

def Connection.reads (connection : Connection) : Nat :=
  connection.trace.countP Op.isRead

def available : List Reading → Bytes
  | [] => []
  | .data first rest :: later => first :: rest ++ available later
  | .failed _ _ :: _ => []

def stopCode : List Reading → Int
  | [] => timeoutCode
  | .data _ _ :: later => stopCode later
  | .failed code _ :: _ => code

/-- What a `ReadAll` on a connected connection does: with enough bytes to come it takes just these, and else it returns
the result of the read that failed and keeps the connection only if this is a timeout. -/
structure ReadsAll (len : Nat) (readings : List Reading) (before after : Connection) (result : Int × Bytes × List Reading) :
    Prop where
  ends : after.reads ≤ before.reads + len
  reached : len ≤ (available readings).length →
    result.1 = len ∧ result.2.1 = (available readings).take len ∧ available result.2.2 = (available readings).drop len ∧
      after.connected = true ∧ after.timedOut = false
  stopped : (available readings).length < len →
    result.1 = stopCode readings ∧ (after.timedOut = true ↔ stopCode readings = timeoutCode) ∧
      (after.connected = false ↔ stopCode readings ≠ timeoutCode)

/-! ## Errors over a run -/

/-- What a call does to the recorded error: a connection that is made clears it, a failure is recorded if none is. -/
inductive Verdict where
  | passes
  | clears
  | fails (func : String) (code : Int)
  deriving DecidableEq, Repr

abbrev Held := Option (Bytes × Int)

namespace Verdict

def record (held : Held) : Verdict → Held
  | .passes => held
  | .clears => none
  | .fails func code => held.or (some (bytes func, code))

def masked (held : Held) : Verdict → Bool
  | .fails func code => held.any (· != (bytes func, code))
  | _ => false

def ofRead (func : String) (ret : Int) : Verdict :=
  if 0 < ret ∨ ret = timeoutCode then .passes else .fails func ret

def ofReadAll (func : String) (len : Nat) (readings : List Reading) : Verdict :=
  if len ≤ (available readings).length then .passes else ofRead func (stopCode readings)

/-- For TCP too the function is `mbedtls_ssl_write`. -/
def ofWrite (data : Bytes) : Writing → Verdict
  | .wrote _ => .passes
  | .failed code _ => if data = [] then .passes else .fails "mbedtls_ssl_write" code

end Verdict

def everMasked {σ κ : Type} (perform : σ → κ → σ) (verdict : σ → κ → Verdict) (connects : κ → Bool) :
    List κ → σ → Held → Bool
  | [], _, _ => false
  | call :: rest, state, held =>
      connects call && (verdict state call).masked held ||
        everMasked perform verdict connects rest (perform state call) ((verdict state call).record held)

def TlsCall.connects : TlsCall → Bool
  | .connect _ => true
  | _ => false

def TcpCall.connects : TcpCall → Bool
  | .connect _ => true
  | _ => false

namespace TlsConnection

def verdict (tls : TlsConnection) : TlsCall → Verdict
  | .setAddress _ => .passes
  | .setX509CaChain => .passes
  | .connect attempt =>
      if tls.connected then .passes
      else match attempt.failure tls.rngSeeded tls.caChain with
        | none => .clears
        | some (func, code) => .fails func code
  | .close => .passes
  | .read len reading =>
      if tls.connected then .ofRead "mbedtls_ssl_read" (reading.taken len).1 else .fails "TlsConnection::read" (-1)
  | .readAll len readings =>
      if tls.connected then .ofReadAll "mbedtls_ssl_read" len readings else .fails "TlsConnection::read" (-1)
  | .write data _ writing => if tls.connected then .ofWrite data writing else .fails "TlsConnection::write" (-1)

def masks (strerror : Int → Bytes) (calls : List TlsCall) (tls : TlsConnection) : Bool :=
  everMasked (perform strerror) verdict TlsCall.connects calls tls none

end TlsConnection

namespace TcpConnection

def verdict (tcp : TcpConnection) : TcpCall → Verdict
  | .setAddress _ => .passes
  | .connect ret =>
      if tcp.connected then .passes else if ret = 0 then .clears else .fails "mbedtls_net_connect" ret
  | .close => .passes
  | .read len _ reading =>
      if tcp.connected then .ofRead "mbedtls_net_recv_timeout" (reading.taken len).1 else .fails "TcpConnection::Read" (-1)
  | .readAll len _ readings =>
      if tcp.connected then .ofReadAll "mbedtls_net_recv_timeout" len readings else .fails "TcpConnection::Read" (-1)
  | .write data _ writing => if tcp.connected then .ofWrite data writing else .fails "TcpConnection::Write" (-1)

def masks (strerror : Int → Bytes) (calls : List TcpCall) (tcp : TcpConnection) : Bool :=
  everMasked (perform strerror) verdict TcpCall.connects calls tcp none

end TcpConnection

end IotClient.Net
