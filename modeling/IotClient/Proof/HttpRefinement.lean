import IotClient.Proof.HttpErrors
import IotClient.Spec.HttpRefinement

namespace IotClient.Net

open Logic

variable (platform : Platform) (strerror : Int → Bytes)

/-! ## The network -/

theorem closeConnection_shown (connection : Connection) :
    (TcpConnection.closeConnection connection).shown = { connection.shown with connected := false } ∧
      (TlsConnection.closeConnection connection).shown = { connection.shown with connected := false } := by
  cases connected : connection.connected with
  | false => simp [TcpConnection.closeConnection, TlsConnection.closeConnection, connected, Connection.shown]
  | true => simp [TcpConnection.closeConnection, TlsConnection.closeConnection, connected, Connection.shown, Connection.calls]

def HttpClient.closed (client : HttpClient) : HttpClient := { client with network := client.network.close }

theorem close_shown {client : HttpClient} {m : Machine} (http : m.http = client.shown) :
    Http.close m = .ok () { m with http := client.closed.shown } := by
  unfold Http.close Http.update
  rw [run_modify_eq_ok, http]
  rcases current : client.network.connection with _ | _ | _
  · simp [HttpClient.shown, HttpClient.closed, NetworkImpl.close, current]
  · simp [HttpClient.shown, HttpClient.closed, NetworkImpl.close, current, Http.setConnection, Http.connectionOf,
      TcpConnection.close, closeConnection_shown]
  · simp [HttpClient.shown, HttpClient.closed, NetworkImpl.close, current, Http.setConnection, Http.connectionOf,
      TlsConnection.close, closeConnection_shown]

def Tried (error : IotClient.Status) (before : IotClient.Connection) (ret : Int) (after : IotClient.Connection) : Prop :=
  match error with
  | none => ret = 0 ∧ after = ⟨before.host, before.port, true, none⟩
  | some text => ret ≠ 0 ∧ after = before.fail text

theorem Connection.fail_seen (connection : Connection) {func : String} (named : bytes func ≠ []) (ret : Int) :
    (connection.fail strerror func ret).shown = connection.shown.fail (HttpClient.failureText strerror (func, ret)) := by
  have shown := connection.fail_shown strerror named ret
  simp only [Connection.shown, IotClient.Connection.fail, ← shown]
  rfl

theorem TcpConnection.connect_tried {tcp : TcpConnection} (ret : Int) (disconnected : tcp.connected = false) :
    ∃ error, Tried error tcp.shown (tcp.connect strerror ret).1 (tcp.connect strerror ret).2.shown := by
  simp only [TcpConnection.connect, disconnected, Bool.false_eq_true, if_false]
  by_cases made : ret = 0
  · exact ⟨none, by simp [made], by simp [made, Connection.shown, Connection.established, Connection.calls, Status.shown, Status.ok, Status.isOK]⟩
  · refine ⟨some (HttpClient.failureText strerror ("mbedtls_net_connect", ret)), ?_⟩
    simp only [made, ne_eq, not_false_eq_true, if_true]
    exact ⟨made, Connection.fail_seen strerror _ (by simp [bytes]) ret⟩

theorem TlsConnection.connect_tried {tls : TlsConnection} (attempt : Attempt) (disconnected : tls.connected = false) :
    ∃ error, Tried error tls.shown (tls.connect strerror attempt).1 (tls.connect strerror attempt).2.shown := by
  rcases connect_cases strerror attempt disconnected with ⟨failure, ops, rngSeeded, exit, run⟩ | ⟨established, run⟩
  · rw [run]
    exact ⟨some (HttpClient.failureText strerror failure), exit.ret_ne_zero,
      Connection.fail_seen strerror _ exit.named failure.2⟩
  · rw [run]
    exact ⟨none, rfl, rfl⟩

def HttpClient.connecting (strerror : Int → Bytes) (client : HttpClient) (url : Url) (attempt : Attempt) : HttpClient :=
  { client with network := (client.network.connectTo strerror url attempt).2 }

def tried (closed : Http) (transport : Transport) (url : Url) : IotClient.Status → Http
  | some error =>
      let connection := { closed.connectionOf transport with host := url.host, port := url.port }.fail error
      { closed.setConnection transport connection with networkError := connection.lastError, connection := none }
  | none =>
      { closed.setConnection transport ⟨url.host, url.port, true, none⟩ with
        networkError := none, connection := some transport }

theorem connectTo_tried {url : Url} {transport : Transport} (known : Http.transportOf url.scheme = some transport)
    {m : Machine} {closed : Http} (close : Http.close m = .ok () { m with http := closed }) {exchange : Exchange}
    {later : List Exchange} (exchanges : m.replies.exchanges = exchange :: later) :
    ∃ after, Http.connectTo url m = .ok (if exchange.connect.isNone then some exchange else none) after ∧
      after.http = tried closed transport url exchange.connect := by
  have next : nextExchange { m with http := closed } =
      .ok exchange { m with http := closed, replies := { m.replies with exchanges := later } } := by
    simp [nextExchange, run_modifyGet_eq_ok, exchanges]
  simp only [Http.connectTo, run_bind_ok close, known, run_bind_ok next]
  cases exchange.connect with
  | some error => exact ⟨_, rfl, rfl⟩
  | none => exact ⟨_, rfl, rfl⟩

def Attempted (strerror : Int → Bytes) (url : Url) (attempt : Attempt) (client : HttpClient) (transport : Transport)
    (error : IotClient.Status) : Prop :=
  (client.network.connectTo strerror url attempt).1 = error.isNone ∧
    (client.connecting strerror url attempt).shown = tried client.closed.shown transport url error

theorem attempted_tcp {url : Url} (scheme : url.scheme = .http) (attempt : Attempt) {client : HttpClient}
    (disconnected : client.network.close.tcp.connected = false) :
    ∃ error, Attempted strerror url attempt client .tcp error := by
  obtain ⟨error, tried⟩ := @TcpConnection.connect_tried strerror
    ⟨{ client.network.close.tcp.toConnection with addr := ⟨url.host, url.port⟩ }⟩ attempt.connect disconnected
  refine ⟨error, ?_⟩
  unfold Attempted HttpClient.connecting NetworkImpl.connectTo
  cases error with
  | none =>
      obtain ⟨made, shown⟩ := tried
      simp only [scheme, made, ne_eq, not_true_eq_false, if_false]
      simp only [HttpClient.shown, Net.tried, Http.setConnection, shown]
      exact ⟨rfl, rfl⟩
  | some text =>
      obtain ⟨failed, shown⟩ := tried
      simp only [scheme, failed, ne_eq, not_false_eq_true, if_true]
      simp only [HttpClient.shown, Net.tried, Http.setConnection, Http.mk.injEq]
      exact ⟨rfl, rfl, congrArg IotClient.Connection.lastError shown, shown, rfl, trivial⟩

theorem attempted_tls {url : Url} (scheme : url.scheme = .https) (attempt : Attempt) {client : HttpClient}
    (disconnected : client.network.close.tls.connected = false) :
    ∃ error, Attempted strerror url attempt client .tls error := by
  obtain ⟨error, tried⟩ := @TlsConnection.connect_tried strerror
    { client.network.close.tls with
      toConnection := { client.network.close.tls.toConnection with addr := ⟨url.host, url.port⟩ } } attempt disconnected
  refine ⟨error, ?_⟩
  unfold Attempted HttpClient.connecting NetworkImpl.connectTo
  cases error with
  | none =>
      obtain ⟨made, shown⟩ := tried
      simp only [scheme, made, ne_eq, not_true_eq_false, if_false]
      simp only [HttpClient.shown, Net.tried, Http.setConnection, shown]
      exact ⟨rfl, rfl⟩
  | some text =>
      obtain ⟨failed, shown⟩ := tried
      simp only [scheme, failed, ne_eq, not_false_eq_true, if_true]
      simp only [HttpClient.shown, Net.tried, Http.setConnection, Http.mk.injEq]
      exact ⟨rfl, rfl, congrArg IotClient.Connection.lastError shown, rfl, shown, trivial⟩

theorem Attempted.shown {url : Url} {attempt : Attempt} {client : HttpClient} {transport : Transport}
    {error : IotClient.Status} (attempted : Attempted strerror url attempt client transport error)
    (known : Http.transportOf url.scheme = some transport) {exchange : Exchange} {m : Machine} {later : List Exchange}
    (connect : exchange.connect = error) (http : m.http = client.shown) (exchanges : m.replies.exchanges = exchange :: later) :
    ∃ after, Http.connectTo url m =
        .ok (if (client.network.connectTo strerror url attempt).1 then some exchange else none) after ∧
      after.http = (client.connecting strerror url attempt).shown := by
  obtain ⟨made, shown⟩ := attempted
  obtain ⟨after, run, is⟩ := connectTo_tried known (close_shown http) exchanges
  refine ⟨after, ?_, ?_⟩
  · rw [run, made, connect]
  · rw [is, shown, connect]

/-- There is an error for whatever mbedtls answers with which the session connects in the same way. -/
theorem connectTo_shown (url : Url) (attempt : Attempt) {client : HttpClient} (consistent : client.network.Consistent) :
    ∃ error, ∀ (exchange : Exchange) (m : Machine) (later : List Exchange), exchange.connect = error →
      m.http = client.shown → m.replies.exchanges = exchange :: later →
      ∃ after, Http.connectTo url m =
          .ok (if (client.network.connectTo strerror url attempt).1 then some exchange else none) after ∧
        after.http = (client.connecting strerror url attempt).shown := by
  obtain ⟨-, tcp, tls⟩ := consistent.close
  cases scheme : url.scheme with
  | http =>
      obtain ⟨error, attempted⟩ := attempted_tcp strerror scheme attempt tcp
      exact ⟨error, fun _ _ _ connect http exchanges => attempted.shown strerror (by rw [scheme]; rfl) connect http exchanges⟩
  | https =>
      obtain ⟨error, attempted⟩ := attempted_tls strerror scheme attempt tls
      exact ⟨error, fun _ _ _ connect http exchanges => attempted.shown strerror (by rw [scheme]; rfl) connect http exchanges⟩
  | other name =>
      refine ⟨none, fun exchange m later connect http exchanges => ?_⟩
      have refused : (client.network.connectTo strerror url attempt).1 = false := by
        simp [NetworkImpl.connectTo, scheme]
      simp only [Http.connectTo, run_bind_ok (close_shown http), scheme, Http.transportOf, refused]
      refine ⟨_, rfl, ?_⟩
      simp [HttpClient.connecting, NetworkImpl.connectTo, scheme, HttpClient.shown, HttpClient.closed]

/-! ## Reads and writes -/

theorem close_fail_shown (connection : Connection) {func : String} (named : bytes func ≠ []) (ret : Int) :
    ∃ text, (TcpConnection.closeConnection (connection.fail strerror func ret)).shown =
        { connection.shown.fail text with connected := false } ∧
      (TlsConnection.closeConnection (connection.fail strerror func ret)).shown =
        { connection.shown.fail text with connected := false } := by
  refine ⟨HttpClient.failureText strerror (func, ret), ?_⟩
  rw [(closeConnection_shown _).1, (closeConnection_shown _).2, Connection.fail_seen strerror connection named]
  exact ⟨rfl, rfl⟩

def KeptOrLost (before after : Connection) (ret : Int) : Prop :=
  after.shown = before.shown ∨ ret ≤ 0 ∧ ∃ text, after.shown = { before.shown.fail text with connected := false }

theorem TcpConnection.read_keptOrLost {tcp : TcpConnection} (connected : tcp.connected = true) (len : Nat)
    (timeoutMillisec : Int) (reading : Reading) :
    KeptOrLost tcp.toConnection (tcp.read strerror len timeoutMillisec reading).2.toConnection
      (tcp.read strerror len timeoutMillisec reading).1.1 := by
  rw [TcpConnection.read, if_neg (by simp [connected])]
  by_cases failed : (reading.taken len).1 ≤ 0
  · simp only [failed, if_true, TcpConnection.readFailed, Connection.readFailed]
    split
    · exact .inl rfl
    · obtain ⟨text, shown, -⟩ := close_fail_shown strerror
        (TcpConnection.noteRead timeoutMillisec (reading.taken len).1 { tcp.toConnection with timedOut := false })
        (show bytes "mbedtls_net_recv_timeout" ≠ [] by simp [bytes]) (reading.taken len).1
      exact .inr ⟨failed, text, shown⟩
  · simp only [failed, if_false]
    exact .inl rfl

theorem TlsConnection.read_keptOrLost {tls : TlsConnection} (connected : tls.connected = true) (len : Nat)
    (reading : Reading) :
    KeptOrLost tls.toConnection (tls.read strerror len reading).2.toConnection (tls.read strerror len reading).1.1 := by
  rw [TlsConnection.read, if_neg (by simp [connected])]
  by_cases failed : (reading.taken len).1 ≤ 0
  · simp only [failed, if_true, TlsConnection.readFailed, Connection.readFailed]
    split
    · exact .inl rfl
    · obtain ⟨text, -, shown⟩ := close_fail_shown strerror
        (TlsConnection.noteRead (reading.taken len).1 { tls.toConnection with timedOut := false })
        (show bytes "mbedtls_ssl_read" ≠ [] by simp [bytes]) (reading.taken len).1
      exact .inr ⟨failed, text, shown⟩
  · simp only [failed, if_false]
    exact .inl rfl

theorem TcpConnection.write_keptOrLost {tcp : TcpConnection} (connected : tcp.connected = true) (data : Bytes)
    (timeoutMillisec : Int) (writing : Writing) :
    KeptOrLost tcp.toConnection (tcp.write strerror data timeoutMillisec writing).2.toConnection
      (tcp.write strerror data timeoutMillisec writing).1 := by
  rw [TcpConnection.write, if_neg (by simp [connected])]
  by_cases empty : data = []
  · rw [if_pos empty]
    exact .inl rfl
  · rw [if_neg empty]
    cases writing with
    | failed code nonpositive =>
        obtain ⟨text, shown, -⟩ := close_fail_shown strerror
          ((tcp.calls [.setSendTimeout timeoutMillisec]).calls [.netSend data code])
          (show bytes "mbedtls_ssl_write" ≠ [] by simp [bytes]) code
        exact .inr ⟨nonpositive, text, shown⟩
    | wrote more => exact .inl rfl

theorem TlsConnection.write_keptOrLost {tls : TlsConnection} (connected : tls.connected = true) (data : Bytes)
    (timeoutMillisec : Int) (writing : Writing) :
    KeptOrLost tls.toConnection (tls.write strerror data timeoutMillisec writing).2.toConnection
      (tls.write strerror data timeoutMillisec writing).1 := by
  rw [TlsConnection.write, if_neg (by simp [connected])]
  by_cases empty : data = []
  · rw [if_pos empty]
    exact .inl rfl
  · rw [if_neg empty]
    cases writing with
    | failed code nonpositive =>
        obtain ⟨text, -, shown⟩ := close_fail_shown strerror
          ((tls.calls [.setSendTimeout timeoutMillisec]).calls [.sslWrite data code])
          (show bytes "mbedtls_ssl_write" ≠ [] by simp [bytes]) code
        exact .inr ⟨nonpositive, text, shown⟩
    | wrote more => exact .inl rfl

structure Uses (transport : Transport) (before after : NetworkImpl) (ret : Int) : Prop where
  error : after.error = before.error
  connection : after.connection = NetworkImpl.stillConnected transport (after.connectionOf transport)
  others : ∀ other, other ≠ transport → after.connectionOf other = before.connectionOf other
  result : KeptOrLost (before.connectionOf transport) (after.connectionOf transport) ret

def Dropped (before after : HttpClient) : Prop :=
  ∃ error, ∀ m : Machine, m.http = before.shown → Http.drop error m = .ok () { m with http := after.shown }

theorem dropped_refl {before after : HttpClient} (same : after.shown = before.shown) : Dropped before after := by
  refine ⟨none, fun m http => ?_⟩
  unfold Http.drop Http.update
  rw [run_modify_eq_ok, same, http]
  dsimp only
  cases before.shown.connection <;> rfl

theorem Dropped.of_shown {first second after : HttpClient} (dropped : Dropped second after)
    (same : second.shown = first.shown) : Dropped first after := by
  obtain ⟨error, drop⟩ := dropped
  exact ⟨error, fun m http => drop m (http.trans same.symm)⟩

namespace Uses

variable {transport : Transport} {client : HttpClient} {after : NetworkImpl} {ret : Int}

theorem kept (uses : Uses transport client.network after ret) (current : client.network.connection = some transport)
    (shown : (after.connectionOf transport).shown = (client.network.connectionOf transport).shown)
    (connected : (client.network.connectionOf transport).connected = true) :
    ({ client with network := after } : HttpClient).shown = client.shown := by
  have still : (after.connectionOf transport).connected = true :=
    (congrArg IotClient.Connection.connected shown).trans connected
  have connection := uses.connection
  simp only [NetworkImpl.stillConnected, still, if_true] at connection
  simp only [HttpClient.shown, uses.error, connection, current, Http.mk.injEq, true_and]
  cases transport with
  | tcp => exact ⟨shown, congrArg Connection.shown (uses.others .tls (by decide)), trivial⟩
  | tls => exact ⟨congrArg Connection.shown (uses.others .tcp (by decide)), shown, trivial⟩

theorem dropped (uses : Uses transport client.network after ret) (current : client.network.connection = some transport)
    {text : Bytes} (shown : (after.connectionOf transport).shown =
      { (client.network.connectionOf transport).shown.fail text with connected := false }) :
    Dropped client { client with network := after } := by
  refine ⟨some text, fun m http => ?_⟩
  have closed : (after.connectionOf transport).connected = false := congrArg IotClient.Connection.connected shown
  have connection := uses.connection
  simp only [NetworkImpl.stillConnected, closed, Bool.false_eq_true, if_false] at connection
  unfold Http.drop Http.update
  rw [run_modify_eq_ok, http]
  simp only [HttpClient.shown, uses.error, connection, current]
  cases transport with
  | tcp =>
      have tls : after.tls.toConnection = client.network.tls.toConnection := uses.others .tls (by decide)
      have tcp : after.tcp.shown = { client.network.tcp.shown.fail text with connected := false } := shown
      rw [tcp, tls]
      rfl
  | tls =>
      have tcp : after.tcp.toConnection = client.network.tcp.toConnection := uses.others .tcp (by decide)
      have tls : after.tls.shown = { client.network.tls.shown.fail text with connected := false } := shown
      rw [tcp, tls]
      rfl

theorem shown (uses : Uses transport client.network after ret) (current : client.network.connection = some transport)
    (connected : (client.network.connectionOf transport).connected = true) :
    (0 < ret → ({ client with network := after } : HttpClient).shown = client.shown) ∧
      (ret ≤ 0 → Dropped client { client with network := after }) := by
  rcases uses.result with shown | ⟨failed, text, shown⟩
  · have same := uses.kept current shown connected
    exact ⟨fun _ => same, fun _ => dropped_refl same⟩
  · exact ⟨fun succeeded => absurd failed (by omega), fun _ => uses.dropped current shown⟩

end Uses

namespace NetworkImpl

variable {network : NetworkImpl} {transport : Transport}

theorem write_uses (current : network.connection = some transport)
    (connected : (network.connectionOf transport).connected = true) (data : Bytes) (timeoutMillisec : Int)
    (writing : Writing) :
    Uses transport network (network.write strerror data timeoutMillisec writing).2
      (network.write strerror data timeoutMillisec writing).1 := by
  cases transport with
  | tcp =>
      simp only [NetworkImpl.write, current]
      exact ⟨rfl, rfl, fun other no => by cases other <;> [exact absurd rfl no; rfl],
        TcpConnection.write_keptOrLost strerror connected data timeoutMillisec writing⟩
  | tls =>
      simp only [NetworkImpl.write, current]
      exact ⟨rfl, rfl, fun other no => by cases other <;> [rfl; exact absurd rfl no],
        TlsConnection.write_keptOrLost strerror connected data timeoutMillisec writing⟩

theorem read_uses (current : network.connection = some transport)
    (connected : (network.connectionOf transport).connected = true) (len : Nat) (timeoutMillisec : Int)
    (reading : Reading) :
    Uses transport network (network.read strerror len timeoutMillisec reading).2
      (network.read strerror len timeoutMillisec reading).1.1 := by
  cases transport with
  | tcp =>
      simp only [NetworkImpl.read, current]
      exact ⟨rfl, rfl, fun other no => by cases other <;> [exact absurd rfl no; rfl],
        TcpConnection.read_keptOrLost strerror connected len timeoutMillisec reading⟩
  | tls =>
      simp only [NetworkImpl.read, current]
      exact ⟨rfl, rfl, fun other no => by cases other <;> [rfl; exact absurd rfl no],
        TlsConnection.read_keptOrLost strerror connected len reading⟩

end NetworkImpl

/-! ## The request -/

namespace HttpClient

def Wrote (written : Bool) (before after : HttpClient) : Prop :=
  if written then after.shown = before.shown
  else ∃ lost, Dropped before lost ∧ after = networkFailed lost

theorem Wrote.of_shown {written : Bool} {first second after : HttpClient} (wrote : Wrote written second after)
    (same : second.shown = first.shown) : Wrote written first after := by
  cases written with
  | true => exact Eq.trans wrote same
  | false =>
      obtain ⟨lost, dropped, is⟩ := wrote
      exact ⟨lost, dropped.of_shown same, is⟩

theorem writeLoop_shown (writings : List Writing) (data : Bytes) {client : HttpClient}
    (isOpen : client.network.IsOpen) :
    Wrote (writeLoop strerror writings data client).1.1 client (writeLoop strerror writings data client).2 := by
  induction writings generalizing data client with
  | nil =>
      cases data with
      | nil => rfl
      | cons first more =>
          obtain ⟨transport, current, connected⟩ := isOpen
          have uses := NetworkImpl.write_uses strerror current connected (portion (first :: more)) client.timeout
            (.failed timeoutCode (by decide))
          refine ⟨_, (uses.shown current connected).2 ?_, rfl⟩
          rw [(NetworkImpl.write_isOpen strerror ⟨transport, current, connected⟩ _ _ _).1, Writing.result]
          split <;> decide
  | cons writing writings continued =>
      cases data with
      | nil => rfl
      | cons first more =>
          have stays := (NetworkImpl.write_isOpen strerror isOpen (portion (first :: more)) client.timeout writing)
          obtain ⟨transport, current, connected⟩ := isOpen
          have uses := NetworkImpl.write_uses strerror current connected (portion (first :: more)) client.timeout writing
          have shown := uses.shown current connected
          simp only [writeLoop]
          split
          next failed => exact ⟨_, shown.2 failed, rfl⟩
          next succeeded =>
            have positive := Int.not_le.mp succeeded
            exact (continued _ (stays.2.2 (stays.1 ▸ positive))).of_shown (shown.1 positive)

theorem writeAll_shown (pieces : List Bytes) {world after : HttpWorld} {written : Bool}
    (ready : Ready world.client) (run : writeAll strerror pieces world = .ok written after) :
    Wrote written world.client after.client := by
  induction pieces generalizing world with
  | nil =>
      cases run
      rfl
  | cons piece rest continued =>
      simp only [writeAll, run_bind_eq_ok] at run
      obtain ⟨written', between, write, run⟩ := run
      have wrote := writeLoop_shown strerror world.peer.writings piece ready.isOpen
      have stays := writeLoop_ready strerror world.peer.writings piece ready
      simp only [HttpClient.write, run_modifyGet_eq_ok, Prod.mk.injEq] at write
      obtain ⟨rfl, rfl⟩ := write
      cases written' : (writeLoop strerror world.peer.writings piece world.client).1.1 with
      | false =>
          rw [written'] at wrote run
          cases run
          exact wrote
      | true =>
          rw [written'] at wrote run
          refine (continued ?_ run).of_shown wrote
          cases left : accepted world.peer.writings piece with
          | none =>
              rw [left] at stays
              exact absurd (stays.1.symm.trans written') (by decide)
          | some writings =>
              rw [left] at stays
              exact stays.2

/-! ## The response -/

theorem readResponse_complete {parser : ResponseParser} (done : complete parser = true) (stop : IotClient.Status)
    (reads : List Bytes) (m : Machine) :
    Http.readResponse platform stop parser reads m = .ok parser m := by
  have done : (parser.isComplete || parser.error.isSome) = true := done
  cases reads <;> simp [Http.readResponse, done]

def Reads (read : List Reading × HttpClient) (m : Machine) : Prop := m.http = read.2.shown

theorem feedEOF_agrees {lost : HttpClient} {stop : IotClient.Status} {parser : ResponseParser} {m : Machine}
    (drop : Http.drop stop m = .ok () { m with http := lost.shown }) (going : complete parser = false)
    (readings : List Reading) :
    Agree (fun parser read parser' m => parser = parser' ∧ Reads read m) Reads
      (match parser.feed platform [] with
        | .error fault => .error fault (readings, lost)
        | .ok parser => .ok parser (readings, lost))
      (Http.readResponse platform stop parser [] m) := by
  have going : (parser.isComplete || parser.error.isSome) = false := going
  simp only [Http.readResponse, going, Bool.false_eq_true, if_false]
  rw [run_bind_ok drop]
  cases parser.feed platform [] with
  | error fault => exact ⟨rfl, rfl⟩
  | ok parser => exact ⟨rfl, rfl⟩

theorem readLoop_shown (readings : List Reading) {client : HttpClient} (isOpen : client.network.IsOpen) :
    ∃ reads stop, ∀ (parser : ResponseParser) (m : Machine), m.http = client.shown →
      Agree (fun parser read parser' m => parser = parser' ∧ Reads read m) Reads
        (readLoop platform strerror readings parser client) (Http.readResponse platform stop parser reads m) := by
  induction readings generalizing client with
  | nil =>
      obtain ⟨transport, current, connected⟩ := isOpen
      have uses := NetworkImpl.read_uses strerror current connected (10 * 1024) client.timeout
        (.failed timeoutCode (by decide))
      obtain ⟨stop, drop⟩ := (uses.shown current connected).2 (by
        rw [(NetworkImpl.read_isOpen strerror ⟨transport, current, connected⟩ _ _ _).1]
        decide)
      refine ⟨[], stop, fun parser m http => ?_⟩
      simp only [readLoop]
      split
      next done =>
        rw [readResponse_complete platform done]
        exact ⟨rfl, http⟩
      next going => exact feedEOF_agrees platform (drop m http) (by simpa using going) []
  | cons reading readings continued =>
      have stays := (NetworkImpl.read_isOpen strerror isOpen (10 * 1024) client.timeout reading)
      obtain ⟨transport, current, connected⟩ := isOpen
      have uses := NetworkImpl.read_uses strerror current connected (10 * 1024) client.timeout reading
      have shown := uses.shown current connected
      rw [← stays.1] at stays
      rcases call : client.network.read strerror (10 * 1024) client.timeout reading with ⟨⟨len, data⟩, network⟩
      simp only [call] at stays shown
      by_cases failed : len ≤ 0
      · obtain ⟨stop, drop⟩ := shown.2 failed
        refine ⟨[], stop, fun parser m http => ?_⟩
        simp only [readLoop, call, failed, if_true]
        split
        next done =>
          rw [readResponse_complete platform done]
          exact ⟨rfl, http⟩
        next going => exact feedEOF_agrees platform (drop m http) (by simpa using going) readings
      · have positive := Int.not_le.mp failed
        obtain ⟨reads, stop, agree⟩ := @continued { client with network := network } (stays.2 positive)
        refine ⟨data :: reads, stop, fun parser m http => ?_⟩
        simp only [readLoop, call, failed, if_false]
        split
        next done =>
          rw [readResponse_complete platform done]
          exact ⟨rfl, http⟩
        next going =>
          have going : (parser.isComplete || parser.error.isSome) = false := by simpa [complete] using going
          simp only [Http.readResponse, going, Bool.false_eq_true, if_false]
          cases fed : parser.feed platform data with
          | error fault => exact ⟨rfl, http.trans (shown.1 positive).symm⟩
          | ok parser => exact agree parser m (http.trans (shown.1 positive).symm)

def Filled (good : Bool) (world : HttpWorld) (parser : ResponseParser) (m : Machine) : Prop :=
  good = parser.error.isNone ∧
    if parser.error.isSome then
      world.client.shown = { m.http with error := parser.error } ∧
        world.client.response.executeStatus = .parseError
    else m.http = world.client.shown ∧
      world.client.response = ⟨world.client.response.executeStatus, parser.httpStatus, parser.headers, parser.data⟩

theorem readResponse_shown {world : HttpWorld} (isOpen : world.client.network.IsOpen) :
    ∃ reads stop, ∀ m : Machine, Shows world m →
      Agree Filled Shows (readResponse platform strerror world) (Http.readResponse platform stop {} reads m) := by
  obtain ⟨reads, stop, agree⟩ := readLoop_shown platform strerror world.peer.readings isOpen
  refine ⟨reads, stop, fun m shows => ?_⟩
  have agree := agree {} m shows
  simp only [readResponse]
  cases first : readLoop platform strerror world.peer.readings {} world.client with
  | error fault read =>
      rw [first] at agree
      cases second : Http.readResponse platform stop {} reads m with
      | ok parser after => simp [second, Agree] at agree
      | error fault' after =>
          rw [second] at agree
          exact agree
  | ok parser read =>
      rw [first] at agree
      cases second : Http.readResponse platform stop {} reads m with
      | error fault after => simp [second, Agree] at agree
      | ok parser' after =>
          rw [second] at agree
          obtain ⟨rfl, http⟩ := agree
          have http : after.http = read.2.shown := http
          by_cases failed : parser.error.isSome = true
          · simp only [failed, if_true]
            refine ⟨by simpa using failed, ?_⟩
            simp only [failed, if_true, http]
            exact ⟨rfl, trivial⟩
          · simp only [failed]
            refine ⟨by simpa using failed, ?_⟩
            simp only [failed]
            exact ⟨http, trivial⟩

/-! ## `Execute` -/

def sessionExchange (method : IotClient.Method) (target : Url) (data : Bytes) (exchange : Exchange) :
    M (Option ResponseParser) := do
  emit (.requested method target data)
  if exchange.write.isSome then do
    Http.drop exchange.write.join
    Http.update fun http => { http with error := http.networkError }
    Http.close
    return none
  else do
    let parser ← Http.readResponse platform exchange.stop {} exchange.reads
    if parser.error.isSome then do
      Http.update fun http => { http with error := parser.error }
      Http.close
      return none
    else do
      Http.close
      return some parser

theorem execute_connectTo (method : IotClient.Method) {url : Bytes} {target : Url} (data : Bytes)
    (parsed : platform.http.parseUrl url = some target) {exchange : Exchange} {m between : Machine}
    (connect : Http.connectTo target m = .ok (some exchange) between) :
    Http.execute platform method url data m = sessionExchange platform method target data exchange between := by
  simp only [Http.execute, parsed, run_bind_ok connect]
  rfl

theorem sessionExchange_lost (method : IotClient.Method) (target : Url) (data : Bytes) {exchange : Exchange}
    {client lost : HttpClient} {error : IotClient.Status} (write : exchange.write = some error) {m : Machine}
    (drop : ∀ m : Machine, m.http = client.shown → Http.drop error m = .ok () { m with http := lost.shown })
    (http : m.http = client.shown) :
    ∃ after, sessionExchange platform method target data exchange m = .ok none after ∧
      after.http = (networkFailed lost).closed.shown := by
  let asked : Machine := { m with log := .requested method target data :: m.log }
  have emitted : emit (.requested method target data) m = .ok () asked := rfl
  have updated : Http.update (fun http => { http with error := http.networkError }) { asked with http := lost.shown } =
      .ok () { asked with http := (networkFailed lost).shown } := rfl
  have closed := @close_shown (networkFailed lost) { asked with http := (networkFailed lost).shown } rfl
  refine ⟨{ asked with http := (networkFailed lost).closed.shown }, ?_, rfl⟩
  simp only [sessionExchange, run_bind_ok emitted, write, Option.isSome_some, if_true, Option.join_some,
    run_bind_ok (drop asked http), run_bind_ok updated, run_bind_ok closed]
  rfl

theorem exchange_shown (method : IotClient.Method) (request : Request) (url : Url) {world : HttpWorld}
    (ready : Ready world.client) :
    ∃ write reads stop, ∀ (connect : IotClient.Status) (m : Machine), Shows world m →
      Agree (fun _ => Executed) Shows (exchange platform strerror request url world)
        (sessionExchange platform method url request.data ⟨connect, write, reads, stop⟩ m) := by
  have written := writeAll_ready strerror (requestPieces request.method url request.headers request.data) ready
  cases taken : acceptedAll world.peer.writings (requestPieces request.method url request.headers request.data) with
  | false =>
      obtain ⟨sent, send, unreported⟩ := written.1 taken
      obtain ⟨lost, ⟨error, drop⟩, is⟩ := writeAll_shown strerror _ ready send
      rw [← sendRequest_eq] at send
      refine ⟨some error, [], none, fun connect m http => ?_⟩
      obtain ⟨after, run, shown⟩ := @sessionExchange_lost platform method url request.data
        ⟨connect, some error, [], none⟩ _ _ _ rfl m drop http
      have ends : exchange platform strerror request url world = .ok () { sent with client := sent.client.closed } := by
        simp only [exchange, run_bind_ok send]
        rfl
      rw [run, ends]
      refine ⟨?_, ?_⟩
      · show after.http = sent.client.closed.shown
        rw [shown, is]
      · show sent.client.response.shown = none
        simp [Response.shown, unreported.status]
  | true =>
      obtain ⟨sent, send, ready', -⟩ := written.2 taken
      have same : sent.client.shown = world.client.shown := writeAll_shown strerror _ ready send
      rw [← sendRequest_eq] at send
      obtain ⟨reads, stop, agree⟩ := readResponse_shown platform strerror ready'.isOpen
      refine ⟨none, reads, stop, fun connect m http => ?_⟩
      let asked : Machine := { m with log := .requested method url request.data :: m.log }
      have emitted : emit (.requested method url request.data) m = .ok () asked := rfl
      simp only [exchange, run_bind_ok send, sessionExchange, run_bind_ok emitted, Option.isSome_none,
        Bool.false_eq_true, Bool.not_true, if_false]
      refine (agree asked (http.trans same.symm)).bind fun good between parser after filled => ?_
      obtain ⟨rfl, filled⟩ := filled
      cases failed : parser.error with
      | none =>
          simp only [failed, Option.isSome_none, Bool.false_eq_true, if_false] at filled
          obtain ⟨http, response⟩ := filled
          simp only [Option.isNone_none, Option.isSome_none, Bool.not_true, Bool.false_eq_true, if_false,
            run_bind_ok (close_shown http)]
          refine ⟨rfl, ?_⟩
          show some (between.client.response.httpStatus, between.client.response.headers, between.client.response.data) = _
          rw [response]
          rfl
      | some text =>
          simp only [failed, Option.isSome_some, if_true] at filled
          obtain ⟨shown, status⟩ := filled
          have updated : Http.update (fun http => { http with error := some text }) after =
              .ok () { after with http := between.client.shown } := by
            rw [shown]
            rfl
          simp only [Option.isNone_some, Option.isSome_some, Bool.not_false, if_true, run_bind_ok updated,
            run_bind_ok (@close_shown between.client { after with http := between.client.shown } rfl)]
          refine ⟨rfl, ?_⟩
          show between.client.response.shown = none
          simp [Response.shown, status]

/-- Whatever has happened before, a call of `Execute` is one of the session's. -/
theorem execute_refines (history : List HttpCall) (peer : Peer) (method : IotClient.Method) (url : Bytes)
    (headers : StringMap) (data : Bytes) :
    Refines platform strerror (new.run platform strerror history) peer method url headers data := by
  have consistent := run_consistent platform strerror new_consistent history
  generalize new.run platform strerror history = client at consistent
  rcases execute_cases platform (requestOf platform method url headers data) client peer with
    ⟨invalid, run⟩ | ⟨-, unknown, -⟩ | ⟨target, valid, known, ⟨refused, run⟩ | ⟨made, run⟩⟩
  · have parsed : platform.http.parseUrl url = none := invalid
    refine ⟨⟨none, none, [], none⟩, fun m later http _ => ?_⟩
    rw [run]
    simp only [Http.execute, parsed]
    refine ⟨?_, rfl⟩
    show ({ m.http with error := m.http.error.set (Http.invalidUrl url) } : Http) = _
    rw [http]
    rfl
  · have unknown : methodToString (methodOf method) = "" := unknown
    cases method <;> exact absurd unknown (by decide)
  · have parsed : platform.http.parseUrl url = some target := valid
    obtain ⟨error, connect⟩ := connectTo_shown strerror target peer.attempt consistent
    refine ⟨⟨error, none, [], none⟩, fun m later http exchanges => ?_⟩
    obtain ⟨between, connected, shown⟩ := connect _ m later rfl http exchanges
    rw [refused] at connected
    rw [run]
    simp only [Http.execute, parsed, run_bind_ok connected, Bool.false_eq_true, if_false]
    refine ⟨?_, rfl⟩
    show ({ between.http with error := between.http.networkError } : Http) = _
    rw [shown]
    rfl
  · have parsed : platform.http.parseUrl url = some target := valid
    obtain ⟨error, connect⟩ := connectTo_shown strerror target peer.attempt consistent
    obtain ⟨write, reads, stop, agree⟩ := exchange_shown platform strerror method
      (requestOf platform method url headers data) target (asked_ready strerror consistent valid known made)
    refine ⟨⟨error, write, reads, stop⟩, fun m later http exchanges => ?_⟩
    obtain ⟨between, connected, shown⟩ := connect _ m later rfl http exchanges
    rw [made] at connected
    rw [run, execute_connectTo platform method data parsed connected]
    exact agree error between shown

end HttpClient

end IotClient.Net
