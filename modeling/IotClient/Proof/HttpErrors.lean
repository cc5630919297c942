import IotClient.Proof.HttpClient

namespace IotClient.Net

open Logic

/-! ## An open connection -/

namespace NetworkImpl

variable {network : NetworkImpl} (strerror : Int → Bytes)

theorem write_isOpen (isOpen : network.IsOpen) (data : Bytes) (timeoutMillisec : Int) (writing : Writing) :
    (network.write strerror data timeoutMillisec writing).1 = writing.result data ∧
      (network.write strerror data timeoutMillisec writing).2.error = network.error ∧
      (0 < writing.result data → (network.write strerror data timeoutMillisec writing).2.IsOpen) := by
  obtain ⟨transport, current, connected⟩ := isOpen
  cases transport with
  | tcp =>
      have connected : network.tcp.connected = true := connected
      simp only [NetworkImpl.write, current, TcpConnection.write, connected, Writing.result, Bool.not_true,
        Bool.false_eq_true, if_false]
      by_cases empty : data = []
      · simp [empty]
      · cases writing with
        | failed code nonpositive =>
            simp only [empty, if_false]
            exact ⟨trivial, trivial, fun positive => by omega⟩
        | wrote more =>
            simp only [empty, if_false]
            refine ⟨trivial, trivial, fun _ => ⟨.tcp, ?_, ?_⟩⟩ <;>
              simp [NetworkImpl.stillConnected, NetworkImpl.connectionOf, Connection.calls, connected]
  | tls =>
      have connected : network.tls.connected = true := connected
      simp only [NetworkImpl.write, current, TlsConnection.write, connected, Writing.result, Bool.not_true,
        Bool.false_eq_true, if_false]
      by_cases empty : data = []
      · simp [empty]
      · cases writing with
        | failed code nonpositive =>
            simp only [empty, if_false]
            exact ⟨trivial, trivial, fun positive => by omega⟩
        | wrote more =>
            simp only [empty, if_false]
            refine ⟨trivial, trivial, fun _ => ⟨.tls, ?_, ?_⟩⟩ <;>
              simp [NetworkImpl.stillConnected, NetworkImpl.connectionOf, Connection.calls, connected]

theorem read_isOpen (isOpen : network.IsOpen) (len : Nat) (timeoutMillisec : Int) (reading : Reading) :
    (network.read strerror len timeoutMillisec reading).1 = reading.taken len ∧
      (0 < (reading.taken len).1 → (network.read strerror len timeoutMillisec reading).2.IsOpen) := by
  obtain ⟨transport, current, connected⟩ := isOpen
  cases transport with
  | tcp =>
      have connected : network.tcp.connected = true := connected
      simp only [NetworkImpl.read, current, TcpConnection.read, connected, Bool.not_true, Bool.false_eq_true, if_false]
      refine ⟨trivial, fun positive => ⟨.tcp, ?_, ?_⟩⟩ <;>
        simp [NetworkImpl.stillConnected, NetworkImpl.connectionOf, TcpConnection.noteRead, Connection.calls,
          Int.not_le.mpr positive]
  | tls =>
      have connected : network.tls.connected = true := connected
      simp only [NetworkImpl.read, current, TlsConnection.read, connected, Bool.not_true, Bool.false_eq_true, if_false]
      refine ⟨trivial, fun positive => ⟨.tls, ?_, ?_⟩⟩ <;>
        simp [NetworkImpl.stillConnected, NetworkImpl.connectionOf, TlsConnection.noteRead, Connection.calls,
          Int.not_le.mpr positive]

end NetworkImpl

namespace HttpClient

variable (platform : Platform) (strerror : Int → Bytes)

/-! ## Writing the request -/

structure Ready (client : HttpClient) : Prop where
  isOpen : client.network.IsOpen
  network : client.network.error = none

structure Unreported (client : HttpClient) : Prop where
  status : client.response.executeStatus = .networkError
  error : client.error = none

theorem writeLoop_ready (writings : List Writing) (data : Bytes) {client : HttpClient} (ready : Ready client) :
    match accepted writings data with
    | none => (writeLoop strerror writings data client).1.1 = false ∧
        Unreported (writeLoop strerror writings data client).2
    | some left => (writeLoop strerror writings data client).1 = (true, left) ∧
        Ready (writeLoop strerror writings data client).2 := by
  induction writings generalizing data client with
  | nil =>
      cases data with
      | nil => exact ⟨rfl, ready⟩
      | cons first more =>
          have wrote := NetworkImpl.write_isOpen strerror ready.isOpen (portion (first :: more)) client.timeout
            (.failed timeoutCode (by decide))
          exact ⟨rfl, rfl, wrote.2.1.trans ready.network⟩
  | cons writing writings continued =>
      cases data with
      | nil => exact ⟨rfl, ready⟩
      | cons first more =>
          have wrote := NetworkImpl.write_isOpen strerror ready.isOpen (portion (first :: more)) client.timeout writing
          simp only [accepted, writeLoop, wrote.1]
          by_cases failed : writing.result (portion (first :: more)) ≤ 0
          · simp only [failed, if_true]
            exact ⟨trivial, rfl, wrote.2.1.trans ready.network⟩
          · simp only [failed, if_false]
            exact continued _ ⟨wrote.2.2 (by omega), wrote.2.1.trans ready.network⟩

theorem write_ready (data : Bytes) {world : HttpWorld} (ready : Ready world.client) :
    match accepted world.peer.writings data with
    | none => ∃ after, HttpClient.write strerror data world = .ok false after ∧ Unreported after.client
    | some left => ∃ after, HttpClient.write strerror data world = .ok true after ∧ Ready after.client ∧
        after.peer = { world.peer with writings := left } := by
  have wrote := writeLoop_ready strerror world.peer.writings data ready
  cases call : writeLoop strerror world.peer.writings data world.client with
  | mk result client =>
      have run : HttpClient.write strerror data world = .ok result.1
          { world with client := client, peer := { world.peer with writings := result.2 } } := by
        simp only [HttpClient.write, run_modifyGet_eq_ok, call]
      rw [call] at wrote
      cases left : accepted world.peer.writings data with
      | none =>
          rw [left] at wrote
          exact ⟨_, by rw [run, wrote.1], wrote.2⟩
      | some left' =>
          rw [left] at wrote
          obtain ⟨rfl, ready⟩ := wrote
          exact ⟨_, run, ready, rfl⟩

theorem writeAll_ready (pieces : List Bytes) {world : HttpWorld} (ready : Ready world.client) :
    (acceptedAll world.peer.writings pieces = false →
      ∃ after, writeAll strerror pieces world = .ok false after ∧ Unreported after.client) ∧
    (acceptedAll world.peer.writings pieces = true →
      ∃ after, writeAll strerror pieces world = .ok true after ∧ Ready after.client ∧
        after.peer.readings = world.peer.readings) := by
  induction pieces generalizing world with
  | nil => exact ⟨nofun, fun _ => ⟨world, rfl, ready, rfl⟩⟩
  | cons piece rest continued =>
      have wrote := write_ready strerror piece ready
      simp only [acceptedAll]
      cases left : accepted world.peer.writings piece with
      | none =>
          rw [left] at wrote
          obtain ⟨after, run, unreported⟩ := wrote
          refine ⟨fun _ => ⟨after, ?_, unreported⟩, nofun⟩
          simp only [writeAll, run_bind_eq_ok]
          exact ⟨false, after, run, rfl⟩
      | some writings =>
          rw [left] at wrote
          obtain ⟨between, run, ready, same⟩ := wrote
          have later := continued ready
          rw [same] at later
          constructor
          · intro refused
            obtain ⟨after, later, unreported⟩ := later.1 refused
            refine ⟨after, ?_, unreported⟩
            simp only [writeAll, run_bind_eq_ok]
            exact ⟨true, between, run, later⟩
          · intro taken
            obtain ⟨after, later, ready, readings⟩ := later.2 taken
            refine ⟨after, ?_, ready, readings⟩
            simp only [writeAll, run_bind_eq_ok]
            exact ⟨true, between, run, later⟩

theorem stop_eq (first second : HttpM Bool) :
    (do if !(← first) then return false else second : HttpM Bool) = (do if ← first then second else return false) := by
  funext world
  simp only [bind, EStateM.bind]
  cases first world with
  | error fault after => rfl
  | ok written after => cases written <;> rfl

theorem writeAll_singleton (data : Bytes) : writeAll strerror [data] = HttpClient.write strerror data := by
  funext world
  simp only [writeAll, bind, EStateM.bind]
  cases HttpClient.write strerror data world with
  | error fault after => rfl
  | ok written after => cases written <;> rfl

theorem writeAll_append (first second : List Bytes) :
    writeAll strerror (first ++ second) =
      (do if ← writeAll strerror first then writeAll strerror second else return false : HttpM Bool) := by
  induction first with
  | nil => rfl
  | cons piece rest continued =>
      funext world
      simp only [List.cons_append, writeAll, continued, bind, EStateM.bind]
      cases HttpClient.write strerror piece world with
      | error fault between => rfl
      | ok written between => cases written <;> rfl

theorem sendRequest_eq (method : Method) (url : Url) (headers : StringMap) (data : Bytes) :
    sendRequest strerror method url headers data = writeAll strerror (requestPieces method url headers data) := by
  simp only [sendRequest, stop_eq, requestPieces, List.cons_append, writeAll, writeAll_append]
  cases method.sendsBody with
  | false => rfl
  | true => simp only [if_true, writeAll_singleton]

/-! ## Reading the response -/

theorem readLoop_received (readings : List Reading) (parser : ResponseParser) {client : HttpClient}
    (isOpen : client.network.IsOpen) :
    outcome (readLoop platform strerror readings parser client) = received platform readings parser := by
  induction readings generalizing parser client with
  | nil =>
      simp only [readLoop, received]
      split
      · rfl
      · cases parser.feed platform [] <;> rfl
  | cons reading readings continued =>
      obtain ⟨taken, stays⟩ := NetworkImpl.read_isOpen strerror isOpen (10 * 1024) client.timeout reading
      simp only [readLoop, received]
      split
      · rfl
      · rcases call : client.network.read strerror (10 * 1024) client.timeout reading with ⟨⟨len, data⟩, network⟩
        simp only [call] at taken stays
        rw [← taken] at stays ⊢
        simp only
        split
        · cases parser.feed platform [] <;> rfl
        next positive =>
          cases parser.feed platform data with
          | error fault => rfl
          | ok parser => exact continued parser (stays (by simpa using positive))

def Rejected (parser : ResponseParser) (client : HttpClient) : Prop :=
  client.response.executeStatus = .parseError ∧ parser.error.isSome ∧ client.error = parser.error

theorem readResponse_rejected {before after : HttpWorld} (isOpen : before.client.network.IsOpen)
    (run : readResponse platform strerror before = .ok false after) :
    ∃ parser, received platform before.peer.readings {} = .ok parser ∧ Rejected parser after.client := by
  have read := readLoop_received platform strerror before.peer.readings {} isOpen
  simp only [readResponse] at run
  split at run
  · cases run
  next parser readings client loop =>
    rw [loop] at read
    split at run
    next failed =>
      cases run
      exact ⟨parser, read.symm, rfl, failed, rfl⟩
    next => cases run

theorem exchange_refused (request : Request) (url : Url) {world : HttpWorld} (ready : Ready world.client)
    (refused : acceptedAll world.peer.writings (requestPieces request.method url request.headers request.data) = false) :
    ∃ after, exchange platform strerror request url world = .ok () after ∧ Unreported after.client := by
  obtain ⟨sent, send, unreported⟩ := (writeAll_ready strerror _ ready).1 refused
  rw [← sendRequest_eq] at send
  refine ⟨{ sent with client := { sent.client with network := sent.client.network.close } }, ?_, unreported.1, unreported.2⟩
  simp only [exchange, run_bind_eq_ok]
  exact ⟨false, sent, send, rfl⟩

theorem exchange_taken {request : Request} {url : Url} {world after : HttpWorld} (ready : Ready world.client)
    (taken : acceptedAll world.peer.writings (requestPieces request.method url request.headers request.data) = true)
    (run : exchange platform strerror request url world = .ok () after)
    (failed : after.client.response.executeStatus ≠ .success) :
    ∃ parser, received platform world.peer.readings {} = .ok parser ∧ Rejected parser after.client := by
  obtain ⟨sent, send, ready, readings⟩ := (writeAll_ready strerror _ ready).2 taken
  rw [← sendRequest_eq] at send
  simp only [exchange, run_bind_eq_ok] at run
  obtain ⟨_, between, send', run⟩ := run
  rw [send] at send'
  cases send'
  simp only [Bool.not_true, Bool.false_eq_true, if_false, run_bind_eq_ok] at run
  obtain ⟨received, read, receive, run⟩ := run
  cases received with
  | false =>
      have rejected := readResponse_rejected platform strerror ready.isOpen receive
      simp only [Bool.not_false, if_true, updateNetwork, run_modify_eq_ok] at run
      rw [← run, ← readings]
      exact rejected
  | true =>
      simp only [Bool.not_true, Bool.false_eq_true, if_false, run_bind_eq_ok] at run
      obtain ⟨_, closed, -, run⟩ := run
      simp only [updateResponse, run_modify_eq_ok] at run
      rw [← run] at failed
      exact absurd rfl failed

end HttpClient

/-! ## Connecting -/

theorem Connection.fail_shown (connection : Connection) (strerror : Int → Bytes) {func : String}
    (named : bytes func ≠ []) (ret : Int) :
    (connection.fail strerror func ret).lastError.shown =
      connection.lastError.shown.set (HttpClient.failureText strerror (func, ret)) := by
  have taken : (⟨.ofInt ret, strerror ret, bytes func, []⟩ : Status).isOK = false := by
    simp [Status.isOK, named]
  by_cases ok : connection.lastError.isOK = true
  · rw [Connection.fail, Status.set_of_isOK ok, Status.shown, Status.shown, taken, ok]
    rfl
  · rw [Connection.fail, Status.set_of_not_isOK ok]
    simp only [Status.shown, ok]
    rfl

section Connect

variable (strerror : Int → Bytes)

theorem TcpConnection.connect_shown {tcp : TcpConnection} (ret : Int) (disconnected : tcp.connected = false) :
    if ret = 0 then (tcp.connect strerror ret).1 = 0
    else (tcp.connect strerror ret).1 ≠ 0 ∧ (tcp.connect strerror ret).2.lastError.shown =
      tcp.lastError.shown.set (HttpClient.failureText strerror ("mbedtls_net_connect", ret)) := by
  simp only [TcpConnection.connect, disconnected, Bool.false_eq_true, if_false]
  by_cases made : ret = 0
  · simp [made]
  · simp only [made, if_false, ne_eq, not_false_eq_true, if_true, true_and]
    exact Connection.fail_shown _ strerror (by simp [bytes]) ret

theorem TlsConnection.connect_shown {tls : TlsConnection} (attempt : Attempt) (disconnected : tls.connected = false) :
    match attempt.failure tls.rngSeeded tls.caChain with
    | none => (tls.connect strerror attempt).1 = 0
    | some failure => (tls.connect strerror attempt).1 ≠ 0 ∧ (tls.connect strerror attempt).2.lastError.shown =
        tls.lastError.shown.set (HttpClient.failureText strerror failure) := by
  rcases connect_cases strerror attempt disconnected with ⟨failure, ops, rngSeeded, exit, run⟩ | ⟨established, run⟩
  · rw [exit.failure, run]
    exact ⟨exit.ret_ne_zero, Connection.fail_shown _ strerror exit.named failure.2⟩
  · rw [established.failure, run]

end Connect

namespace NetworkImpl

theorem close_lastError (network : NetworkImpl) :
    network.close.tcp.lastError = network.tcp.lastError ∧ network.close.tls.lastError = network.tls.lastError ∧
      network.close.tls.rngSeeded = network.tls.rngSeeded ∧ network.close.tls.caChain = network.tls.caChain ∧
      network.close.error = network.error := by
  rcases current : network.connection with _ | _ | _
  · simp [NetworkImpl.close, current]
  · simp only [NetworkImpl.close, current, TcpConnection.close, TcpConnection.closeConnection]
    split <;> simp [Connection.calls]
  · simp only [NetworkImpl.close, current, TlsConnection.close, TlsConnection.closeConnection]
    split <;> simp [Connection.calls]

end NetworkImpl

namespace HttpClient

variable (platform : Platform) (strerror : Int → Bytes) {client : HttpClient} {request : Request} {url : Url}

theorem connectTo_hindered (peer : Peer) (consistent : client.network.Consistent) (valid : request.url = some url)
    (known : methodToString request.method ≠ "") :
    match hindrance strerror client request peer with
    | some (held, message) => (client.network.connectTo strerror url peer.attempt).1 = false ∧
        (client.network.connectTo strerror url peer.attempt).2.error = held.set message
    | none => (client.network.connectTo strerror url peer.attempt).1 = true ∧
        (client.network.connectTo strerror url peer.attempt).2.error = none := by
  obtain ⟨-, tcp, tls⟩ := consistent.close
  obtain ⟨tcpError, tlsError, rngSeeded, caChain, error⟩ := client.network.close_lastError
  simp only [hindrance, valid, known, if_false, NetworkImpl.connectTo]
  cases scheme : url.scheme with
  | http =>
      have made := @TcpConnection.connect_shown strerror
        ⟨{ client.network.close.tcp.toConnection with addr := ⟨url.host, url.port⟩ }⟩ peer.attempt.connect tcp
      by_cases connect : peer.attempt.connect = 0
      · simp only [connect, if_true] at made ⊢
        simp [made]
      · simp only [connect, if_false, tcpError] at made ⊢
        simp [made]
  | https =>
      have made := @TlsConnection.connect_shown strerror
        { client.network.close.tls with
          toConnection := { client.network.close.tls.toConnection with addr := ⟨url.host, url.port⟩ } } peer.attempt tls
      rw [← rngSeeded, ← caChain, ← tlsError]
      cases failure : peer.attempt.failure client.network.close.tls.rngSeeded client.network.close.tls.caChain with
      | none =>
          simp only [failure] at made
          simp [made]
      | some failure' =>
          simp only [failure] at made
          simp [made]
  | other name => exact ⟨rfl, by simp only [error]⟩

theorem connectTo_isOpen {peer : Peer} (consistent : client.network.Consistent)
    (made : (client.network.connectTo strerror url peer.attempt).1 = true) :
    (client.network.connectTo strerror url peer.attempt).2.IsOpen := by
  have consistent := (consistent.connectTo strerror url peer.attempt).1
  have current : (client.network.connectTo strerror url peer.attempt).2.connection ≠ none := by
    revert made
    simp only [NetworkImpl.connectTo]
    cases url.scheme with
    | http => simp only; split <;> simp
    | https => simp only; split <;> simp
    | other name => simp
  generalize (client.network.connectTo strerror url peer.attempt).2 = network at consistent current
  rcases is : network.connection with _ | _ | _
  · exact absurd is current
  · simp only [NetworkImpl.Consistent, is] at consistent
    exact ⟨.tcp, is, consistent.1⟩
  · simp only [NetworkImpl.Consistent, is] at consistent
    exact ⟨.tls, is, consistent.2⟩

theorem asked_ready {peer : Peer} (consistent : client.network.Consistent) (valid : request.url = some url)
    (known : methodToString request.method ≠ "") (made : (client.network.connectTo strerror url peer.attempt).1 = true) :
    Ready (asked strerror url client peer).client := by
  refine ⟨connectTo_isOpen strerror consistent made, ?_⟩
  have connect := connectTo_hindered strerror peer consistent valid known
  cases hindered : hindrance strerror client request peer with
  | none =>
      rw [hindered] at connect
      exact connect.2
  | some held =>
      rw [hindered] at connect
      exact absurd (made.symm.trans connect.1) (by decide)

theorem execute_hindered (peer : Peer) (consistent : client.network.Consistent) {held : IotClient.Status} {message : Bytes}
    (hindered : hindrance strerror client request peer = some (held, message)) :
    ∃ after, execute platform strerror request ⟨client, peer⟩ = .ok () after ∧
      after.client.response.executeStatus ≠ .success ∧ after.client.error = held.set message := by
  rcases execute_cases platform request client peer with
    ⟨invalid, run⟩ | ⟨⟨url, valid⟩, unknown, run⟩ | ⟨url, valid, known, ⟨refused, run⟩ | ⟨made, run⟩⟩
  · simp only [hindrance, invalid, Option.some.injEq, Prod.mk.injEq] at hindered
    obtain ⟨rfl, rfl⟩ := hindered
    exact ⟨_, run, by simp, rfl⟩
  · simp only [hindrance, valid, unknown, if_true, Option.some.injEq, Prod.mk.injEq] at hindered
    obtain ⟨rfl, rfl⟩ := hindered
    exact ⟨_, run, by simp, rfl⟩
  · have connect := connectTo_hindered strerror peer consistent valid known
    rw [hindered] at connect
    exact ⟨_, run, by simp [networkFailed], connect.2⟩
  · have connect := connectTo_hindered strerror peer consistent valid known
    rw [hindered] at connect
    exact absurd (made.symm.trans connect.1) (by decide)

theorem execute_connected (peer : Peer) (consistent : client.network.Consistent)
    (free : hindrance strerror client request peer = none) :
    ∃ url, request.url = some url ∧ Ready (asked strerror url client peer).client ∧
      execute platform strerror request ⟨client, peer⟩ =
        exchange platform strerror request url (asked strerror url client peer) := by
  rcases execute_cases platform request client peer with
    ⟨invalid, run⟩ | ⟨⟨url, valid⟩, unknown, run⟩ | ⟨url, valid, known, ⟨refused, run⟩ | ⟨made, run⟩⟩
  · simp [hindrance, invalid] at free
  · simp [hindrance, valid, unknown] at free
  · have connect := connectTo_hindered strerror peer consistent valid known
    rw [free] at connect
    exact absurd (refused.symm.trans connect.1) (by decide)
  · exact ⟨url, valid, asked_ready strerror consistent valid known made, run⟩

theorem Unreported.not_describes {peer : Peer} {after : HttpClient} (unreported : Unreported after) :
    ¬Describes platform request peer after := by
  simp only [Describes, unreported.status, unreported.error]
  rintro ⟨url, transport, -, -, failed, shown⟩
  simp [Status.shown, failed] at shown

theorem attributes_iff (peer : Peer) (consistent : client.network.Consistent) :
    Attributes platform strerror client request peer ↔ Attributable strerror client request peer := by
  cases hindered : hindrance strerror client request peer with
  | some hindrance =>
      obtain ⟨held, message⟩ := hindrance
      obtain ⟨after, run, failed, error⟩ := execute_hindered platform strerror peer consistent hindered
      simp only [Attributes, Attributable, hindered, run, EStateM.Result.ok.injEq, true_and]
      have own : after.client.error = some message ↔ held = none ∨ held = some message := by
        rw [error]
        cases held <;> simp [IotClient.Status.set]
      rw [← own]
      exact ⟨fun attributes => attributes after rfl failed, fun attributes _ same _ => same ▸ attributes⟩
  | none =>
      obtain ⟨url, valid, ready, run⟩ := execute_connected platform strerror peer consistent hindered
      simp only [Attributes, Attributable, hindered, run, valid, Option.some.injEq, forall_eq']
      constructor
      · intro attributes
        refine Decidable.byContradiction fun refused => ?_
        obtain ⟨after, run, unreported⟩ := exchange_refused platform strerror request url ready
          (eq_false_of_ne_true refused)
        refine unreported.not_describes platform (attributes after run ?_)
        simp [unreported.status]
      · intro taken after run failed
        obtain ⟨parser, received, status, error, same⟩ := exchange_taken platform strerror ready taken run failed
        simp only [Describes, status]
        exact ⟨parser, received, error, same⟩

theorem execute_attributes_iff (history : List HttpCall) (request : Request) (peer : Peer) :
    Attributes platform strerror (HttpClient.new.run platform strerror history) request peer ↔
      Attributable strerror (HttpClient.new.run platform strerror history) request peer :=
  attributes_iff platform strerror peer (run_consistent platform strerror new_consistent history)

/-- The first write fails, and the client has nothing to report. -/
theorem not_attributes_write :
    ¬Attributes linkedPlatform (fun _ => []) (HttpClient.new.run linkedPlatform (fun _ => []) []) (getRequest "http://h/")
      ⟨⟨0, 0, 0, 0, 0⟩, [.failed (-1) (by decide)], []⟩ := by
  rw [attributes_iff _ _ _ (run_consistent linkedPlatform _ new_consistent [])]
  have free : hindrance (fun _ => []) (HttpClient.new.run linkedPlatform (fun _ => []) []) (getRequest "http://h/")
      ⟨⟨0, 0, 0, 0, 0⟩, [.failed (-1) (by decide)], []⟩ = none := by decide +kernel
  simp only [Attributable, free]
  intro taken
  have valid : (getRequest "http://h/").url = some ⟨.http, bytes "h", bytes "80", bytes "/"⟩ := by decide +kernel
  exact absurd (taken _ valid) (by decide +kernel)

end HttpClient

end IotClient.Net
