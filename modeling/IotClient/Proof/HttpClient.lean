import IotClient.Model.HttpParser
import IotClient.Proof.Commands
import IotClient.Proof.Net
import IotClient.Spec.HttpClient

namespace IotClient.Net

open Logic

/-! ## Which connections are open -/

theorem TlsConnection.close_connected (tls : TlsConnection) : tls.close.connected = false :=
  closeConnection_closes.connected _

theorem TcpConnection.close_connected (tcp : TcpConnection) : tcp.close.connected = false :=
  closeConnection_closes.connected _

section Connect

variable (strerror : Int → Bytes)

theorem TcpConnection.connect_connected (ret : Int) {tcp : TcpConnection} (disconnected : tcp.connected = false) :
    (tcp.connect strerror ret).2.connected = true ↔ (tcp.connect strerror ret).1 = 0 := by
  simp only [TcpConnection.connect, disconnected, Bool.false_eq_true, if_false]
  split
  next failed => simp [Connection.fail, Connection.calls, disconnected, failed]
  next => simp [Connection.established]

theorem TlsConnection.connect_connected (attempt : Attempt) {tls : TlsConnection} (disconnected : tls.connected = false) :
    (tls.connect strerror attempt).2.connected = true ↔ (tls.connect strerror attempt).1 = 0 := by
  rcases connect_cases strerror attempt disconnected with ⟨failure, ops, _, exit, connect⟩ | ⟨-, connect⟩
  · rw [connect]
    simp [Connection.fail, Connection.calls, disconnected, exit.ret_ne_zero]
  · rw [connect]
    simp [Connection.established]

end Connect

namespace NetworkImpl

variable {strerror : Int → Bytes} {network : NetworkImpl}

theorem Closed.consistent (closed : network.Closed) : network.Consistent := by
  rw [Consistent, closed.1]
  exact closed.2

theorem Consistent.closed (consistent : network.Consistent) (none : network.connection = none) : network.Closed := by
  rw [Consistent, none] at consistent
  exact ⟨none, consistent⟩

theorem Consistent.close (consistent : network.Consistent) : network.close.Closed := by
  cases current : network.connection with
  | none =>
      rw [NetworkImpl.close, current]
      exact consistent.closed current
  | some transport =>
      simp only [Consistent, current] at consistent
      cases transport <;> simp only [NetworkImpl.close, current]
      · exact ⟨rfl, TcpConnection.close_connected _, consistent.2⟩
      · exact ⟨rfl, consistent.1, TlsConnection.close_connected _⟩

theorem Consistent.tcp (consistent : network.Consistent) (current : network.connection = some .tcp)
    (tcp : TcpConnection) :
    { network with tcp := tcp, connection := stillConnected .tcp tcp.toConnection }.Consistent := by
  simp only [Consistent, current] at consistent
  cases connected : tcp.connected <;> simp [Consistent, stillConnected, connected, consistent.2]

theorem Consistent.tls (consistent : network.Consistent) (current : network.connection = some .tls)
    (tls : TlsConnection) :
    { network with tls := tls, connection := stillConnected .tls tls.toConnection }.Consistent := by
  simp only [Consistent, current] at consistent
  cases connected : tls.connected <;> simp [Consistent, stillConnected, connected, consistent.1]

theorem Consistent.connectTo (consistent : network.Consistent) (strerror : Int → Bytes) (url : Url) (attempt : Attempt) :
    (network.connectTo strerror url attempt).2.Consistent ∧
      ((network.connectTo strerror url attempt).1 = false →
        (network.connectTo strerror url attempt).2.connection = none) := by
  obtain ⟨none, tcp, tls⟩ := consistent.close
  simp only [NetworkImpl.connectTo]
  cases url.scheme with
  | http =>
      have made := @TcpConnection.connect_connected strerror attempt.connect
        ⟨{ network.close.tcp.toConnection with addr := ⟨url.host, url.port⟩ }⟩ tcp
      simp only
      split
      next failed => exact ⟨⟨by simpa [failed] using made, tls⟩, fun _ => rfl⟩
      next succeeded => exact ⟨⟨made.2 (by simpa using succeeded), tls⟩, nofun⟩
  | https =>
      have made := @TlsConnection.connect_connected strerror attempt
        { network.close.tls with toConnection := { network.close.tls.toConnection with addr := ⟨url.host, url.port⟩ } } tls
      simp only
      split
      next failed => exact ⟨⟨tcp, by simpa [failed] using made⟩, fun _ => rfl⟩
      next succeeded => exact ⟨⟨tcp, made.2 (by simpa using succeeded)⟩, nofun⟩
  | other name => exact ⟨Closed.consistent ⟨none, tcp, tls⟩, fun _ => none⟩

theorem Consistent.perform (consistent : network.Consistent) (call : NetworkCall) :
    (network.perform strerror call).Consistent := by
  cases call with
  | setX509CaChain =>
      simp only [Consistent, NetworkImpl.perform, NetworkImpl.setX509CaChain] at consistent ⊢
      exact consistent
  | connectTo url attempt => exact (consistent.connectTo strerror url attempt).1
  | close => exact consistent.close.consistent
  | read len timeoutMillisec reading =>
      cases current : network.connection with
      | none =>
          simp only [NetworkImpl.perform, NetworkImpl.read, current]
          exact ⟨(consistent.closed current).2.1, (consistent.closed current).2.2⟩
      | some transport =>
          cases transport <;> simp only [NetworkImpl.perform, NetworkImpl.read, current]
          · exact consistent.tcp current _
          · exact consistent.tls current _
  | write data timeoutMillisec writing =>
      cases current : network.connection with
      | none =>
          simp only [NetworkImpl.perform, NetworkImpl.write, current]
          exact ⟨(consistent.closed current).2.1, (consistent.closed current).2.2⟩
      | some transport =>
          cases transport <;> simp only [NetworkImpl.perform, NetworkImpl.write, current]
          · exact consistent.tcp current _
          · exact consistent.tls current _

theorem Consistent.run (consistent : network.Consistent) (calls : List NetworkCall) :
    (network.run strerror calls).Consistent := by
  induction calls generalizing network with
  | nil => exact consistent
  | cons call calls continued => exact continued (consistent.perform call)

end NetworkImpl

/-! ## What is written to a connection -/

def Op.isTraffic : Op → Bool
  | .setSendTimeout _ | .netSend _ _ | .sslWrite _ _ | .sslRead _ | .netRecvTimeout _ _ => true
  | _ => false

def Steady (isOpen : List Op → Bool) : Prop :=
  ∀ op ops, op.isTraffic = true → isOpen (op :: ops) = isOpen ops

def Guarded (isOpen : List Op → Bool) (start : List Op) (connection : Connection) : Prop :=
  ∃ ops, connection.trace = ops ++ start ∧ WritesInto isOpen ops ∧ (connection.connected = true → isOpen ops = true)

theorem writesInto_quiet {isOpen : List Op → Bool} {ops : List Op} (writes : WritesInto isOpen ops) {more : List Op}
    (quiet : ∀ op ∈ more, op.isWrite = false) : WritesInto isOpen (more ++ ops) := by
  induction more with
  | nil => exact writes
  | cons op more continued =>
      simp only [List.mem_cons, forall_eq_or_imp] at quiet
      exact ⟨fun write => by simp [quiet.1] at write, continued quiet.2⟩

namespace Guarded

variable {isOpen : List Op → Bool} {start : List Op} {connection : Connection}

theorem same {other : Connection} (guarded : Guarded isOpen start connection) (trace : other.trace = connection.trace)
    (connected : other.connected = connection.connected) : Guarded isOpen start other := by
  obtain ⟨ops, is, writes, opened⟩ := guarded
  exact ⟨ops, trace.trans is, writes, fun now => opened (connected.symm.trans now)⟩

theorem traffic (steady : Steady isOpen) (guarded : Guarded isOpen start connection)
    (connected : connection.connected = true) {calls : List Op} (traffic : ∀ op ∈ calls, op.isTraffic = true) :
    Guarded isOpen start (connection.calls calls) := by
  obtain ⟨ops, is, writes, opened⟩ := guarded
  have isNow := opened connected
  clear opened connected
  induction calls generalizing connection ops with
  | nil => exact ⟨ops, is, writes, fun _ => isNow⟩
  | cons op calls continued =>
      simp only [List.mem_cons, forall_eq_or_imp] at traffic
      have next := @continued (connection.calls [op]) traffic.2 (op :: ops) (by simp [Connection.calls, is])
        ⟨fun _ => isNow, writes⟩ ((steady op ops traffic.1).trans isNow)
      exact next.same (by simp [Connection.calls]) rfl

theorem quiet (guarded : Guarded isOpen start connection) (calls : List Op) {after : Connection}
    (trace : after.trace = calls ++ connection.trace) (quiet : ∀ op ∈ calls, op.isWrite = false)
    (closed : after.connected = false) : Guarded isOpen start after := by
  obtain ⟨ops, is, writes, -⟩ := guarded
  refine ⟨calls ++ ops, by rw [trace, is, List.append_assoc], writesInto_quiet writes quiet, ?_⟩
  intro connected
  rw [closed] at connected
  cases connected

theorem readFailed {strerror : Int → Bytes} {func : String} {close : Connection → Connection} {ret : Int}
    (closes : ∀ {connection}, Guarded isOpen start connection → Guarded isOpen start (close connection))
    (guarded : Guarded isOpen start connection) :
    Guarded isOpen start (connection.readFailed strerror func close ret) := by
  rw [Connection.readFailed]
  split
  · exact guarded.same rfl rfl
  · exact closes (guarded.same rfl rfl)

end Guarded

section Traffic

variable {isOpen : List Op → Bool} {start : List Op} (steady : Steady isOpen) {strerror : Int → Bytes}

theorem TcpConnection.closeConnection_guarded {connection : Connection} (guarded : Guarded isOpen start connection) :
    Guarded isOpen start (closeConnection connection) := by
  rw [closeConnection]
  split
  · exact guarded
  · exact guarded.quiet [.netFree] rfl (by decide) rfl

theorem TlsConnection.closeConnection_guarded {connection : Connection} (guarded : Guarded isOpen start connection) :
    Guarded isOpen start (closeConnection connection) := by
  rw [closeConnection]
  split
  · exact guarded
  · exact guarded.quiet [.sslFree, .netFree, .sslCloseNotify] rfl (by decide) rfl

include steady

theorem TcpConnection.read_guarded {tcp : TcpConnection} {len : Nat} {timeoutMillisec : Int} {reading : Reading}
    (guarded : Guarded isOpen start tcp.toConnection) :
    Guarded isOpen start (tcp.read strerror len timeoutMillisec reading).2.toConnection := by
  simp only [TcpConnection.read]
  split
  · exact guarded.same rfl rfl
  next connected =>
    have noted : ∀ ret, Guarded isOpen start (noteRead timeoutMillisec ret { tcp.toConnection with timedOut := false }) :=
      fun ret => @Guarded.traffic _ _ { tcp.toConnection with timedOut := false } steady (guarded.same rfl rfl)
        (by simpa using connected) [.netRecvTimeout timeoutMillisec ret] (by simp [Op.isTraffic])
    simp only
    split
    · exact (noted _).readFailed closeConnection_guarded
    · exact noted _

theorem TlsConnection.read_guarded {tls : TlsConnection} {len : Nat} {reading : Reading}
    (guarded : Guarded isOpen start tls.toConnection) :
    Guarded isOpen start (tls.read strerror len reading).2.toConnection := by
  simp only [TlsConnection.read]
  split
  · exact guarded.same rfl rfl
  next connected =>
    have noted : ∀ ret, Guarded isOpen start (noteRead ret { tls.toConnection with timedOut := false }) :=
      fun ret => @Guarded.traffic _ _ { tls.toConnection with timedOut := false } steady (guarded.same rfl rfl)
        (by simpa using connected) [.sslRead ret] (by simp [Op.isTraffic])
    simp only
    split
    · exact (noted _).readFailed closeConnection_guarded
    · exact noted _

theorem TcpConnection.write_guarded {tcp : TcpConnection} {data : Bytes} {timeoutMillisec : Int} {writing : Writing}
    (guarded : Guarded isOpen start tcp.toConnection) :
    Guarded isOpen start (tcp.write strerror data timeoutMillisec writing).2.toConnection := by
  simp only [TcpConnection.write]
  split
  · exact guarded.same rfl rfl
  next connected =>
    split
    · exact guarded
    · have wrote : ∀ ops : List Op, (∀ op ∈ ops, op.isTraffic = true) → Guarded isOpen start (tcp.calls ops) :=
        fun ops traffic => guarded.traffic steady (by simpa using connected) traffic
      cases writing with
      | failed code nonpositive =>
          refine closeConnection_guarded ((wrote [.setSendTimeout timeoutMillisec, .netSend data code] ?_).same rfl rfl)
          simp [Op.isTraffic]
      | wrote more =>
          refine (wrote [.setSendTimeout timeoutMillisec, .netSend data (min (more + 1) data.length : Nat),
            .setSendTimeout 0] ?_).same rfl rfl
          simp [Op.isTraffic]

theorem TlsConnection.write_guarded {tls : TlsConnection} {data : Bytes} {timeoutMillisec : Int} {writing : Writing}
    (guarded : Guarded isOpen start tls.toConnection) :
    Guarded isOpen start (tls.write strerror data timeoutMillisec writing).2.toConnection := by
  simp only [TlsConnection.write]
  split
  · exact guarded.same rfl rfl
  next connected =>
    split
    · exact guarded
    · have wrote : ∀ ops : List Op, (∀ op ∈ ops, op.isTraffic = true) → Guarded isOpen start (tls.calls ops) :=
        fun ops traffic => guarded.traffic steady (by simpa using connected) traffic
      cases writing with
      | failed code nonpositive =>
          refine closeConnection_guarded ((wrote [.setSendTimeout timeoutMillisec, .sslWrite data code] ?_).same rfl rfl)
          simp [Op.isTraffic]
      | wrote more =>
          refine (wrote [.setSendTimeout timeoutMillisec, .sslWrite data (min (more + 1) data.length : Nat),
            .setSendTimeout 0] ?_).same rfl rfl
          simp [Op.isTraffic]

end Traffic

theorem openFor_steady (url : Option Url) (transport : Transport) : Steady (openFor url transport) := by
  intro op ops traffic
  cases url with
  | none => rfl
  | some url => cases transport <;> cases op <;> first | rfl | cases traffic

/-! ## Connecting -/

section Connecting

variable {start : List Op} {connection : Connection} (strerror : Int → Bytes) {url : Url}

theorem TcpConnection.connect_guarded {tcp : TcpConnection} (scheme : url.scheme = .http) (ret : Int)
    (guarded : Guarded (openFor (some url) .tcp) start tcp.toConnection) (disconnected : tcp.connected = false)
    (addr : tcp.addr = ⟨url.host, url.port⟩) :
    Guarded (openFor (some url) .tcp) start (tcp.connect strerror ret).2.toConnection := by
  simp only [TcpConnection.connect, disconnected, Bool.false_eq_true, if_false]
  split
  · exact guarded.quiet [.netFree, .netConnect (cString tcp.addr.host) (cString tcp.addr.port) ret, .netInit] rfl
      (by simp [Op.isWrite]) disconnected
  next succeeded =>
    obtain ⟨ops, is, writes, -⟩ := guarded
    refine ⟨[.netConnect (cString tcp.addr.host) (cString tcp.addr.port) ret, .netInit] ++ ops, ?_, ?_, fun _ => ?_⟩
    · simp [Connection.established, Connection.calls, is]
    · exact writesInto_quiet writes (by simp [Op.isWrite])
    · have zero : ret = 0 := by simpa using succeeded
      simp [openFor, dialled, scheme, addr, zero]

theorem TlsConnection.named_quiet (attempt : Attempt) (tls : TlsConnection) :
    ∀ op ∈ tls.named attempt, op.isWrite = false := by
  rw [TlsConnection.named]
  split <;> simp [Op.isWrite]

theorem Exit.quiet {attempt : Attempt} {tls : TlsConnection} {failure : String × Int} {ops : List Op}
    (exit : Exit attempt tls failure ops) : ∀ op ∈ ops, op.isWrite = false := by
  have named := tls.named_quiet attempt
  intro op member
  cases exit <;> simp [Attempt.started, TlsConnection.dials] at member <;> grind [Op.isWrite]

theorem TlsConnection.connect_guarded {tls : TlsConnection} (scheme : url.scheme = .https) (attempt : Attempt)
    (guarded : Guarded (openFor (some url) .tls) start tls.toConnection) (disconnected : tls.connected = false)
    (addr : tls.addr = ⟨url.host, url.port⟩) :
    Guarded (openFor (some url) .tls) start (tls.connect strerror attempt).2.toConnection := by
  rcases connect_cases strerror attempt disconnected with ⟨failure, ops, _, exit, connect⟩ | ⟨established, connect⟩
  · rw [connect]
    exact guarded.quiet ops.reverse rfl (by simpa using exit.quiet) disconnected
  · rw [connect]
    obtain ⟨ops, is, writes, -⟩ := guarded
    refine ⟨(attempt.started ++ tls.named attempt ++ tls.dials attempt ++
      [Op.sslSetBio, Op.sslHandshake attempt.handshake]).reverse ++ ops, ?_, ?_, fun _ => ?_⟩
    · simp [Connection.established, Connection.calls, is]
    · have named := tls.named_quiet attempt
      refine writesInto_quiet writes fun op member => ?_
      simp [Attempt.started, TlsConnection.dials] at member
      grind [Op.isWrite]
    · simp [openFor, secured, Net.dialled, TlsConnection.dials, scheme, addr, established.connect, established.handshake]

end Connecting

/-! ## The calls that a request makes -/

def Confined (url : Option Url) (start network : NetworkImpl) : Prop :=
  ∀ transport, Guarded (openFor url transport) (start.connectionOf transport).trace (network.connectionOf transport)

theorem Confined.writesOnly {url : Option Url} {start network : NetworkImpl} (confined : Confined url start network) :
    WritesOnly url start network := by
  intro transport
  obtain ⟨ops, is, writes, -⟩ := confined transport
  exact ⟨ops, is, writes⟩

def NetworkCall.isTraffic : NetworkCall → Bool
  | .close | .read _ _ _ | .write _ _ _ => true
  | _ => false

section Calls

variable {strerror : Int → Bytes} {url : Option Url} {start network : NetworkImpl}

theorem Confined.perform (confined : Confined url start network) {call : NetworkCall} (traffic : call.isTraffic = true) :
    Confined url start (network.perform strerror call) := by
  have tcp := confined .tcp
  have tls := confined .tls
  cases call with
  | setX509CaChain => cases traffic
  | connectTo url attempt => cases traffic
  | close =>
      cases current : network.connection with
      | none => simpa only [NetworkImpl.perform, NetworkImpl.close, current] using confined
      | some transport =>
          cases transport <;> simp only [NetworkImpl.perform, NetworkImpl.close, current] <;> rintro (_ | _)
          · exact TcpConnection.closeConnection_guarded tcp
          · exact tls
          · exact tcp
          · exact TlsConnection.closeConnection_guarded tls
  | read len timeoutMillisec reading =>
      cases current : network.connection with
      | none =>
          simp only [NetworkImpl.perform, NetworkImpl.read, current]
          rintro (_ | _)
          · exact tcp
          · exact tls
      | some transport =>
          cases transport <;> simp only [NetworkImpl.perform, NetworkImpl.read, current] <;> rintro (_ | _)
          · exact TcpConnection.read_guarded (openFor_steady _ _) tcp
          · exact tls
          · exact tcp
          · exact TlsConnection.read_guarded (openFor_steady _ _) tls
  | write data timeoutMillisec writing =>
      cases current : network.connection with
      | none =>
          simp only [NetworkImpl.perform, NetworkImpl.write, current]
          rintro (_ | _)
          · exact tcp
          · exact tls
      | some transport =>
          cases transport <;> simp only [NetworkImpl.perform, NetworkImpl.write, current] <;> rintro (_ | _)
          · exact TcpConnection.write_guarded (openFor_steady _ _) tcp
          · exact tls
          · exact tcp
          · exact TlsConnection.write_guarded (openFor_steady _ _) tls

theorem Confined.run (confined : Confined url start network) {calls : List NetworkCall}
    (traffic : ∀ call ∈ calls, call.isTraffic = true) : Confined url start (network.run strerror calls) := by
  induction calls generalizing network with
  | nil => exact confined
  | cons call calls continued =>
      simp only [List.mem_cons, forall_eq_or_imp] at traffic
      exact continued (confined.perform traffic.1) traffic.2

theorem confined_close (url : Option Url) (consistent : network.Consistent) : Confined url network network.close := by
  obtain ⟨-, tcp, tls⟩ := consistent.close
  have closed : ∀ (transport : Transport) (calls : List Op) {after : Connection},
      after.trace = calls ++ (network.connectionOf transport).trace → (∀ op ∈ calls, op.isWrite = false) →
      after.connected = false → Guarded (openFor url transport) (network.connectionOf transport).trace after := by
    intro transport calls after trace quiet closed
    refine ⟨calls, trace, ?_, fun connected => by simp [closed] at connected⟩
    simpa using @writesInto_quiet _ [] trivial _ quiet
  cases current : network.connection with
  | none =>
      simp only [NetworkImpl.close, current] at tcp tls ⊢
      rintro (_ | _)
      · exact closed .tcp [] rfl (by simp) tcp
      · exact closed .tls [] rfl (by simp) tls
  | some transport =>
      simp only [NetworkImpl.Consistent, current] at consistent
      cases transport <;> simp only [NetworkImpl.close, current] at tcp tls consistent ⊢ <;> rintro (_ | _)
      · refine closed .tcp [.netFree] ?_ (by decide) tcp
        simp [NetworkImpl.connectionOf, TcpConnection.close, TcpConnection.closeConnection, consistent.1, Connection.calls]
      · exact closed .tls [] rfl (by simp) tls
      · exact closed .tcp [] rfl (by simp) tcp
      · refine closed .tls [.sslFree, .netFree, .sslCloseNotify] ?_ (by decide) tls
        simp [NetworkImpl.connectionOf, TlsConnection.close, TlsConnection.closeConnection, consistent.2, Connection.calls]

theorem confined_connectTo (url : Url) (attempt : Attempt) (consistent : network.Consistent) :
    Confined (some url) network (network.connectTo strerror url attempt).2 := by
  obtain ⟨-, tcp, tls⟩ := consistent.close
  have confined := confined_close (some url) consistent
  simp only [NetworkImpl.connectTo]
  cases scheme : url.scheme with
  | http =>
      have made := @TcpConnection.connect_guarded (network.connectionOf .tcp).trace strerror url
        ⟨{ network.close.tcp.toConnection with addr := ⟨url.host, url.port⟩ }⟩ scheme attempt.connect
        ((confined .tcp).same rfl rfl) tcp rfl
      simp only
      split <;> rintro (_ | _)
      · exact made
      · exact confined .tls
      · exact made
      · exact confined .tls
  | https =>
      have made := @TlsConnection.connect_guarded (network.connectionOf .tls).trace strerror url
        { network.close.tls with toConnection := { network.close.tls.toConnection with addr := ⟨url.host, url.port⟩ } }
        scheme attempt ((confined .tls).same rfl rfl) tls rfl
      simp only
      split <;> rintro (_ | _)
      · exact confined .tcp
      · exact made
      · exact confined .tcp
      · exact made
  | other name =>
      rintro (_ | _)
      · exact confined .tcp
      · exact confined .tls

end Calls

/-! ## `Execute` -/

namespace HttpClient

variable (platform : Platform) (strerror : Int → Bytes)

def Afterwards (before after : NetworkImpl) : Prop :=
  ∃ calls : List NetworkCall, (∀ call ∈ calls, call.isTraffic = true) ∧ after = before.run strerror calls

theorem Afterwards.refl (network : NetworkImpl) : Afterwards strerror network network :=
  ⟨[], by simp, rfl⟩

variable {strerror}

theorem Afterwards.trans {first second third : NetworkImpl} (earlier : Afterwards strerror first second)
    (later : Afterwards strerror second third) : Afterwards strerror first third := by
  obtain ⟨calls, traffic, rfl⟩ := earlier
  obtain ⟨more, moreTraffic, rfl⟩ := later
  refine ⟨calls ++ more, ?_, by simp [NetworkImpl.run]⟩
  simp only [List.mem_append]
  exact fun call member => member.elim (traffic call) (moreTraffic call)

theorem Afterwards.call (network : NetworkImpl) {call : NetworkCall} (traffic : call.isTraffic = true) :
    Afterwards strerror network (network.perform strerror call) :=
  ⟨[call], by simpa using traffic, rfl⟩

instance : Following fun before after : HttpWorld =>
    Afterwards strerror before.client.network after.client.network where
  refl _ := .refl strerror _
  trans := Afterwards.trans

theorem writeLoop_afterwards (writings : List Writing) (data : Bytes) (client : HttpClient) :
    Afterwards strerror client.network (writeLoop strerror writings data client).2.network := by
  induction writings generalizing data client with
  | nil =>
      cases data with
      | nil => exact .refl strerror _
      | cons first more =>
          exact @Afterwards.call strerror client.network
            (.write (portion (first :: more)) client.timeout (.failed timeoutCode (by decide))) rfl
  | cons writing writings continued =>
      cases data with
      | nil => exact .refl strerror _
      | cons first more =>
          have wrote := @Afterwards.call strerror client.network
            (.write (portion (first :: more)) client.timeout writing) rfl
          simp only [writeLoop]
          split
          · exact wrote
          · exact wrote.trans (continued _ { client with network := _ })

theorem readLoop_afterwards (readings : List Reading) (parser : ResponseParser) (client : HttpClient) :
    Afterwards strerror client.network (last (readLoop platform strerror readings parser client)).2.network := by
  induction readings generalizing parser client with
  | nil =>
      simp only [readLoop]
      split
      · exact .refl strerror _
      · have read := @Afterwards.call strerror client.network
          (.read (10 * 1024) client.timeout (.failed timeoutCode (by decide))) rfl
        split <;> exact read
  | cons reading readings continued =>
      simp only [readLoop]
      split
      · exact .refl strerror _
      · have read := @Afterwards.call strerror client.network (.read (10 * 1024) client.timeout reading) rfl
        split
        · split <;> exact read
        · split
          · exact read
          · exact read.trans (continued _ { client with network := _ })

theorem write_keeps (data : Bytes) :
    Keeps (fun before after : HttpWorld => Afterwards strerror before.client.network after.client.network)
      (HttpClient.write strerror data) :=
  .modifyGet fun world => writeLoop_afterwards world.peer.writings data world.client

theorem writeAll_keeps (pieces : List Bytes) :
    Keeps (fun before after : HttpWorld => Afterwards strerror before.client.network after.client.network)
      (writeAll strerror pieces) := by
  induction pieces with
  | nil => exact .pure _
  | cons piece rest continued =>
      exact .bind (write_keeps piece) fun _ => .ite (fun _ => continued) fun _ => .pure _

theorem sendRequest_keeps (method : Method) (url : Url) (headers : StringMap) (data : Bytes) :
    Keeps (fun before after : HttpWorld => Afterwards strerror before.client.network after.client.network)
      (sendRequest strerror method url headers data) :=
  .bind (write_keeps _) fun _ => .ite (fun _ => .pure _) fun _ =>
    .bind (writeAll_keeps _) fun _ => .ite (fun _ => .pure _) fun _ =>
      .bind (write_keeps _) fun _ => .ite (fun _ => .pure _) fun _ =>
        .ite (fun _ => write_keeps _) fun _ => .pure _

theorem readResponse_keeps :
    Keeps (fun before after : HttpWorld => Afterwards strerror before.client.network after.client.network)
      (readResponse platform strerror) := by
  intro world
  have read := @readLoop_afterwards platform strerror world.peer.readings {} world.client
  simp only [readResponse]
  split
  next run =>
    rw [run] at read
    exact read
  next run =>
    rw [run] at read
    split <;> exact read

theorem close_keeps :
    Keeps (fun before after : HttpWorld => Afterwards strerror before.client.network after.client.network)
      (updateNetwork NetworkImpl.close) :=
  .modify fun world => @Afterwards.call strerror world.client.network .close rfl

theorem exchange_keeps (request : Request) (url : Url) :
    Keeps (fun before after : HttpWorld => Afterwards strerror before.client.network after.client.network)
      (exchange platform strerror request url) :=
  .bind (sendRequest_keeps _ _ _ _) fun _ => .ite (fun _ => close_keeps) fun _ =>
    .bind (readResponse_keeps platform) fun _ => .ite (fun _ => close_keeps) fun _ =>
      .bind close_keeps fun _ => .modify fun _ => .refl strerror _

theorem Afterwards.consistent {before after : NetworkImpl} (afterwards : Afterwards strerror before after)
    (consistent : before.Consistent) : after.Consistent := by
  obtain ⟨calls, -, rfl⟩ := afterwards
  exact consistent.run calls

theorem close_closed {before after : HttpWorld} (consistent : before.client.network.Consistent)
    (run : updateNetwork NetworkImpl.close before = .ok () after) : after.client.network.Closed := by
  simp only [updateNetwork, run_modify_eq_ok] at run
  rw [← run]
  exact consistent.close

theorem exchange_closed {request : Request} {url : Url} {before after : HttpWorld}
    (consistent : before.client.network.Consistent)
    (run : exchange platform strerror request url before = .ok () after) : after.client.network.Closed := by
  simp only [exchange, run_bind_eq_ok] at run
  obtain ⟨sent, between, send, run⟩ := run
  have consistent := ((sendRequest_keeps _ _ _ _).returns send).consistent consistent
  cases sent with
  | false => exact close_closed consistent run
  | true =>
      simp only [Bool.not_true, Bool.false_eq_true, if_false, run_bind_eq_ok] at run
      obtain ⟨received, read, receive, run⟩ := run
      have consistent := ((readResponse_keeps platform).returns receive).consistent consistent
      cases received with
      | false => exact close_closed consistent run
      | true =>
          simp only [Bool.not_true, Bool.false_eq_true, if_false, run_bind_eq_ok] at run
          obtain ⟨_, closed, close, run⟩ := run
          have closed := close_closed consistent close
          simp only [updateResponse, run_modify_eq_ok] at run
          rw [← run]
          exact closed

def asked (strerror : Int → Bytes) (url : Url) (client : HttpClient) (peer : Peer) : HttpWorld :=
  ⟨{ client with
      response := .reset
      network := (client.network.connectTo strerror url peer.attempt).2 }, peer⟩

theorem execute_cases (request : Request) (client : HttpClient) (peer : Peer) :
    (request.url = none ∧ execute platform strerror request ⟨client, peer⟩ =
        .ok () ⟨{ client with
          response := { Response.reset with executeStatus := .invalidUrl }
          error := client.error.set (Http.invalidUrl request.originalUrl) }, peer⟩) ∨
      ((∃ url, request.url = some url) ∧ methodToString request.method = "" ∧
        execute platform strerror request ⟨client, peer⟩ =
          .ok () ⟨{ client with
            response := { Response.reset with executeStatus := .invalidMethod }
            error := client.error.set (invalidMethod request.method) }, peer⟩) ∨
      ∃ url, request.url = some url ∧ methodToString request.method ≠ "" ∧
        (((client.network.connectTo strerror url peer.attempt).1 = false ∧
            execute platform strerror request ⟨client, peer⟩ =
              .ok () ⟨networkFailed (asked strerror url client peer).client, peer⟩) ∨
          ((client.network.connectTo strerror url peer.attempt).1 = true ∧
            execute platform strerror request ⟨client, peer⟩ =
              exchange platform strerror request url (asked strerror url client peer))) := by
  cases valid : request.url with
  | none =>
      refine .inl ⟨rfl, ?_⟩
      simp only [execute, valid]
      rfl
  | some url =>
      refine .inr ?_
      by_cases known : methodToString request.method = ""
      · refine .inl ⟨⟨url, rfl⟩, known, ?_⟩
        simp only [execute, valid, known, if_true]
        rfl
      · refine .inr ⟨url, rfl, known, ?_⟩
        have run : execute platform strerror request ⟨client, peer⟩ =
            (if !(client.network.connectTo strerror url peer.attempt).1 then
              modify fun world => { world with client := networkFailed world.client }
            else exchange platform strerror request url : HttpM Unit) (asked strerror url client peer) := by
          simp only [execute, valid, known, if_false]
          rfl
        cases made : (client.network.connectTo strerror url peer.attempt).1 with
        | false => exact .inl ⟨rfl, by rw [run, made]; rfl⟩
        | true => exact .inr ⟨rfl, by rw [run, made]; rfl⟩

variable (strerror)

theorem connectTo_refused {url : Url} {attempt : Attempt} {network : NetworkImpl} (consistent : network.Consistent)
    (refused : (network.connectTo strerror url attempt).1 = false) :
    (network.connectTo strerror url attempt).2.Closed := by
  obtain ⟨consistent, unset⟩ := consistent.connectTo strerror url attempt
  exact consistent.closed (unset refused)

theorem execute_network (request : Request) {client : HttpClient} (peer : Peer)
    (consistent : client.network.Consistent) :
    (Turned request ∧ ∃ after, execute platform strerror request ⟨client, peer⟩ = .ok () after ∧
        after.client.network = client.network) ∨
      ∃ url, request.url = some url ∧ ¬ Turned request ∧
        Afterwards strerror (client.network.connectTo strerror url peer.attempt).2
          (last (execute platform strerror request ⟨client, peer⟩)).client.network ∧
        ∀ after, execute platform strerror request ⟨client, peer⟩ = .ok () after → after.client.network.Closed := by
  rcases execute_cases platform request client peer with
    ⟨invalid, run⟩ | ⟨-, unknown, run⟩ | ⟨url, valid, known, ⟨refused, run⟩ | ⟨made, run⟩⟩
  · exact .inl ⟨.inl invalid, _, run, rfl⟩
  · exact .inl ⟨.inr unknown, _, run, rfl⟩
  · refine .inr ⟨url, valid, by simp [Turned, valid, known], ?_, ?_⟩
    · rw [run]
      exact .refl strerror _
    · rw [run]
      rintro after ⟨⟩
      exact connectTo_refused strerror consistent refused
  · refine .inr ⟨url, valid, by simp [Turned, valid, known], ?_, ?_⟩
    · rw [run]
      exact exchange_keeps platform request url (asked strerror url client peer)
    · intro after returned
      rw [run] at returned
      exact exchange_closed platform (consistent.connectTo strerror url peer.attempt).1 returned

theorem perform_consistent {client : HttpClient} (consistent : client.network.Consistent) (call : HttpCall) :
    (client.perform platform strerror call).network.Consistent := by
  cases call with
  | setTimeout timeoutMillisec => exact consistent
  | setX509CaChain => exact @NetworkImpl.Consistent.perform strerror _ consistent .setX509CaChain
  | execute request peer =>
      rcases execute_network platform strerror request peer consistent with
        ⟨-, after, run, same⟩ | ⟨url, -, -, afterwards, -⟩
      · simp only [perform]
        rw [run]
        exact same ▸ consistent
      · exact afterwards.consistent (consistent.connectTo strerror url peer.attempt).1

theorem run_consistent {client : HttpClient} (consistent : client.network.Consistent) (history : List HttpCall) :
    (client.run platform strerror history).network.Consistent := by
  induction history generalizing client with
  | nil => exact consistent
  | cons call history continued => exact continued (perform_consistent platform strerror consistent call)

theorem execute_writesOnly (request : Request) {client : HttpClient} (peer : Peer)
    (consistent : client.network.Consistent) :
    WritesOnly request.url client.network
      (last (execute platform strerror request ⟨client, peer⟩)).client.network := by
  rcases execute_network platform strerror request peer consistent with
    ⟨-, after, run, same⟩ | ⟨url, valid, -, ⟨calls, traffic, is⟩, -⟩
  · intro transport
    rw [run]
    exact ⟨[], by simp [last, same], trivial⟩
  · rw [is, valid]
    exact ((confined_connectTo url peer.attempt consistent).run traffic).writesOnly

theorem execute_consistently (request : Request) {client : HttpClient} (peer : Peer)
    (consistent : client.network.Consistent) :
    Consistently strerror client.network
      (last (execute platform strerror request ⟨client, peer⟩)).client.network := by
  rcases execute_network platform strerror request peer consistent with
    ⟨-, after, run, same⟩ | ⟨url, -, -, ⟨calls, -, is⟩, -⟩
  · rw [run]
    exact ⟨[], same, fun earlier _ => consistent.run earlier⟩
  · exact ⟨.connectTo url peer.attempt :: calls, is, fun earlier _ => consistent.run earlier⟩

theorem new_consistent : HttpClient.new.network.Consistent := ⟨rfl, rfl⟩

theorem Confines.closed {client : HttpClient} {request : Request} {peer : Peer}
    (confines : Confines platform strerror client request peer) (consistent : client.network.Consistent)
    (turned : Turned request) : client.network.Closed := by
  obtain ⟨-, -, closed⟩ := confines
  rcases execute_network platform strerror request peer consistent with
    ⟨-, after, run, same⟩ | ⟨url, -, proceeds, -, -⟩
  · exact same ▸ closed after run
  · exact absurd turned proceeds

/-- Only a call that is turned away leaves a connection open, one that an exception has left open before. -/
theorem execute_confines_iff (history : List HttpCall) (request : Request) (peer : Peer) :
    Confines platform strerror (HttpClient.new.run platform strerror history) request peer ↔
      (Turned request → (HttpClient.new.run platform strerror history).network.Closed) := by
  have consistent := run_consistent platform strerror new_consistent history
  constructor
  · intro confines
    exact confines.closed platform strerror consistent
  · intro closed
    refine ⟨execute_writesOnly platform strerror request peer consistent,
      execute_consistently platform strerror request peer consistent, ?_⟩
    rcases execute_network platform strerror request peer consistent with
      ⟨turned, after, run, same⟩ | ⟨url, -, -, -, closes⟩
    · intro after returned
      rw [run] at returned
      cases returned
      exact same ▸ closed turned
    · exact closes

def linkedPlatform : Platform := linked (plainPlatform .signed)

def getRequest (text : String) : Request where
  method := .get
  originalUrl := bytes text
  url := urlSet (bytes text)
  headers := .empty
  data := []

def obligingPeer (text : String) : Peer where
  attempt := ⟨0, 0, 0, 0, 0⟩
  writings := List.replicate 4 (.wrote 99)
  readings :=
    match bytes text with
    | [] => []
    | first :: rest => [.data first rest]

def hugeResponse : String := "HTTP/1.1 200 OK\r\nContent-Length: 9223372036854775808\r\n\r\n"

/-- An exception leaves the connection open, and a call with an invalid URL then returns without closing it. -/
theorem not_confines_afterException :
    ¬Confines linkedPlatform (fun _ => [])
      (HttpClient.new.run linkedPlatform (fun _ => []) [.execute (getRequest "http://h/") (obligingPeer hugeResponse)])
      (getRequest ":") (obligingPeer "") := by
  obtain ⟨history, is⟩ : ∃ history : List HttpCall,
    history = [.execute (getRequest "http://h/") (obligingPeer hugeResponse)] := ⟨_, rfl⟩
  have stays : (HttpClient.new.run linkedPlatform (fun _ => []) history).network.connection = some .tcp := by
    rw [is]
    decide +kernel
  rw [← is]
  intro confines
  have turned : Turned (getRequest ":") := .inl (by decide +kernel)
  have consistent := run_consistent linkedPlatform (fun _ => []) new_consistent history
  exact nomatch stays.symm.trans (confines.closed _ _ consistent turned).1

end HttpClient

end IotClient.Net
