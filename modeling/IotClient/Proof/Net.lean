import IotClient.Spec.Net

namespace IotClient.Net

/-! ## The loop of `ReadAll` -/

section Loop

variable (read failed : Int → Connection → Connection)

def noted (rets : List Int) (connection : Connection) : Connection :=
  rets.foldl (fun connection ret => read ret connection) connection

structure Fills (len : Nat) (readings : List Reading) (buffer : Bytes) (before : Connection)
    (outcome : (Int × Bytes × List Reading) × Connection) : Prop where
  enough : len ≤ buffer.length + (available readings).length
  ret : outcome.1.1 = len
  filled : outcome.1.2.1 = buffer ++ (available readings).take (len - buffer.length)
  left : available outcome.1.2.2 = (available readings).drop (len - buffer.length)
  stop : stopCode outcome.1.2.2 = stopCode readings
  reads : ∃ rets, rets.length ≤ len - buffer.length ∧ outcome.2 = noted read rets before

structure Stops (len : Nat) (readings : List Reading) (buffer : Bytes) (before : Connection)
    (outcome : (Int × Bytes × List Reading) × Connection) : Prop where
  short : buffer.length + (available readings).length < len
  ret : outcome.1.1 = stopCode readings
  filled : outcome.1.2.1 = buffer ++ available readings
  reads : ∃ rets, rets.length < len - buffer.length ∧
    outcome.2 = failed (stopCode readings) (read (stopCode readings) (noted read rets before))

variable {read failed} {len : Nat}

theorem Fills.data {readings : List Reading} {buffer more : Bytes} {first : UInt8} {before : Connection} {ret : Int}
    {outcome : (Int × Bytes × List Reading) × Connection} (fits : (first :: more).length ≤ len - buffer.length)
    (fills : Fills read len readings (buffer ++ first :: more) (read ret before) outcome) :
    Fills read len (.data first more :: readings) buffer before outcome where
  enough := by
    have enough := fills.enough
    simp only [List.length_append, available] at enough ⊢
    omega
  ret := fills.ret
  filled := by
    rw [fills.filled, available, List.take_append, List.take_of_length_le fits]
    simp [Nat.sub_sub]
  left := by
    rw [fills.left, available, List.drop_append, List.drop_of_length_le fits]
    simp [Nat.sub_sub]
  stop := fills.stop
  reads := by
    obtain ⟨rets, few, reads⟩ := fills.reads
    simp only [List.length_append, List.length_cons] at few fits
    exact ⟨ret :: rets, by simp only [List.length_cons]; omega, reads⟩

theorem Stops.data {readings : List Reading} {buffer more : Bytes} {first : UInt8} {before : Connection} {ret : Int}
    {outcome : (Int × Bytes × List Reading) × Connection}
    (stops : Stops read failed len readings (buffer ++ first :: more) (read ret before) outcome) :
    Stops read failed len (.data first more :: readings) buffer before outcome where
  short := by
    have short := stops.short
    simp only [List.length_append, available] at short ⊢
    omega
  ret := stops.ret
  filled := by rw [stops.filled, available, List.append_assoc]
  reads := by
    obtain ⟨rets, few, reads⟩ := stops.reads
    simp only [List.length_append, List.length_cons] at few
    exact ⟨ret :: rets, by simp only [List.length_cons]; omega, reads⟩

theorem readLoop_result {read' failed' : Int → Connection → Connection} (readings : List Reading) (buffer : Bytes)
    (connection connection' : Connection) :
    (connection.readLoop read failed len readings buffer).1 = (connection'.readLoop read' failed' len readings buffer).1 := by
  induction readings generalizing buffer connection connection' with
  | nil =>
      unfold Connection.readLoop
      split <;> rfl
  | cons reading rest ih =>
      unfold Connection.readLoop
      split
      · cases reading with
        | failed code nonpositive => rfl
        | data first more =>
            simp only
            split
            · exact ih _ _ _
            · rfl
      · rfl

theorem readLoop_cases (readings : List Reading) (buffer : Bytes) (connection : Connection) (room : buffer.length ≤ len) :
    Fills read len readings buffer connection (connection.readLoop read failed len readings buffer) ∨
      Stops read failed len readings buffer connection (connection.readLoop read failed len readings buffer) := by
  induction readings generalizing buffer connection with
  | nil =>
      unfold Connection.readLoop
      split
      · rename_i short
        exact .inr ⟨by simpa [available] using short, rfl, by simp [available], [], by simp only [List.length_nil]; omega, rfl⟩
      · rename_i full
        have full : buffer.length = len := by omega
        exact .inl ⟨by simp [full], congrArg Int.ofNat full, by simp [available], by simp [available], rfl, [], Nat.zero_le _, rfl⟩
  | cons reading rest ih =>
      unfold Connection.readLoop
      split
      · rename_i short
        cases reading with
        | failed code nonpositive => exact .inr ⟨by simpa [available] using short, rfl, by simp [available], [], by simp only [List.length_nil]; omega, rfl⟩
        | data first more =>
            simp only
            split
            · rename_i none
              have fits : (first :: more).length ≤ len - buffer.length := List.drop_eq_nil_iff.mp none
              have fuller : (buffer ++ first :: more).length ≤ len := by
                simp only [List.length_append]
                omega
              exact (ih _ _ fuller).imp (Fills.data fits) Stops.data
            · rename_i next later more'
              have long : len - buffer.length < (first :: more).length := by
                have left := congrArg List.length more'
                simp only [List.length_drop] at left
                simp only [List.length_cons] at left ⊢
                omega
              refine .inl ⟨by simp only [available, List.length_append]; omega, rfl, ?_, ?_, rfl, [_], Nat.sub_pos_of_lt short, rfl⟩
              · rw [available, List.take_append_of_le_length (Nat.le_of_lt long)]
              · rw [available, available, ← more', List.drop_append_of_le_length (Nat.le_of_lt long)]
      · rename_i full
        have full : buffer.length = len := by omega
        exact .inl ⟨by simp [full], congrArg Int.ofNat full, by simp [full], by simp [full], rfl, [], Nat.zero_le _, rfl⟩

structure Notes (read : Int → Connection → Connection) : Prop where
  connected : ∀ ret connection, (read ret connection).connected = connection.connected
  timedOut : ∀ ret connection, (read ret connection).timedOut = connection.timedOut
  lastError : ∀ ret connection, (read ret connection).lastError = connection.lastError
  reads : ∀ ret connection, (read ret connection).reads = connection.reads + 1

structure Closes (close : Connection → Connection) : Prop where
  connected : ∀ connection, (close connection).connected = false
  timedOut : ∀ connection, (close connection).timedOut = connection.timedOut
  lastError : ∀ connection, (close connection).lastError = connection.lastError
  reads : ∀ connection, (close connection).reads = connection.reads

theorem Notes.noted (notes : Notes read) (rets : List Int) (connection : Connection) :
    (noted read rets connection).connected = connection.connected ∧
      (noted read rets connection).timedOut = connection.timedOut ∧
        (noted read rets connection).lastError = connection.lastError ∧
          (noted read rets connection).reads = connection.reads + rets.length := by
  induction rets generalizing connection with
  | nil => exact ⟨rfl, rfl, rfl, rfl⟩
  | cons ret rets ih =>
      obtain ⟨connected, timedOut, lastError, reads⟩ := ih (read ret connection)
      refine ⟨connected.trans (notes.connected ret connection), timedOut.trans (notes.timedOut ret connection),
        lastError.trans (notes.lastError ret connection), ?_⟩
      rw [Net.noted, List.foldl_cons, ← Net.noted, reads, notes.reads, List.length_cons]
      omega

theorem readLoop_readsAll {strerror : Int → Bytes} {func : String} {close : Connection → Connection} (notes : Notes read)
    (closes : Closes close) (failing : failed = fun ret connection => connection.readFailed strerror func close ret)
    (len : Nat) (readings : List Reading) {connection after : Connection} (connected : connection.connected = true)
    {result : Int × Bytes × List Reading}
    (loop : { connection with timedOut := false }.readLoop read failed len readings [] = (result, after)) :
    ReadsAll len readings connection after result := by
  subst failing
  rcases loop ▸ readLoop_cases readings [] { connection with timedOut := false } (Nat.zero_le len) with
    ⟨enough, ret, filled, left, -, rets, few, done⟩ | ⟨short, ret, -, rets, few, done⟩ <;>
    obtain ⟨kept, onTime, -, reads⟩ := notes.noted rets { connection with timedOut := false } <;>
    generalize Net.noted read rets { connection with timedOut := false } = noted at done kept onTime reads <;>
    change _ = connection.reads + _ at reads <;> change after = _ at done
  · simp only [List.length_nil, Nat.zero_add, Nat.sub_zero, List.nil_append] at enough filled left few
    subst done
    refine ⟨?_, fun _ => ⟨ret, filled, left, kept.trans connected, onTime⟩, fun short => absurd enough (Nat.not_le.mpr short)⟩
    omega
  · simp only [List.length_nil, Nat.zero_add, Nat.sub_zero] at short few
    have seen : (read (stopCode readings) noted).reads ≤ connection.reads + len := by
      rw [notes.reads]
      omega
    have kept : (read (stopCode readings) noted).connected = true := by rw [notes.connected, kept, connected]
    have onTime : (read (stopCode readings) noted).timedOut = false := by rw [notes.timedOut, onTime]
    subst done
    by_cases late : stopCode readings = timeoutCode
    · refine ⟨?_, fun enough => absurd short (Nat.not_lt.mpr enough), fun _ => ⟨ret, ?_⟩⟩ <;>
        rw [Connection.readFailed, if_pos late]
      · exact seen
      · exact ⟨iff_of_true rfl late, iff_of_false (by simp [kept]) (not_not_intro late)⟩
    · refine ⟨?_, fun enough => absurd short (Nat.not_lt.mpr enough), fun _ => ⟨ret, ?_⟩⟩ <;>
        rw [Connection.readFailed, if_neg late]
      · rw [closes.reads]
        exact seen
      · rw [closes.connected, closes.timedOut]
        simp [Connection.fail, onTime, late]

end Loop

theorem stopCode_nonpos (readings : List Reading) : stopCode readings ≤ 0 := by
  induction readings with
  | nil => decide
  | cons reading rest ih =>
      cases reading with
      | data first more => exact ih
      | failed code nonpositive => exact nonpositive

theorem TlsConnection.noteRead_notes : Notes TlsConnection.noteRead :=
  ⟨fun _ _ => rfl, fun _ _ => rfl, fun _ _ => rfl, fun _ _ => List.countP_cons_of_pos rfl⟩

theorem TcpConnection.noteRead_notes (timeoutMillisec : Int) : Notes (TcpConnection.noteRead timeoutMillisec) :=
  ⟨fun _ _ => rfl, fun _ _ => rfl, fun _ _ => rfl, fun _ _ => List.countP_cons_of_pos rfl⟩

theorem TlsConnection.closeConnection_closes : Closes TlsConnection.closeConnection := by
  constructor <;> intro connection <;> unfold closeConnection <;> cases connected : connection.connected <;>
    simp [Connection.calls, Connection.reads, Op.isRead, connected]

theorem TcpConnection.closeConnection_closes : Closes TcpConnection.closeConnection := by
  constructor <;> intro connection <;> unfold closeConnection <;> cases connected : connection.connected <;>
    simp [Connection.calls, Connection.reads, Op.isRead, connected]

theorem TlsConnection.readAll_readsAll (strerror : Int → Bytes) (len : Nat) (readings : List Reading) {tls : TlsConnection}
    (connected : tls.connected = true) :
    ReadsAll len readings tls.toConnection (tls.readAll strerror len readings).2.toConnection
      (tls.readAll strerror len readings).1 := by
  unfold readAll
  rw [connected]
  exact readLoop_readsAll noteRead_notes closeConnection_closes rfl len readings connected rfl

theorem TcpConnection.readAll_readsAll (strerror : Int → Bytes) (len : Nat) (timeoutMillisec : Int) (readings : List Reading)
    {tcp : TcpConnection} (connected : tcp.connected = true) :
    ReadsAll len readings tcp.toConnection (tcp.readAll strerror len timeoutMillisec readings).2.toConnection
      (tcp.readAll strerror len timeoutMillisec readings).1 := by
  unfold readAll
  rw [connected]
  exact readLoop_readsAll (noteRead_notes timeoutMillisec) closeConnection_closes rfl len readings connected rfl

theorem ReadsAll.connected_iff {len : Nat} {readings : List Reading} {before after : Connection}
    {result : Int × Bytes × List Reading} (reads : ReadsAll len readings before after result) :
    after.connected = true ↔ len ≤ (available readings).length ∨ stopCode readings = timeoutCode := by
  by_cases enough : len ≤ (available readings).length
  · simp [enough, (reads.reached enough).2.2.2.1]
  · have closed := (reads.stopped (Nat.not_le.mp enough)).2.2
    rw [← Bool.not_eq_true] at closed
    simp only [enough, false_or]
    exact Decidable.not_iff_not.mp closed

theorem ReadsAll.timedOut_iff {len : Nat} {readings : List Reading} {before after : Connection}
    {result : Int × Bytes × List Reading} (reads : ReadsAll len readings before after result) :
    after.timedOut = true ↔ (available readings).length < len ∧ stopCode readings = timeoutCode := by
  by_cases enough : len ≤ (available readings).length
  · simp [Nat.not_lt.mpr enough, (reads.reached enough).2.2.2.2]
  · simp [Nat.not_le.mp enough, (reads.stopped (Nat.not_le.mp enough)).2.1]

theorem readAll_exact (strerror : Int → Bytes) (len : Nat) (timeoutMillisec : Int) (readings : List Reading)
    (tls : TlsConnection) (tcp : TcpConnection) (secured : tls.connected = true) (connected : tcp.connected = true) :
    ReadsAll len readings tls.toConnection (tls.readAll strerror len readings).2.toConnection
        (tls.readAll strerror len readings).1 ∧
      ReadsAll len readings tcp.toConnection (tcp.readAll strerror len timeoutMillisec readings).2.toConnection
        (tcp.readAll strerror len timeoutMillisec readings).1 ∧
      (tls.readAll strerror len readings).1 = (tcp.readAll strerror len timeoutMillisec readings).1 ∧
      (tls.readAll strerror len readings).2.connected = (tcp.readAll strerror len timeoutMillisec readings).2.connected ∧
      (tls.readAll strerror len readings).2.timedOut = (tcp.readAll strerror len timeoutMillisec readings).2.timedOut := by
  have overTls := TlsConnection.readAll_readsAll strerror len readings secured
  have overTcp := TcpConnection.readAll_readsAll strerror len timeoutMillisec readings connected
  refine ⟨overTls, overTcp, ?_, ?_, ?_⟩
  · unfold TlsConnection.readAll TcpConnection.readAll
    rw [secured, connected]
    exact readLoop_result readings [] _ _
  · exact Bool.eq_iff_iff.mpr (overTls.connected_iff.trans overTcp.connected_iff.symm)
  · exact Bool.eq_iff_iff.mpr (overTls.timedOut_iff.trans overTcp.timedOut_iff.symm)

theorem readAll_exact_fragments :
    let tls : TlsConnection := { TlsConnection.new with connected := true }
    let tcp : TcpConnection := ⟨{ Connection.new with connected := true }⟩
    let readings := [Reading.data 1 [2], .data 3 [4, 5], .failed timeoutCode (by decide)]
    (tls.readAll (fun _ => []) 4 readings).1 = (4, [1, 2, 3, 4], [.data 5 [], .failed timeoutCode (by decide)]) ∧
      (tls.readAll (fun _ => []) 4 readings).1 = (tcp.readAll (fun _ => []) 4 100 readings).1 := by
  intro tls tcp readings
  exact ⟨by decide +kernel, (readAll_exact (fun _ => []) 4 100 readings tls tcp rfl rfl).2.2.1⟩

/-! ## Attempts to connect -/

section Connect

variable (strerror : Int → Bytes) (attempt : Attempt) (tls : TlsConnection)

def Attempt.started (attempt : Attempt) : List Op := [.sslInit, .sslSetup attempt.setup]

def TlsConnection.named (attempt : Attempt) (tls : TlsConnection) : List Op :=
  if tls.caChain then [.sslSetHostname (cString tls.addr.host) attempt.hostname] else []

def TlsConnection.dials (attempt : Attempt) (tls : TlsConnection) : List Op :=
  [.netInit, .netConnect (cString tls.addr.host) (cString tls.addr.port) attempt.connect]

/-- The exits of a `Connect` that fails: the call that failed, with its result, and all calls that were made. -/
inductive Exit : String × Int → List Op → Prop where
  | seed (seeded : tls.rngSeeded = false) (failed : attempt.seed ≠ 0) : Exit ("mbedtls_ctr_drbg_seed", attempt.seed) []
  | setup (seeded : tls.rngSeeded = true ∨ attempt.seed = 0) (failed : attempt.setup ≠ 0) :
      Exit ("mbedtls_ssl_setup", attempt.setup) (attempt.started ++ [.sslFree])
  | hostname (seeded : tls.rngSeeded = true ∨ attempt.seed = 0) (setup : attempt.setup = 0) (verified : tls.caChain = true)
      (failed : attempt.hostname ≠ 0) :
      Exit ("mbedtls_ssl_set_hostname", attempt.hostname) (attempt.started ++ tls.named attempt)
  | connect (seeded : tls.rngSeeded = true ∨ attempt.seed = 0) (setup : attempt.setup = 0)
      (hostname : tls.caChain = false ∨ attempt.hostname = 0) (failed : attempt.connect ≠ 0) :
      Exit ("mbedtls_net_connect", attempt.connect)
        (attempt.started ++ tls.named attempt ++ tls.dials attempt ++ [.netFree, .sslFree])
  | handshake (seeded : tls.rngSeeded = true ∨ attempt.seed = 0) (setup : attempt.setup = 0)
      (hostname : tls.caChain = false ∨ attempt.hostname = 0) (connect : attempt.connect = 0)
      (failed : attempt.handshake ≠ 0) :
      Exit ("mbedtls_ssl_handshake", attempt.handshake)
        (attempt.started ++ tls.named attempt ++ tls.dials attempt ++
          [.sslSetBio, .sslHandshake attempt.handshake, .netFree, .sslFree])

structure Established : Prop where
  seeded : tls.rngSeeded = true ∨ attempt.seed = 0
  setup : attempt.setup = 0
  hostname : tls.caChain = false ∨ attempt.hostname = 0
  connect : attempt.connect = 0
  handshake : attempt.handshake = 0

variable {attempt tls}

theorem Exit.ret_ne_zero {failure : String × Int} {ops : List Op} (exit : Exit attempt tls failure ops) : failure.2 ≠ 0 := by
  cases exit <;> assumption

theorem Exit.named {failure : String × Int} {ops : List Op} (exit : Exit attempt tls failure ops) : bytes failure.1 ≠ [] := by
  cases exit <;> simp [bytes]

theorem find?_seed (seeded : tls.rngSeeded = true ∨ attempt.seed = 0) :
    (if tls.rngSeeded then [] else [("mbedtls_ctr_drbg_seed", attempt.seed)]).find? (·.2 != 0) = none := by
  rcases seeded with seeded | seeded <;> cases rngSeeded : tls.rngSeeded <;> simp_all

theorem find?_hostname (hostname : tls.caChain = false ∨ attempt.hostname = 0) :
    (if tls.caChain then [("mbedtls_ssl_set_hostname", attempt.hostname)] else []).find? (·.2 != 0) = none := by
  rcases hostname with hostname | hostname <;> cases caChain : tls.caChain <;> simp_all

theorem Exit.failure {failure : String × Int} {ops : List Op} (exit : Exit attempt tls failure ops) :
    attempt.failure tls.rngSeeded tls.caChain = some failure := by
  unfold Attempt.failure Attempt.calls
  cases exit with
  | seed seeded failed => simp [seeded, failed]
  | setup seeded failed => simp [find?_seed seeded, failed]
  | hostname seeded setup verified failed => simp [find?_seed seeded, setup, verified, failed]
  | connect seeded setup hostname failed => simp [find?_seed seeded, find?_hostname hostname, setup, failed]
  | handshake seeded setup hostname connect failed =>
      simp [find?_seed seeded, find?_hostname hostname, setup, connect, failed]

theorem Established.failure (established : Established attempt tls) :
    attempt.failure tls.rngSeeded tls.caChain = none := by
  obtain ⟨seeded, setup, hostname, connect, handshake⟩ := established
  simp [Attempt.failure, Attempt.calls, find?_seed seeded, find?_hostname hostname, setup, connect, handshake]

theorem TlsConnection.connect_cases (attempt : Attempt) (disconnected : tls.connected = false) :
    (∃ failure ops rngSeeded, Exit attempt tls failure ops ∧ tls.connect strerror attempt =
        (failure.2, { tls with toConnection := (tls.calls ops).fail strerror failure.1 failure.2, rngSeeded := rngSeeded })) ∨
      Established attempt tls ∧ tls.connect strerror attempt =
        (0, { tls with
          toConnection := (tls.calls (attempt.started ++ tls.named attempt ++ tls.dials attempt ++
            [.sslSetBio, .sslHandshake attempt.handshake])).established
          rngSeeded := true }) := by
  by_cases seeded : tls.rngSeeded = true ∨ attempt.seed = 0
  · have seeding : (!tls.rngSeeded && attempt.seed != 0) = false := by
      rcases seeded with seeded | seeded <;> simp [seeded]
    by_cases setup : attempt.setup = 0
    · by_cases hostname : tls.caChain = false ∨ attempt.hostname = 0
      · by_cases connect : attempt.connect = 0
        · by_cases handshake : attempt.handshake = 0
          · refine .inr ⟨⟨seeded, setup, hostname, connect, handshake⟩, ?_⟩
            rcases hostname with hostname | hostname <;> cases caChain : tls.caChain <;>
              simp_all [TlsConnection.connect, Connection.calls, Connection.established, Attempt.started, named, dials]
          · refine .inl ⟨_, _, true, .handshake seeded setup hostname connect handshake, ?_⟩
            rcases hostname with hostname | hostname <;> cases caChain : tls.caChain <;>
              simp_all [TlsConnection.connect, Connection.calls, Attempt.started, named, dials]
        · refine .inl ⟨_, _, true, .connect seeded setup hostname connect, ?_⟩
          rcases hostname with hostname | hostname <;> cases caChain : tls.caChain <;>
            simp_all [TlsConnection.connect, Connection.calls, Attempt.started, named, dials]
      · have verified : tls.caChain = true := by simp_all
        have failed : attempt.hostname ≠ 0 := by simp_all
        refine .inl ⟨_, _, true, .hostname seeded setup verified failed, ?_⟩
        simp [TlsConnection.connect, disconnected, seeding, setup, verified, failed, Connection.calls, Attempt.started, named]
    · refine .inl ⟨_, _, true, .setup seeded setup, ?_⟩
      simp [TlsConnection.connect, disconnected, seeding, setup, Connection.calls, Attempt.started]
  · have unseeded : tls.rngSeeded = false := by simp_all
    have failed : attempt.seed ≠ 0 := by simp_all
    refine .inl ⟨_, _, false, .seed unseeded failed, ?_⟩
    unfold TlsConnection.connect
    rw [if_neg (by simp [disconnected]), if_pos (by simp [unseeded, failed]), ← unseeded]
    rfl

end Connect

/-! ## Errors of an attempt to connect -/

theorem Status.set_of_isOK {status : Status} (ok : status.isOK = true) (code : Code) (error : Bytes) (func : String)
    (context : Bytes) : status.set code error func context = ⟨code, error, bytes func, context⟩ := by
  simp [Status.set, ok]

theorem Status.set_of_not_isOK {status : Status} (taken : ¬status.isOK = true) (code : Code) (error : Bytes) (func : String)
    (context : Bytes) : status.set code error func context = status := by
  simp [Status.set, taken]

def Status.Holds (status : Status) : Held → Prop
  | none => status.isOK = true
  | some (func, code) => func ≠ [] ∧ status.failedFunc = func ∧ status.code.value = code

section Held

variable {status : Status} {held : Held}

theorem Status.Holds.set (holds : status.Holds held) (code : Code) (error : Bytes) {func : String} (named : bytes func ≠ [])
    (context : Bytes) : (status.set code error func context).Holds (held.or (some (bytes func, code.value))) := by
  cases held with
  | none =>
      rw [Status.set_of_isOK holds]
      exact ⟨named, rfl, rfl⟩
  | some failure =>
      have failed : ¬status.isOK = true := by simp [isOK, holds.2.1, holds.1]
      rw [Status.set_of_not_isOK failed]
      exact holds

theorem Status.Holds.names_iff (holds : status.Holds held) {failure : String × Int} (named : bytes failure.1 ≠ []) :
    status.names failure ↔ held = some (bytes failure.1, failure.2) := by
  cases held with
  | none =>
      have ok : status.isOK = true := holds
      simp only [isOK, Bool.and_eq_true, decide_eq_true_eq] at ok
      simp [names, ok.1.2, named.symm]
  | some recorded =>
      obtain ⟨func, code⟩ := recorded
      obtain ⟨-, isFunc, isCode⟩ := holds
      simp [names, isFunc, isCode, and_comm]

variable {connection : Connection} (holds : connection.lastError.Holds held)
include holds

theorem Connection.fail_holds (strerror : Int → Bytes) {func : String} (named : bytes func ≠ []) (ret : Int) :
    (connection.fail strerror func ret).lastError.Holds ((Verdict.fails func ret).record held) :=
  holds.set (.ofInt ret) (strerror ret) named []

theorem Connection.disconnected_holds {func : String} (named : bytes func ≠ []) :
    (connection.disconnected func).lastError.Holds ((Verdict.fails func (-1)).record held) :=
  holds.set (.ofInt (-1)) (bytes "Network disconnected") named []

theorem Connection.readFailed_holds {strerror : Int → Bytes} {func : String} {close : Connection → Connection}
    (closes : Closes close) (named : bytes func ≠ []) {ret : Int} (nonpositive : ret ≤ 0) :
    (connection.readFailed strerror func close ret).lastError.Holds ((Verdict.ofRead func ret).record held) := by
  unfold Connection.readFailed Verdict.ofRead
  by_cases late : ret = timeoutCode
  · simpa [late, Verdict.record] using holds
  · rw [if_neg late, if_neg (by omega), closes.lastError]
    exact Connection.fail_holds holds strerror named ret

theorem Connection.read_holds {noted : Connection} (kept : noted.lastError = connection.lastError)
    {strerror : Int → Bytes} (func : String) (named : bytes func ≠ []) {close : Connection → Connection}
    (closes : Closes close) (ret : Int) :
    (if ret ≤ 0 then noted.readFailed strerror func close ret else noted).lastError.Holds
      ((Verdict.ofRead func ret).record held) := by
  rw [← kept] at holds
  split
  · rename_i none
    exact Connection.readFailed_holds holds closes named none
  · rename_i some
    rw [Verdict.ofRead, if_pos (by omega)]
    exact holds

theorem readLoop_holds {strerror : Int → Bytes} (func : String) (named : bytes func ≠ [])
    {close : Connection → Connection} {read failed : Int → Connection → Connection} (notes : Notes read)
    (closes : Closes close) (failing : failed = fun ret connection => connection.readFailed strerror func close ret)
    (len : Nat) (readings : List Reading) :
    ({ connection with timedOut := false }.readLoop read failed len readings []).2.lastError.Holds
      ((Verdict.ofReadAll func len readings).record held) := by
  subst failing
  unfold Verdict.ofReadAll
  rcases @readLoop_cases read (fun ret connection => connection.readFailed strerror func close ret) len readings []
    { connection with timedOut := false } (Nat.zero_le len) with fills | stops
  · obtain ⟨rets, -, reads⟩ := fills.reads
    rw [if_pos (by simpa using fills.enough), reads, (notes.noted rets _).2.2.1]
    exact holds
  · obtain ⟨rets, -, reads⟩ := stops.reads
    rw [if_neg (by simpa using stops.short), reads]
    refine Connection.readFailed_holds ?_ closes named (stopCode_nonpos readings)
    rw [notes.lastError, (notes.noted rets _).2.2.1]
    exact holds

end Held

theorem everMasked_iff {σ κ : Type} {perform : σ → κ → σ} {verdict : σ → κ → Verdict} {connects : κ → Bool}
    {status : σ → Status} {reports : σ → κ → Prop}
    (records : ∀ state call held, (status state).Holds held →
      (status (perform state call)).Holds ((verdict state call).record held))
    (exact : ∀ state call held, (status state).Holds held → connects call = true →
      (reports state call ↔ (verdict state call).masked held = false))
    (calls : List κ) {state : σ} {held : Held} (holds : (status state).Holds held) :
    (∀ n call, calls[n]? = some call → connects call = true → reports ((calls.take n).foldl perform state) call) ↔
      everMasked perform verdict connects calls state held = false := by
  induction calls generalizing state held with
  | nil => simp [everMasked]
  | cons call rest ih =>
      have later := ih (records state call held holds)
      rw [everMasked, Bool.or_eq_false_iff, ← later]
      constructor
      · intro every
        refine ⟨?_, fun n => every (n + 1)⟩
        cases attempts : connects call with
        | false => rfl
        | true => exact (exact state call held holds attempts).mp (every 0 call rfl attempts)
      · rintro ⟨first, others⟩ n
        cases n with
        | zero =>
            rintro _ ⟨⟩ attempts
            rw [attempts, Bool.true_and] at first
            exact (exact state call held holds attempts).mpr first
        | succ n => exact others n

theorem masked_iff {held : Held} {func : String} {code : Int} :
    (Verdict.fails func code).masked held = false ↔
      (Verdict.fails func code).record held = some (bytes func, code) := by
  cases held with
  | none => simp [Verdict.masked, Verdict.record]
  | some failure => simp [Verdict.masked, Verdict.record]

namespace TlsConnection

variable {strerror : Int → Bytes} {tls : TlsConnection} {held : Held}

theorem verdict_exit {attempt : Attempt} (disconnected : tls.connected = false) {failure : String × Int} {ops : List Op}
    (exit : Exit attempt tls failure ops) : tls.verdict (.connect attempt) = .fails failure.1 failure.2 := by
  simp [verdict, disconnected, exit.failure]

theorem verdict_established {attempt : Attempt} (disconnected : tls.connected = false)
    (established : Established attempt tls) : tls.verdict (.connect attempt) = .clears := by
  simp [verdict, disconnected, established.failure]

theorem connect_holds (holds : tls.lastError.Holds held) (attempt : Attempt) :
    (tls.connect strerror attempt).2.lastError.Holds ((tls.verdict (.connect attempt)).record held) := by
  cases connected : tls.connected with
  | true => simpa [connect, verdict, connected, Verdict.record] using holds
  | false =>
      rcases connect_cases strerror attempt connected with ⟨failure, ops, _, exit, run⟩ | ⟨established, run⟩
      · rw [run, verdict_exit connected exit]
        exact Connection.fail_holds (by exact holds) strerror exit.named failure.2
      · rw [run, verdict_established connected established]
        rfl

theorem reportsAttempt_iff (holds : tls.lastError.Holds held) (attempt : Attempt) :
    tls.ReportsAttempt strerror attempt ↔ (tls.verdict (.connect attempt)).masked held = false := by
  have after := @connect_holds strerror tls held holds attempt
  unfold ReportsAttempt
  cases connected : tls.connected with
  | true => simp [connect, verdict, connected, Verdict.masked]
  | false =>
      rcases connect_cases strerror attempt connected with ⟨failure, ops, _, exit, run⟩ | ⟨established, run⟩
      · rw [verdict_exit connected exit] at after ⊢
        rw [masked_iff, ← after.names_iff exit.named, run, exit.failure]
        simp [exit.ret_ne_zero]
      · simp [run, verdict_established connected established, Verdict.masked]

theorem reports_iff (tls : TlsConnection) (call : TlsCall) (held : Held) (holds : tls.lastError.Holds held)
    (connects : call.connects = true) :
    (∀ attempt, call = .connect attempt → tls.ReportsAttempt strerror attempt) ↔ (tls.verdict call).masked held = false := by
  cases call with
  | connect attempt => simpa using reportsAttempt_iff holds attempt
  | _ => cases connects

theorem perform_holds (tls : TlsConnection) (call : TlsCall) (held : Held) (holds : tls.lastError.Holds held) :
    (tls.perform strerror call).lastError.Holds ((tls.verdict call).record held) := by
  cases call with
  | setAddress addr => exact holds
  | setX509CaChain => exact holds
  | connect attempt => exact connect_holds holds attempt
  | close => exact (congrArg (Status.Holds · held) (closeConnection_closes.lastError _)).mpr holds
  | read len reading =>
      simp only [perform, verdict]
      unfold read
      split
      · rename_i disconnected
        rw [if_neg (by simpa using disconnected)]
        exact Connection.disconnected_holds holds (by decide)
      · rename_i connected
        rw [if_pos (by simpa using connected)]
        exact @Connection.read_holds held _ holds (noteRead _ { tls.toConnection with timedOut := false }) rfl _ "mbedtls_ssl_read" (by decide) _
          closeConnection_closes _
  | readAll len readings =>
      simp only [perform, verdict]
      unfold readAll
      split
      · rename_i disconnected
        rw [if_neg (by simpa using disconnected)]
        exact Connection.disconnected_holds holds (by decide)
      · rename_i connected
        rw [if_pos (by simpa using connected)]
        exact readLoop_holds holds "mbedtls_ssl_read" (by decide) noteRead_notes closeConnection_closes rfl len readings
  | write data timeoutMillisec writing =>
      simp only [perform, verdict]
      unfold write
      split
      · rename_i disconnected
        rw [if_neg (by simpa using disconnected)]
        exact Connection.disconnected_holds holds (by decide)
      · rename_i connected
        rw [if_pos (show tls.connected = true by simpa using connected)]
        split
        · rename_i empty
          cases writing <;> simpa [empty, Verdict.ofWrite, Verdict.record] using holds
        · rename_i some
          cases writing with
          | wrote more => exact holds
          | failed code nonpositive =>
              simp only [closeConnection_closes.lastError, Verdict.ofWrite, some, if_false]
              exact Connection.fail_holds (by exact holds) strerror (by decide) code

end TlsConnection

namespace TcpConnection

variable {strerror : Int → Bytes} {tcp : TcpConnection} {held : Held}

theorem connect_holds (holds : tcp.lastError.Holds held) (ret : Int) :
    (tcp.connect strerror ret).2.lastError.Holds ((tcp.verdict (.connect ret)).record held) := by
  unfold verdict connect
  cases tcp.connected with
  | true => exact holds
  | false =>
      by_cases refused : ret = 0
      · simp only [refused, Bool.false_eq_true, if_false, ne_eq, not_true_eq_false, if_true]
        rfl
      · simp only [refused, Bool.false_eq_true, if_false, ne_eq, not_false_eq_true, if_true]
        exact Connection.fail_holds (by exact holds) strerror (by decide) ret

theorem reportsAttempt_iff (holds : tcp.lastError.Holds held) (ret : Int) :
    tcp.ReportsAttempt strerror ret ↔ (tcp.verdict (.connect ret)).masked held = false := by
  have after := @connect_holds strerror tcp held holds ret
  unfold ReportsAttempt
  revert after
  unfold verdict connect
  cases tcp.connected with
  | true => simp [Verdict.masked]
  | false =>
      by_cases refused : ret = 0
      · simp [refused, Verdict.masked]
      · simp only [refused, Bool.false_eq_true, if_false, ne_eq, not_false_eq_true, if_true, masked_iff, forall_const,
          true_and]
        intro after
        exact @Status.Holds.names_iff _ _ after ("mbedtls_net_connect", ret) (by simp [bytes])

theorem reports_iff (tcp : TcpConnection) (call : TcpCall) (held : Held) (holds : tcp.lastError.Holds held)
    (connects : call.connects = true) :
    (∀ ret, call = .connect ret → tcp.ReportsAttempt strerror ret) ↔ (tcp.verdict call).masked held = false := by
  cases call with
  | connect ret => simpa using reportsAttempt_iff holds ret
  | _ => cases connects

theorem perform_holds (tcp : TcpConnection) (call : TcpCall) (held : Held) (holds : tcp.lastError.Holds held) :
    (tcp.perform strerror call).lastError.Holds ((tcp.verdict call).record held) := by
  cases call with
  | setAddress addr => exact holds
  | connect ret => exact connect_holds holds ret
  | close => exact (congrArg (Status.Holds · held) (closeConnection_closes.lastError _)).mpr holds
  | read len timeoutMillisec reading =>
      simp only [perform, verdict]
      unfold read
      split
      · rename_i disconnected
        rw [if_neg (by simpa using disconnected)]
        exact Connection.disconnected_holds holds (by decide)
      · rename_i connected
        rw [if_pos (by simpa using connected)]
        exact @Connection.read_holds held _ holds (noteRead timeoutMillisec _ { tcp.toConnection with timedOut := false }) rfl _ "mbedtls_net_recv_timeout" (by decide) _
          closeConnection_closes _
  | readAll len timeoutMillisec readings =>
      simp only [perform, verdict]
      unfold readAll
      split
      · rename_i disconnected
        rw [if_neg (by simpa using disconnected)]
        exact Connection.disconnected_holds holds (by decide)
      · rename_i connected
        rw [if_pos (by simpa using connected)]
        exact readLoop_holds holds "mbedtls_net_recv_timeout" (by decide) (noteRead_notes timeoutMillisec) closeConnection_closes rfl len readings
  | write data timeoutMillisec writing =>
      simp only [perform, verdict]
      unfold write
      split
      · rename_i disconnected
        rw [if_neg (by simpa using disconnected)]
        exact Connection.disconnected_holds holds (by decide)
      · rename_i connected
        rw [if_pos (show tcp.connected = true by simpa using connected)]
        split
        · rename_i empty
          cases writing <;> simpa [empty, Verdict.ofWrite, Verdict.record] using holds
        · rename_i some
          cases writing with
          | wrote more => exact holds
          | failed code nonpositive =>
              simp only [closeConnection_closes.lastError, Verdict.ofWrite, some, if_false]
              exact Connection.fail_holds (by exact holds) strerror (by decide) code

end TcpConnection

/-- In every run, each `Connect` that fails reports its own failure just when none of them fails while another failure is
recorded since the last connection was made. -/
theorem connect_reports_iff (strerror : Int → Bytes) (tlsCalls : List TlsCall) (tcpCalls : List TcpCall) :
    ((∀ n attempt, tlsCalls[n]? = some (.connect attempt) →
        (TlsConnection.new.run strerror (tlsCalls.take n)).ReportsAttempt strerror attempt) ↔
          TlsConnection.new.masks strerror tlsCalls = false) ∧
      ((∀ n ret, tcpCalls[n]? = some (.connect ret) →
        (TcpConnection.new.run strerror (tcpCalls.take n)).ReportsAttempt strerror ret) ↔
          TcpConnection.new.masks strerror tcpCalls = false) := by
  have fresh : Connection.new.lastError.Holds none := (by decide : Status.ok.isOK = true)
  constructor
  · refine Iff.trans ?_ (everMasked_iff TlsConnection.perform_holds (@TlsConnection.reports_iff strerror) tlsCalls fresh)
    exact ⟨fun every n call made _ attempt same => every n attempt (same ▸ made),
      fun every n attempt made => every n _ made rfl attempt rfl⟩
  · refine Iff.trans ?_ (everMasked_iff TcpConnection.perform_holds (@TcpConnection.reports_iff strerror) tcpCalls fresh)
    exact ⟨fun every n call made _ ret same => every n ret (same ▸ made), fun every n ret made => every n _ made rfl ret rfl⟩

/-- A connection was refused, and the report of the next attempt, in which the handshake fails, is still that. -/
theorem not_reportsAttempt_refused :
    let refused := TlsConnection.new.run (fun _ => []) [.connect ⟨0, 0, 0, -0x44, 0⟩]
    let again := refused.connect (fun _ => []) ⟨0, 0, 0, 0, -0x7780⟩
    again.1 = -0x7780 ∧ again.2.lastError.code.value = -0x44 ∧ again.2.lastError.failedFunc = bytes "mbedtls_net_connect" ∧
      ¬refused.ReportsAttempt (fun _ => []) ⟨0, 0, 0, 0, -0x7780⟩ := by
  refine ⟨rfl, rfl, rfl, fun reports => ?_⟩
  obtain ⟨failure, -, ret, code, -⟩ := reports (by decide +kernel)
  exact absurd (code.trans ret.symm) (by decide +kernel)

/-! ## Resources -/

def Contexts.steps (ops : List Op) (contexts : Contexts) : Option Contexts :=
  ops.foldl (fun contexts op => contexts.bind (·.step op)) (some contexts)

theorem Contexts.after_calls {connection : Connection} {contexts : Contexts} (before : after connection.trace = some contexts)
    (ops : List Op) : after (connection.calls ops).trace = contexts.steps ops := by
  rw [steps, ← before]
  clear before
  unfold Connection.calls
  simp only
  induction ops generalizing connection with
  | nil => rfl
  | cons op ops ih =>
      rw [List.reverse_cons, List.append_assoc]
      exact @ih { connection with trace := op :: connection.trace }

def Connection.Matched (connection : Connection) : Prop :=
  Contexts.after connection.trace = some (if connection.connected then ⟨.live, .live⟩ else ⟨.released, .released⟩)

namespace Connection

variable {connection : Connection}

theorem Matched.after_calls (matched : connection.Matched) (connected : connection.connected = true) (ops : List Op) :
    Contexts.after (connection.calls ops).trace = Contexts.steps ops ⟨.live, .live⟩ := by
  refine Contexts.after_calls ?_ ops
  rw [matched, connected]
  rfl

theorem Matched.calls (matched : connection.Matched) (connected : connection.connected = true) {ops : List Op}
    (uses : Contexts.steps ops ⟨.live, .live⟩ = some ⟨.live, .live⟩) : (connection.calls ops).Matched := by
  unfold Matched
  rw [matched.after_calls connected, uses]
  simp [Connection.calls, connected]

theorem Matched.closeConnection (matched : connection.Matched) : (TlsConnection.closeConnection connection).Matched := by
  unfold TlsConnection.closeConnection
  split
  · exact matched
  · rename_i connected
    exact matched.after_calls (by simpa using connected) [.sslCloseNotify, .netFree, .sslFree]

theorem Matched.noteRead (matched : connection.Matched) (connected : connection.connected = true) (ret : Int) :
    (TlsConnection.noteRead ret connection).Matched :=
  matched.calls connected rfl

theorem Matched.readFailed (matched : connection.Matched) (strerror : Int → Bytes) (ret : Int) :
    (TlsConnection.readFailed strerror ret connection).Matched := by
  unfold TlsConnection.readFailed Connection.readFailed
  split
  · exact matched
  · have failed : (connection.fail strerror "mbedtls_ssl_read" ret).Matched := matched
    exact failed.closeConnection

theorem Matched.noted (matched : connection.Matched) (connected : connection.connected = true) (rets : List Int) :
    (noted TlsConnection.noteRead rets connection).Matched := by
  induction rets generalizing connection with
  | nil => exact matched
  | cons ret rets ih => exact ih (matched.noteRead connected ret) connected

end Connection

theorem Exit.steps {attempt : Attempt} {tls : TlsConnection} {failure : String × Int} {ops : List Op}
    (exit : Exit attempt tls failure ops) (disconnected : tls.connected = false) :
    Contexts.steps ops ⟨.released, .released⟩ =
      some ⟨if tls.leaks (.connect attempt) then .live else .released, .released⟩ := by
  cases exit with
  | seed seeded failed => simp [TlsConnection.leaks, seeded, failed, Contexts.steps]
  | setup seeded failed => simp [TlsConnection.leaks, failed, Contexts.steps, Attempt.started, Contexts.step]
  | hostname seeded setup verified failed =>
      rcases seeded with seeded | seeded <;>
        simp [TlsConnection.leaks, disconnected, seeded, setup, verified, failed, Contexts.steps, Attempt.started,
          TlsConnection.named, Contexts.step]
  | connect seeded setup hostname failed =>
      rcases hostname with hostname | hostname <;> cases caChain : tls.caChain <;>
        simp_all [TlsConnection.leaks, Contexts.steps, Attempt.started, TlsConnection.named, TlsConnection.dials, Contexts.step]
  | handshake seeded setup hostname connect failed =>
      rcases hostname with hostname | hostname <;> cases caChain : tls.caChain <;>
        simp_all [TlsConnection.leaks, Contexts.steps, Attempt.started, TlsConnection.named, TlsConnection.dials, Contexts.step]

theorem Established.steps {attempt : Attempt} {tls : TlsConnection} (established : Established attempt tls) :
    tls.leaks (.connect attempt) = false ∧
      Contexts.steps (attempt.started ++ tls.named attempt ++ tls.dials attempt ++
        [.sslSetBio, .sslHandshake attempt.handshake]) ⟨.released, .released⟩ = some ⟨.live, .live⟩ := by
  obtain ⟨-, setup, hostname, connect, handshake⟩ := established
  rcases hostname with hostname | hostname <;> cases caChain : tls.caChain <;>
    simp_all [TlsConnection.leaks, Contexts.steps, Attempt.started, TlsConnection.named, TlsConnection.dials, Contexts.step]

namespace TlsConnection

variable {tls : TlsConnection} (strerror : Int → Bytes)

theorem Matched.connect (matched : tls.Matched) (attempt : Attempt) :
    (tls.connect strerror attempt).2.Matched ↔ tls.leaks (.connect attempt) = false := by
  cases connected : tls.connected with
  | true => simpa [TlsConnection.connect, leaks, connected] using matched
  | false =>
      have before : Contexts.after tls.trace = some ⟨.released, .released⟩ := by
        rw [matched, connected]
        rfl
      rcases connect_cases strerror attempt connected with ⟨failure, ops, _, exit, connect⟩ | ⟨established, connect⟩ <;>
        rw [connect] <;> unfold Matched
      · have after := (Contexts.after_calls before ops).trans (exit.steps connected)
        simp only [Connection.fail, Connection.calls, connected] at after ⊢
        rw [after]
        cases tls.leaks (.connect attempt) <;> simp
      · exact iff_of_true ((Contexts.after_calls before _).trans established.steps.2) established.steps.1

theorem Matched.read (matched : tls.Matched) (len : Nat) (reading : Reading) :
    (tls.read strerror len reading).2.Matched := by
  unfold TlsConnection.read
  split
  · exact matched
  · rename_i connected
    have connected : tls.connected = true := by simpa using connected
    have noted : ({ tls.toConnection with timedOut := false } : Connection).Matched := matched
    have noted := noted.noteRead connected (reading.taken len).1
    simp only
    split
    · exact noted.readFailed strerror _
    · exact noted

theorem Matched.readAll (matched : tls.Matched) (len : Nat) (readings : List Reading) :
    (tls.readAll strerror len readings).2.Matched := by
  unfold TlsConnection.readAll
  split
  · exact matched
  · rename_i connected
    have connected : tls.connected = true := by simpa using connected
    have start : ({ tls.toConnection with timedOut := false } : Connection).Matched := matched
    rcases @readLoop_cases noteRead (readFailed strerror) len readings [] { tls.toConnection with timedOut := false }
      (Nat.zero_le len) with fills | stops
    · obtain ⟨rets, -, reads⟩ := fills.reads
      exact (congrArg Connection.Matched reads).mpr (start.noted connected rets)
    · obtain ⟨rets, -, reads⟩ := stops.reads
      have kept := (noteRead_notes.noted rets { tls.toConnection with timedOut := false }).1
      exact (congrArg Connection.Matched reads).mpr
        (((start.noted connected rets).noteRead (kept.trans connected) _).readFailed strerror _)

theorem Matched.write (matched : tls.Matched) (data : Bytes) (timeoutMillisec : Int) (writing : Writing) :
    (tls.write strerror data timeoutMillisec writing).2.Matched := by
  unfold TlsConnection.write
  split
  · exact matched
  · rename_i connected
    have connected : tls.connected = true := by simpa using connected
    have matched : tls.toConnection.Matched := matched
    split
    · exact matched
    · cases writing with
      | failed code nonpositive =>
          have wrote : (((tls.calls [.setSendTimeout timeoutMillisec]).calls [.sslWrite data code]).fail strerror
              "mbedtls_ssl_write" code).Matched :=
            (matched.calls connected rfl).calls connected rfl
          exact wrote.closeConnection
      | wrote more =>
          have timed : (tls.calls [.setSendTimeout timeoutMillisec]).Matched := matched.calls connected rfl
          exact timed.calls connected rfl

theorem Matched.perform (matched : tls.Matched) (call : TlsCall) :
    (tls.perform strerror call).Matched ↔ tls.leaks call = false := by
  cases call with
  | setAddress addr => exact iff_of_true matched rfl
  | setX509CaChain => exact iff_of_true matched rfl
  | connect attempt => exact matched.connect strerror attempt
  | close =>
      have whole : tls.toConnection.Matched := matched
      exact iff_of_true whole.closeConnection rfl
  | read len reading => exact iff_of_true (matched.read strerror len reading) rfl
  | readAll len readings => exact iff_of_true (matched.readAll strerror len readings) rfl
  | write data timeoutMillisec writing => exact iff_of_true (matched.write strerror data timeoutMillisec writing) rfl

theorem Matched.run (matched : tls.Matched) (calls : List TlsCall) :
    (∀ n, (tls.run strerror (calls.take n)).Matched) ↔ tls.everLeaks strerror calls = false := by
  induction calls generalizing tls with
  | nil => simpa [TlsConnection.run, everLeaks] using matched
  | cons call rest ih =>
      rw [everLeaks, Bool.or_eq_false_iff]
      constructor
      · intro every
        have step := (matched.perform strerror call).mp (every 1)
        exact ⟨step, (ih ((matched.perform strerror call).mpr step)).mp fun n => every (n + 1)⟩
      · rintro ⟨step, later⟩ n
        cases n with
        | zero => exact matched
        | succ n => exact (ih ((matched.perform strerror call).mpr step)).mpr later n

/-- After every call of a run the contexts match the flag, just when no `Connect` of the run has set up the SSL context
and cannot set the host name. -/
theorem resources_matched_iff (strerror : Int → Bytes) (calls : List TlsCall) :
    (∀ n, (TlsConnection.new.run strerror (calls.take n)).Matched) ↔
      TlsConnection.new.everLeaks strerror calls = false :=
  have start : TlsConnection.new.Matched := rfl
  start.run strerror calls

/-- The host name is too long for mbedtls, and the SSL context stays. -/
theorem not_matched_longHost :
    let calls := [TlsCall.setX509CaChain, .setAddress ⟨List.replicate 256 97, bytes "443"⟩, .connect ⟨0, 0, -0x7100, 0, 0⟩]
    ¬(TlsConnection.new.run (fun _ => []) calls).Matched ∧
      Contexts.after (TlsConnection.new.run (fun _ => []) calls).trace = some ⟨.live, .released⟩ ∧
      Contexts.after (TlsConnection.new.run (fun _ => []) (calls ++ [.connect ⟨0, 0, -0x7100, 0, 0⟩])).trace = none := by
  decide +kernel

end TlsConnection

end IotClient.Net
