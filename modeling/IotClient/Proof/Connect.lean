import IotClient.Proof.Commands

namespace IotClient
open Logic

/-! ## The CONNACK -/

theorem deserializeConnack_load {frame : Frame} (connack : packetType frame.header = .connack) (old : Bytes) :
    ∃ sessionPresent code, deserializeConnack (frame.load old) = .ok (1, sessionPresent, code) ∧
      (code = 0 → ∃ flags rest, frame.body = flags :: 0 :: rest ∧ sessionPresent = decide (flags &&& 0x80 ≠ 0)) ∧
      (sessionPresent = true → ∃ flags rest, frame.body = flags :: rest ∧ flags &&& 0x80 ≠ 0) := by
  obtain ⟨behind, loaded⟩ := frame.load_eq old
  have decoded := decodeLength_encodeLength frame.body_length (frame.body ++ behind)
  rw [loaded]
  simp only [deserializeConnack, connack, ne_eq, not_true_eq_false, if_false, decoded, List.drop_left]
  match frame.body with
  | [] => exact ⟨false, 255, rfl, by simp, by simp⟩
  | [c] =>
      have short : [c].length < 2 := by simp
      rw [if_pos short, List.length_singleton, encodeLength_short (by omega)]
      exact ⟨false, 255, rfl, by simp, by simp⟩
  | flags :: code :: rest =>
      have long : ¬ (flags :: code :: rest).length < 2 := by simp
      rw [if_neg long]
      refine ⟨_, code.toNat, rfl, fun zero => ⟨flags, rest, ?_, rfl⟩, fun present => ⟨flags, _, rfl, ?_⟩⟩
      · rw [UInt8.toNat_inj.mp (show code.toNat = (0 : UInt8).toNat from zero)]
      · simpa using present

theorem readConnack_returns {frame : Frame} (connack : packetType frame.header = .connack) {accepted : Bool}
    {before after : Machine} (loaded : ∃ old, before.mqtt.readbuf = frame.load old)
    (run : Mqtt.readConnack before = .ok accepted after) :
    (∃ sessionPresent, after = { before with mqttTls := { before.mqttTls with sessionPresent := sessionPresent } } ∧
        (sessionPresent = true → ∃ flags rest, frame.body = flags :: rest ∧ flags &&& 0x80 ≠ 0)) ∧
      (accepted = true →
        ∃ flags rest, frame.body = flags :: 0 :: rest ∧ after.mqttTls.sessionPresent = decide (flags &&& 0x80 ≠ 0)) := by
  obtain ⟨old, loaded⟩ := loaded
  obtain ⟨sessionPresent, code, deserialized, success, present⟩ := deserializeConnack_load connack old
  unfold Mqtt.readConnack at run
  rw [run_get_bind, loaded, deserialized] at run
  obtain ⟨_, between, read, run⟩ := run_bind_eq_ok.mp run
  obtain ⟨rfl, rfl⟩ := run_pure_eq_ok.mp read
  obtain ⟨_, changed, changing, run⟩ := run_bind_eq_ok.mp run
  have changed := run_modify_eq_ok.mp changing
  obtain ⟨rfl, rfl⟩ := run_pure_eq_ok.mp run
  subst changed
  refine ⟨⟨sessionPresent, rfl, present⟩, fun zero => success ?_⟩
  simpa using zero

variable (platform : Platform)

/-! ## Connecting with nothing in flight -/

theorem resend_idle {accepted rc : Bool} {timer : Timer} {before after : Machine}
    (idle : before.mqtt.inflight = none) (run : Mqtt.resend platform accepted timer before = .ok rc after) :
    accepted = rc ∧ before = after := by
  unfold Mqtt.resend at run
  rw [run_get_bind, idle] at run
  exact run_pure_eq_ok.mp run

/-- `connect` succeeds only with a CONNACK that says so, unless a publish is sent again. -/
theorem mqttConnect_returns {clientId : Bytes} {cleansession : Bool} {before after : Machine}
    (idle : before.mqtt.inflight = none) (run : Mqtt.connect platform clientId cleansession before = .ok true after) :
    ∃ frame flags rest, frame.body = flags :: 0 :: rest ∧
      Arrives .connack frame (.sent (.connect clientId cleansession Mqtt.defaultKeepAlive) ::
        .deadline before.mqtt.commandTimeout :: before.log) after.log ∧
      after.mqttTls.sessionPresent = decide (flags &&& 0x80 ≠ 0) ∧ frame.expected before := by
  unfold Mqtt.connect at run
  rw [run_get_bind] at run
  obtain ⟨timer, started, starting, run⟩ := run_bind_eq_ok.mp run
  obtain ⟨rfl, rfl⟩ := startTimer_returns starting
  rw [run_get_bind] at run
  split at run
  · simp at run
  · obtain ⟨_, changed, changing, run⟩ := run_bind_eq_ok.mp run
    have changed := run_modify_eq_ok.mp changing
    subst changed
    split at run
    · simp at run
    · obtain ⟨⟨sent, left⟩, out, sending, run⟩ := run_bind_eq_ok.mp run
      obtain ⟨_, effect⟩ := sendPacket_returns sending
      cases sent with
      | false => simp at run
      | true =>
          simp only [Bool.not_true, Bool.false_eq_true, if_false, if_true] at run effect
          obtain ⟨⟨arrived, left'⟩, waited, waiting, run⟩ := run_bind_eq_ok.mp run
          obtain ⟨accepted, decided, deciding, run⟩ := run_bind_eq_ok.mp run
          obtain ⟨rc, resent, resending, run⟩ := run_bind_eq_ok.mp run
          obtain ⟨_, connected, connecting, run⟩ := run_bind_eq_ok.mp run
          obtain ⟨rfl, rfl⟩ := run_pure_eq_ok.mp run
          have logged : out.log = .sent (.connect clientId cleansession Mqtt.defaultKeepAlive) ::
              .deadline before.mqtt.commandTimeout :: before.log := congrArg Machine.log effect
          have unused : out.mqtt.inflight = none := by rw [effect]; exact idle
          have waits := (waitfor_waits platform _ _).returns waiting
          have outcome := waitfor_returns platform (by simp [PacketType.plain]) waiting
          rw [logged] at outcome
          cases arrived with
          | false =>
              obtain ⟨rfl, rfl⟩ := run_pure_eq_ok.mp deciding
              obtain ⟨impossible, _⟩ := resend_idle platform (waits.inflight.trans unused) resending
              cases impossible
          | true =>
              obtain ⟨frame, arrives, loaded⟩ := outcome
              obtain ⟨⟨sessionPresent, same, _⟩, success⟩ := readConnack_returns arrives.1 loaded deciding
              have still : decided.mqtt.inflight = none := by
                rw [same]
                exact waits.inflight.trans unused
              obtain ⟨rfl, rfl⟩ := resend_idle platform still resending
              obtain ⟨flags, rest, body, flag⟩ := success rfl
              have sends : Keeps (Waits fun _ => true) (Mqtt.sendPacket (.sent (.connect clientId cleansession
                Mqtt.defaultKeepAlive)) (before.replies.ticks.headD 0)) := sendPacket_waits _ rfl rfl
              have log : decided.log = waited.log := (congrArg Machine.log same :)
              have expected := (waitfor_sourced platform _ _).returns waiting |>.arrives (logged ▸ arrives)
              rw [← run_modify_eq_ok.mp (onlyIf_returns connecting)]
              exact ⟨frame, flags, rest, body, log ▸ arrives, flag, expected.earlier (sends.returns sending).reads⟩

theorem mqttConnect_fits {clientId : Bytes} {cleansession : Bool} {before after : Machine}
    (run : Mqtt.connect platform clientId cleansession before = .ok true after) :
    (Packet.connect clientId cleansession Mqtt.defaultKeepAlive).fits := by
  unfold Mqtt.connect at run
  rw [run_get_bind] at run
  obtain ⟨timer, started, starting, run⟩ := run_bind_eq_ok.mp run
  rw [run_get_bind] at run
  split at run
  · simp at run
  · obtain ⟨_, changed, changing, run⟩ := run_bind_eq_ok.mp run
    split at run
    · simp at run
    · rename_i fits
      simpa using fits

/-! ## Opening a connection -/

theorem sendPacket_lost {event : Event} {timer left : Timer} {sent : Bool} {before after : Machine}
    (lost : before.tls.connected = false) (run : Mqtt.sendPacket event timer before = .ok (sent, left) after) :
    after = { before with tls := after.tls } ∧ after.tls.connected = false := by
  unfold Mqtt.sendPacket at run
  split at run
  · obtain ⟨_, rfl⟩ := run_pure_eq_ok.mp run
    exact ⟨rfl, lost⟩
  · rw [run_get_bind] at run
    simp only [lost, Bool.not_false, if_true] at run
    obtain ⟨_, failed, failing, run⟩ := run_bind_eq_ok.mp run
    have failed := run_modify_eq_ok.mp failing
    obtain ⟨_, rfl⟩ := run_pure_eq_ok.mp run
    subst failed
    exact ⟨rfl, lost⟩

theorem disconnect_returns {result : Unit} {before after : Machine} (lost : before.tls.connected = false)
    (run : Mqtt.disconnect before = .ok result after) :
    after.mqtt = before.mqtt.ended ∧ after.mqttTls = before.mqttTls ∧ after.tls.connected = false ∧
      ∃ events, after.log = events ++ before.log ∧ ∀ event ∈ events, event.quiet := by
  unfold Mqtt.disconnect at run
  rw [run_get_bind] at run
  obtain ⟨timer, started, starting, run⟩ := run_bind_eq_ok.mp run
  obtain ⟨rfl, rfl⟩ := startTimer_returns starting
  obtain ⟨⟨sent, left⟩, out, sending, run⟩ := run_bind_eq_ok.mp run
  have ended := run_modify_eq_ok.mp run
  subst ended
  obtain ⟨same, closed⟩ := sendPacket_lost (by exact lost) sending
  have log : out.log = .deadline before.mqtt.commandTimeout :: before.log := (congrArg Machine.log same :)
  have mqtt : out.mqtt = before.mqtt := (congrArg Machine.mqtt same :)
  have mqttTls : out.mqttTls = before.mqttTls := (congrArg Machine.mqttTls same :)
  exact ⟨congrArg Mqtt.ended mqtt, mqttTls, closed, [.deadline _], log, by simp [Event.quiet]⟩

theorem tlsClose_returns {result : Unit} {before after : Machine}
    (run : TlsConnection.close before = .ok result after) :
    after = if before.tls.connected then
      { before with tls := { before.tls with connected := false }, log := .closed :: before.log } else before := by
  unfold TlsConnection.close at run
  rw [run_get_bind] at run
  split at run
  · rename_i connected
    obtain ⟨_, changed, changing, run⟩ := run_bind_eq_ok.mp run
    have changed := run_modify_eq_ok.mp changing
    have noted := run_modify_eq_ok.mp run
    subst changed noted
    rw [if_pos connected]
  · rename_i closed
    obtain ⟨_, rfl⟩ := run_pure_eq_ok.mp run
    rw [if_neg closed]

theorem isConnected_returns {connected : Bool} {before after : Machine}
    (run : MqttTls.isConnected before = .ok connected after) :
    if connected then before.tls.connected ∧ before.mqtt.isconnected ∧ after = before
    else (before.tls.connected && before.mqtt.isconnected) = false ∧ after.tls.connected = false ∧
      after.mqtt = (if before.mqtt.isconnected then before.mqtt.ended else before.mqtt) ∧
      after.mqttTls.clientId = before.mqttTls.clientId ∧
      ∃ events, after.log = events ++ before.log ∧ ∀ event ∈ events, event.quiet := by
  unfold MqttTls.isConnected at run
  rw [run_get_bind] at run
  cases reachable : before.tls.connected with
  | false =>
      simp only [reachable, Bool.not_false, if_true] at run
      obtain ⟨_, left, leaving, run⟩ := run_bind_eq_ok.mp run
      obtain ⟨rfl, rfl⟩ := run_pure_eq_ok.mp run
      have effect := onlyIf_returns leaving
      cases open' : before.mqtt.isconnected with
      | false =>
          simp only [open', Bool.false_eq_true, if_false] at effect
          subst effect
          exact ⟨rfl, reachable, rfl, rfl, [], rfl, by simp⟩
      | true =>
          rw [open', if_pos rfl] at effect
          obtain ⟨_, ended, ending, effect⟩ := run_bind_eq_ok.mp effect
          obtain ⟨mqtt, mqttTls, closed, log⟩ := disconnect_returns reachable ending
          have changed := run_modify_eq_ok.mp effect
          subst changed
          exact ⟨rfl, closed, mqtt, (congrArg MqttTls.clientId mqttTls :), log⟩
  | true =>
      simp only [reachable, Bool.not_true, Bool.false_eq_true, if_false] at run
      cases open' : before.mqtt.isconnected with
      | false =>
          simp only [open', Bool.not_false, if_true] at run
          obtain ⟨_, closed, closing, run⟩ := run_bind_eq_ok.mp run
          obtain ⟨_, changed, changing, run⟩ := run_bind_eq_ok.mp run
          have changed := run_modify_eq_ok.mp changing
          obtain ⟨rfl, rfl⟩ := run_pure_eq_ok.mp run
          subst changed
          have closed := tlsClose_returns closing
          rw [reachable, if_pos rfl] at closed
          subst closed
          exact ⟨rfl, rfl, rfl, rfl, [.closed], rfl, by simp [Event.quiet]⟩
      | true =>
          simp only [open', Bool.not_true, Bool.false_eq_true, if_false] at run
          obtain ⟨rfl, rfl⟩ := run_pure_eq_ok.mp run
          exact ⟨rfl, rfl, rfl⟩

theorem tlsConnect_returns {connected : Bool} {before after : Machine} (closed : before.tls.connected = false)
    (run : TlsConnection.connect before = .ok connected after) :
    after.mqtt = before.mqtt ∧ after.mqttTls = before.mqttTls ∧ after.impl = before.impl ∧
      after.log = if connected then .opened :: before.log else before.log := by
  unfold TlsConnection.connect at run
  rw [run_get_bind] at run
  simp only [closed, Bool.false_eq_true, if_false] at run
  obtain ⟨reply, between, replied, run⟩ := run_bind_eq_ok.mp run
  have replied := congrArg Prod.snd (run_modifyGet_eq_ok.mp replied)
  subst replied
  cases reply with
  | some error =>
      obtain ⟨_, failed, failing, run⟩ := run_bind_eq_ok.mp run
      have failed := run_modify_eq_ok.mp failing
      obtain ⟨rfl, rfl⟩ := run_pure_eq_ok.mp run
      subst failed
      exact ⟨rfl, rfl, rfl, rfl⟩
  | none =>
      obtain ⟨_, changed, changing, run⟩ := run_bind_eq_ok.mp run
      have changed := run_modify_eq_ok.mp changing
      obtain ⟨_, noted, noting, run⟩ := run_bind_eq_ok.mp run
      have noted := run_modify_eq_ok.mp noting
      obtain ⟨rfl, rfl⟩ := run_pure_eq_ok.mp run
      subst noted changed
      exact ⟨rfl, rfl, rfl, rfl⟩

theorem tlsConnect_fails {before after : Machine} (closed : before.tls.connected = false)
    (run : TlsConnection.connect before = .ok false after) : after.tls.connected = false := by
  unfold TlsConnection.connect at run
  rw [run_get_bind] at run
  simp only [closed, Bool.false_eq_true, if_false] at run
  obtain ⟨reply, between, replied, run⟩ := run_bind_eq_ok.mp run
  have replied := congrArg Prod.snd (run_modifyGet_eq_ok.mp replied)
  subst replied
  cases reply with
  | some error =>
      obtain ⟨_, failed, failing, run⟩ := run_bind_eq_ok.mp run
      have failed := run_modify_eq_ok.mp failing
      obtain ⟨_, rfl⟩ := run_pure_eq_ok.mp run
      subst failed
      exact closed
  | none =>
      obtain ⟨_, _, _, run⟩ := run_bind_eq_ok.mp run
      obtain ⟨_, _, _, run⟩ := run_bind_eq_ok.mp run
      cases (run_pure_eq_ok.mp run).1

theorem NothingInFlight.idle {cleanSession : Bool} {m : Machine} (nothing : NothingInFlight cleanSession m)
    (unconnected : (m.tls.connected && m.mqtt.isconnected) = false)
    (fits : (Packet.connect m.mqttTls.clientId cleanSession Mqtt.defaultKeepAlive).fits) :
    (if m.mqtt.isconnected then m.mqtt.ended else m.mqtt).inflight = none := by
  rcases nothing with idle | ⟨connected, open' | clean⟩ | long
  · split
    · unfold Mqtt.ended
      split
      · rfl
      · exact idle
    · exact idle
  · simp [connected, open'] at unconnected
  · simp [connected, Mqtt.ended, clean, Mqtt.clean]
  · exact absurd fits long

theorem connectSession_returns {cleanSession : Bool} {before after : Machine}
    (run : MqttTls.connectSession platform cleanSession before = .ok true after) :
    (before.tls.connected = true ∧ after = before) ∨
      ∃ checked tried answered, MqttTls.isConnected before = .ok false checked ∧
        TlsConnection.connect checked = .ok true tried ∧
        Mqtt.connect platform tried.mqttTls.clientId cleanSession tried = .ok true answered ∧
        after = { answered with mqttTls := { answered.mqttTls with lastError := [] } } := by
  unfold MqttTls.connectSession at run
  obtain ⟨already, checked, checking, rest⟩ := run_bind_eq_ok.mp run
  cases already with
  | true =>
      obtain ⟨open', _, same⟩ := isConnected_returns checking
      exact .inl ⟨open', (run_pure_eq_ok.mp rest).2.symm.trans same⟩
  | false =>
      simp only [Bool.false_eq_true, if_false] at rest
      obtain ⟨reached, tried, trying, rest⟩ := run_bind_eq_ok.mp rest
      cases reached with
      | false =>
          simp only [Bool.not_false, if_true, run_get_bind] at rest
          cases (onError_returns rest).1
      | true =>
          simp only [Bool.not_true, Bool.false_eq_true, if_false] at rest
          obtain ⟨connected, answered, connecting, rest⟩ := run_bind_eq_ok.mp rest
          cases connected with
          | false =>
              obtain ⟨_, _, _, rest⟩ := run_bind_eq_ok.mp rest
              cases (run_pure_eq_ok.mp rest).1
          | true =>
              obtain ⟨_, changed, changing, rest⟩ := run_bind_eq_ok.mp rest
              have changed := run_modify_eq_ok.mp changing
              obtain ⟨_, rfl⟩ := run_pure_eq_ok.mp rest
              unfold MqttTls.mqttConnect at connecting
              rw [run_get_bind] at connecting
              obtain ⟨accepted, between, answering, rest⟩ := run_bind_eq_ok.mp connecting
              cases accepted with
              | true =>
                  obtain ⟨_, rfl⟩ := run_pure_eq_ok.mp rest
                  exact .inr ⟨checked, tried, between, checking, trying, answering, changed.symm⟩
              | false => cases (onError_returns rest).1

theorem connectsAccepted_of_nothingInFlight {cleanSession : Bool} {m : Machine}
    (nothing : NothingInFlight cleanSession m) : ConnectsAccepted platform cleanSession m := by
  intro replies after run opened
  rcases connectSession_returns platform run with ⟨_, rfl⟩ | ⟨checked, tried, answered, checking, trying, connecting, rfl⟩
  · simp [Machine.since] at opened
  · obtain ⟨unconnected, closed, mqtt, clientId, events, log, quiet⟩ := isConnected_returns checking
    obtain ⟨sameMqtt, sameTls, _, opening⟩ := tlsConnect_returns closed trying
    rw [if_pos rfl] at opening
    have fits := mqttConnect_fits platform connecting
    rw [sameTls, clientId] at fits
    have idle : tried.mqtt.inflight = none := by
      rw [sameMqtt, mqtt]
      exact nothing.idle unconnected fits
    obtain ⟨frame, flags, rest, body, ⟨typed, later, earlier, arrived, allLater, allEarlier⟩, _⟩ :=
      mqttConnect_returns platform idle connecting
    refine ⟨later, frame, flags, rest, earlier, tried.mqttTls.clientId, cleanSession,
      Mqtt.defaultKeepAlive, .deadline tried.mqtt.commandTimeout :: .opened :: events, ?_, ?_, ?_, typed, body⟩
    · apply since_append
      show answered.log = _
      rw [arrived, opening, log]
      simp
    · intro member
      cases allLater _ member
    · intro member
      cases passive_of_besides (allEarlier _ member)

/-! ## A refused connection that looks accepted -/

def refusing (ticks : List Nat) (connects : List Status) (sends : List SendReply) (reads : List ReadReply) :
    Replies where
  ticks := ticks
  connects := connects
  sends := sends
  reads := reads
  pings := []
  unset := []
  ivs := []
  randoms := []
  exchanges := []

def refusal : Frame := ⟨0x20, [0, 5], by decide⟩

def emptyPuback : Frame := ⟨0x40, [], by decide⟩

def refusals : List ReadReply := [⟨.packet refusal, none⟩, ⟨.packet emptyPuback, none⟩]

def NoAcceptance (events : List Event) : Prop :=
  ∀ frame flags rest, .received frame ∈ events → packetType frame.header = .connack →
    frame.body ≠ flags :: 0 :: rest

theorem NoAcceptance.not_accepted {events : List Event} (refused : NoAcceptance events) : ¬ Accepted events := by
  rintro ⟨later, frame, flags, rest, between, clientId, cleansession, keepAlive, earlier, split, _, _, typed, body⟩
  exact refused frame flags rest (by simp [split]) typed body

theorem NoAcceptance.append {newer older : List Event} (refused : NoAcceptance newer)
    (refused' : NoAcceptance older) : NoAcceptance (newer ++ older) := by
  intro frame flags rest member typed
  rcases List.mem_append.mp member with member | member
  · exact refused frame flags rest member typed
  · exact refused' frame flags rest member typed

theorem resend_refused {message : Publish} {ticks : List Nat} {m : Machine}
    (inflight : m.mqtt.inflight = some message) (connected : m.tls.connected = true)
    (keepAlive : m.mqtt.keepAliveInterval = Mqtt.defaultKeepAlive)
    (replies : m.replies = refusing ticks [] [.sent false] [⟨.packet emptyPuback, none⟩]) :
    ∃ after events, Mqtt.resend platform false 1 m = .ok true after ∧ after.log = events ++ m.log ∧
      NoAcceptance events := by
  obtain ⟨⟨host, port, _, error⟩, ⟨timeout, readbuf, _, ping, clean, packetid, isconnected, _, pubrel, ids⟩,
    mqttTls, impl, http, _, log⟩ := m
  obtain ⟨qos, id, topic, payload⟩ := message
  subst inflight connected keepAlive replies
  cases qos with
  | qos0 => exact ⟨_, [.resent _], rfl, rfl, by simp [NoAcceptance]⟩
  | qos1 =>
      refine ⟨_, [.received emptyPuback, .resent _], rfl, rfl, ?_⟩
      intro frame flags rest member
      simp only [List.mem_cons, Event.received.injEq, reduceCtorEq, List.not_mem_nil, or_false] at member
      subst member
      intro typed
      cases typed
  | qos2 =>
      cases pubrel with
      | true => exact ⟨_, [.sent (.ack .pubrel id)], rfl, rfl, by simp [NoAcceptance]⟩
      | false => exact ⟨_, [.resent _], rfl, rfl, by simp [NoAcceptance]⟩
  | qos3 => exact ⟨_, [.resent _], rfl, rfl, by simp [NoAcceptance]⟩

theorem mqttConnect_refused {message : Publish} {ticks : List Nat} {clientId : Bytes} {cleansession : Bool}
    {m : Machine} (inflight : m.mqtt.inflight = some message) (connected : m.tls.connected = true)
    (disconnected : m.mqtt.isconnected = false)
    (fits : (Packet.connect clientId cleansession Mqtt.defaultKeepAlive).fits)
    (replies : m.replies = refusing (2 :: ticks) [] [.sent false, .sent false] refusals) :
    ∃ after events, Mqtt.connect platform clientId cleansession m = .ok true after ∧ after.log = events ++ m.log ∧
      NoAcceptance events := by
  obtain ⟨⟨host, port, _, error⟩, ⟨timeout, readbuf, interval, ping, clean, packetid, _, _, pubrel, ids⟩,
    mqttTls, impl, http, _, log⟩ := m
  subst inflight connected disconnected replies
  let waited : Machine :=
    { tls := ⟨host, port, true, error⟩
      mqtt := ⟨timeout, refusal.load readbuf, Mqtt.defaultKeepAlive, ping, cleansession, packetid, false,
        some message, pubrel, ids⟩
      mqttTls := { mqttTls with sessionPresent := false }
      impl := impl
      http := http
      replies := refusing ticks [] [.sent false] [⟨.packet emptyPuback, none⟩]
      log := .received refusal :: .sent (.connect clientId cleansession Mqtt.defaultKeepAlive) ::
        .deadline timeout :: log }
  obtain ⟨resent, events, run, grows, refused⟩ := resend_refused platform (m := waited) rfl rfl rfl rfl
  refine ⟨{ resent with mqtt := { resent.mqtt with isconnected := true } },
    events ++ [.received refusal, .sent (.connect clientId cleansession Mqtt.defaultKeepAlive), .deadline timeout],
    ?_, ?_, ?_⟩
  · unfold Mqtt.connect
    refine run_bind_eq_ok.mpr ⟨_, _, rfl, ?_⟩
    refine run_bind_eq_ok.mpr ⟨_, _, rfl, ?_⟩
    refine run_bind_eq_ok.mpr ⟨_, _, rfl, ?_⟩
    refine run_bind_eq_ok.mpr ⟨_, _, rfl, ?_⟩
    rw [fits]
    refine run_bind_eq_ok.mpr ⟨_, _, rfl, ?_⟩
    refine run_bind_eq_ok.mpr ⟨_, _, rfl, ?_⟩
    refine run_bind_eq_ok.mpr ⟨_, waited, rfl, ?_⟩
    exact run_bind_eq_ok.mpr ⟨true, resent, run, rfl⟩
  · simp [grows, waited]
  · apply refused.append
    intro frame flags rest member
    simp only [List.mem_cons, Event.received.injEq, reduceCtorEq, List.not_mem_nil, or_false] at member
    subst member
    simp [refusal]

theorem isConnected_refused (sends : List SendReply) (reads : List ReadReply) {m : Machine}
    (unconnected : ¬ (m.mqtt.isconnected ∧ (m.tls.connected ∨ m.mqtt.cleansession))) :
    ∃ checked ticks events,
      MqttTls.isConnected { m with replies := refusing [2, 2] [none] sends reads } = .ok false checked ∧
      checked.mqtt.inflight = m.mqtt.inflight ∧ checked.tls.connected = false ∧ checked.mqtt.isconnected = false ∧
      checked.mqttTls.clientId = m.mqttTls.clientId ∧ checked.replies = refusing (2 :: ticks) [none] sends reads ∧
      checked.log = events ++ m.log ∧ NoAcceptance events := by
  obtain ⟨⟨host, port, connected, error⟩,
    ⟨timeout, readbuf, interval, ping, clean, packetid, isconnected, inflight, pubrel, ids⟩,
    mqttTls, impl, http, _, log⟩ := m
  cases isconnected with
  | false =>
      cases connected with
      | false => exact ⟨_, _, [], rfl, rfl, rfl, rfl, rfl, rfl, rfl, by simp [NoAcceptance]⟩
      | true => exact ⟨_, _, [.closed], rfl, rfl, rfl, rfl, rfl, rfl, rfl, by simp [NoAcceptance]⟩
  | true =>
      simp only [true_and, not_or, Bool.not_eq_true] at unconnected
      obtain ⟨lost, kept⟩ := unconnected
      subst lost kept
      exact ⟨_, _, [.deadline timeout], rfl, rfl, rfl, rfl, rfl, rfl, rfl, by simp [NoAcceptance]⟩

theorem tlsConnect_refused {ticks : List Nat} {sends : List SendReply} {reads : List ReadReply} {m : Machine}
    (closed : m.tls.connected = false) (replies : m.replies = refusing ticks [none] sends reads) :
    TlsConnection.connect m = .ok true { m with
      tls := ⟨m.tls.host, m.tls.port, true, none⟩
      replies := refusing ticks [] sends reads
      log := .opened :: m.log } := by
  obtain ⟨⟨host, port, _, error⟩, mqtt, mqttTls, impl, http, _, log⟩ := m
  subst closed replies
  rfl

/-- With a publish in flight there are replies that make a refused connection look accepted. -/
theorem not_connectsAccepted_of_inFlight {cleanSession : Bool} {m : Machine}
    (something : ¬ NothingInFlight cleanSession m) : ¬ ConnectsAccepted platform cleanSession m := by
  simp only [NothingInFlight, not_or, Decidable.not_not] at something
  obtain ⟨busy, unconnected, fits⟩ := something
  obtain ⟨message, inflight⟩ := Option.ne_none_iff_exists'.mp busy
  obtain ⟨checked, ticks, events, checking, kept, closed, disconnected, clientId, replies, log, refused⟩ :=
    isConnected_refused [.sent false, .sent false] refusals unconnected
  have opening := tlsConnect_refused closed replies
  rw [← clientId] at fits
  obtain ⟨after, events', connecting, log', refused'⟩ := mqttConnect_refused platform
    (m := { checked with
      tls := ⟨checked.tls.host, checked.tls.port, true, none⟩
      replies := refusing (2 :: ticks) [] [.sent false, .sent false] refusals
      log := .opened :: checked.log })
    (kept.trans inflight) rfl disconnected fits rfl
  intro accepted
  have since := since_append m after (events' ++ .opened :: events) (by simp [log, log'])
  have run : MqttTls.connectSession platform cleanSession
      { m with replies := refusing [2, 2] [none] [.sent false, .sent false] refusals } =
      .ok true { after with mqttTls := { after.mqttTls with lastError := [] } } := by
    refine run_bind_eq_ok.mpr ⟨false, checked, checking, ?_⟩
    refine run_bind_eq_ok.mpr ⟨true, _, opening, ?_⟩
    refine run_bind_eq_ok.mpr ⟨true, after, ?_, rfl⟩
    unfold MqttTls.mqttConnect
    rw [run_get_bind]
    exact run_bind_eq_ok.mpr ⟨true, after, connecting, rfl⟩
  have opened : .opened ∈ m.since after := by simp [since]
  apply NoAcceptance.not_accepted _ (accepted _ _ run opened)
  show NoAcceptance (m.since after)
  rw [since]
  apply refused'.append
  intro frame flags rest member
  exact refused frame flags rest (by simpa using member)

theorem connectsAccepted_iff (cleanSession : Bool) (m : Machine) :
    ConnectsAccepted platform cleanSession m ↔ NothingInFlight cleanSession m := by
  constructor
  · intro accepted
    apply Decidable.by_contra
    intro something
    exact not_connectsAccepted_of_inFlight platform something accepted
  · exact connectsAccepted_of_nothingInFlight platform

/-! ## A sample state -/

def abandoned : Machine :=
  let published := last (Client.publish (plainPlatform .signed) (bytes "t") (bytes "p") (inSession .signed true []))
  { published with tls := { published.tls with connected := false } }

theorem not_connectsAccepted : ¬ ConnectsAccepted (plainPlatform .signed) false abandoned :=
  not_connectsAccepted_of_inFlight _ (by decide +kernel)

end IotClient
