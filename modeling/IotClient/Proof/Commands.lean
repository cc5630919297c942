import IotClient.Proof.Waiting
import IotClient.Spec.Commands

namespace IotClient
open Logic

/-! ## Events -/

theorem since_append (before after : Machine) (events : List Event) (grows : after.log = events ++ before.log) :
    before.since after = events := by
  simp [Machine.since, grows]

theorem frameOf_of_besides {type : PacketType} {event : Event} (besides : event.besides type) :
    event.frameOf type = none := by
  simp only [Event.besides, Bool.and_eq_true, Option.isNone_iff_eq_none] at besides
  exact besides.2

theorem not_received_of_quiet {events : List Event} (quiet : ∀ event ∈ events, event.quiet) (frame : Frame) :
    .received frame ∉ events := by
  intro member
  cases quiet _ member

theorem frameOf_of_quiet {type : PacketType} {event : Event} (quiet : event.quiet) :
    event.frameOf type = none :=
  frameOf_of_besides (besides_of_quiet type quiet)

theorem firstReceived_eq_none {type : PacketType} {events : List Event}
    (none : ∀ event ∈ events, event.frameOf type = none) : firstReceived type events = Option.none := by
  rw [firstReceived, List.findSome?_eq_none_iff]
  intro event member
  exact none event (List.mem_reverse.mp member)

theorem firstReceived_eq_some {type : PacketType} {frame : Frame} {later earlier : List Event}
    (typed : packetType frame.header = type) (older : ∀ event ∈ earlier, event.frameOf type = none) :
    firstReceived type (later ++ .received frame :: earlier) = some frame := by
  have missing : earlier.reverse.findSome? (Event.frameOf type) = none := firstReceived_eq_none older
  simp [firstReceived, List.findSome?_append, missing, Event.frameOf, typed]

/-! ## Deserialisers on a packet that has been read -/

theorem Frame.load_eq (frame : Frame) (old : Bytes) :
    ∃ behind, frame.load old = frame.header :: (encodeLength frame.body.length ++ (frame.body ++ behind)) :=
  ⟨old.drop (frameBytes frame.header frame.body).length, by simp [Frame.load, frameBytes]⟩

theorem deserializeAck_load (frame : Frame) (old : Bytes) :
    deserializeAck (frame.load old) = .ok (1, frame.packetId) := by
  obtain ⟨behind, loaded⟩ := frame.load_eq old
  have decoded := decodeLength_encodeLength frame.body_length (frame.body ++ behind)
  rw [loaded]
  simp only [deserializeAck, decoded, List.drop_left, Frame.packetId]
  match frame.body with
  | [] => rfl
  | [c] =>
      have short : [c].length < 2 := by simp
      rw [if_pos short, List.length_singleton, encodeLength_short (by omega)]
      rfl
  | high :: low :: rest =>
      have long : ¬ (high :: low :: rest).length < 2 := by simp
      rw [if_neg long]
      rfl

/-! ## Sending -/

theorem nextSend_returns {reply : SendReply} {before after : Machine}
    (run : nextSend before = .ok reply after) :
    reply = before.replies.sends.headD .expired ∧
      after = { before with replies := { before.replies with sends := before.replies.sends.tail } } := by
  have replied := run_modifyGet_eq_ok.mp run
  exact ⟨(congrArg Prod.fst replied).symm, (congrArg Prod.snd replied).symm⟩

theorem sendPacket_returns {event : Event} {timer left : Timer} {sent : Bool} {before after : Machine}
    (run : Mqtt.sendPacket event timer before = .ok (sent, left) after) :
    before.canSend timer = sent ∧
      if sent then after = { before with log := event :: before.log, replies := after.replies }
      else Waits Event.quiet before after := by
  unfold Mqtt.sendPacket at run
  split at run
  · rename_i expired
    simp only [run_pure_eq_ok, Prod.mk.injEq] at run
    obtain ⟨⟨rfl, _⟩, rfl⟩ := run
    exact ⟨by simp [Machine.canSend, expired], Following.refl _⟩
  · rename_i running
    rw [run_get_bind] at run
    split at run
    · rename_i disconnected
      obtain ⟨_, between, failed, run⟩ := run_bind_eq_ok.mp run
      simp only [run_pure_eq_ok, Prod.mk.injEq] at run
      obtain ⟨⟨rfl, _⟩, rfl⟩ := run
      refine ⟨?_, (fail_waits _).returns failed⟩
      simp only [Bool.not_eq_true'] at disconnected
      simp [Machine.canSend, disconnected]
    · rename_i connected
      simp only [Bool.not_eq_true', Bool.not_eq_false] at connected
      obtain ⟨reply, between, replied, run⟩ := run_bind_eq_ok.mp run
      obtain ⟨head, rfl⟩ := nextSend_returns replied
      have quiet : Waits Event.quiet before
          { before with replies := { before.replies with sends := before.replies.sends.tail } } :=
        (reply_waits (fun _ => rfl) fun _ => List.Subset.refl _).returns replied
      have sends : before.canSend timer = reply.goesOut := by
        simp [Machine.canSend, running, connected, head]
      cases reply with
      | sent expires =>
          obtain ⟨_, noted, emitted, run⟩ := run_bind_eq_ok.mp run
          have noted := run_modify_eq_ok.mp emitted
          simp only [run_pure_eq_ok, Prod.mk.injEq] at run
          obtain ⟨⟨rfl, _⟩, rfl⟩ := run
          subst noted
          exact ⟨sends, rfl⟩
      | expired =>
          simp only [run_pure_eq_ok, Prod.mk.injEq] at run
          obtain ⟨⟨rfl, _⟩, rfl⟩ := run
          exact ⟨sends, quiet⟩
      | failed error =>
          obtain ⟨_, lost, losing, run⟩ := run_bind_eq_ok.mp run
          simp only [run_pure_eq_ok, Prod.mk.injEq] at run
          obtain ⟨⟨rfl, _⟩, rfl⟩ := run
          have lost : Waits Event.quiet before _ :=
            Following.trans quiet ((lose_waits error rfl).returns losing)
          exact ⟨sends, lost⟩

/-! ## Publishing -/

variable (platform : Platform)

theorem startTimer_returns {milliseconds : Nat} {timer : Timer} {before after : Machine}
    (run : startTimer milliseconds before = .ok timer after) :
    timer = before.replies.ticks.headD 0 ∧
      after = { before with
        log := .deadline milliseconds :: before.log
        replies := { before.replies with ticks := before.replies.ticks.tail } } := by
  obtain ⟨_, noted, emitted, replied⟩ := run_bind_eq_ok.mp run
  have noted := run_modify_eq_ok.mp emitted
  subst noted
  have replied := run_modifyGet_eq_ok.mp replied
  exact ⟨(congrArg Prod.fst replied).symm, (congrArg Prod.snd replied).symm⟩

theorem getNext_returns {id : Nat} {before after : Machine} (run : Mqtt.getNext before = .ok id after) :
    id = Mqtt.nextId before.mqtt.packetid ∧
      after = { before with mqtt := { before.mqtt with packetid := id } } := by
  obtain ⟨_, changed, updated, run⟩ := run_bind_eq_ok.mp run
  have changed := run_modify_eq_ok.mp updated
  subst changed
  rw [run_get_bind] at run
  obtain ⟨rfl, rfl⟩ := run_pure_eq_ok.mp run
  exact ⟨rfl, rfl⟩

theorem onlyIf_returns {condition : Bool} {action : M Unit} {result : Unit} {before after : Machine}
    (run : onlyIf condition action before = .ok result after) :
    if condition then action before = .ok () after else before = after := by
  cases condition with
  | true => exact run
  | false => exact (run_pure_eq_ok.mp run).2

theorem idOr_returns {set : Option Nat} {id : Nat} {before after : Machine}
    (run : Mqtt.idOr set before = .ok id after) : after = { before with replies := after.replies } := by
  cases set with
  | some id =>
      obtain ⟨_, rfl⟩ := run_pure_eq_ok.mp run
      rfl
  | none =>
      obtain ⟨_, _, replied, run⟩ := run_bind_eq_ok.mp run
      obtain ⟨_, rfl⟩ := run_pure_eq_ok.mp run
      cases run_modifyGet_eq_ok.mp replied
      rfl

theorem acknowledge_returns {rc : Bool} {before after : Machine} {frame : Frame}
    (loaded : ∃ old, before.mqtt.readbuf = frame.load old) (run : Mqtt.acknowledge before = .ok rc after) :
    rc = true ∧ after.log = before.log := by
  obtain ⟨old, loaded⟩ := loaded
  unfold Mqtt.acknowledge at run
  rw [run_get_bind] at run
  rw [loaded, deserializeAck_load] at run
  obtain ⟨_, _, deserialized, run⟩ := run_bind_eq_ok.mp run
  obtain ⟨rfl, rfl⟩ := run_pure_eq_ok.mp deserialized
  simp only [ne_eq, not_true_eq_false, if_false] at run
  obtain ⟨id, between, identified, run⟩ := run_bind_eq_ok.mp run
  obtain ⟨_, changed, updated, run⟩ := run_bind_eq_ok.mp run
  obtain ⟨rfl, rfl⟩ := run_pure_eq_ok.mp run
  have changed := run_modify_eq_ok.mp updated
  subst changed
  have same : between.log = before.log := by rw [idOr_returns identified]
  exact ⟨rfl, same⟩

theorem cleaned_log {condition : Bool} {result : Unit} {before after : Machine}
    (run : onlyIf condition Mqtt.cleanSession before = .ok result after) : after.log = before.log := by
  have effect := onlyIf_returns run
  cases condition with
  | true =>
      have changed := run_modify_eq_ok.mp effect
      rw [← changed]
  | false => exact congrArg Machine.log (Eq.symm effect)

/-- How `publish(len, timer, qos)` ends once the packet is out: nothing is waited for unless the QoS is 1,
and then any PUBACK will do. -/
def Transmitted (qos : QoS) (rc : Bool) (before after : List Event) : Prop :=
  if qos = .qos1 then if rc then ∃ frame, Arrives .puback frame before after else Misses .puback before after
  else rc = true ∧ after = before

def Fruitless (rc : Bool) (before after : List Event) : Prop :=
  rc = false ∧ ∃ events, after = events ++ before ∧ ∀ event ∈ events, event.quiet

theorem Fruitless.after {rc : Bool} {event : Event} {before after : List Event}
    (fruitless : Fruitless rc (event :: before) after) (quiet : event.quiet) : Fruitless rc before after := by
  obtain ⟨failed, events, rfl, all⟩ := fruitless
  refine ⟨failed, events ++ [event], by simp, ?_⟩
  intro other member
  rcases List.mem_append.mp member with member | member
  · exact all other member
  · rw [List.mem_singleton.mp member]
    exact quiet

theorem transmit_returns {event : Event} {timer : Timer} {qos : QoS} {rc : Bool} {before after : Machine}
    (run : Mqtt.transmit platform event timer qos before = .ok rc after) :
    if before.canSend timer then Transmitted qos rc (event :: before.log) after.log
    else Fruitless rc before.log after.log := by
  obtain ⟨⟨sent, left⟩, first, transmitted, run⟩ := run_bind_eq_ok.mp run
  obtain ⟨can, effect⟩ := sendPacket_returns transmitted
  obtain ⟨result, second, decided, run⟩ := run_bind_eq_ok.mp run
  obtain ⟨_, third, cleaned, run⟩ := run_bind_eq_ok.mp run
  obtain ⟨rfl, rfl⟩ := run_pure_eq_ok.mp run
  have unlogged : third.log = second.log := cleaned_log cleaned
  rw [can, unlogged]
  cases sent with
  | false =>
      obtain ⟨rfl, rfl⟩ := run_pure_eq_ok.mp decided
      exact ⟨rfl, effect.log⟩
  | true =>
      have logged : first.log = event :: before.log := congrArg Machine.log effect
      simp only [Bool.not_true, Bool.false_eq_true, if_false, if_true, Transmitted] at decided ⊢
      by_cases qos1 : qos = .qos1
      · rw [if_pos qos1] at decided ⊢
        obtain ⟨⟨arrived, _⟩, waited, waiting, decided⟩ := run_bind_eq_ok.mp decided
        have answer := waitfor_returns platform (by simp [PacketType.plain]) waiting
        rw [logged] at answer
        cases arrived with
        | true =>
            obtain ⟨frame, arrives, loaded⟩ := answer
            obtain ⟨rfl, same⟩ := acknowledge_returns loaded decided
            rw [same]
            exact ⟨frame, arrives⟩
        | false =>
            obtain ⟨rfl, rfl⟩ := run_pure_eq_ok.mp decided
            exact answer
      · rw [if_neg qos1] at decided ⊢
        obtain ⟨rfl, rfl⟩ := run_pure_eq_ok.mp decided
        exact ⟨rfl, logged⟩

theorem recorded_mqtt {condition : Bool} {change : Mqtt → Mqtt} {result : Unit} {before after : Machine}
    (run : onlyIf condition (Mqtt.update change) before = .ok result after) :
    ∃ mqtt, after = { before with mqtt := mqtt } := by
  have effect := onlyIf_returns run
  cases condition with
  | true => exact ⟨_, (run_modify_eq_ok.mp effect).symm⟩
  | false => exact ⟨_, Eq.symm effect⟩

theorem publishId_returns {qos : QoS} {id : Nat} {before after : Machine}
    (run : (if qos = .qos1 ∨ qos = .qos2 then Mqtt.getNext else pure 0 : M Nat) before = .ok id after) :
    id = before.mqtt.publishId qos ∧ ∃ mqtt, after = { before with mqtt := mqtt } := by
  unfold Mqtt.publishId
  by_cases numbered : qos = .qos1 ∨ qos = .qos2
  · rw [if_pos numbered] at run ⊢
    obtain ⟨rfl, rfl⟩ := getNext_returns run
    exact ⟨rfl, _, rfl⟩
  · rw [if_neg numbered] at run ⊢
    obtain ⟨rfl, rfl⟩ := run_pure_eq_ok.mp run
    exact ⟨rfl, _, rfl⟩

theorem publish_returns {topicName payload : Bytes} {qos : QoS} {rc : Bool} {before after : Machine}
    (run : Mqtt.publish platform topicName payload qos before = .ok rc after) :
    let message : Publish := ⟨qos, before.mqtt.publishId qos, topicName, payload⟩
    if before.transmits message then
      Transmitted qos rc
        (.sent (.publish message) :: .deadline before.mqtt.commandTimeout :: before.log) after.log
    else Fruitless rc before.log after.log := by
  unfold Mqtt.publish at run
  rw [run_get_bind] at run
  obtain ⟨timer, started, starting, run⟩ := run_bind_eq_ok.mp run
  obtain ⟨rfl, rfl⟩ := startTimer_returns starting
  rw [run_get_bind] at run
  by_cases disconnected : before.mqtt.isconnected = false
  · simp only [disconnected, Bool.not_false, if_true, run_pure_eq_ok] at run
    obtain ⟨rfl, rfl⟩ := run
    simp only [Machine.transmits, disconnected, Bool.false_and, Bool.false_eq_true, if_false]
    exact ⟨rfl, [.deadline _], rfl, by simp [Event.quiet]⟩
  · simp only [Bool.not_eq_false] at disconnected
    simp only [disconnected, Bool.not_true, Bool.false_eq_true, if_false] at run
    obtain ⟨id, numbered, numbering, run⟩ := run_bind_eq_ok.mp run
    obtain ⟨rfl, counted, rfl⟩ := publishId_returns numbering
    simp only at run
    intro message
    by_cases large : (Packet.publish message).fits = false
    · simp only [message] at large
      simp only [large, Bool.not_false, if_true, run_pure_eq_ok] at run
      obtain ⟨rfl, rfl⟩ := run
      simp only [Machine.transmits, message, large, Bool.and_false, Bool.false_and, Bool.false_eq_true, if_false]
      exact ⟨rfl, [.deadline _], rfl, by simp [Event.quiet]⟩
    · simp only [Bool.not_eq_false, message] at large
      simp only [large, Bool.not_true, Bool.false_eq_true, if_false] at run
      rw [run_get_bind] at run
      obtain ⟨_, recorded, recording, run⟩ := run_bind_eq_ok.mp run
      obtain ⟨mqtt, rfl⟩ := recorded_mqtt recording
      have transmitted : if before.canSend (before.replies.ticks.headD 0) then
          Transmitted qos rc (.sent (.publish message) :: .deadline before.mqtt.commandTimeout :: before.log) after.log
          else Fruitless rc (.deadline before.mqtt.commandTimeout :: before.log) after.log :=
        transmit_returns platform run
      simp only [Machine.transmits, disconnected, message, large, Bool.true_and]
      cases can : before.canSend (before.replies.ticks.headD 0) with
      | true =>
          rw [can] at transmitted
          exact transmitted
      | false =>
          rw [can] at transmitted
          exact transmitted.after (by simp [Event.quiet])

/-! ## Commands of the client -/

theorem onError_returns {error : Bytes} {result : Bool} {before after : Machine}
    (run : MqttTls.onError error before = .ok result after) :
    result = false ∧ after = { before with mqttTls := after.mqttTls } := by
  unfold MqttTls.onError at run
  rw [run_get_bind] at run
  obtain ⟨_, changed, changing, run⟩ := run_bind_eq_ok.mp run
  have changed := run_modify_eq_ok.mp changing
  obtain ⟨rfl, rfl⟩ := run_pure_eq_ok.mp run
  subst changed
  exact ⟨rfl, rfl⟩

theorem orError_returns {action : M Bool} {error : Bytes} {result : Bool} {before after : Machine}
    (run : (do if ← action then return true else MqttTls.onError error) before = .ok result after) :
    ∃ between, action before = .ok result between ∧ after.log = between.log := by
  obtain ⟨rc, between, acted, run⟩ := run_bind_eq_ok.mp run
  cases rc with
  | true =>
      obtain ⟨rfl, rfl⟩ := run_pure_eq_ok.mp run
      exact ⟨_, acted, rfl⟩
  | false =>
      obtain ⟨rfl, same⟩ := onError_returns run
      exact ⟨_, acted, by rw [same]⟩

theorem command_returns {action : M Bool} {success : Impl → Impl} {result : Bool}
    {before checked after : Machine} (check : Client.checkState platform before = .ok true checked)
    (run : Client.command platform action success before = .ok result after) :
    ∃ between, action checked = .ok result between ∧
      ∃ callbacks, after.log = callbacks ++ between.log ∧ ∀ event ∈ callbacks, event.quiet := by
  obtain ⟨passed, between, checked', run⟩ := run_bind_eq_ok.mp run
  rw [check] at checked'
  cases checked'
  simp only [Bool.not_true, Bool.false_eq_true, if_false] at run
  obtain ⟨rc, acted, acting, run⟩ := run_bind_eq_ok.mp run
  cases rc with
  | true =>
      obtain ⟨_, changed, changing, run⟩ := run_bind_eq_ok.mp run
      have changed := run_modify_eq_ok.mp changing
      obtain ⟨rfl, rfl⟩ := run_pure_eq_ok.mp run
      subst changed
      exact ⟨acted, acting, [], rfl, by simp⟩
  | false =>
      obtain ⟨_, reported, reporting, run⟩ := run_bind_eq_ok.mp run
      obtain ⟨rfl, rfl⟩ := run_pure_eq_ok.mp run
      unfold Client.reportClientError at reporting
      rw [run_get_bind] at reporting
      have noted := run_modify_eq_ok.mp reporting
      subst noted
      exact ⟨acted, acting, [.callback _], rfl, by simp [Event.quiet, Callback.incoming]⟩

/-! ## A small platform to run the client on -/

def plainPlatform (sign : CharSign) : Platform where
  sign := sign
  sok := plainSok
  mpin :=
    { hashId := id
      client1 := fun _ _ _ => .ok ⟨[], [], [], []⟩
      client2 := fun _ _ _ => .ok []
      getG1Multiple := fun _ _ => .ok ([], [])
      hashAll := fun _ _ _ _ _ _ => []
      precompute := fun _ _ => .ok ⟨[], []⟩
      clientKey := fun _ _ _ _ _ => .ok [1]
      recombineG1 := fun _ _ => .ok [] }
  http :=
    { parseUrl := fun url => some ⟨.https, bytes "auth", bytes "443", url⟩
      execute := fun _ data =>
        ([.messageBegin, .status 200, .headersComplete 0, .body data, .messageComplete], none) }
  printDouble := id
  maxStringSize := 2 ^ 62

def sampleConf (useMqttQoS2 useMqttPersistentSession : Bool) : Config where
  authServerUrl := bytes "https://auth"
  identity := ⟨bytes "\x7b\"userID\":\"u\"\x7d", [], [], [], []⟩
  mqttTlsBrokerAddr := bytes "broker"
  mqttCommandTimeoutMillisec := 0
  useMqttQoS2 := useMqttQoS2
  useMqttPersistentSession := useMqttPersistentSession

def sampleExchanges : List Exchange :=
  [⟨none, none, [bytes "\x7b\"y\":\"00\"\x7d"], none⟩,
    ⟨none, none, [bytes "\x7b\"authOTT\":\"a\"\x7d"], none⟩,
    ⟨none, none, [bytes "\x7b\"T\":\"00\"\x7d"], none⟩]

def sampleReplies (ticks : List Nat) (connects : List Status) (sends : List SendReply)
    (reads : List ReadReply) : Replies where
  ticks := ticks
  connects := connects
  sends := sends
  reads := reads
  pings := []
  unset := []
  ivs := []
  randoms := [some [], some []]
  exchanges := sampleExchanges

theorem frameBytes_short (header : UInt8) {body : Bytes} (short : body.length < 128) :
    (frameBytes header body).length ≤ maxPacketSize := by
  simp only [frameBytes, encodeLength_short short, maxPacketSize, List.length_cons, List.length_append, List.length_nil]
  omega

def samplePacket (header : UInt8) (body : Bytes) (short : body.length < 128) : ReadReply :=
  ⟨.packet ⟨header, body, frameBytes_short header short⟩, none⟩

theorem pair_short (first second : UInt8) : [first, second].length < 128 := by simp

def samplePair (header first second : UInt8) : ReadReply :=
  samplePacket header [first, second] (pair_short first second)

def sampleConnack (code : UInt8) : ReadReply := samplePair 0x20 0 code

def started (platform : Platform) (conf : Config) (replies : Replies) : Machine :=
  last ((do Client.configure conf; Client.startSession platform : M Unit) (Client.fresh [] replies))

def inSession (sign : CharSign) (useMqttQoS2 : Bool) (reads : List ReadReply) : Machine :=
  started (plainPlatform sign) (sampleConf useMqttQoS2 true)
    (sampleReplies [1, 1, 1, 1] [none, none] (List.replicate 4 (.sent false))
      ([sampleConnack 0, sampleConnack 0] ++ reads))

def returnsTrue {σ ε : Type} : EStateM.Result ε σ Bool → Bool
  | .ok result _ => result
  | .error _ _ => false

theorem eq_ok_of_returnsTrue {σ ε : Type} {outcome : EStateM.Result ε σ Bool} (returned : returnsTrue outcome) :
    outcome = .ok true (last outcome) := by
  cases outcome with
  | ok result after => rw [show result = true from returned]; rfl
  | error fault after => cases returned

theorem checked_eq {platform : Platform} {before checked : Machine}
    (check : Client.checkState platform before = .ok true checked) :
    checked = last (Client.checkState platform before) := by
  rw [check]
  rfl

end IotClient
