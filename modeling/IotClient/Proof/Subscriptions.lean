import IotClient.Proof.Connect
import IotClient.Proof.Durability
import IotClient.Proof.Subscribe

namespace IotClient
open Logic

/-! ## What leaves the subscriptions alone -/

def Event.bystander : Event → Bool
  | .opened => false
  | .sent (.connect _ _ _) => false
  | .sent (.subscribe _ _ _) => false
  | .sent (.unsubscribe _ _) => false
  | _ => true

theorem bystander_cons {event : Event} (bystander : event.bystander) (older : List Event) :
    asked (event :: older) = asked older ∧ answered older ≤ answered (event :: older) ∧
      ∀ topic, subscribed topic (event :: older) = subscribed topic older := by
  cases event with
  | opened => cases bystander
  | sent packet =>
      cases packet with
      | connect => cases bystander
      | subscribe => cases bystander
      | unsubscribe => cases bystander
      | _ => exact ⟨rfl, Nat.le_refl _, fun _ => rfl⟩
  | received frame => exact ⟨rfl, Nat.le_add_right _ _, fun _ => rfl⟩
  | _ => exact ⟨rfl, Nat.le_refl _, fun _ => rfl⟩

theorem bystander_append {events : List Event} (bystander : ∀ event ∈ events, event.bystander)
    (older : List Event) :
    asked (events ++ older) = asked older ∧ answered older ≤ answered (events ++ older) ∧
      ∀ topic, subscribed topic (events ++ older) = subscribed topic older := by
  induction events with
  | nil => exact ⟨rfl, Nat.le_refl _, fun _ => rfl⟩
  | cons event rest ih =>
      obtain ⟨asks, answers, subscribes⟩ := ih fun other member => bystander other (List.mem_cons_of_mem _ member)
      obtain ⟨asks', answers', subscribes'⟩ := bystander_cons (bystander event List.mem_cons_self) (rest ++ older)
      exact ⟨asks'.trans asks, Nat.le_trans answers answers', fun topic => (subscribes' topic).trans (subscribes topic)⟩

structure Loose (before after : Machine) : Prop where
  log : ∃ events, after.log = events ++ before.log ∧ ∀ event ∈ events, event.bystander
  isconnected : after.mqtt.isconnected → before.mqtt.isconnected
  sessionPresent : after.mqttTls.sessionPresent → before.mqttTls.sessionPresent
  state : after.impl.state = before.impl.state
  subscriptions : after.impl.subscriptions = before.impl.subscriptions
  privateMessagesTopic : after.impl.privateMessagesTopic = before.impl.privateMessagesTopic

instance : Following Loose where
  refl m := ⟨⟨[], by simp⟩, id, id, rfl, rfl, rfl⟩
  trans first second := by
    obtain ⟨older, grows, all⟩ := first.log
    obtain ⟨newer, grows', all'⟩ := second.log
    refine ⟨⟨newer ++ older, ?_, ?_⟩, first.isconnected ∘ second.isconnected,
      first.sessionPresent ∘ second.sessionPresent, second.state.trans first.state,
      second.subscriptions.trans first.subscriptions,
      second.privateMessagesTopic.trans first.privateMessagesTopic⟩
    · rw [grows', grows, List.append_assoc]
    · intro event member
      rcases List.mem_append.mp member with member | member
      · exact all' event member
      · exact all event member

theorem bystander_of_aside {event : Event} (aside : event.aside) : event.bystander := by
  cases event with
  | opened => cases aside
  | sent packet => cases packet <;> first | rfl | cases aside
  | _ => rfl

theorem Steady.loose {before after : Machine} (steady : Steady before after) : Loose before after := by
  obtain ⟨events, grows, all⟩ := steady.log
  refine ⟨⟨events, grows, fun event member => bystander_of_aside (all event member)⟩, ?_, steady.sessionPresent,
    steady.state, steady.subscriptions, steady.privateMessagesTopic⟩
  rw [steady.isconnected]
  exact id

theorem Waits.loose {before after : Machine} (waits : Waits Event.bystander before after) : Loose before after where
  log := waits.log
  isconnected connected := by rwa [waits.isconnected] at connected
  sessionPresent present := by rwa [waits.mqttTls] at present
  state := congrArg Impl.state waits.impl
  subscriptions := congrArg Impl.subscriptions waits.impl
  privateMessagesTopic := congrArg Impl.privateMessagesTopic waits.impl

section Loose

variable (platform : Platform)

theorem loose_of_steady {α : Type} {program : M α} (steady : Keeps Steady program) : Keeps Loose program :=
  steady.mono Steady.loose

theorem loose_of_quiet {α : Type} {program : M α} (waits : Keeps (Waits Event.quiet) program) : Keeps Loose program :=
  loose_of_steady (steady_of_quiet waits)

theorem loose_of_passive {α : Type} {program : M α} (waits : Keeps (Waits Event.passive) program) :
    Keeps Loose program :=
  loose_of_steady (steady_of_passive waits)

theorem emit_loose {event : Event} (bystander : event.bystander) : Keeps Loose (emit event) :=
  Keeps.modify fun _ => ⟨⟨[event], rfl, by simpa using bystander⟩, id, id, rfl, rfl, rfl⟩

theorem mqtt_loose {change : Mqtt → Mqtt} (isconnected : ∀ mqtt, (change mqtt).isconnected → mqtt.isconnected) :
    Keeps Loose (Mqtt.update change) :=
  Keeps.modify fun m => ⟨⟨[], by simp⟩, isconnected m.mqtt, id, rfl, rfl, rfl⟩

theorem cleanSession_loose : Keeps Loose Mqtt.cleanSession :=
  mqtt_loose fun _ impossible => by cases impossible

theorem sendPacket_loose {event : Event} (bystander : event.bystander) (timer : Timer) :
    Keeps Loose (Mqtt.sendPacket event timer) :=
  (sendPacket_waits timer bystander rfl).mono Waits.loose

theorem acknowledge_loose : Keeps Loose Mqtt.acknowledge := by
  refine Keeps.bind Keeps.get fun _ => Keeps.bind (loose_of_quiet (ofExcept_waits _)) fun _ => ?_
  refine Keeps.ite (fun _ => Keeps.pure _) fun _ => Keeps.bind (loose_of_quiet (idOr_waits _)) fun _ => ?_
  exact Keeps.bind (mqtt_loose fun _ => id) fun _ => Keeps.pure _

theorem transmit_loose {event : Event} (bystander : event.bystander) (timer : Timer) (qos : QoS) :
    Keeps Loose (Mqtt.transmit platform event timer qos) := by
  refine Keeps.bind (sendPacket_loose bystander timer) fun outcome => Keeps.bind ?_ fun rc => ?_
  · refine Keeps.ite (fun _ => Keeps.pure _) fun _ => Keeps.ite (fun _ => ?_) fun _ => Keeps.pure _
    refine Keeps.bind (loose_of_passive (waitfor_waits platform _ _)) fun _ => ?_
    exact Keeps.ite (fun _ => acknowledge_loose) fun _ => Keeps.pure _
  · exact Keeps.bind (onlyIf_keeps fun _ => cleanSession_loose) fun _ => Keeps.pure _

theorem publish_loose (topicName payload : Bytes) (qos : QoS) :
    Keeps Loose (Mqtt.publish platform topicName payload qos) := by
  refine Keeps.bind Keeps.get fun _ => Keeps.bind (loose_of_quiet (startTimer_waits rfl)) fun _ => ?_
  refine Keeps.bind Keeps.get fun _ => Keeps.ite (fun _ => Keeps.pure _) fun _ => Keeps.bind ?_ fun _ => ?_
  · refine Keeps.ite (fun _ => ?_) fun _ => Keeps.pure _
    exact Keeps.bind (mqtt_loose fun _ => id) fun _ => Keeps.bind Keeps.get fun _ => Keeps.pure _
  · refine Keeps.ite (fun _ => Keeps.pure _) fun _ => Keeps.bind Keeps.get fun _ => ?_
    exact Keeps.bind (onlyIf_keeps fun _ => mqtt_loose fun _ => id) fun _ => transmit_loose platform rfl _ _

theorem resend_loose (accepted : Bool) (timer : Timer) : Keeps Loose (Mqtt.resend platform accepted timer) := by
  refine Keeps.bind Keeps.get fun m => ?_
  cases m.mqtt.inflight with
  | none => exact Keeps.pure _
  | some message =>
      exact Keeps.ite (fun _ => transmit_loose platform rfl _ _) fun _ => transmit_loose platform rfl _ _

theorem disconnect_loose : Keeps Loose Mqtt.disconnect := by
  refine Keeps.bind Keeps.get fun _ => Keeps.bind (loose_of_quiet (startTimer_waits rfl)) fun _ => ?_
  refine Keeps.bind (sendPacket_loose rfl _) fun _ => mqtt_loose fun mqtt connected => ?_
  unfold Mqtt.ended at connected
  split at connected <;> cases connected

theorem isConnected_loose : Keeps Loose MqttTls.isConnected := by
  refine Keeps.bind Keeps.get fun m => Keeps.ite (fun _ => ?_) fun _ => Keeps.ite (fun _ => ?_) fun _ => Keeps.pure _
  · refine Keeps.bind (onlyIf_keeps fun _ => ?_) fun _ => Keeps.pure _
    exact Keeps.bind disconnect_loose fun _ => loose_of_steady absent_steady
  · refine Keeps.bind (loose_of_quiet (close_waits rfl)) fun _ => ?_
    exact Keeps.bind (loose_of_steady absent_steady) fun _ => Keeps.pure _

theorem clientDisconnect_loose : Keeps Loose MqttTls.disconnect := by
  refine Keeps.bind Keeps.get fun _ => Keeps.bind (onlyIf_keeps fun _ => disconnect_loose) fun _ => ?_
  exact Keeps.bind (loose_of_quiet (close_waits rfl)) fun _ => loose_of_steady absent_steady

theorem clientPublish_loose (topic message : Bytes) : Keeps Loose (MqttTls.publish platform topic message) := by
  refine Keeps.bind Keeps.get fun _ => Keeps.bind (publish_loose platform _ _ _) fun _ => ?_
  exact Keeps.ite (fun _ => Keeps.pure _) fun _ => loose_of_steady (onError_steady _)

end Loose

/-! ## The subscriptions of a session -/

def OddConnack (log : List Event) : Prop :=
  ∃ frame, .received frame ∈ log ∧ packetType frame.header = .connack ∧ World.connackFlags frame = false

theorem OddConnack.append {log : List Event} (odd : OddConnack log) (events : List Event) :
    OddConnack (events ++ log) := by
  obtain ⟨frame, member, rest⟩ := odd
  exact ⟨frame, List.mem_append_right _ member, rest⟩

/-- Over a connection that counts as open every SUBSCRIBE has been answered, and in a connected session every
subscription has been made over this connection. -/
structure Linked (subs : List Bytes) (topic : Bytes) (m : Machine) : Prop where
  subscriptions : m.impl.subscriptions = subs
  privateMessagesTopic : m.impl.privateMessagesTopic = topic
  complete : m.mqtt.isconnected → asked m.log ≤ answered m.log
  present : m.mqttTls.sessionPresent → OddConnack m.log
  restored : m.impl.state = .connected → m.mqtt.isconnected →
    OddConnack m.log ∨ ∀ topic ∈ subs, subscribed topic m.log
  empty : m.impl.state = .noSession ∨ m.impl.state = .initial → subs = []

structure Opening (subs : List Bytes) (topic : Bytes) (m : Machine) : Prop where
  subscriptions : m.impl.subscriptions = subs
  privateMessagesTopic : m.impl.privateMessagesTopic = topic
  unasked : asked m.log = 0
  present : m.mqttTls.sessionPresent → OddConnack m.log
  waiting : m.impl.state ≠ .connected
  empty : m.impl.state = .noSession ∨ m.impl.state = .initial → subs = []

section Linked

variable {subs : List Bytes} {topic : Bytes}

theorem Linked.loose {before after : Machine} (loose : Loose before after) (linked : Linked subs topic before) :
    Linked subs topic after := by
  obtain ⟨events, grows, all⟩ := loose.log
  obtain ⟨asks, answers, subscribes⟩ := bystander_append all before.log
  refine ⟨loose.subscriptions.trans linked.subscriptions,
    loose.privateMessagesTopic.trans linked.privateMessagesTopic, ?_, ?_, ?_, ?_⟩
  · intro connected
    rw [grows, asks]
    exact Nat.le_trans (linked.complete (loose.isconnected connected)) answers
  · intro present
    rw [grows]
    exact (linked.present (loose.sessionPresent present)).append events
  · rw [loose.state, grows]
    intro state connected
    refine (linked.restored state (loose.isconnected connected)).imp (fun odd => odd.append events) ?_
    intro restored topic member
    rw [subscribes]
    exact restored topic member
  · rw [loose.state]
    exact linked.empty

theorem Opening.linked {m : Machine} (opening : Opening subs topic m) : Linked subs topic m where
  subscriptions := opening.subscriptions
  privateMessagesTopic := opening.privateMessagesTopic
  complete _ := by
    rw [opening.unasked]
    exact Nat.zero_le _
  present := opening.present
  restored state := absurd state opening.waiting
  empty := opening.empty

theorem Opening.loose {before after : Machine} (loose : Loose before after) (opening : Opening subs topic before) :
    Opening subs topic after := by
  obtain ⟨events, grows, all⟩ := loose.log
  obtain ⟨asks, _⟩ := bystander_append all before.log
  refine ⟨loose.subscriptions.trans opening.subscriptions,
    loose.privateMessagesTopic.trans opening.privateMessagesTopic, ?_, ?_, ?_, ?_⟩
  · rw [grows, asks]
    exact opening.unasked
  · intro present
    rw [grows]
    exact (opening.present (loose.sessionPresent present)).append events
  · rw [loose.state]
    exact opening.waiting
  · rw [loose.state]
    exact opening.empty

variable (platform : Platform)

theorem loose_opening {α : Type} {program : M α} (loose : Keeps Loose program) :
    Yields (Opening subs topic) program fun _ => Opening subs topic :=
  loose.yields Opening.loose

/-! ## Connecting -/

theorem waitfor_connack (timer : Timer) :
    Yields (Opening subs topic) (Mqtt.waitfor platform .connack timer) fun outcome m =>
      Opening subs topic m ∧ (outcome.1 → ∃ frame, .received frame ∈ m.log ∧
        packetType frame.header = .connack ∧ ∃ old, m.mqtt.readbuf = frame.load old) := by
  apply yields_of_returns
  rintro before ⟨arrived, left⟩ after opening run
  refine ⟨opening.loose ((waitfor_waits platform _ _).returns run).steady.loose, ?_⟩
  intro holds
  simp only at holds
  subst holds
  obtain ⟨frame, ⟨typed, later, earlier, log, _⟩, loaded⟩ := waitfor_returns platform (by simp [PacketType.plain]) run
  exact ⟨frame, by simp [log], typed, loaded⟩

theorem readConnack_opening :
    Yields (fun m => Opening subs topic m ∧ ∃ frame, .received frame ∈ m.log ∧
      packetType frame.header = .connack ∧ ∃ old, m.mqtt.readbuf = frame.load old) Mqtt.readConnack
      fun _ => Opening subs topic := by
  apply yields_of_returns
  rintro before accepted after ⟨opening, frame, member, typed, loaded⟩ run
  obtain ⟨⟨sessionPresent, rfl, present⟩, _⟩ := readConnack_returns typed loaded run
  refine ⟨opening.subscriptions, opening.privateMessagesTopic, opening.unasked, ?_, opening.waiting, opening.empty⟩
  intro holds
  obtain ⟨flags, rest, body, high⟩ := present holds
  refine ⟨frame, member, typed, ?_⟩
  simp only [World.connackFlags, body, decide_eq_false_iff_not]
  have all : ∀ n : Fin 256, UInt8.ofFin n &&& 0x80 ≠ 0 → ¬ UInt8.ofFin n ≤ 1 := by decide +kernel
  exact all flags.toFin high

theorem connect_opening (clientId : Bytes) (cleansession : Bool) :
    Yields (Opening subs topic) (Mqtt.connect platform clientId cleansession) fun rc m =>
      Opening subs topic m ∧ (rc → m.mqtt.isconnected) := by
  have changed (change : Mqtt → Mqtt) :
      Yields (Opening subs topic) (Mqtt.update change) fun _ => Opening subs topic :=
    Triple.modify fun m opening => ⟨opening.subscriptions, opening.privateMessagesTopic, opening.unasked,
      opening.present, opening.waiting, opening.empty⟩
  refine Triple.read fun m => Triple.bind (loose_opening (loose_of_quiet (startTimer_waits rfl))) fun timer => ?_
  refine Triple.read fun m => Triple.ite (fun _ => Triple.pure fun _ given => ⟨given, by simp⟩) fun _ => ?_
  refine Triple.bind (changed _) fun _ => Triple.ite (fun _ => Triple.pure fun _ given => ⟨given, by simp⟩) fun _ => ?_
  have sending : Yields (Opening subs topic)
      (Mqtt.sendPacket (.sent (.connect clientId cleansession Mqtt.defaultKeepAlive)) timer)
      fun outcome m => if outcome.1 then Opening subs topic m else Opening subs topic m := by
    refine sendPacket_triple (fun waits => Opening.loose waits.passive.steady.loose) (fun m opening => ?_) timer
    refine ⟨opening.subscriptions, opening.privateMessagesTopic, opening.unasked, ?_, opening.waiting, opening.empty⟩
    exact fun present => (opening.present present).append [_]
  refine Triple.bind sending fun outcome => ?_
  simp only [ite_self]
  refine Triple.ite (fun _ => Triple.pure fun _ given => ⟨given, by simp⟩) fun _ => ?_
  refine Triple.bind (waitfor_connack platform _) fun waited => ?_
  have answered : Yields (fun m => Opening subs topic m ∧ (waited.1 → ∃ frame, .received frame ∈ m.log ∧
      packetType frame.header = .connack ∧ ∃ old, m.mqtt.readbuf = frame.load old))
      (if waited.1 then Mqtt.readConnack else pure false) fun _ => Opening subs topic := by
    apply Triple.ite
    · intro arrived
      exact readConnack_opening.weaken (fun _ given => ⟨given.1, given.2 arrived⟩) (fun _ _ given => given)
        fun _ given => given
    · intro _
      exact Triple.pure fun _ given => given.1
  refine Triple.bind answered fun accepted => ?_
  refine Triple.bind (loose_opening (resend_loose platform accepted _)) fun rc => ?_
  cases rc with
  | false =>
      refine Triple.bind (loose_opening (Keeps.pure _)) fun _ => ?_
      exact Triple.pure fun _ given => ⟨given, by simp⟩
  | true =>
      have connected : Yields (Opening subs topic)
          (Mqtt.update fun mqtt => { mqtt with isconnected := true })
          fun _ m => Opening subs topic m ∧ m.mqtt.isconnected :=
        Triple.modify fun m opening => ⟨⟨opening.subscriptions, opening.privateMessagesTopic, opening.unasked,
          opening.present, opening.waiting, opening.empty⟩, rfl⟩
      exact Triple.bind connected fun _ => Triple.pure fun _ given => ⟨given.1, fun _ => given.2⟩

theorem isConnected_yields {invariant : Machine → Prop}
    (respects : ∀ {before after}, Loose before after → invariant before → invariant after) :
    Yields invariant MqttTls.isConnected fun connected m =>
      invariant m ∧ if connected then m.mqtt.isconnected = true else m.tls.connected = false := by
  apply yields_of_returns
  intro before connected after given run
  refine ⟨respects (isConnected_loose.returns run) given, ?_⟩
  have outcome := isConnected_returns run
  cases connected with
  | true =>
      obtain ⟨_, isconnected, rfl⟩ := outcome
      exact isconnected
  | false => exact outcome.2.1

def At (subs : List Bytes) (topic : Bytes) (expected : State → Prop) (m : Machine) : Prop :=
  Linked subs topic m ∧ expected m.impl.state

theorem At.loose {expected : State → Prop} {before after : Machine} (loose : Loose before after)
    (at' : At subs topic expected before) : At subs topic expected after :=
  ⟨at'.1.loose loose, by rw [loose.state]; exact at'.2⟩

abbrev Apart (subs : List Bytes) (topic : Bytes) : Machine → Prop :=
  At subs topic (· ≠ .connected)

theorem Opening.apart {m : Machine} (opening : Opening subs topic m) : Apart subs topic m :=
  ⟨opening.linked, opening.waiting⟩

theorem loose_apart {α : Type} {program : M α} (loose : Keeps Loose program) :
    Yields (Apart subs topic) program fun _ => Apart subs topic :=
  loose.yields At.loose

theorem tlsConnect_yields :
    Yields (fun m => Apart subs topic m ∧ m.tls.connected = false) TlsConnection.connect fun reached m =>
      if reached then Opening subs topic m else Apart subs topic m := by
  apply yields_of_returns
  rintro before reached after ⟨⟨linked, waiting⟩, closed⟩ run
  obtain ⟨mqtt, mqttTls, impl, log⟩ := tlsConnect_returns closed run
  cases reached with
  | true =>
      rw [if_pos rfl] at log
      refine ⟨impl ▸ linked.subscriptions, impl ▸ linked.privateMessagesTopic, by rw [log]; rfl, ?_, impl ▸ waiting,
        impl ▸ linked.empty⟩
      rw [mqttTls, log]
      exact fun present => (linked.present present).append [_]
  | false =>
      simp only [Bool.false_eq_true, if_false] at log
      have loose : Loose before after := by
        refine ⟨⟨[], by simp [log]⟩, ?_, ?_, by rw [impl], by rw [impl], by rw [impl]⟩
        · rw [mqtt]
          exact id
        · rw [mqttTls]
          exact id
      have apart : Apart subs topic before := ⟨linked, waiting⟩
      exact apart.loose loose

theorem connectSession_yields (cleanSession : Bool) :
    Yields (Apart subs topic) (MqttTls.connectSession platform cleanSession) fun connected m =>
      Apart subs topic m ∧ (connected → m.mqtt.isconnected) := by
  refine Triple.bind (isConnected_yields At.loose) fun connected => ?_
  apply Triple.ite
  · intro holds
    exact Triple.pure fun _ given => ⟨given.1, fun _ => by simpa [holds] using given.2⟩
  · intro fails
    have closed : Yields (fun m => Apart subs topic m ∧
        if connected then m.mqtt.isconnected = true else m.tls.connected = false)
        TlsConnection.connect fun reached m => if reached then Opening subs topic m else Apart subs topic m :=
      tlsConnect_yields.weaken (fun _ given => ⟨given.1, by simpa [fails] using given.2⟩) (fun _ _ given => given)
        fun _ given => given
    refine Triple.bind closed fun reached => ?_
    cases reached with
    | false =>
        refine Triple.read fun m => yields_of_returns ?_
        intro before result after given run
        refine ⟨At.loose ((onError_steady _).returns run).loose given, ?_⟩
        rw [(onError_returns run).1]
        simp
    | true =>
        have connecting : Yields (Opening subs topic) (MqttTls.mqttConnect platform cleanSession) fun connected m =>
            Opening subs topic m ∧ (connected → m.mqtt.isconnected) := by
          refine Triple.read fun m => Triple.bind (connect_opening platform _ _) fun rc => ?_
          apply Triple.ite
          · intro holds
            exact Triple.pure fun _ given => ⟨given.1, fun _ => given.2 holds⟩
          · intro _
            apply yields_of_returns
            intro before result after given run
            refine ⟨given.1.loose ((onError_steady _).returns run).loose, ?_⟩
            rw [(onError_returns run).1]
            simp
        refine Triple.bind connecting fun accepted => ?_
        apply Triple.ite
        · intro holds
          refine Triple.bind (Triple.modify fun m given => ?_) fun _ => Triple.pure fun _ given => given
          exact ⟨Opening.apart ⟨given.1.subscriptions, given.1.privateMessagesTopic, given.1.unasked, given.1.present,
            given.1.waiting, given.1.empty⟩, fun _ => given.2 holds⟩
        · intro _
          have left : Yields (fun m => Opening subs topic m ∧ (accepted → m.mqtt.isconnected)) TlsConnection.close
              fun _ => Apart subs topic :=
            (loose_apart (loose_of_quiet (close_waits rfl))).weaken (fun _ given => given.1.apart)
              (fun _ _ given => given) fun _ given => given
          exact Triple.bind left fun _ => Triple.pure fun _ given => ⟨given, by simp⟩

theorem clientConnect_yields :
    Yields (Apart subs topic) (MqttTls.connect platform) fun connected m =>
      Apart subs topic m ∧ (connected → m.mqtt.isconnected) := by
  refine Triple.bind (connectSession_yields platform true) fun connected => ?_
  apply Triple.ite
  · intro _
    exact Triple.pure fun _ given => ⟨given.1, by simp⟩
  · intro holds
    simp only [Bool.not_eq_true', Bool.not_eq_false] at holds
    refine Triple.read fun m => Triple.ite (fun _ => Triple.pure fun _ given => ⟨given.1, fun _ => given.2 holds⟩) ?_
    intro _
    have left : Yields (fun m => Apart subs topic m ∧ (connected → m.mqtt.isconnected)) MqttTls.disconnect
        fun _ => Apart subs topic :=
      (loose_apart clientDisconnect_loose).weaken (fun _ given => given.1) (fun _ _ given => given)
        fun _ given => given
    exact Triple.bind left fun _ => connectSession_yields platform false

/-! ## Subscribing -/

theorem request_connection {packet : Nat → Packet} {type : PacketType} {answer : M Bool}
    (answering : Keeps (Waits Event.quiet) answer) (impl : Impl) (mqttTls : MqttTls) :
    Yields (fun m => m.impl = impl ∧ m.mqttTls = mqttTls) (Mqtt.request platform packet type answer) fun rc m =>
      (m.impl = impl ∧ m.mqttTls = mqttTls) ∧ m.mqtt.isconnected = rc := by
  have waits {allowed : Event → Bool} {before after : Machine} (waits : Waits allowed before after)
      (given : before.impl = impl ∧ before.mqttTls = mqttTls) : after.impl = impl ∧ after.mqttTls = mqttTls :=
    ⟨waits.impl.trans given.1, waits.mqttTls.trans given.2⟩
  have waits' {allowed : Event → Bool} {before after : Machine} (kept : Waits allowed before after)
      (given : (before.impl = impl ∧ before.mqttTls = mqttTls) ∧ before.mqtt.isconnected = true) :
      (after.impl = impl ∧ after.mqttTls = mqttTls) ∧ after.mqtt.isconnected = true :=
    ⟨waits kept given.1, kept.isconnected.trans given.2⟩
  have timed (milliseconds : Nat) : Keeps (Waits Event.quiet) (startTimer milliseconds) := startTimer_waits rfl
  refine Triple.read fun m => Triple.bind ((timed _).yields waits) fun timer => Triple.get fun m => ?_
  have asked : Yields (fun state => state = m ∧ state.impl = impl ∧ state.mqttTls = mqttTls)
      (if !m.mqtt.isconnected then pure false
        else do
          let id ← Mqtt.getNext
          if !(packet id).fits then pure false
          else
            let outcome ← Mqtt.sendPacket (.sent (packet id)) timer
            if !outcome.1 then pure false
            else
              let waited ← Mqtt.waitfor platform type outcome.2
              if waited.1 then answer else pure false)
      fun rc m => (m.impl = impl ∧ m.mqttTls = mqttTls) ∧ (rc = true → m.mqtt.isconnected = true) := by
    apply Triple.ite
    · intro _
      exact Triple.pure fun _ given => ⟨given.2, by simp⟩
    · intro connected
      have numbered : Yields (fun state => state = m ∧ state.impl = impl ∧ state.mqttTls = mqttTls) Mqtt.getNext
          fun _ m => (m.impl = impl ∧ m.mqttTls = mqttTls) ∧ m.mqtt.isconnected = true := by
        refine Triple.bind (Triple.modify ?_) fun _ => Triple.read fun _ => Triple.pure fun _ given => given
        rintro state ⟨rfl, given⟩
        exact ⟨given, by simpa using connected⟩
      refine Triple.bind numbered fun id => Triple.ite (fun _ => Triple.pure fun _ given => ⟨given.1, by simp⟩) fun _ => ?_
      have sending : Keeps (Waits fun _ => true) (Mqtt.sendPacket (.sent (packet id)) timer) :=
        sendPacket_waits timer rfl rfl
      refine Triple.bind (sending.yields waits') fun outcome => ?_
      refine Triple.ite (fun _ => Triple.pure fun _ given => ⟨given.1, by simp⟩) fun _ => ?_
      refine Triple.bind ((waitfor_waits platform type _).yields waits') fun waited => ?_
      refine Triple.ite (fun _ => ?_) fun _ => Triple.pure fun _ given => ⟨given.1, by simp⟩
      exact (answering.yields waits').weaken (fun _ given => given) (fun _ _ given => ⟨given.1, fun _ => given.2⟩)
        fun _ given => given
  refine Triple.bind asked fun rc => ?_
  cases rc with
  | true =>
      have kept : Yields (fun m => (m.impl = impl ∧ m.mqttTls = mqttTls) ∧ (true = true → m.mqtt.isconnected = true))
          (onlyIf (!true) Mqtt.cleanSession)
          fun _ m => (m.impl = impl ∧ m.mqttTls = mqttTls) ∧ m.mqtt.isconnected = true :=
        Triple.pure fun _ given => ⟨given.1, given.2 rfl⟩
      exact Triple.bind kept fun _ => Triple.pure fun _ given => given
  | false =>
      have cleaned : Yields (fun m => (m.impl = impl ∧ m.mqttTls = mqttTls) ∧ (false = true → m.mqtt.isconnected = true))
          (onlyIf (!false) Mqtt.cleanSession)
          fun _ m => (m.impl = impl ∧ m.mqttTls = mqttTls) ∧ m.mqtt.isconnected = false :=
        Triple.modify fun _ given => ⟨given.1, rfl⟩
      exact Triple.bind cleaned fun _ => Triple.pure fun _ given => given

theorem bystander_of_besides {type : PacketType} {event : Event} (besides : event.besides type) : event.bystander :=
  bystander_of_aside (aside_of_passive (passive_of_besides besides))

theorem bystander_of_quiet {event : Event} (quiet : event.quiet) : event.bystander :=
  bystander_of_aside (aside_of_passive (passive_of_quiet event quiet))

theorem Arrives.log {type : PacketType} {frame : Frame} {before after : List Event}
    (arrives : Arrives type frame before after) :
    asked after = asked before ∧ answered before + (if type = .suback then 1 else 0) ≤ answered after ∧
      (∀ topic, subscribed topic after = subscribed topic before) ∧ ∃ events, after = events ++ before := by
  obtain ⟨typed, later, earlier, rfl, allLater, allEarlier⟩ := arrives
  obtain ⟨asks, answers, subscribes⟩ :=
    bystander_append (fun event member => bystander_of_besides (allEarlier event member)) before
  obtain ⟨asks', answers', subscribes'⟩ := bystander_append
    (fun event member => bystander_of_quiet (allLater event member)) (.received frame :: (earlier ++ before))
  refine ⟨asks'.trans asks, ?_, fun topic => (subscribes' topic).trans (subscribes topic),
    later ++ .received frame :: earlier, by simp⟩
  rw [answered, typed] at answers'
  omega

theorem arrives_subscribe {frame : Frame} {id timeout : Nat} {filter : Bytes} {qos : QoS} {before after : List Event}
    (arrives : Arrives .suback frame (.sent (.subscribe id filter qos) :: .deadline timeout :: before) after) :
    (asked before ≤ answered before → asked after ≤ answered after) ∧ subscribed filter after ∧
      (∀ topic, subscribed topic before → subscribed topic after) ∧ ∃ events, after = events ++ before := by
  obtain ⟨asks, answers, subscribes, events, grows⟩ := arrives.log
  simp only [asked, answered, if_true] at asks answers
  refine ⟨fun complete => by omega, ?_, ?_, events ++ [.sent (.subscribe id filter qos), .deadline timeout],
    by rw [grows]; simp⟩
  · rw [subscribes]
    simp [subscribed]
  · intro topic last
    rw [subscribes]
    simp [subscribed, last]

theorem arrives_unsubscribe {frame : Frame} {id timeout : Nat} {filter : Bytes} {before after : List Event}
    (arrives : Arrives .unsuback frame (.sent (.unsubscribe id filter) :: .deadline timeout :: before) after) :
    (asked before ≤ answered before → asked after ≤ answered after) ∧
      (∀ topic, topic ≠ filter → subscribed topic before → subscribed topic after) ∧
      ∃ events, after = events ++ before := by
  obtain ⟨asks, answers, subscribes, events, grows⟩ := arrives.log
  simp only [asked, answered, reduceCtorEq, if_false] at asks answers
  refine ⟨fun complete => by omega, ?_, events ++ [.sent (.unsubscribe id filter), .deadline timeout],
    by rw [grows]; simp⟩
  intro topic different last
  rw [subscribes]
  simp [subscribed, last, Ne.symm different]

theorem request_grows {packet : Nat → Packet} {type : PacketType} (plain : type.plain) {answer : M Bool}
    (silent : ∀ {before rc after}, answer before = .ok rc after → after.log = before.log)
    {rc : Bool} {before after : Machine} (run : Mqtt.request platform packet type answer before = .ok rc after) :
    ∃ events, after.log = events ++ before.log := by
  have outcome := request_returns platform plain run
  split at outcome
  · rcases outcome with ⟨⟨events, log, _⟩, _⟩ | ⟨frame, waited, replied, arrives, _, answering, log⟩
    · exact ⟨events ++ [.sent (packet (Mqtt.nextId before.mqtt.packetid)), .deadline before.mqtt.commandTimeout],
        by rw [log]; simp⟩
    · obtain ⟨_, _, _, events, grows⟩ := arrives.log
      refine ⟨events ++ [.sent (packet (Mqtt.nextId before.mqtt.packetid)), .deadline before.mqtt.commandTimeout], ?_⟩
      rw [log, silent answering, grows]
      simp
  · obtain ⟨_, events, log, _⟩ := outcome
    exact ⟨events, log⟩

theorem readSuback_log {before after : Machine} {rc : Bool} (run : Mqtt.readSuback platform before = .ok rc after) :
    after.log = before.log := by
  unfold Mqtt.readSuback at run
  rw [run_get_bind] at run
  obtain ⟨deserialized, between, read, run⟩ := run_bind_eq_ok.mp run
  obtain ⟨_, rfl⟩ := run_pure_eq_ok.mp run
  cases result : deserializeSuback platform.sign before.mqtt.readbuf with
  | ok value =>
      rw [result] at read
      obtain ⟨_, rfl⟩ := run_pure_eq_ok.mp read
      rfl
  | error fault =>
      rw [result] at read
      exact absurd read run_throw_ne_ok

structure Answered (spared : Bytes → Prop) (before after : Machine) : Prop where
  grows : ∃ events, after.log = events ++ before.log
  impl : after.impl = before.impl
  mqttTls : after.mqttTls = before.mqttTls
  connected : before.mqtt.isconnected
  isconnected : after.mqtt.isconnected
  complete : asked before.log ≤ answered before.log → asked after.log ≤ answered after.log
  subscribed : ∀ topic, spared topic → subscribed topic before.log → subscribed topic after.log

structure Broken (before after : Machine) : Prop where
  grows : ∃ events, after.log = events ++ before.log
  impl : after.impl = before.impl
  sessionPresent : after.mqttTls.sessionPresent → before.mqttTls.sessionPresent
  lost : after.mqtt.isconnected = false

theorem request_broken {packet : Nat → Packet} {type : PacketType} (plain : type.plain) {answer : M Bool}
    (answering : Keeps (Waits Event.quiet) answer)
    (silent : ∀ {before rc after}, answer before = .ok rc after → after.log = before.log)
    {before between after : Machine} {error : Bytes} {result : Bool}
    (run : Mqtt.request platform packet type answer before = .ok false between)
    (reported : MqttTls.onError error between = .ok result after) : result = false ∧ Broken before after := by
  obtain ⟨⟨impl, mqttTls⟩, lost⟩ := (request_connection platform answering _ _).returns ⟨rfl, rfl⟩ run
  have present := ((onError_steady error).returns reported).sessionPresent
  have grows := request_grows platform plain silent run
  obtain ⟨rfl, same⟩ := onError_returns reported
  refine ⟨rfl, ?_, ?_, fun holds => ?_, ?_⟩
  · rw [same]
    exact grows
  · rw [same]
    exact impl
  · rw [← mqttTls]
    exact present holds
  · rw [same]
    exact lost

theorem request_answered {packet : Nat → Packet} {type : PacketType} (plain : type.plain) {answer : M Bool}
    (answering : Keeps (Waits Event.quiet) answer)
    (silent : ∀ {before rc after}, answer before = .ok rc after → after.log = before.log)
    {before after : Machine} (run : Mqtt.request platform packet type answer before = .ok true after) :
    ∃ frame, Arrives type frame (.sent (packet (Mqtt.nextId before.mqtt.packetid)) ::
      .deadline before.mqtt.commandTimeout :: before.log) after.log ∧ before.mqtt.isconnected ∧
      after.impl = before.impl ∧ after.mqttTls = before.mqttTls ∧ after.mqtt.isconnected := by
  obtain ⟨⟨impl, mqttTls⟩, connected⟩ := (request_connection platform answering _ _).returns ⟨rfl, rfl⟩ run
  have outcome := request_returns platform plain run
  split at outcome
  · rename_i asks
    rcases outcome with ⟨_, impossible⟩ | ⟨frame, waited, replied, arrives, _, answering, log⟩
    · cases impossible
    · simp only [Machine.asks, Bool.and_eq_true] at asks
      refine ⟨frame, ?_, asks.1.1, impl, mqttTls, connected⟩
      rw [log, silent answering]
      exact arrives
  · cases outcome.1

theorem clientSubscribe_outcome {filter : Bytes} (plain : 0 ∉ filter) {granted : Bool} {before after : Machine}
    (run : MqttTls.subscribe platform filter before = .ok granted after) :
    if granted then Answered (fun _ => True) before after ∧ subscribed filter after.log else Broken before after := by
  unfold MqttTls.subscribe at run
  rw [run_get_bind, cString_eq_self.mpr plain] at run
  obtain ⟨rc, between, subscribing, run⟩ := run_bind_eq_ok.mp run
  cases rc with
  | false =>
      obtain ⟨rfl, broken⟩ := request_broken platform (by simp [PacketType.plain]) (readSuback_waits platform)
        (readSuback_log platform) subscribing run
      exact broken
  | true =>
      obtain ⟨rfl, rfl⟩ := run_pure_eq_ok.mp run
      obtain ⟨frame, arrives, connected, impl, mqttTls, isconnected⟩ := request_answered platform
        (by simp [PacketType.plain]) (readSuback_waits platform) (readSuback_log platform) subscribing
      obtain ⟨complete, made, kept, grows⟩ := arrives_subscribe arrives
      exact ⟨⟨grows, impl, mqttTls, connected, isconnected, complete, fun topic _ => kept topic⟩, made⟩

theorem clientUnsubscribe_outcome {filter : Bytes} (plain : 0 ∉ filter) {granted : Bool} {before after : Machine}
    (run : MqttTls.unsubscribe platform filter before = .ok granted after) :
    if granted then Answered (· ≠ filter) before after else Broken before after := by
  have silent {before after : Machine} {rc : Bool} (run : (pure true : M Bool) before = .ok rc after) :
      after.log = before.log := by
    rw [(run_pure_eq_ok.mp run).2]
  unfold MqttTls.unsubscribe at run
  rw [cString_eq_self.mpr plain] at run
  obtain ⟨rc, between, unsubscribing, run⟩ := run_bind_eq_ok.mp run
  cases rc with
  | false =>
      obtain ⟨rfl, broken⟩ := request_broken platform (by simp [PacketType.plain]) (Keeps.pure _) silent
        unsubscribing run
      exact broken
  | true =>
      obtain ⟨rfl, rfl⟩ := run_pure_eq_ok.mp run
      obtain ⟨frame, arrives, connected, impl, mqttTls, isconnected⟩ := request_answered platform
        (by simp [PacketType.plain]) (Keeps.pure _) silent unsubscribing
      obtain ⟨complete, kept, grows⟩ := arrives_unsubscribe arrives
      exact ⟨grows, impl, mqttTls, connected, isconnected, complete, kept⟩

/-! ## The state check -/

theorem At.broken {expected : State → Prop} {before after : Machine} (broken : Broken before after)
    (at' : At subs topic expected before) : At subs topic expected after := by
  obtain ⟨events, grows⟩ := broken.grows
  obtain ⟨linked, state⟩ := at'
  refine ⟨⟨broken.impl ▸ linked.subscriptions, broken.impl ▸ linked.privateMessagesTopic, by simp [broken.lost], ?_,
    by simp [broken.lost], broken.impl ▸ linked.empty⟩, by rw [broken.impl]; exact state⟩
  intro present
  rw [grows]
  exact (linked.present (broken.sessionPresent present)).append events

theorem Linked.answered {spared : Bytes → Prop} {before after : Machine} (answered : Answered spared before after)
    (linked : Linked subs topic before) {subs' : List Bytes}
    (kept : ∀ other ∈ subs', (other ∈ subs ∧ spared other) ∨ IotClient.subscribed other after.log)
    (empty : before.impl.state = .noSession ∨ before.impl.state = .initial → subs' = []) :
    Linked subs' topic { after with impl := { after.impl with subscriptions := subs' } } := by
  obtain ⟨events, grows⟩ := answered.grows
  refine ⟨rfl, ?_, fun _ => answered.complete (linked.complete answered.connected), ?_, ?_, ?_⟩
  · show after.impl.privateMessagesTopic = topic
    rw [answered.impl]
    exact linked.privateMessagesTopic
  · show after.mqttTls.sessionPresent → OddConnack after.log
    rw [answered.mqttTls, grows]
    exact fun present => (linked.present present).append events
  · show after.impl.state = .connected → _
    rw [answered.impl]
    intro state _
    refine (linked.restored state answered.connected).imp (fun odd => ?_) fun restored other member => ?_
    · show OddConnack after.log
      rw [grows]
      exact odd.append events
    · rcases kept other member with ⟨old, spares⟩ | made
      · exact answered.subscribed other spares (restored other old)
      · exact made
  · show after.impl.state = .noSession ∨ after.impl.state = .initial → subs' = []
    rw [answered.impl]
    exact empty

theorem At.answered {expected : State → Prop} {before after : Machine}
    (answered : Answered (fun _ => True) before after) (at' : At subs topic expected before) :
    At subs topic expected after := by
  have subscriptions : after.impl.subscriptions = subs := by
    rw [answered.impl]
    exact at'.1.subscriptions
  have same : { after with impl := { after.impl with subscriptions := subs } } = after := by
    rw [← subscriptions]
  have linked := at'.1.answered answered (fun other member => .inl ⟨member, trivial⟩) at'.1.empty
  rw [same] at linked
  exact ⟨linked, by rw [answered.impl]; exact at'.2⟩

theorem restore_yields {expected : State → Prop} (done : List Bytes) {rest : List Bytes}
    (plain : ∀ other ∈ rest, 0 ∉ other) :
    Yields (fun m => At subs topic expected m ∧ m.mqtt.isconnected ∧ ∀ other ∈ done, subscribed other m.log)
      (Client.restore platform rest) fun restored m => At subs topic expected m ∧
        (restored → m.mqtt.isconnected ∧ ∀ other, other ∈ done ∨ other ∈ rest → subscribed other m.log) := by
  induction rest generalizing done with
  | nil =>
      apply Triple.pure
      rintro m ⟨at', connected, made⟩
      exact ⟨at', fun _ => ⟨connected, fun other member => made other (by simpa using member)⟩⟩
  | cons filter rest ih =>
      have subscribing : Yields
          (fun m => At subs topic expected m ∧ m.mqtt.isconnected ∧ ∀ other ∈ done, subscribed other m.log)
          (MqttTls.subscribe platform filter) fun granted m => At subs topic expected m ∧
            (granted → m.mqtt.isconnected ∧ ∀ other ∈ filter :: done, subscribed other m.log) := by
        apply yields_of_returns
        rintro before granted after ⟨at', connected, made⟩ run
        have outcome := clientSubscribe_outcome platform (plain filter (by simp)) run
        cases granted with
        | false => exact ⟨at'.broken outcome, by simp⟩
        | true =>
            obtain ⟨answered, subscribes⟩ := outcome
            refine ⟨at'.answered answered, fun _ => ⟨answered.isconnected, ?_⟩⟩
            intro other member
            rcases List.mem_cons.mp member with rfl | member
            · exact subscribes
            · exact answered.subscribed other trivial (made other member)
      refine Triple.bind subscribing fun granted => ?_
      cases granted with
      | true =>
          refine (ih (filter :: done) fun other member => plain other (by simp [member])).weaken ?_ ?_ fun _ _ => trivial
          · exact fun m given => ⟨given.1, given.2 rfl⟩
          · rintro restored m ⟨at', holds⟩
            refine ⟨at', fun success => ⟨(holds success).1, fun other member => (holds success).2 other ?_⟩⟩
            simp only [List.mem_cons] at member ⊢
            rcases member with member | member | member <;> simp [member]
      | false =>
          have reporting : Yields
              (fun m => At subs topic expected m ∧
                (false = true → m.mqtt.isconnected ∧ ∀ other ∈ filter :: done, subscribed other m.log))
              Client.reportClientError fun _ => At subs topic expected :=
            (reportClientError_steady.mono Steady.loose |>.yields At.loose).weaken (fun _ given => given.1)
              (fun _ _ given => given) fun _ _ => trivial
          exact Triple.bind reporting fun _ => Triple.pure fun m given => ⟨given, by simp⟩

def Ready (subs : List Bytes) (topic : Bytes) (m : Machine) : Prop :=
  Apart subs topic m ∧ m.mqtt.isconnected ∧ (OddConnack m.log ∨ ∀ other ∈ subs, subscribed other m.log)

theorem reconnect_yields (plain : ∀ other ∈ subs, 0 ∉ other) :
    Yields (Apart subs topic) (Client.reconnect platform) fun restored m =>
      if restored then Ready subs topic m else Apart subs topic m := by
  refine Triple.bind (loose_apart ((authenticate_steady platform).mono Steady.loose)) fun authenticated => ?_
  refine Triple.ite (fun _ => Triple.pure fun _ given => given) fun _ => ?_
  have connecting : Yields (Apart subs topic) (MqttTls.reconnect platform) fun connected m =>
      Apart subs topic m ∧ (connected → m.mqtt.isconnected) :=
    Triple.read fun m => connectSession_yields platform _
  refine Triple.bind connecting fun connected => ?_
  apply Triple.ite
  · intro _
    exact Triple.pure fun _ given => given.1
  · intro holds
    simp only [Bool.not_eq_true', Bool.not_eq_false] at holds
    apply Triple.get
    intro read
    apply Triple.ite
    · intro present
      apply Triple.pure
      rintro m ⟨rfl, apart, isconnected⟩
      exact ⟨apart, isconnected holds, .inl (apart.1.present present)⟩
    · intro _
      apply Triple.get
      intro read
      apply yields_of_returns
      rintro before restored after ⟨rfl, rfl, apart, isconnected⟩ run
      rw [apart.1.subscriptions] at run
      have outcome := (restore_yields platform [] plain).returns ⟨apart, isconnected holds, by simp⟩ run
      cases restored with
      | false => exact outcome.1
      | true =>
          obtain ⟨isconnected, made⟩ := outcome.2 rfl
          exact ⟨outcome.1, isconnected, .inr fun other member => made other (.inr member)⟩

def Online (subs : List Bytes) (topic : Bytes) (m : Machine) : Prop :=
  At subs topic (· = .connected) m ∧ m.mqtt.isconnected

theorem reportConnected_yields :
    Yields (Ready subs topic) Client.reportConnected fun connected m => connected = true ∧ Online subs topic m := by
  have ready : Yields (Ready subs topic) (Client.setState .connected) fun _ => Online subs topic := by
    apply Triple.modify
    rintro m ⟨⟨linked, _⟩, isconnected, restored⟩
    exact ⟨⟨⟨linked.subscriptions, linked.privateMessagesTopic, linked.complete, linked.present,
      fun _ _ => restored, by simp⟩, rfl⟩, isconnected⟩
  refine Triple.bind ready fun _ => ?_
  have notified : Yields (Online subs topic) (notify .onConnected) fun _ => Online subs topic := by
    apply Triple.modify
    rintro m ⟨at', isconnected⟩
    have loose : Loose m { m with log := .callback .onConnected :: m.log } :=
      (emit_loose rfl).returns rfl
    exact ⟨at'.loose loose, isconnected⟩
  exact Triple.bind notified fun _ => Triple.pure fun _ given => ⟨rfl, given⟩

theorem checkConnection_yields (plain : ∀ other ∈ subs, 0 ∉ other) :
    Yields (Linked subs topic) (Client.checkConnection platform) fun checked m =>
      if checked then Online subs topic m else Linked subs topic m := by
  refine Triple.bind (isConnected_yields Linked.loose) fun connected => ?_
  apply Triple.ite
  · intro holds
    apply Triple.get
    intro read
    apply Triple.pure
    rintro m ⟨rfl, linked, isconnected⟩
    rw [if_pos holds] at isconnected
    by_cases state : m.impl.state = .connected
    · simp only [state, decide_true, if_true]
      exact ⟨⟨linked, state⟩, isconnected⟩
    · simp only [state, decide_false, Bool.false_eq_true, if_false]
      exact linked
  · intro _
    apply Triple.get
    intro read
    have losing : Yields (fun m => m = read ∧ Linked subs topic m ∧
        if connected then m.mqtt.isconnected = true else m.tls.connected = false)
        (onlyIf (read.impl.state = .connected) Client.reportLost) fun _ => Apart subs topic := by
      apply Triple.ite
      · intro _
        have left : Yields (fun m => m = read ∧ Linked subs topic m ∧
            if connected then m.mqtt.isconnected = true else m.tls.connected = false)
            (Client.setState .disconnected) fun _ => Apart subs topic := by
          apply Triple.modify
          rintro m ⟨_, linked, _⟩
          exact ⟨⟨linked.subscriptions, linked.privateMessagesTopic, linked.complete, linked.present, by simp,
            by simp⟩, by simp⟩
        exact Triple.bind left fun _ => Triple.read fun m => loose_apart (emit_loose rfl)
      · intro other
        apply Triple.pure
        rintro m ⟨rfl, linked, _⟩
        exact ⟨linked, by simpa using other⟩
    refine Triple.bind losing fun _ => Triple.bind (reconnect_yields platform plain) fun restored => ?_
    cases restored with
    | true =>
        refine reportConnected_yields.weaken (fun _ given => given) ?_ fun _ given => given
        rintro _ m ⟨rfl, online⟩
        exact online
    | false =>
        refine Triple.bind (loose_apart (loose_of_steady reportLastError_steady)) fun _ => Triple.get fun read => ?_
        apply Triple.pure
        rintro m ⟨rfl, linked, apart⟩
        simp only [apart, decide_false, Bool.false_eq_true, if_false]
        exact linked

theorem initialConnect_yields (empty : subs = []) :
    Yields (Apart subs topic) (Client.initialConnect platform) fun connected m =>
      if connected then Ready subs topic m else Apart subs topic m := by
  refine Triple.bind (loose_apart ((authenticate_steady platform).mono Steady.loose)) fun authenticated => ?_
  apply Triple.ite
  · intro _
    refine (clientConnect_yields platform).weaken (fun _ given => given) ?_ fun _ given => given
    rintro connected m ⟨apart, isconnected⟩
    cases connected with
    | false => exact apart
    | true => exact ⟨apart, isconnected rfl, .inr (by simp [empty])⟩
  · intro _
    exact Triple.pure fun _ given => given

theorem checkState_yields (plain : ∀ other ∈ subs, 0 ∉ other) :
    Yields (Linked subs topic) (Client.checkState platform) fun checked m =>
      if checked then Online subs topic m else Linked subs topic m := by
  have linked_loose {program : M Unit} (loose : Keeps Loose program) :
      Yields (Linked subs topic) program fun _ => Linked subs topic := loose.yields Linked.loose
  have connection (read : Machine) :
      Yields (fun m => m = read ∧ Linked subs topic m) (Client.checkConnection platform) fun checked m =>
        if checked then Online subs topic m else Linked subs topic m :=
    (checkConnection_yields platform plain).weaken (fun _ given => given.2) (fun _ _ given => given) fun _ given => given
  apply Triple.get
  intro read
  cases state : read.impl.state with
  | noSession =>
      have notified : Yields (fun m => m = read ∧ Linked subs topic m)
          (notify (.onError (bytes "No session started"))) fun _ => Linked subs topic :=
        (linked_loose (loose_of_steady (emit_steady rfl))).weaken (fun _ given => given.2) (fun _ _ given => given)
          fun _ given => given
      exact Triple.bind notified fun _ => Triple.pure fun _ given => given
  | initial =>
      apply yields_of_returns
      rintro before checked after ⟨rfl, linked⟩ run
      have empty : subs = [] := linked.empty (.inr state)
      have check : Yields (Apart subs topic)
          (do
            if ← Client.initialConnect platform then Client.reportConnected
            else do
              Client.reportLastError
              return false) fun checked m =>
          if checked then Online subs topic m else Linked subs topic m := by
        refine Triple.bind (initialConnect_yields platform empty) fun connected => ?_
        cases connected with
        | true =>
            refine reportConnected_yields.weaken (fun _ given => given) ?_ fun _ given => given
            rintro _ m ⟨rfl, online⟩
            exact online
        | false =>
            refine Triple.bind (loose_apart (loose_of_steady reportLastError_steady)) fun _ => ?_
            exact Triple.pure fun _ given => given.1
      exact check.returns ⟨linked, by simp [state]⟩ run
  | connected => exact connection read
  | disconnected => exact connection read

end Linked

end IotClient
