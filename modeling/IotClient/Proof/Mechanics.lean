import IotClient.Proof.Steady

namespace IotClient
open Logic

/-! ## What every part keeps, the whole keeps -/

inductive Event.Outgoing : Event → Prop where
  | connect (clientId : Bytes) (cleansession : Bool) (keepAliveInterval : Nat) :
      Outgoing (.sent (.connect clientId cleansession keepAliveInterval))
  | publish (message : Publish) : Outgoing (.sent (.publish message))
  | resent (message : Publish) : Outgoing (.resent message)
  | pubrel (id : Nat) : Outgoing (.sent (.ack .pubrel id))
  | subscribe (id : Nat) (topic : Bytes) (qos : QoS) : Outgoing (.sent (.subscribe id topic qos))
  | unsubscribe (id : Nat) (topic : Bytes) : Outgoing (.sent (.unsubscribe id topic))
  | disconnect : Outgoing (.sent .disconnect)

inductive ErrorText : Bytes → Prop where
  | mqttConnect : ErrorText (bytes "Failed to connect MQTT client")
  | tlsConnect (host port : Bytes) : ErrorText (bytes "Failed to connect to " ++ host ++ bytes ":" ++ port)
  | subscribe (topic : Bytes) : ErrorText (bytes "Failed to subscribe MQTT client to " ++ topic ++ bytes " topic")
  | unsubscribe (topic : Bytes) :
      ErrorText (bytes "Failed to unsubscribe MQTT client from " ++ topic ++ bytes " topic")
  | publish (topic : Bytes) : ErrorText (bytes "Failed to publish message to " ++ topic ++ bytes " topic")
  | messageLoop : ErrorText (bytes "MQTT message loop failed with code -1")

structure Linkage (relation : Machine → Machine → Prop) : Prop where
  startTimer : ∀ milliseconds, Keeps relation (startTimer milliseconds)
  sendPacket : ∀ {event : Event}, event.Outgoing → ∀ timer, Keeps relation (Mqtt.sendPacket event timer)
  nextUnset : Keeps relation nextUnset
  mqtt : ∀ {change : Mqtt → Mqtt}, (∀ mqtt, (change mqtt).incomingQoS2messages = mqtt.incomingQoS2messages) →
    Keeps relation (Mqtt.update change)
  clean : Keeps relation Mqtt.cleanSession
  ended : Keeps relation (Mqtt.update Mqtt.ended)
  client : ∀ {change : MqttTls → MqttTls},
    (∀ client, (change client).lastError = client.lastError ∨ (change client).lastError = []) →
    Keeps relation (MqttTls.update change)
  onError : ∀ {error : Bytes}, ErrorText error → Keeps relation (MqttTls.onError error)
  tlsConnect : Keeps relation TlsConnection.connect
  close : Keeps relation TlsConnection.close

section Ends

variable {relation : Machine → Machine → Prop} [Following relation] (ends : Keeps relation Mqtt.disconnect)
  (closes : Keeps relation TlsConnection.close)
  (absent : Keeps relation (MqttTls.update fun client => { client with sessionPresent := false }))
include ends closes absent

theorem isConnected_keeps : Keeps relation MqttTls.isConnected := by
  refine Keeps.bind Keeps.get fun m => Keeps.ite (fun _ => ?_) fun _ => Keeps.ite (fun _ => ?_) fun _ => Keeps.pure _
  · refine Keeps.bind (onlyIf_keeps fun _ => ?_) fun _ => Keeps.pure _
    exact Keeps.bind ends fun _ => absent
  · exact Keeps.bind closes fun _ => Keeps.bind absent fun _ => Keeps.pure _

theorem disconnect_keeps : Keeps relation MqttTls.disconnect := by
  refine Keeps.bind Keeps.get fun _ => Keeps.bind (onlyIf_keeps fun _ => ends) fun _ => ?_
  exact Keeps.bind closes fun _ => absent

end Ends

namespace Linkage

variable {relation : Machine → Machine → Prop} (parts : Linkage relation)
include parts

theorem absent : Keeps relation (MqttTls.update fun client => { client with sessionPresent := false }) :=
  parts.client fun _ => .inl rfl

variable [Following relation]

theorem idOr (set : Option Nat) : Keeps relation (Mqtt.idOr set) := by
  cases set with
  | some id => exact Keeps.pure _
  | none => exact Keeps.bind parts.nextUnset fun _ => Keeps.pure _

theorem acknowledge : Keeps relation Mqtt.acknowledge := by
  refine Keeps.bind Keeps.get fun _ => Keeps.bind (ofExcept_keeps _) fun _ => ?_
  refine Keeps.ite (fun _ => Keeps.pure _) fun _ => Keeps.bind (parts.idOr _) fun _ => ?_
  exact Keeps.bind (parts.mqtt fun _ => rfl) fun _ => Keeps.pure _

theorem getNext : Keeps relation Mqtt.getNext :=
  Keeps.bind (parts.mqtt fun _ => rfl) fun _ => Keeps.bind Keeps.get fun _ => Keeps.pure _

theorem readConnack : Keeps relation Mqtt.readConnack := by
  refine Keeps.bind Keeps.get fun _ => Keeps.bind (ofExcept_keeps _) fun outcome => ?_
  have noted : Keeps relation (MqttTls.update fun client => { client with sessionPresent := outcome.2.1 }) :=
    parts.client fun _ => .inl rfl
  exact Keeps.bind noted fun _ => Keeps.pure _

theorem mqttDisconnect : Keeps relation Mqtt.disconnect := by
  refine Keeps.bind Keeps.get fun _ => Keeps.bind (parts.startTimer _) fun _ => ?_
  exact Keeps.bind (parts.sendPacket .disconnect _) fun _ => parts.ended

theorem isConnected : Keeps relation MqttTls.isConnected :=
  isConnected_keeps parts.mqttDisconnect parts.close parts.absent

theorem disconnect : Keeps relation MqttTls.disconnect :=
  disconnect_keeps parts.mqttDisconnect parts.close parts.absent

theorem orError {action : M Bool} (acts : Keeps relation action) {error : Bytes} (text : ErrorText error) :
    Keeps relation (do if ← action then return true else MqttTls.onError error) :=
  Keeps.bind acts fun _ => Keeps.ite (fun _ => Keeps.pure _) fun _ => parts.onError text

end Linkage

structure Mechanics (platform : Platform) (relation : Machine → Machine → Prop) : Prop extends Linkage relation where
  cycle : ∀ timer, Keeps relation (Mqtt.cycle platform timer)

section Cycles

variable {platform : Platform} {relation : Machine → Machine → Prop} [Following relation]
  (cycles : ∀ timer, Keeps relation (Mqtt.cycle platform timer))
include cycles

theorem waitfor_keeps (type : PacketType) (timer : Timer) : Keeps relation (Mqtt.waitfor platform type timer) := by
  induction timer with
  | zero => exact Keeps.pure _
  | succ ticks ih =>
      refine Keeps.bind (cycles _) fun outcome => Keeps.ite (fun _ => Keeps.pure _) fun _ => ?_
      exact Keeps.ite (fun _ => Keeps.pure _) fun _ => ih

theorem yieldLoop_keeps (timer : Timer) : Keeps relation (Mqtt.yieldLoop platform timer) := by
  induction timer with
  | zero => exact Keeps.pure _
  | succ ticks ih =>
      refine Keeps.bind (cycles _) fun outcome => ?_
      obtain ⟨result, left⟩ := outcome
      cases result with
      | packet type => exact Keeps.ite (fun _ => Keeps.pure _) fun _ => ih
      | failure => exact Keeps.pure _
      | bufferOverflow => exact Keeps.pure _

end Cycles

namespace Mechanics

variable {platform : Platform} {relation : Machine → Machine → Prop} [Following relation]
  (parts : Mechanics platform relation)
include parts

theorem waitfor (type : PacketType) (timer : Timer) : Keeps relation (Mqtt.waitfor platform type timer) :=
  waitfor_keeps parts.cycle type timer

theorem yield (timeout : Nat) : Keeps relation (Mqtt.yield platform timeout) :=
  Keeps.bind (parts.startTimer _) fun timer => yieldLoop_keeps parts.cycle timer

theorem transmit {event : Event} (outgoing : event.Outgoing) (timer : Timer) (qos : QoS) :
    Keeps relation (Mqtt.transmit platform event timer qos) := by
  refine Keeps.bind (parts.sendPacket outgoing timer) fun outcome => Keeps.bind ?_ fun rc => ?_
  · refine Keeps.ite (fun _ => Keeps.pure _) fun _ => Keeps.ite (fun _ => ?_) fun _ => Keeps.pure _
    refine Keeps.bind (parts.waitfor _ _) fun _ => ?_
    exact Keeps.ite (fun _ => parts.acknowledge) fun _ => Keeps.pure _
  · exact Keeps.bind (onlyIf_keeps fun _ => parts.clean) fun _ => Keeps.pure _

theorem mqttPublish (topicName payload : Bytes) (qos : QoS) :
    Keeps relation (Mqtt.publish platform topicName payload qos) := by
  refine Keeps.bind Keeps.get fun _ => Keeps.bind (parts.startTimer _) fun _ => ?_
  refine Keeps.bind Keeps.get fun _ => Keeps.ite (fun _ => Keeps.pure _) fun _ => ?_
  refine Keeps.bind (Keeps.ite (fun _ => parts.getNext) fun _ => Keeps.pure _) fun _ => ?_
  refine Keeps.ite (fun _ => Keeps.pure _) fun _ => Keeps.bind Keeps.get fun _ => ?_
  exact Keeps.bind (onlyIf_keeps fun _ => parts.mqtt fun _ => rfl) fun _ => parts.transmit (.publish _) _ _

theorem resend (accepted : Bool) (timer : Timer) : Keeps relation (Mqtt.resend platform accepted timer) := by
  refine Keeps.bind Keeps.get fun m => ?_
  cases m.mqtt.inflight with
  | none => exact Keeps.pure _
  | some message =>
      exact Keeps.ite (fun _ => parts.transmit (.pubrel _) _ _) fun _ => parts.transmit (.resent _) _ _

theorem mqttConnect (clientId : Bytes) (cleansession : Bool) :
    Keeps relation (Mqtt.connect platform clientId cleansession) := by
  refine Keeps.bind Keeps.get fun _ => Keeps.bind (parts.startTimer _) fun _ => ?_
  refine Keeps.bind Keeps.get fun _ => Keeps.ite (fun _ => Keeps.pure _) fun _ => ?_
  refine Keeps.bind (parts.mqtt fun _ => rfl) fun _ => Keeps.ite (fun _ => Keeps.pure _) fun _ => ?_
  refine Keeps.bind (parts.sendPacket (.connect _ _ _) _) fun _ => Keeps.ite (fun _ => Keeps.pure _) fun _ => ?_
  refine Keeps.bind (parts.waitfor _ _) fun _ => ?_
  refine Keeps.bind (Keeps.ite (fun _ => parts.readConnack) fun _ => Keeps.pure _) fun _ => ?_
  refine Keeps.bind (parts.resend _ _) fun _ => ?_
  exact Keeps.bind (onlyIf_keeps fun _ => parts.mqtt fun _ => rfl) fun _ => Keeps.pure _

theorem request {packet : Nat → Packet} (outgoing : ∀ id, (Event.sent (packet id)).Outgoing) (type : PacketType)
    {answer : M Bool} (answers : Keeps relation answer) :
    Keeps relation (Mqtt.request platform packet type answer) := by
  refine Keeps.bind Keeps.get fun _ => Keeps.bind (parts.startTimer _) fun _ => ?_
  refine Keeps.bind Keeps.get fun _ => Keeps.bind (Keeps.ite (fun _ => Keeps.pure _) fun _ => ?_) fun _ => ?_
  · refine Keeps.bind parts.getNext fun _ => Keeps.ite (fun _ => Keeps.pure _) fun _ => ?_
    refine Keeps.bind (parts.sendPacket (outgoing _) _) fun _ => Keeps.ite (fun _ => Keeps.pure _) fun _ => ?_
    refine Keeps.bind (parts.waitfor _ _) fun _ => ?_
    exact Keeps.ite (fun _ => answers) fun _ => Keeps.pure _
  · exact Keeps.bind (onlyIf_keeps fun _ => parts.clean) fun _ => Keeps.pure _

theorem mqttSubscribe (topic : Bytes) (qos : QoS) : Keeps relation (Mqtt.subscribe platform topic qos) := by
  refine parts.request (fun id => .subscribe id topic qos) _ ?_
  exact Keeps.bind Keeps.get fun _ => Keeps.bind (ofExcept_keeps _) fun _ => Keeps.pure _

theorem mqttUnsubscribe (topic : Bytes) : Keeps relation (Mqtt.unsubscribe platform topic) :=
  parts.request (fun id => .unsubscribe id topic) _ (Keeps.pure _)

theorem connectSession (cleanSession : Bool) : Keeps relation (MqttTls.connectSession platform cleanSession) := by
  refine Keeps.bind parts.isConnected fun _ => Keeps.ite (fun _ => Keeps.pure _) fun _ => ?_
  refine Keeps.bind parts.tlsConnect fun _ => Keeps.ite (fun _ => ?_) fun _ => ?_
  · exact Keeps.bind Keeps.get fun _ => parts.onError (.tlsConnect _ _)
  · refine Keeps.bind ?_ fun _ => Keeps.ite (fun _ => ?_) fun _ => Keeps.bind parts.close fun _ => Keeps.pure _
    · exact Keeps.bind Keeps.get fun _ => parts.orError (parts.mqttConnect _ _) .mqttConnect
    · exact Keeps.bind (parts.client fun _ => .inr rfl) fun _ => Keeps.pure _

theorem connect : Keeps relation (MqttTls.connect platform) := by
  refine Keeps.bind (parts.connectSession true) fun _ => Keeps.ite (fun _ => Keeps.pure _) fun _ => ?_
  refine Keeps.bind Keeps.get fun m => Keeps.ite (fun _ => Keeps.pure _) fun _ => ?_
  exact Keeps.bind parts.disconnect fun _ => parts.connectSession false

theorem reconnect : Keeps relation (MqttTls.reconnect platform) :=
  Keeps.bind Keeps.get fun _ => parts.connectSession _

theorem subscribe (topic : Bytes) : Keeps relation (MqttTls.subscribe platform topic) :=
  Keeps.bind Keeps.get fun _ => parts.orError (parts.mqttSubscribe _ _) (.subscribe topic)

theorem unsubscribe (topic : Bytes) : Keeps relation (MqttTls.unsubscribe platform topic) :=
  parts.orError (parts.mqttUnsubscribe _) (.unsubscribe topic)

theorem publish (topic message : Bytes) : Keeps relation (MqttTls.publish platform topic message) :=
  Keeps.bind Keeps.get fun _ => parts.orError (parts.mqttPublish _ _ _) (.publish topic)

theorem runMessageLoop (timeout : Nat) : Keeps relation (MqttTls.runMessageLoop platform timeout) := by
  refine Keeps.bind (parts.yield timeout) fun _ => Keeps.ite (fun _ => Keeps.pure _) fun _ => ?_
  exact Keeps.bind Keeps.get fun _ => Keeps.ite (fun _ => Keeps.pure _) fun _ => parts.onError .messageLoop

end Mechanics

structure Conduct (platform : Platform) (relation : Machine → Machine → Prop) : Prop
    extends Mechanics platform relation where
  authenticate : Keeps relation (Client.authenticate platform)
  impl : ∀ {change : Impl → Impl},
    (∀ impl, (change impl).lastError = impl.lastError ∧ (change impl).privateMessagesTopic = impl.privateMessagesTopic ∧
      (change impl).authenticated = impl.authenticated) →
    Keeps relation (Client.update change)
  onConnected : Keeps relation (notify .onConnected)
  reportLost : Keeps relation Client.reportLost
  reportLastError : Keeps relation Client.reportLastError
  reportClientError : Keeps relation Client.reportClientError
  noSession : Keeps relation (notify (.onError (bytes "No session started")))
  unsent : ∀ what, Keeps relation (notify (.onError (bytes "Failed to serialize private message: " ++ what)))
  nextIv : Keeps relation nextIv

namespace Conduct

variable {platform : Platform} {relation : Machine → Machine → Prop} [Following relation]
  (parts : Conduct platform relation)
include parts

theorem restore (topics : List Bytes) : Keeps relation (Client.restore platform topics) := by
  induction topics with
  | nil => exact Keeps.pure _
  | cons topic rest ih =>
      refine Keeps.bind (parts.subscribe topic) fun _ => Keeps.ite (fun _ => ih) fun _ => ?_
      exact Keeps.bind parts.reportClientError fun _ => Keeps.pure _

theorem reconnect : Keeps relation (Client.reconnect platform) := by
  refine Keeps.bind parts.authenticate fun _ => Keeps.ite (fun _ => Keeps.pure _) fun _ => ?_
  refine Keeps.bind parts.toMechanics.reconnect fun _ => Keeps.ite (fun _ => Keeps.pure _) fun _ => ?_
  refine Keeps.bind Keeps.get fun _ => Keeps.ite (fun _ => Keeps.pure _) fun _ => ?_
  exact Keeps.bind Keeps.get fun _ => parts.restore _

theorem reportConnected : Keeps relation Client.reportConnected :=
  Keeps.bind (parts.impl fun _ => ⟨rfl, rfl, rfl⟩) fun _ => Keeps.bind parts.onConnected fun _ => Keeps.pure _

theorem checkConnection : Keeps relation (Client.checkConnection platform) := by
  refine Keeps.bind parts.isConnected fun _ => ?_
  refine Keeps.ite (fun _ => Keeps.bind Keeps.get fun _ => Keeps.pure _) fun _ => Keeps.bind Keeps.get fun _ => ?_
  refine Keeps.bind (onlyIf_keeps fun _ => parts.reportLost) fun _ => Keeps.bind parts.reconnect fun _ => ?_
  refine Keeps.ite (fun _ => parts.reportConnected) fun _ => ?_
  exact Keeps.bind parts.reportLastError fun _ => Keeps.bind Keeps.get fun _ => Keeps.pure _

theorem initialConnect : Keeps relation (Client.initialConnect platform) :=
  Keeps.bind parts.authenticate fun _ => Keeps.ite (fun _ => parts.connect) fun _ => Keeps.pure _

theorem checkState : Keeps relation (Client.checkState platform) := by
  refine Keeps.bind Keeps.get fun m => ?_
  cases m.impl.state with
  | noSession => exact Keeps.bind parts.noSession fun _ => Keeps.pure _
  | initial =>
      refine Keeps.bind parts.initialConnect fun _ => Keeps.ite (fun _ => parts.reportConnected) fun _ => ?_
      exact Keeps.bind parts.reportLastError fun _ => Keeps.pure _
  | connected => exact parts.checkConnection
  | disconnected => exact parts.checkConnection

theorem command {action : M Bool} (acts : Keeps relation action) {success : Impl → Impl}
    (tame : ∀ impl, (success impl).lastError = impl.lastError ∧
      (success impl).privateMessagesTopic = impl.privateMessagesTopic ∧ (success impl).authenticated = impl.authenticated) :
    Keeps relation (Client.command platform action success) := by
  refine Keeps.bind parts.checkState fun _ => Keeps.ite (fun _ => Keeps.pure _) fun _ => ?_
  refine Keeps.bind acts fun _ => Keeps.ite (fun _ => ?_) fun _ => ?_
  · exact Keeps.bind (parts.impl tame) fun _ => Keeps.pure _
  · exact Keeps.bind parts.reportClientError fun _ => Keeps.pure _

theorem sendPrivateMessage (userIdTo payload : Bytes) (encrypt : Bool) :
    Keeps relation (Client.sendPrivateMessage platform userIdTo payload encrypt) := by
  refine Keeps.tryCatch ?_ fun fault => ?_
  · refine Keeps.bind (Keeps.ite (fun _ => parts.nextIv) fun _ => Keeps.pure _) fun _ => ?_
    refine Keeps.bind Keeps.get fun _ => Keeps.bind (ofExcept_keeps _) fun _ => ?_
    exact parts.command (parts.publish _ _) fun _ => ⟨rfl, rfl, rfl⟩
  · cases fault with
    | iot what => exact Keeps.bind (parts.unsent _) fun _ => Keeps.pure _
    | _ => exact Keeps.throw _

theorem endSession : Keeps relation Client.endSession := by
  refine Keeps.bind Keeps.get fun _ => Keeps.ite (fun _ => Keeps.pure _) fun _ => ?_
  exact Keeps.bind parts.disconnect fun _ => parts.impl fun _ => ⟨rfl, rfl, rfl⟩

/-- The start of a session is apart, since it sets the topic for private messages. -/
theorem perform {call : Client.Call} (starting : call ≠ .startSession) : Keeps relation (Client.perform platform call) := by
  cases call with
  | startSession => exact absurd rfl starting
  | configure conf => exact Keeps.bind (parts.impl fun _ => ⟨rfl, rfl, rfl⟩) fun _ => Keeps.pure _
  | endSession => exact Keeps.bind parts.endSession fun _ => Keeps.pure _
  | isConnected => exact parts.isConnected
  | subscribe topic => exact parts.command (parts.subscribe topic) fun _ => ⟨rfl, rfl, rfl⟩
  | unsubscribe topic => exact parts.command (parts.unsubscribe topic) fun _ => ⟨rfl, rfl, rfl⟩
  | publish topic payload => exact parts.command (parts.publish topic payload) fun _ => ⟨rfl, rfl, rfl⟩
  | listenForPrivateMessages =>
      exact Keeps.bind Keeps.get fun _ => parts.command (parts.subscribe _) fun _ => ⟨rfl, rfl, rfl⟩
  | sendPrivateMessage userIdTo payload encrypt => exact parts.sendPrivateMessage userIdTo payload encrypt
  | runMessageLoop timeout => exact parts.command (parts.runMessageLoop timeout) fun _ => ⟨rfl, rfl, rfl⟩

end Conduct

end IotClient
