import IotClient.Proof.Mechanics
import IotClient.Proof.Wire

namespace IotClient
open Logic

/-! ## Packets that can be read back -/

def Packet.Sendable (packet : Packet) : Prop := packet.Proper ∧ packet.fits = true

structure Tidy (m : Machine) : Prop where
  packetid : m.mqtt.packetid < 65536
  inflight : ∀ message ∈ m.mqtt.inflight, (Packet.publish message).Sendable
  log : ∀ event ∈ m.log, ∀ packet ∈ event.packet, packet.Sendable

abbrev Tidies {α : Type} (program : M α) : Prop := Keeps (Carries Tidy) program

section Parts

theorem Tidy.same {before after : Machine} (tidy : Tidy before) (mqtt : after.mqtt.packetid = before.mqtt.packetid)
    (inflight : after.mqtt.inflight = before.mqtt.inflight) (log : after.log = before.log) : Tidy after :=
  ⟨mqtt ▸ tidy.packetid, inflight ▸ tidy.inflight, log ▸ tidy.log⟩

theorem emit_tidies {event : Event} (sendable : ∀ packet ∈ event.packet, packet.Sendable) : Tidies (emit event) := by
  refine Keeps.modify fun m tidy => { tidy with log := fun other member => ?_ }
  rcases List.mem_cons.1 member with rfl | older
  · exact sendable
  · exact tidy.log other older

theorem notify_tidies (callback : Callback) : Tidies (notify callback) := emit_tidies nofun

theorem mqttUpdate_tidies {change : Mqtt → Mqtt} (packetid : ∀ mqtt, (change mqtt).packetid = mqtt.packetid)
    (inflight : ∀ mqtt, ∀ message ∈ (change mqtt).inflight, message ∈ mqtt.inflight) : Tidies (Mqtt.update change) :=
  Keeps.modify fun m tidy =>
    ⟨(packetid m.mqtt).symm ▸ tidy.packetid, fun message member => tidy.inflight message (inflight m.mqtt message member),
      tidy.log⟩

theorem other_tidies {change : Machine → Machine} (mqtt : ∀ m, (change m).mqtt = m.mqtt)
    (log : ∀ m, (change m).log = m.log) : Tidies (modify change : M PUnit) :=
  Keeps.modify fun m tidy => tidy.same (by rw [mqtt]) (by rw [mqtt]) (log m)

theorem reply_tidies {α : Type} {change : Machine → α × Machine} (mqtt : ∀ m, (change m).2.mqtt = m.mqtt)
    (log : ∀ m, (change m).2.log = m.log) : Tidies (modifyGet change : M α) :=
  Keeps.modifyGet fun m tidy => tidy.same (by rw [mqtt]) (by rw [mqtt]) (log m)

theorem startTimer_tidies (milliseconds : Nat) : Tidies (startTimer milliseconds) :=
  Keeps.bind (emit_tidies nofun) fun _ => reply_tidies (fun _ => rfl) fun _ => rfl

theorem fail_tidies (error : Bytes) : Tidies (TlsConnection.fail error) :=
  other_tidies (fun _ => rfl) fun _ => rfl

theorem close_tidies : Tidies TlsConnection.close := by
  refine Keeps.bind Keeps.get fun _ => Keeps.ite (fun _ => ?_) fun _ => Keeps.pure _
  exact Keeps.bind (other_tidies (fun _ => rfl) fun _ => rfl) fun _ => emit_tidies nofun

theorem lose_tidies (error : Bytes) : Tidies (TlsConnection.lose error) :=
  Keeps.bind (fail_tidies error) fun _ => close_tidies

theorem tlsConnect_tidies : Tidies TlsConnection.connect := by
  refine Keeps.bind Keeps.get fun _ => Keeps.ite (fun _ => Keeps.pure _) fun _ => ?_
  refine Keeps.bind (reply_tidies (fun _ => rfl) fun _ => rfl) fun reply => ?_
  cases reply with
  | some error => exact Keeps.bind (fail_tidies error) fun _ => Keeps.pure _
  | none =>
      refine Keeps.bind (other_tidies (fun _ => rfl) fun _ => rfl) fun _ => ?_
      exact Keeps.bind (emit_tidies nofun) fun _ => Keeps.pure _

theorem cleanSession_tidies : Tidies Mqtt.cleanSession := mqttUpdate_tidies (fun _ => rfl) fun _ _ => nofun

theorem sendPacket_tidies {event : Event} (sendable : ∀ packet ∈ event.packet, packet.Sendable) (timer : Timer) :
    Tidies (Mqtt.sendPacket event timer) := by
  refine Keeps.ite (fun _ => Keeps.pure _) fun _ => Keeps.bind Keeps.get fun _ => Keeps.ite (fun _ => ?_) fun _ => ?_
  · exact Keeps.bind (fail_tidies _) fun _ => Keeps.pure _
  refine Keeps.bind (reply_tidies (fun _ => rfl) fun _ => rfl) fun reply => ?_
  cases reply with
  | sent expires => exact Keeps.bind (emit_tidies sendable) fun _ => Keeps.pure _
  | expired => exact Keeps.pure _
  | failed error => exact Keeps.bind (lose_tidies error) fun _ => Keeps.pure _

theorem keepalive_tidies : Tidies Mqtt.keepalive := by
  refine Keeps.bind Keeps.get fun _ => Keeps.ite (fun _ => Keeps.pure _) fun _ => ?_
  refine Keeps.bind (reply_tidies (fun _ => rfl) fun _ => rfl) fun due => ?_
  refine Keeps.ite (fun _ => ?_) fun _ => Keeps.pure _
  refine Keeps.bind (startTimer_tidies _) fun _ => Keeps.bind (sendPacket_tidies ?_ _) fun _ => ?_
  · rintro _ ⟨⟩
    exact ⟨trivial, rfl⟩
  · exact onlyIf_keeps fun _ => mqttUpdate_tidies (fun _ => rfl) fun _ _ member => member

end Parts

/-! ## Receiving -/

section Receiving

theorem readInt_lt {buffer rest : Bytes} {value : Nat} (read : readInt buffer = .ok (value, rest)) : value < 65536 := by
  match buffer, read with
  | high :: low :: _, read =>
      cases read
      have := high.toNat_lt
      have := low.toNat_lt
      omega

theorem deserializePublish_id {readbuf : Bytes} {message : Message}
    (read : deserializePublish readbuf = .ok (some message)) : message.id < 65536 := by
  unfold deserializePublish at read
  split at read
  · cases read
  split at read
  · cases read
  dsimp only at read
  split at read
  · cases read
  obtain ⟨⟨len, curdata⟩, -, read⟩ := bind_eq_ok.1 read
  dsimp only at read
  split at read
  · cases read
  split at read
  · cases read
    exact Nat.zero_lt_succ _
  · obtain ⟨⟨id, payload⟩, identified, read⟩ := bind_eq_ok.1 read
    cases read
    exact readInt_lt identified

theorem deserializeAck_id {readbuf : Bytes} {rc id : Nat} (read : deserializeAck readbuf = .ok (rc, some id)) :
    id < 65536 := by
  unfold deserializeAck at read
  split at read
  · cases read
  dsimp only at read
  split at read
  · cases read
  · obtain ⟨⟨id, rest⟩, identified, read⟩ := bind_eq_ok.1 read
    cases read
    exact readInt_lt identified

theorem bind_tidies {α β : Type} {condition : α → Prop} {program : M α} {rest : α → M β}
    (first : Triple Tidy program (fun value m => Tidy m ∧ condition value) Tidy)
    (second : ∀ value, condition value → Tidies (rest value)) : Tidies (program >>= rest) := by
  refine Triple.carries (Triple.bind first fun value => ?_)
  rintro m ⟨tidy, holds⟩
  exact (second value holds).preserves (fun carries => carries) m tidy

theorem idOr_tidies {set : Option Nat} (small : ∀ id ∈ set, id < 65536) :
    Triple Tidy (Mqtt.idOr set) (fun id m => Tidy m ∧ id < 65536) Tidy := by
  cases set with
  | some id => exact Triple.pure fun _ tidy => ⟨tidy, small id rfl⟩
  | none =>
      intro m tidy
      exact ⟨tidy.same rfl rfl rfl, UInt16.toNat_lt _⟩

theorem ack_sendable {type : PacketType} {id : Nat} (small : id < 65536)
    (answer : type = .puback ∨ type = .pubrec ∨ type = .pubrel ∨ type = .pubcomp) :
    ∀ packet ∈ (Event.sent (.ack type id)).packet, packet.Sendable := by
  rintro _ ⟨⟩
  exact ⟨⟨small, answer⟩, rfl⟩

variable (platform : Platform)

theorem deliverMessage_tidies (message : Message) : Tidies (Mqtt.deliverMessage platform message) :=
  Keeps.bind Keeps.get fun _ => Keeps.bind (ofExcept_keeps _) fun _ => notify_tidies _

theorem arrive_tidies (message : Message) : Tidies (Mqtt.arrive platform message) := by
  refine Keeps.ite (fun _ => deliverMessage_tidies platform message) fun _ => Keeps.bind Keeps.get fun m => ?_
  refine Keeps.ite (fun _ => ?_) fun _ => Keeps.pure _
  cases useQoS2msgid message.id m.mqtt.incomingQoS2messages with
  | none => exact Keeps.pure _
  | some incoming =>
      refine Keeps.bind (mqttUpdate_tidies (fun _ => rfl) fun _ _ member => member) fun _ => ?_
      exact deliverMessage_tidies platform message

theorem finish_tidies (type : PacketType) (timer : Timer) : Tidies (Mqtt.finish type timer) :=
  Keeps.bind keepalive_tidies fun _ => Keeps.pure _

theorem cyclePublish_tidies (timer : Timer) : Tidies (Mqtt.cyclePublish platform timer) := by
  refine Keeps.bind Keeps.get fun m => ?_
  refine Keeps.bind_returns (ofExcept_keeps _) (ofExcept_returns fun value read => read) fun read is => ?_
  cases read with
  | none => exact Keeps.pure _
  | some message =>
      have small := deserializePublish_id is
      refine Keeps.bind (arrive_tidies platform message) fun _ => ?_
      have answers (type : PacketType) (answer : type = .puback ∨ type = .pubrec ∨ type = .pubrel ∨ type = .pubcomp) :
          Tidies (do
            let outcome ← Mqtt.sendPacket (.sent (.ack type message.id)) timer
            if outcome.1 then Mqtt.finish .publish outcome.2 else return (.failure, outcome.2)) :=
        Keeps.bind (sendPacket_tidies (ack_sendable small answer) timer) fun _ =>
          Keeps.ite (fun _ => finish_tidies _ _) fun _ => Keeps.pure _
      cases message.qos with
      | qos0 => exact finish_tidies _ _
      | qos1 => exact answers .puback (.inl rfl)
      | qos2 => exact answers .pubrec (.inr (.inl rfl))
      | qos3 => exact Keeps.pure _

theorem cycleAck_tidies (type : PacketType) (timer : Timer) : Tidies (Mqtt.cycleAck type timer) := by
  refine Keeps.bind Keeps.get fun m => ?_
  refine Keeps.bind_returns (ofExcept_keeps _) (ofExcept_returns fun value read => read) fun read is => ?_
  refine Keeps.ite (fun _ => Keeps.pure _) fun _ => ?_
  refine bind_tidies (idOr_tidies ?_) fun id small => ?_
  · intro id set
    exact deserializeAck_id (is.trans (by rw [← Option.mem_def.1 set]))
  refine Keeps.bind (sendPacket_tidies (ack_sendable small ?_) timer) fun outcome => ?_
  · split
    · exact .inr (.inr (.inl rfl))
    · exact .inr (.inr (.inr rfl))
  refine Keeps.ite (fun _ => Keeps.pure _) fun _ => ?_
  refine Keeps.bind (onlyIf_keeps fun _ => mqttUpdate_tidies (fun _ => rfl) fun _ _ member => member) fun _ => ?_
  exact finish_tidies _ _

theorem dispatch_tidies (timer : Timer) (type : PacketType) : Tidies (Mqtt.dispatch platform timer type) := by
  cases type with
  | publish => exact cyclePublish_tidies platform timer
  | pubrec => exact cycleAck_tidies _ _
  | pubrel => exact cycleAck_tidies _ _
  | pingresp =>
      exact Keeps.bind (mqttUpdate_tidies (fun _ => rfl) fun _ _ member => member) fun _ => finish_tidies _ _
  | _ => exact finish_tidies _ _

theorem readPacket_tidies : Tidies Mqtt.readPacket := by
  refine Keeps.bind Keeps.get fun _ => Keeps.ite (fun _ => ?_) fun _ => ?_
  · exact Keeps.bind (fail_tidies _) fun _ => Keeps.pure _
  refine Keeps.bind (reply_tidies (fun _ => rfl) fun _ => rfl) fun reply => ?_
  refine Keeps.bind ?_ fun _ => Keeps.bind ?_ fun _ => Keeps.pure _
  · cases reply.closed with
    | none => exact Keeps.pure _
    | some error => exact lose_tidies error
  · cases reply.reading with
    | packet frame =>
        refine Keeps.bind (emit_tidies nofun) fun _ => ?_
        exact mqttUpdate_tidies (fun _ => rfl) fun _ _ member => member
    | _ => exact Keeps.pure _

theorem cycle_tidies (timer : Timer) : Tidies (Mqtt.cycle platform timer) := by
  refine Keeps.bind readPacket_tidies fun reading => ?_
  cases reading with
  | packet frame => exact dispatch_tidies platform timer _
  | failure => exact Keeps.bind keepalive_tidies fun _ => Keeps.pure _
  | bufferOverflow => exact Keeps.bind keepalive_tidies fun _ => Keeps.pure _

end Receiving

/-! ## Commands -/

section Commands

theorem getNext_tidies : Triple Tidy Mqtt.getNext (fun id m => Tidy m ∧ id < 65536) Tidy := by
  intro m tidy
  have small : Mqtt.nextId m.mqtt.packetid < 65536 := by
    have packetid := tidy.packetid
    unfold Mqtt.nextId
    split <;> omega
  exact ⟨{ tidy with packetid := small }, small⟩

theorem acknowledge_tidies : Tidies Mqtt.acknowledge := by
  refine Keeps.bind Keeps.get fun m => ?_
  refine Keeps.bind_returns (ofExcept_keeps _) (ofExcept_returns fun value read => read) fun read is => ?_
  refine Keeps.ite (fun _ => Keeps.pure _) fun _ => bind_tidies (idOr_tidies ?_) fun id _ => ?_
  · intro id set
    exact deserializeAck_id (is.trans (by rw [← Option.mem_def.1 set]))
  · refine Keeps.bind (mqttUpdate_tidies (fun _ => rfl) fun _ message member => ?_) fun _ => Keeps.pure _
    exact Option.mem_def.2 (Option.filter_eq_some_iff.1 (Option.mem_def.1 member)).1

theorem onlyIf_tidies {condition : Bool} {action : M Unit} (tidies : Tidies action) : Tidies (onlyIf condition action) :=
  onlyIf_keeps fun _ => tidies

theorem mqttDisconnect_tidies : Tidies Mqtt.disconnect := by
  refine Keeps.bind Keeps.get fun _ => Keeps.bind (startTimer_tidies _) fun _ => Keeps.bind (sendPacket_tidies ?_ _) fun _ => ?_
  · rintro _ ⟨⟩
    exact ⟨trivial, rfl⟩
  · refine mqttUpdate_tidies (fun mqtt => ?_) fun mqtt message member => ?_
    · unfold Mqtt.ended
      split <;> rfl
    · unfold Mqtt.ended at member
      split at member
      · cases member
      · exact member

variable (platform : Platform)

theorem transmit_tidies {event : Event} (sendable : ∀ packet ∈ event.packet, packet.Sendable) (timer : Timer) (qos : QoS) :
    Tidies (Mqtt.transmit platform event timer qos) := by
  refine Keeps.bind (sendPacket_tidies sendable timer) fun _ => Keeps.bind ?_ fun _ => ?_
  · refine Keeps.ite (fun _ => Keeps.pure _) fun _ => Keeps.ite (fun _ => ?_) fun _ => Keeps.pure _
    refine Keeps.bind (waitfor_keeps (cycle_tidies platform) _ _) fun _ => ?_
    exact Keeps.ite (fun _ => acknowledge_tidies) fun _ => Keeps.pure _
  · exact Keeps.bind (onlyIf_tidies cleanSession_tidies) fun _ => Keeps.pure _

theorem mqttPublish_tidies (topicName payload : Bytes) (qos : QoS) :
    Tidies (Mqtt.publish platform topicName payload qos) := by
  refine Keeps.bind Keeps.get fun _ => Keeps.bind (startTimer_tidies _) fun _ => ?_
  refine Keeps.bind Keeps.get fun _ => Keeps.ite (fun _ => Keeps.pure _) fun _ => ?_
  have numbered : Triple Tidy (if qos = .qos1 ∨ qos = .qos2 then Mqtt.getNext else pure 0)
      (fun id m => Tidy m ∧ id < 65536 ∧ (qos = .qos0 → id = 0)) Tidy := by
    refine Triple.ite (fun acknowledged => ?_) fun _ => Triple.pure fun _ tidy => ⟨tidy, by decide, fun _ => rfl⟩
    refine getNext_tidies.weaken (fun _ tidy => tidy) (fun id m got => ⟨got.1, got.2, ?_⟩) fun _ tidy => tidy
    rintro rfl
    simp at acknowledged
  refine bind_tidies numbered fun id proper => ?_
  refine Keeps.ite (fun _ => Keeps.pure _) fun fits => Keeps.bind Keeps.get fun _ => ?_
  have sendable : (Packet.publish ⟨qos, id, topicName, payload⟩).Sendable := ⟨proper, by simpa using fits⟩
  refine Keeps.bind (onlyIf_tidies (Keeps.modify fun m tidy => { tidy with inflight := ?_ })) fun _ => ?_
  · intro message member
    simp only at member
    split at member
    · cases member
    · cases member
      exact sendable
  · refine transmit_tidies platform ?_ _ _
    rintro _ ⟨⟩
    exact sendable

theorem resend_tidies (accepted : Bool) (timer : Timer) : Tidies (Mqtt.resend platform accepted timer) := by
  intro m tidy
  rw [Mqtt.resend, run_get_bind]
  cases inflight : m.mqtt.inflight with
  | none => exact tidy
  | some message =>
      obtain ⟨proper, fits⟩ := tidy.inflight message inflight
      simp only
      split
      · exact transmit_tidies platform (ack_sendable proper.1 (.inr (.inr (.inl rfl)))) _ _ m tidy
      · refine transmit_tidies platform ?_ _ _ m tidy
        rintro _ ⟨⟩
        exact ⟨proper, fits⟩

theorem mqttConnect_tidies (clientId : Bytes) (cleansession : Bool) :
    Tidies (Mqtt.connect platform clientId cleansession) := by
  refine Keeps.bind Keeps.get fun _ => Keeps.bind (startTimer_tidies _) fun _ => ?_
  refine Keeps.bind Keeps.get fun _ => Keeps.ite (fun _ => Keeps.pure _) fun _ => ?_
  refine Keeps.bind (mqttUpdate_tidies (fun _ => rfl) fun _ _ member => member) fun _ => ?_
  refine Keeps.ite (fun _ => Keeps.pure _) fun fits => Keeps.bind (sendPacket_tidies ?_ _) fun _ => ?_
  · rintro _ ⟨⟩
    exact ⟨show 60 < 65536 by decide, by simpa using fits⟩
  refine Keeps.ite (fun _ => Keeps.pure _) fun _ => Keeps.bind (waitfor_keeps (cycle_tidies platform) _ _) fun _ => ?_
  refine Keeps.bind (Keeps.ite (fun _ => ?_) fun _ => Keeps.pure _) fun _ => ?_
  · refine Keeps.bind Keeps.get fun _ => Keeps.bind (ofExcept_keeps _) fun _ => ?_
    exact Keeps.bind (other_tidies (fun _ => rfl) fun _ => rfl) fun _ => Keeps.pure _
  refine Keeps.bind (resend_tidies platform _ _) fun _ => Keeps.bind (onlyIf_tidies ?_) fun _ => Keeps.pure _
  exact mqttUpdate_tidies (fun _ => rfl) fun _ _ member => member

theorem request_tidies (packet : Nat → Packet) (proper : ∀ id, id < 65536 → (packet id).Proper) (type : PacketType)
    {answer : M Bool} (answers : Tidies answer) : Tidies (Mqtt.request platform packet type answer) := by
  refine Keeps.bind Keeps.get fun _ => Keeps.bind (startTimer_tidies _) fun _ => ?_
  refine Keeps.bind Keeps.get fun _ => Keeps.bind (Keeps.ite (fun _ => Keeps.pure _) fun _ => ?_) fun _ => ?_
  · refine bind_tidies getNext_tidies fun id small => Keeps.ite (fun _ => Keeps.pure _) fun fits => ?_
    refine Keeps.bind (sendPacket_tidies ?_ _) fun _ => ?_
    · rintro _ ⟨⟩
      exact ⟨proper id small, by simpa using fits⟩
    refine Keeps.ite (fun _ => Keeps.pure _) fun _ => Keeps.bind (waitfor_keeps (cycle_tidies platform) _ _) fun _ => ?_
    exact Keeps.ite (fun _ => answers) fun _ => Keeps.pure _
  · exact Keeps.bind (onlyIf_tidies cleanSession_tidies) fun _ => Keeps.pure _

end Commands

/-! ## The client -/

section Client

theorem client_tidies (change : MqttTls → MqttTls) : Tidies (MqttTls.update change) :=
  other_tidies (fun _ => rfl) fun _ => rfl

theorem impl_tidies (change : Impl → Impl) : Tidies (Client.update change) :=
  other_tidies (fun _ => rfl) fun _ => rfl

theorem onError_tidies (error : Bytes) : Tidies (MqttTls.onError error) :=
  Keeps.bind Keeps.get fun _ => Keeps.bind (client_tidies _) fun _ => Keeps.pure _

theorem orError_tidies {action : M Bool} (acts : Tidies action) (error : Bytes) :
    Tidies (do if ← action then return true else MqttTls.onError error) :=
  Keeps.bind acts fun _ => Keeps.ite (fun _ => Keeps.pure _) fun _ => onError_tidies error

theorem reportLastError_tidies : Tidies Client.reportLastError := Keeps.bind Keeps.get fun _ => notify_tidies _

theorem reportClientError_tidies : Tidies Client.reportClientError := Keeps.bind Keeps.get fun _ => notify_tidies _

theorem isConnected_tidies : Tidies MqttTls.isConnected :=
  isConnected_keeps mqttDisconnect_tidies close_tidies (client_tidies _)

theorem disconnect_tidies : Tidies MqttTls.disconnect :=
  disconnect_keeps mqttDisconnect_tidies close_tidies (client_tidies _)

variable (platform : Platform)

theorem authenticate_tidies : Tidies (Client.authenticate platform) := by
  refine (authenticate_authenticates platform).mono fun {before after} authenticates tidy => ?_
  obtain ⟨events, grows, all⟩ := authenticates.log
  refine ⟨by rw [authenticates.mqtt]; exact tidy.packetid, by rw [authenticates.mqtt]; exact tidy.inflight,
    ?_⟩
  rw [grows]
  intro event member
  rcases List.mem_append.1 member with newer | older
  · have own := all event newer
    cases event with
    | sent packet => cases own
    | resent message => cases own
    | _ => exact nofun
  · exact tidy.log event older

theorem connectSession_tidies (cleanSession : Bool) : Tidies (MqttTls.connectSession platform cleanSession) := by
  refine Keeps.bind isConnected_tidies fun _ => Keeps.ite (fun _ => Keeps.pure _) fun _ => ?_
  refine Keeps.bind tlsConnect_tidies fun _ => Keeps.ite (fun _ => ?_) fun _ => ?_
  · exact Keeps.bind Keeps.get fun _ => onError_tidies _
  · refine Keeps.bind ?_ fun _ => Keeps.ite (fun _ => ?_) fun _ => Keeps.bind close_tidies fun _ => Keeps.pure _
    · exact Keeps.bind Keeps.get fun _ => orError_tidies (mqttConnect_tidies platform _ _) _
    · exact Keeps.bind (client_tidies _) fun _ => Keeps.pure _

theorem connect_tidies : Tidies (MqttTls.connect platform) := by
  refine Keeps.bind (connectSession_tidies platform true) fun _ => Keeps.ite (fun _ => Keeps.pure _) fun _ => ?_
  refine Keeps.bind Keeps.get fun m => Keeps.ite (fun _ => Keeps.pure _) fun _ => ?_
  exact Keeps.bind disconnect_tidies fun _ => connectSession_tidies platform false

theorem subscribe_tidies (topic : Bytes) : Tidies (MqttTls.subscribe platform topic) := by
  refine Keeps.bind Keeps.get fun _ => orError_tidies
    (request_tidies platform (Packet.subscribe · _ _) (fun _ small => small) _ ?_) _
  exact Keeps.bind Keeps.get fun _ => Keeps.bind (ofExcept_keeps _) fun _ => Keeps.pure _

theorem unsubscribe_tidies (topic : Bytes) : Tidies (MqttTls.unsubscribe platform topic) :=
  orError_tidies (request_tidies platform (Packet.unsubscribe · _) (fun _ small => small) _ (Keeps.pure _)) _

theorem publish_tidies (topic message : Bytes) : Tidies (MqttTls.publish platform topic message) :=
  Keeps.bind Keeps.get fun _ => orError_tidies (mqttPublish_tidies platform _ _ _) _

theorem runMessageLoop_tidies (timeout : Nat) : Tidies (MqttTls.runMessageLoop platform timeout) := by
  refine Keeps.bind (Keeps.bind (startTimer_tidies _) fun _ => yieldLoop_keeps (cycle_tidies platform) _) fun _ => ?_
  refine Keeps.ite (fun _ => Keeps.pure _) fun _ => Keeps.bind Keeps.get fun _ => ?_
  exact Keeps.ite (fun _ => Keeps.pure _) fun _ => onError_tidies _

theorem restore_tidies (topics : List Bytes) : Tidies (Client.restore platform topics) := by
  induction topics with
  | nil => exact Keeps.pure _
  | cons topic rest continued =>
      refine Keeps.bind (subscribe_tidies platform topic) fun _ => Keeps.ite (fun _ => continued) fun _ => ?_
      exact Keeps.bind reportClientError_tidies fun _ => Keeps.pure _

theorem reconnect_tidies : Tidies (Client.reconnect platform) := by
  refine Keeps.bind (authenticate_tidies platform) fun _ => Keeps.ite (fun _ => Keeps.pure _) fun _ => ?_
  refine Keeps.bind (Keeps.bind Keeps.get fun _ => connectSession_tidies platform _) fun _ => ?_
  refine Keeps.ite (fun _ => Keeps.pure _) fun _ => Keeps.bind Keeps.get fun _ => ?_
  exact Keeps.ite (fun _ => Keeps.pure _) fun _ => Keeps.bind Keeps.get fun _ => restore_tidies platform _

theorem reportConnected_tidies : Tidies Client.reportConnected :=
  Keeps.bind (impl_tidies _) fun _ => Keeps.bind (notify_tidies _) fun _ => Keeps.pure _

theorem checkConnection_tidies : Tidies (Client.checkConnection platform) := by
  refine Keeps.bind isConnected_tidies fun _ => ?_
  refine Keeps.ite (fun _ => Keeps.bind Keeps.get fun _ => Keeps.pure _) fun _ => Keeps.bind Keeps.get fun _ => ?_
  refine Keeps.bind (onlyIf_tidies ?_) fun _ => Keeps.bind (reconnect_tidies platform) fun _ => ?_
  · exact Keeps.bind (impl_tidies _) fun _ => Keeps.bind Keeps.get fun _ => notify_tidies _
  refine Keeps.ite (fun _ => reportConnected_tidies) fun _ => ?_
  exact Keeps.bind reportLastError_tidies fun _ => Keeps.bind Keeps.get fun _ => Keeps.pure _

theorem checkState_tidies : Tidies (Client.checkState platform) := by
  refine Keeps.bind Keeps.get fun m => ?_
  cases m.impl.state with
  | noSession => exact Keeps.bind (notify_tidies _) fun _ => Keeps.pure _
  | initial =>
      refine Keeps.bind (Keeps.bind (authenticate_tidies platform) fun _ =>
        Keeps.ite (fun _ => connect_tidies platform) fun _ => Keeps.pure _) fun _ => ?_
      refine Keeps.ite (fun _ => reportConnected_tidies) fun _ => ?_
      exact Keeps.bind reportLastError_tidies fun _ => Keeps.pure _
  | connected => exact checkConnection_tidies platform
  | disconnected => exact checkConnection_tidies platform

theorem command_tidies {action : M Bool} (acts : Tidies action) (success : Impl → Impl) :
    Tidies (Client.command platform action success) := by
  refine Keeps.bind (checkState_tidies platform) fun _ => Keeps.ite (fun _ => Keeps.pure _) fun _ => ?_
  refine Keeps.bind acts fun _ => Keeps.ite (fun _ => ?_) fun _ => ?_
  · exact Keeps.bind (impl_tidies _) fun _ => Keeps.pure _
  · exact Keeps.bind reportClientError_tidies fun _ => Keeps.pure _

theorem startSession_tidies : Tidies (Client.startSession platform) := by
  refine Keeps.bind Keeps.get fun _ => Keeps.ite (fun _ => ?_) fun _ => Keeps.pure _
  refine Keeps.bind Keeps.get fun _ => Keeps.bind (ofExcept_keeps _) fun _ => Keeps.bind ?_ fun _ => ?_
  · refine Keeps.bind (impl_tidies _) fun _ => ?_
    refine Keeps.bind (other_tidies (fun _ => rfl) fun _ => rfl) fun _ => ?_
    refine Keeps.bind (onlyIf_tidies (mqttUpdate_tidies (fun _ => rfl) fun _ _ member => member)) fun _ => ?_
    exact Keeps.bind (client_tidies _) fun _ => impl_tidies _
  · exact Keeps.bind (checkState_tidies platform) fun _ => Keeps.pure _

theorem sendPrivateMessage_tidies (userIdTo payload : Bytes) (encrypt : Bool) :
    Tidies (Client.sendPrivateMessage platform userIdTo payload encrypt) := by
  refine Keeps.tryCatch ?_ fun fault => ?_
  · refine Keeps.bind (Keeps.ite (fun _ => ?_) fun _ => Keeps.pure _) fun _ => ?_
    · exact reply_tidies (fun _ => rfl) fun _ => rfl
    refine Keeps.bind Keeps.get fun _ => Keeps.bind (ofExcept_keeps _) fun _ => ?_
    exact command_tidies platform (publish_tidies platform _ _) _
  · cases fault with
    | iot what => exact Keeps.bind (notify_tidies _) fun _ => Keeps.pure _
    | _ => exact Keeps.throw _

theorem perform_tidies (call : Client.Call) : Tidies (Client.perform platform call) := by
  cases call with
  | configure conf => exact Keeps.bind (impl_tidies _) fun _ => Keeps.pure _
  | startSession => exact Keeps.bind (startSession_tidies platform) fun _ => Keeps.pure _
  | endSession =>
      refine Keeps.bind (Keeps.bind Keeps.get fun _ => Keeps.ite (fun _ => Keeps.pure _) fun _ => ?_) fun _ => Keeps.pure _
      exact Keeps.bind disconnect_tidies fun _ => impl_tidies _
  | isConnected => exact isConnected_tidies
  | subscribe topic => exact command_tidies platform (subscribe_tidies platform topic) _
  | unsubscribe topic => exact command_tidies platform (unsubscribe_tidies platform topic) _
  | publish topic payload => exact command_tidies platform (publish_tidies platform topic payload) _
  | listenForPrivateMessages =>
      exact Keeps.bind Keeps.get fun _ => command_tidies platform (subscribe_tidies platform _) _
  | sendPrivateMessage userIdTo payload encrypt => exact sendPrivateMessage_tidies platform userIdTo payload encrypt
  | runMessageLoop timeout => exact command_tidies platform (runMessageLoop_tidies platform timeout) _

theorem run_tidy (calls : List Client.Call) {m : Machine} (tidy : Tidy m) : Tidy (Client.run platform calls m) :=
  calls.foldlRecOn _ tidy fun m tidy call _ => perform_tidies platform call m tidy

end Client

/-- Whatever calls are made and whatever happens outside, a broker that reads what the client has written to the
connection reads the packets that the client has sent, in order. -/
theorem run_read_back (platform : Platform) (readbuf : Bytes) (replies : Replies) (calls : List Client.Call) :
    brokerReads (wire (sentPackets (Client.run platform calls (Client.fresh readbuf replies)).log)) =
      (sentPackets (Client.run platform calls (Client.fresh readbuf replies)).log).map fun packet => .ok (some packet) := by
  have fresh : Tidy (Client.fresh readbuf replies) := ⟨show 0 < 65536 by decide, nofun, nofun⟩
  have tidy := run_tidy platform calls fresh
  refine readStream_wire (fun packet member => ?_) (Nat.le_refl _)
  obtain ⟨event, among, is⟩ := List.mem_filterMap.1 (List.mem_reverse.1 member)
  exact tidy.log event (List.takeWhile_subset _ among) packet is

def publishCalls : List Client.Call :=
  [.configure (sampleConf true false), .startSession, .publish (bytes "t") (bytes "p")]

def publishReplies : Replies :=
  sampleReplies [3, 3, 3] [none, none] [.sent false, .sent false] [sampleConnack 0]

theorem run_read_back_published :
    (sentPackets (Client.run (plainPlatform .signed) publishCalls (Client.fresh [] publishReplies)).log).length = 2 ∧
      brokerReads (wire (sentPackets (Client.run (plainPlatform .signed) publishCalls
        (Client.fresh [] publishReplies)).log)) =
        (sentPackets (Client.run (plainPlatform .signed) publishCalls (Client.fresh [] publishReplies)).log).map
          fun packet => .ok (some packet) :=
  ⟨by decide +kernel, run_read_back _ _ _ _⟩

end IotClient
