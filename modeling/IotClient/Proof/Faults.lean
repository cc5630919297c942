import IotClient.Proof.Delivery
import IotClient.Proof.Steady
import IotClient.Spec.Commands

namespace IotClient
open Logic

theorem ofExcept_throws {α : Type} {condition : Fault → Prop} {result : Except Fault α}
    (raises : Raises condition result) : Throws condition (M.ofExcept result) := by
  cases result with
  | ok value => exact Throws.pure _
  | error fault => exact Throws.throw (raises fault rfl)

theorem onlyIf_throws {condition : Fault → Prop} {test : Bool} {action : M Unit} (throws : Throws condition action) :
    Throws condition (onlyIf test action) :=
  Throws.ite throws (Throws.pure _)

/-! ## Deserialisers -/

theorem readInt_raises (input : Bytes) : Raises Fault.foreign (readInt input) := by
  fun_cases readInt input with
  | case1 => exact raises_ok _
  | case2 => exact raises_error trivial

theorem deserializePublish_raises (readbuf : Bytes) : Raises Fault.foreign (deserializePublish readbuf) := by
  unfold deserializePublish
  cases readbuf with
  | nil => exact raises_error trivial
  | cons header rest =>
      dsimp only
      split
      · exact raises_ok _
      · split
        · exact raises_ok _
        · refine (readInt_raises _).bind fun _ _ => ?_
          split
          · exact raises_ok _
          · split
            · exact raises_ok _
            · exact (readInt_raises _).bind fun _ _ => raises_ok _

theorem deserializeAck_raises (readbuf : Bytes) : Raises Fault.foreign (deserializeAck readbuf) := by
  unfold deserializeAck
  cases readbuf with
  | nil => exact raises_error trivial
  | cons header rest =>
      dsimp only
      split
      · exact raises_ok _
      · exact (readInt_raises _).bind fun _ _ => raises_ok _

theorem deserializeConnack_raises (readbuf : Bytes) : Raises Fault.foreign (deserializeConnack readbuf) := by
  unfold deserializeConnack
  cases readbuf with
  | nil => exact raises_error trivial
  | cons header rest =>
      dsimp only
      split
      · exact raises_ok _
      · split
        · exact raises_ok _
        · split
          · exact raises_ok _
          · exact raises_error trivial

theorem deserializeSuback_raises (sign : CharSign) (readbuf : Bytes) :
    Raises Fault.foreign (deserializeSuback sign readbuf) := by
  unfold deserializeSuback
  cases readbuf with
  | nil => exact raises_error trivial
  | cons header rest =>
      dsimp only
      split
      · exact raises_ok _
      · split
        · exact raises_ok _
        · split
          · exact raises_ok _
          · exact raises_ok _
          · exact raises_error trivial

theorem privateMessage_raises_other (sok : Sok) (sign : CharSign) (sokRecvKey text : Bytes) :
    Raises (fun fault => ∀ what, fault ≠ .json what) (privateMessage sok sign sokRecvKey text) := by
  unfold privateMessage
  cases readPrivateMessage sok sign sokRecvKey text with
  | ok value => exact raises_ok _
  | error fault =>
      cases fault with
      | json what => exact raises_error (by simp [jsonError])
      | _ => exact raises_error (by simp)

theorem onMessageArrived_raises (sok : Sok) (sign : CharSign) (receiver : Receiver) (message : Message) :
    Raises Fault.foreign (onMessageArrived sok sign receiver message) := by
  unfold onMessageArrived
  split
  · exact raises_error trivial
  · unfold classifyMessage
    split
    · cases read : privateMessage sok sign receiver.sokRecvKey message.payload with
      | ok value => exact raises_ok _
      | error fault =>
          cases fault with
          | json what => exact absurd rfl (privateMessage_raises_other _ _ _ _ _ read what)
          | iot what => exact raises_ok _
          | _ => exact raises_error trivial
    · exact raises_ok _

/-! ## The MQTT client -/

section Mqtt

theorem startTimer_throws {condition : Fault → Prop} (milliseconds : Nat) :
    Throws condition (startTimer milliseconds) :=
  Throws.bind (Throws.modify _) fun _ => Throws.modifyGet _

theorem close_throws {condition : Fault → Prop} : Throws condition TlsConnection.close := by
  refine Throws.bind Throws.get fun m => Throws.ite ?_ (Throws.pure _)
  exact Throws.bind (Throws.modify _) fun _ => Throws.modify _

theorem lose_throws {condition : Fault → Prop} (error : Bytes) : Throws condition (TlsConnection.lose error) :=
  Throws.bind (Throws.modify _) fun _ => close_throws

theorem sendPacket_throws {condition : Fault → Prop} (event : Event) (timer : Timer) :
    Throws condition (Mqtt.sendPacket event timer) := by
  refine Throws.ite (Throws.pure _) (Throws.bind Throws.get fun m => Throws.ite ?_ ?_)
  · exact Throws.bind (Throws.modify _) fun _ => Throws.pure _
  · refine Throws.bind (Throws.modifyGet _) fun reply => ?_
    cases reply with
    | sent expires => exact Throws.bind (Throws.modify _) fun _ => Throws.pure _
    | expired => exact Throws.pure _
    | failed error => exact Throws.bind (lose_throws error) fun _ => Throws.pure _

theorem keepalive_throws {condition : Fault → Prop} : Throws condition Mqtt.keepalive := by
  refine Throws.bind Throws.get fun m => Throws.ite (Throws.pure _) (Throws.bind (Throws.modifyGet _) fun due => ?_)
  refine Throws.ite (Throws.bind (startTimer_throws _) fun timer => ?_) (Throws.pure _)
  exact Throws.bind (sendPacket_throws _ _) fun _ => onlyIf_throws (Throws.modify _)

theorem finish_throws {condition : Fault → Prop} (type : PacketType) (timer : Timer) :
    Throws condition (Mqtt.finish type timer) :=
  Throws.bind keepalive_throws fun _ => Throws.pure _

theorem readPacket_throws {condition : Fault → Prop} : Throws condition Mqtt.readPacket := by
  refine Throws.bind Throws.get fun m => Throws.ite ?_ ?_
  · exact Throws.bind (Throws.modify _) fun _ => Throws.pure _
  · refine Throws.bind (Throws.modifyGet _) fun reply => Throws.bind ?_ fun _ => Throws.bind ?_ fun _ => Throws.pure _
    · cases reply.closed with
      | none => exact Throws.pure _
      | some error => exact lose_throws error
    · cases reply.reading with
      | packet frame => exact Throws.bind (Throws.modify _) fun _ => Throws.modify _
      | failure => exact Throws.pure _
      | bufferOverflow => exact Throws.pure _

variable (platform : Platform)

theorem deliverMessage_throws (message : Message) : Throws Fault.foreign (Mqtt.deliverMessage platform message) := by
  refine Throws.bind Throws.get fun m => ?_
  exact Throws.bind (ofExcept_throws (onMessageArrived_raises _ _ _ _)) fun _ => Throws.modify _

theorem arrive_throws (message : Message) : Throws Fault.foreign (Mqtt.arrive platform message) := by
  apply Throws.ite
  · exact deliverMessage_throws platform message
  · refine Throws.bind Throws.get fun m => Throws.ite ?_ (Throws.pure _)
    cases useQoS2msgid message.id m.mqtt.incomingQoS2messages with
    | none => exact Throws.pure _
    | some incoming => exact Throws.bind (Throws.modify _) fun _ => deliverMessage_throws platform message

theorem cyclePublish_throws (timer : Timer) : Throws Fault.foreign (Mqtt.cyclePublish platform timer) := by
  have answers (event : Event) : Throws Fault.foreign (do
      let outcome ← Mqtt.sendPacket event timer
      if outcome.1 then Mqtt.finish .publish outcome.2 else return (.failure, outcome.2)) :=
    Throws.bind (sendPacket_throws _ _) fun _ => Throws.ite (finish_throws _ _) (Throws.pure _)
  refine Throws.bind Throws.get fun m => ?_
  refine Throws.bind (ofExcept_throws (deserializePublish_raises _)) fun deserialized => ?_
  cases deserialized with
  | none => exact Throws.pure _
  | some message =>
      refine Throws.bind (arrive_throws platform message) fun _ => ?_
      cases message.qos with
      | qos0 => exact finish_throws _ _
      | qos1 => exact answers _
      | qos2 => exact answers _
      | qos3 => exact Throws.pure _

theorem idOr_throws {condition : Fault → Prop} (set : Option Nat) : Throws condition (Mqtt.idOr set) := by
  cases set with
  | some id => exact Throws.pure _
  | none => exact Throws.bind (Throws.modifyGet _) fun _ => Throws.pure _

theorem cycleAck_throws (type : PacketType) (timer : Timer) : Throws Fault.foreign (Mqtt.cycleAck type timer) := by
  refine Throws.bind Throws.get fun m => ?_
  refine Throws.bind (ofExcept_throws (deserializeAck_raises _)) fun deserialized => ?_
  refine Throws.ite (Throws.pure _) (Throws.bind (idOr_throws _) fun id => ?_)
  refine Throws.bind (sendPacket_throws _ _) fun outcome => Throws.ite (Throws.pure _) ?_
  exact Throws.bind (onlyIf_throws (Throws.modify _)) fun _ => finish_throws _ _

theorem dispatch_throws (timer : Timer) (type : PacketType) :
    Throws Fault.foreign (Mqtt.dispatch platform timer type) := by
  cases type with
  | publish => exact cyclePublish_throws platform timer
  | pubrec => exact cycleAck_throws .pubrec timer
  | pubrel => exact cycleAck_throws .pubrel timer
  | pingresp => exact Throws.bind (Throws.modify _) fun _ => finish_throws _ _
  | _ => exact finish_throws _ _

theorem cycle_throws (timer : Timer) : Throws Fault.foreign (Mqtt.cycle platform timer) := by
  refine Throws.bind readPacket_throws fun reading => ?_
  cases reading with
  | failure => exact Throws.bind keepalive_throws fun _ => Throws.pure _
  | bufferOverflow => exact Throws.bind keepalive_throws fun _ => Throws.pure _
  | packet frame => exact dispatch_throws platform timer _

theorem waitfor_throws (type : PacketType) (timer : Timer) :
    Throws Fault.foreign (Mqtt.waitfor platform type timer) := by
  induction timer with
  | zero => exact Throws.pure _
  | succ ticks ih =>
      refine Throws.bind (cycle_throws platform _) fun outcome => Throws.ite (Throws.pure _) ?_
      exact Throws.ite (Throws.pure _) ih

theorem yield_throws (timeout : Nat) : Throws Fault.foreign (Mqtt.yield platform timeout) := by
  refine Throws.bind (startTimer_throws _) fun timer => ?_
  induction timer with
  | zero => exact Throws.pure _
  | succ ticks ih =>
      refine Throws.bind (cycle_throws platform _) fun outcome => ?_
      obtain ⟨result, left⟩ := outcome
      cases result with
      | packet type => exact Throws.ite (Throws.pure _) ih
      | failure => exact Throws.pure _
      | bufferOverflow => exact Throws.pure _

theorem transmit_throws (event : Event) (timer : Timer) (qos : QoS) :
    Throws Fault.foreign (Mqtt.transmit platform event timer qos) := by
  refine Throws.bind (sendPacket_throws _ _) fun outcome => Throws.bind ?_ fun rc => ?_
  · refine Throws.ite (Throws.pure _) (Throws.ite ?_ (Throws.pure _))
    refine Throws.bind (waitfor_throws platform _ _) fun waited => Throws.ite ?_ (Throws.pure _)
    refine Throws.bind Throws.get fun m => ?_
    refine Throws.bind (ofExcept_throws (deserializeAck_raises _)) fun deserialized => ?_
    refine Throws.ite (Throws.pure _) (Throws.bind (idOr_throws _) fun id => ?_)
    exact Throws.bind (Throws.modify _) fun _ => Throws.pure _
  · exact Throws.bind (onlyIf_throws (Throws.modify _)) fun _ => Throws.pure _

theorem getNext_throws {condition : Fault → Prop} : Throws condition Mqtt.getNext :=
  Throws.bind (Throws.modify _) fun _ => Throws.bind Throws.get fun _ => Throws.pure _

theorem mqttPublish_throws (topicName payload : Bytes) (qos : QoS) :
    Throws Fault.foreign (Mqtt.publish platform topicName payload qos) := by
  refine Throws.bind Throws.get fun m => Throws.bind (startTimer_throws _) fun timer => ?_
  refine Throws.bind Throws.get fun m => Throws.ite (Throws.pure _) ?_
  refine Throws.bind (Throws.ite getNext_throws (Throws.pure _)) fun id => Throws.ite (Throws.pure _) ?_
  refine Throws.bind Throws.get fun m => Throws.bind (onlyIf_throws (Throws.modify _)) fun _ => ?_
  exact transmit_throws platform _ _ _

theorem mqttConnect_throws (clientId : Bytes) (cleansession : Bool) :
    Throws Fault.foreign (Mqtt.connect platform clientId cleansession) := by
  refine Throws.bind Throws.get fun m => Throws.bind (startTimer_throws _) fun timer => ?_
  refine Throws.bind Throws.get fun m => Throws.ite (Throws.pure _) ?_
  refine Throws.bind (Throws.modify _) fun _ => Throws.ite (Throws.pure _) ?_
  refine Throws.bind (sendPacket_throws _ _) fun outcome => Throws.ite (Throws.pure _) ?_
  refine Throws.bind (waitfor_throws platform _ _) fun waited => Throws.bind (Throws.ite ?_ (Throws.pure _)) fun accepted =>
    Throws.bind (Throws.bind Throws.get fun m => ?_) fun rc => ?_
  · refine Throws.bind Throws.get fun m => ?_
    refine Throws.bind (ofExcept_throws (deserializeConnack_raises _)) fun _ => ?_
    exact Throws.bind (Throws.modify _) fun _ => Throws.pure _
  · cases m.mqtt.inflight with
    | none => exact Throws.pure _
    | some message => exact Throws.ite (transmit_throws platform _ _ _) (transmit_throws platform _ _ _)
  · exact Throws.bind (onlyIf_throws (Throws.modify _)) fun _ => Throws.pure _

theorem request_throws (packet : Nat → Packet) (type : PacketType) {answer : M Bool}
    (throws : Throws Fault.foreign answer) : Throws Fault.foreign (Mqtt.request platform packet type answer) := by
  refine Throws.bind Throws.get fun m => Throws.bind (startTimer_throws _) fun timer => ?_
  refine Throws.bind Throws.get fun m => Throws.bind (Throws.ite (Throws.pure _) ?_) fun rc => ?_
  · refine Throws.bind getNext_throws fun id => Throws.ite (Throws.pure _) ?_
    refine Throws.bind (sendPacket_throws _ _) fun outcome => Throws.ite (Throws.pure _) ?_
    exact Throws.bind (waitfor_throws platform _ _) fun waited => Throws.ite throws (Throws.pure _)
  · exact Throws.bind (onlyIf_throws (Throws.modify _)) fun _ => Throws.pure _

theorem mqttDisconnect_throws {condition : Fault → Prop} : Throws condition Mqtt.disconnect :=
  Throws.bind Throws.get fun _ => Throws.bind (startTimer_throws _) fun _ =>
    Throws.bind (sendPacket_throws _ _) fun _ => Throws.modify _

end Mqtt

/-! ## The MQTT client over TLS -/

section MqttTls

theorem onError_throws {condition : Fault → Prop} (error : Bytes) : Throws condition (MqttTls.onError error) :=
  Throws.bind Throws.get fun _ => Throws.bind (Throws.modify _) fun _ => Throws.pure _

theorem isConnected_throws {condition : Fault → Prop} : Throws condition MqttTls.isConnected := by
  refine Throws.bind Throws.get fun m => Throws.ite ?_ (Throws.ite ?_ (Throws.pure _))
  · refine Throws.bind (onlyIf_throws ?_) fun _ => Throws.pure _
    exact Throws.bind mqttDisconnect_throws fun _ => Throws.modify _
  · exact Throws.bind close_throws fun _ => Throws.bind (Throws.modify _) fun _ => Throws.pure _

theorem clientDisconnect_throws {condition : Fault → Prop} : Throws condition MqttTls.disconnect :=
  Throws.bind Throws.get fun _ => Throws.bind (onlyIf_throws mqttDisconnect_throws) fun _ =>
    Throws.bind close_throws fun _ => Throws.modify _

theorem tlsConnect_throws {condition : Fault → Prop} : Throws condition TlsConnection.connect := by
  refine Throws.bind Throws.get fun m => Throws.ite (Throws.pure _) (Throws.bind (Throws.modifyGet _) fun reply => ?_)
  cases reply with
  | some error => exact Throws.bind (Throws.modify _) fun _ => Throws.pure _
  | none => exact Throws.bind (Throws.modify _) fun _ => Throws.bind (Throws.modify _) fun _ => Throws.pure _

variable (platform : Platform)

theorem connectSession_throws (cleanSession : Bool) :
    Throws Fault.foreign (MqttTls.connectSession platform cleanSession) := by
  refine Throws.bind isConnected_throws fun _ => Throws.ite (Throws.pure _) ?_
  refine Throws.bind tlsConnect_throws fun _ => Throws.ite (Throws.bind Throws.get fun m => onError_throws _) ?_
  refine Throws.bind (Throws.bind Throws.get fun m => ?_) fun _ => Throws.ite ?_ ?_
  · refine Throws.bind (mqttConnect_throws platform _ _) fun _ => Throws.ite (Throws.pure _) (onError_throws _)
  · exact Throws.bind (Throws.modify _) fun _ => Throws.pure _
  · exact Throws.bind close_throws fun _ => Throws.pure _

theorem clientConnect_throws : Throws Fault.foreign (MqttTls.connect platform) := by
  refine Throws.bind (connectSession_throws platform true) fun _ => Throws.ite (Throws.pure _) ?_
  refine Throws.bind Throws.get fun m => Throws.ite (Throws.pure _) ?_
  exact Throws.bind clientDisconnect_throws fun _ => connectSession_throws platform false

theorem clientReconnect_throws : Throws Fault.foreign (MqttTls.reconnect platform) :=
  Throws.bind Throws.get fun _ => connectSession_throws platform _

theorem clientSubscribe_throws (topic : Bytes) : Throws Fault.foreign (MqttTls.subscribe platform topic) := by
  refine Throws.bind Throws.get fun m => ?_
  refine Throws.bind (request_throws platform _ _ ?_) fun _ => Throws.ite (Throws.pure _) (onError_throws _)
  refine Throws.bind Throws.get fun m => ?_
  exact Throws.bind (ofExcept_throws (deserializeSuback_raises _ _)) fun _ => Throws.pure _

theorem clientUnsubscribe_throws (topic : Bytes) : Throws Fault.foreign (MqttTls.unsubscribe platform topic) :=
  Throws.bind (request_throws platform _ _ (Throws.pure _)) fun _ => Throws.ite (Throws.pure _) (onError_throws _)

theorem clientPublish_throws (topic message : Bytes) :
    Throws Fault.foreign (MqttTls.publish platform topic message) :=
  Throws.bind Throws.get fun _ => Throws.bind (mqttPublish_throws platform _ _ _) fun _ =>
    Throws.ite (Throws.pure _) (onError_throws _)

theorem clientRunMessageLoop_throws (timeout : Nat) :
    Throws Fault.foreign (MqttTls.runMessageLoop platform timeout) :=
  Throws.bind (yield_throws platform _) fun _ => Throws.ite (Throws.pure _)
    (Throws.bind Throws.get fun _ => Throws.ite (Throws.pure _) (onError_throws _))

end MqttTls

/-! ## The client -/

section Client

variable (platform : Platform)

theorem mpinAuthenticate_throws (server : Bytes) (id : Identity) :
    Throws (fun fault => ∀ what, fault ≠ .json what) (MpinFull.authenticate platform server id) := by
  have anything : Throws (fun _ => True) (MpinFull.doAuth platform server id) := fun _ _ _ _ => trivial
  refine Throws.tryCatch anything fun fault _ => ?_
  cases fault with
  | json what => exact Throws.throw (by simp [jsonError])
  | _ => exact Throws.throw (by simp)

theorem authenticate_throws : Throws Fault.foreign (Client.authenticate platform) := by
  refine Throws.bind Throws.get fun m => Throws.ite (Throws.pure _) (Throws.tryCatch
    (Throws.bind (Throws.modify _) fun _ => Throws.bind Throws.get fun m =>
      Throws.bind (mpinAuthenticate_throws platform _ _) fun result => Throws.bind ?_ fun _ => ?_) ?_)
  · cases result.newIdentity with
    | none => exact Throws.pure _
    | some newIdentity => exact Throws.bind (Throws.modify _) fun _ => Throws.modify _
  · exact Throws.bind (Throws.modify _) fun _ => Throws.bind (Throws.modify _) fun _ => Throws.pure _
  · intro fault notJson
    cases fault with
    | json what => exact absurd rfl (notJson what)
    | iot what => exact Throws.bind (Throws.modify _) fun _ => Throws.pure _
    | _ => exact Throws.throw trivial

theorem reportLastError_throws {condition : Fault → Prop} : Throws condition Client.reportLastError :=
  Throws.bind Throws.get fun _ => Throws.modify _

theorem reportClientError_throws {condition : Fault → Prop} : Throws condition Client.reportClientError :=
  Throws.bind Throws.get fun _ => Throws.modify _

theorem restore_throws (topics : List Bytes) : Throws Fault.foreign (Client.restore platform topics) := by
  induction topics with
  | nil => exact Throws.pure _
  | cons topic rest ih =>
      refine Throws.bind (clientSubscribe_throws platform topic) fun _ => Throws.ite ih ?_
      exact Throws.bind reportClientError_throws fun _ => Throws.pure _

theorem reconnect_throws : Throws Fault.foreign (Client.reconnect platform) := by
  refine Throws.bind (authenticate_throws platform) fun _ => Throws.ite (Throws.pure _) ?_
  refine Throws.bind (clientReconnect_throws platform) fun _ => Throws.ite (Throws.pure _) ?_
  refine Throws.bind Throws.get fun m => Throws.ite (Throws.pure _) ?_
  exact Throws.bind Throws.get fun m => restore_throws platform _

theorem reportConnected_throws {condition : Fault → Prop} : Throws condition Client.reportConnected :=
  Throws.bind (Throws.modify _) fun _ => Throws.bind (Throws.modify _) fun _ => Throws.pure _

theorem checkConnection_throws : Throws Fault.foreign (Client.checkConnection platform) := by
  refine Throws.bind isConnected_throws fun _ => Throws.ite (Throws.bind Throws.get fun _ => Throws.pure _) ?_
  refine Throws.bind Throws.get fun m => Throws.bind (onlyIf_throws ?_) fun _ => ?_
  · exact Throws.bind (Throws.modify _) fun _ => Throws.bind Throws.get fun _ => Throws.modify _
  · refine Throws.bind (reconnect_throws platform) fun _ => Throws.ite reportConnected_throws ?_
    exact Throws.bind reportLastError_throws fun _ => Throws.bind Throws.get fun _ => Throws.pure _

theorem checkState_throws : Throws Fault.foreign (Client.checkState platform) := by
  refine Throws.bind Throws.get fun m => ?_
  cases m.impl.state with
  | noSession => exact Throws.bind (Throws.modify _) fun _ => Throws.pure _
  | initial =>
      refine Throws.bind (Throws.bind (authenticate_throws platform) fun _ => ?_) fun _ => ?_
      · exact Throws.ite (clientConnect_throws platform) (Throws.pure _)
      · refine Throws.ite reportConnected_throws ?_
        exact Throws.bind reportLastError_throws fun _ => Throws.pure _
  | connected => exact checkConnection_throws platform
  | disconnected => exact checkConnection_throws platform

theorem command_throws {action : M Bool} (throws : Throws Fault.foreign action) (success : Impl → Impl) :
    Throws Fault.foreign (Client.command platform action success) := by
  refine Throws.bind (checkState_throws platform) fun _ => Throws.ite (Throws.pure _) ?_
  refine Throws.bind throws fun _ => Throws.ite (Throws.bind (Throws.modify _) fun _ => Throws.pure _) ?_
  exact Throws.bind reportClientError_throws fun _ => Throws.pure _

theorem publish_throws (topic payload : Bytes) : Throws Fault.foreign (Client.publish platform topic payload) :=
  command_throws platform (clientPublish_throws platform topic payload) id

theorem getUserId_raises (sign : CharSign) (identity : Identity) :
    Raises Fault.foreign (identity.getUserId sign) := by
  have reads : Raises (fun fault => ParseFault fault ∨ fault.foreign)
      (do (← (← jsonParse sign identity.mpinId).index (bytes "userID")).toBytes) := by
    refine Raises.bind ?_ fun json _ => Raises.bind ?_ fun element _ => ?_
    · refine (jsonParse_raises sign identity.mpinId).mono ?_
      rintro fault (parseFault | ⟨word, rfl, _⟩ | ⟨rfl, _⟩)
      · exact .inl parseFault
      · exact .inr trivial
      · exact .inr trivial
    · exact (index_raises _ _).mono fun _ => .inl
    · exact (toBytes_raises _).mono fun _ => .inl
  intro fault raised
  unfold Identity.getUserId at raised
  split at raised
  · cases raised
  · rename_i notJson
    rcases reads fault raised with parseFault | foreign
    · cases fault with
      | json what => exact absurd raised (notJson what)
      | _ => exact parseFault.elim
    · exact foreign

theorem prepare_throws {condition : Fault → Prop} {conf : Config} {userId : Bytes} :
    Throws condition (Client.prepare conf userId) := by
  refine Throws.bind (Throws.modify _) fun _ => Throws.bind (Throws.modify _) fun _ => ?_
  refine Throws.bind (onlyIf_throws (Throws.modify _)) fun _ => Throws.bind (Throws.modify _) fun _ => ?_
  exact Throws.modify _

theorem writeChars_raises (value : Bytes) : Raises (· = .outOfRange) (writeChars value) := by
  fun_induction writeChars value with
  | case1 | case3 => exact raises_ok _
  | case2 => exact raises_error rfl
  | case4 _ ih | case5 _ _ _ ih | case6 _ _ _ _ ih => exact ih.map

theorem writeString_raises (value : Bytes) : Raises (· = .outOfRange) (writeString value) :=
  (writeChars_raises value).bind fun _ _ => raises_ok _

theorem jsonToString_raises (double : Bytes → Bytes) (element : Json) :
    Raises (· = .outOfRange) (jsonToString double element) := by
  refine (writeElement.mutual_induct (fun depth element => Raises (· = .outOfRange) (writeElement double depth element))
    (fun depth members => Raises (· = .outOfRange) (writeMembers double depth members))
    (fun depth elements => Raises (· = .outOfRange) (writeElements double depth elements))
    ?_ ?_ ?_ ?_ ?_ ?_ ?_ ?_ ?_ ?_ ?_ ?_).1 0 element
  · intro depth
    exact raises_ok _
  · intro depth value
    exact raises_ok _
  · intro depth text
    exact raises_ok _
  · intro depth value
    exact writeString_raises value
  · intro depth elements empty
    rw [writeElement, if_pos empty]
    exact raises_ok _
  · intro depth elements nonempty raises
    rw [writeElement, if_neg nonempty]
    exact raises.bind fun _ _ => raises_ok _
  · intro depth members empty
    rw [writeElement, if_pos empty]
    exact raises_ok _
  · intro depth members nonempty raises
    rw [writeElement, if_neg nonempty]
    exact raises.bind fun _ _ => raises_ok _
  · intro depth
    exact raises_ok _
  · intro depth element rest first others
    rw [writeElements]
    exact first.bind fun _ _ => others.bind fun _ _ => raises_ok _
  · intro depth
    exact raises_ok _
  · intro depth name element rest first others
    rw [writeMembers]
    exact (writeString_raises name).bind fun _ _ => first.bind fun _ _ => others.bind fun _ _ => raises_ok _

theorem privateMessageObject_raises (sok : Sok) (random : Option Iv)
    (userId sokSendKey userIdTo payload : Bytes) (encrypt : Bool) :
    Raises (fun fault => ∃ what, fault = .iot what)
      (privateMessageObject sok random userId sokSendKey userIdTo payload encrypt) := by
  unfold privateMessageObject
  split
  · refine Raises.bind ?_ fun _ _ => raises_ok _
    unfold sokEncrypt
    split
    · exact raises_error ⟨_, rfl⟩
    · split
      · exact raises_error ⟨_, rfl⟩
      · split
        · exact raises_error ⟨_, rfl⟩
        · exact raises_ok _
  · exact raises_ok _

theorem serializePrivateMessage_raises (sok : Sok) (random : Option Iv)
    (userId sokSendKey userIdTo payload : Bytes) (encrypt : Bool) :
    Raises (fun fault => (∃ what, fault = .iot what) ∨ fault.foreign)
      (serializePrivateMessage sok random userId sokSendKey userIdTo payload encrypt) := by
  refine Raises.bind ((privateMessageObject_raises _ _ _ _ _ _ _).mono fun _ => .inl) fun members _ => ?_
  refine (jsonToString_raises _ _).mono ?_
  rintro fault rfl
  exact .inr trivial

/-- No exception of the library leaves a call. -/
theorem perform_throws (call : Client.Call) : Throws Fault.foreign (Client.perform platform call) := by
  cases call with
  | configure conf => exact Throws.bind (Throws.modify _) fun _ => Throws.pure _
  | startSession =>
      refine Throws.bind (Throws.bind Throws.get fun m => Throws.ite ?_ (Throws.pure _)) fun _ => Throws.pure _
      refine Throws.bind Throws.get fun m => ?_
      refine Throws.bind (ofExcept_throws (getUserId_raises _ _)) fun userId => ?_
      exact Throws.bind prepare_throws fun _ => Throws.bind (checkState_throws platform) fun _ => Throws.pure _
  | endSession =>
      refine Throws.bind (Throws.bind Throws.get fun m => Throws.ite (Throws.pure _) ?_) fun _ => Throws.pure _
      exact Throws.bind clientDisconnect_throws fun _ => Throws.modify _
  | isConnected => exact isConnected_throws
  | subscribe topic => exact command_throws platform (clientSubscribe_throws platform topic) _
  | unsubscribe topic => exact command_throws platform (clientUnsubscribe_throws platform topic) _
  | publish topic payload => exact publish_throws platform topic payload
  | listenForPrivateMessages =>
      exact Throws.bind Throws.get fun m => command_throws platform (clientSubscribe_throws platform _) _
  | sendPrivateMessage userIdTo payload encrypt =>
      refine Throws.tryCatch (Throws.bind ?_ fun random => Throws.bind Throws.get fun m =>
        Throws.bind (ofExcept_throws (serializePrivateMessage_raises _ _ _ _ _ _ _)) fun text => ?_) ?_
      · exact Throws.ite (Throws.modifyGet _) (Throws.pure _)
      · exact (publish_throws platform _ _).mono fun fault => .inr
      · intro fault raised
        cases fault with
        | json what =>
            rcases raised with ⟨_, impossible⟩ | foreign
            · cases impossible
            · exact foreign.elim
        | iot what => exact Throws.bind (Throws.modify _) fun _ => Throws.pure _
        | _ => exact Throws.throw trivial
  | runMessageLoop timeout => exact command_throws platform (clientRunMessageLoop_throws platform timeout) id

end Client

end IotClient
