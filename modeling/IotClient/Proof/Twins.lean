import IotClient.Logic.Simulation
import IotClient.Proof.Connect
import IotClient.Proof.Digestion
import IotClient.Spec.Twins

namespace IotClient
open Logic

/-! ## Reading from two buffers -/

theorem deserializeConnack_stale (frame : Frame) (old older : Bytes) :
    deserializeConnack (frame.load older) = deserializeConnack (frame.load old) := by
  obtain ⟨behind, loaded⟩ := frame.load_eq old
  obtain ⟨behind', loaded'⟩ := frame.load_eq older
  have decoded := decodeLength_encodeLength frame.body_length
  rw [loaded, loaded']
  simp only [deserializeConnack, decoded, List.drop_left]
  rcases frame.body with _ | ⟨first, _ | ⟨second, rest⟩⟩ <;> rfl

theorem deserializeSuback_stale (sign : CharSign) (frame : Frame) (old older : Bytes) :
    deserializeSuback sign (frame.load older) = deserializeSuback sign (frame.load old) := by
  by_cases suback : packetType frame.header = .suback
  · rw [deserializeSuback_load sign suback, deserializeSuback_load sign suback]
  · obtain ⟨behind, loaded⟩ := frame.load_eq old
    obtain ⟨behind', loaded'⟩ := frame.load_eq older
    rw [loaded, loaded']
    simp only [deserializeSuback, suback, ne_eq, not_false_eq_true, if_true]

theorem deserializePublish_stale {frame : Frame} (complete : frame.Complete) (old older : Bytes) :
    deserializePublish (frame.load older) = deserializePublish (frame.load old) := by
  by_cases publish : packetType frame.header = .publish
  · rw [deserializePublish_load frame older publish, deserializePublish_load frame old publish]
    have complete := complete publish
    unfold Frame.publication at complete
    generalize frame.topic = decoded at complete ⊢
    rcases decoded with _ | ⟨topic, _ | ⟨high, _ | ⟨low, payload⟩⟩⟩
    · rfl
    · have lowest : qosOf frame.header = .qos0 := by simpa using complete
      simp only [lowest, if_true]
    · have lowest : qosOf frame.header = .qos0 := by simpa using complete
      simp only [lowest, if_true]
    · have whole (stale : Bytes) : ((payload ++ stale).take ((high :: low :: payload).length - 2)) = payload := by
        simp
      simp only [List.cons_append, readInt_cons, Functor.map, Except.map, whole]
  · obtain ⟨behind, loaded⟩ := frame.load_eq old
    obtain ⟨behind', loaded'⟩ := frame.load_eq older
    rw [loaded, loaded']
    simp only [deserializePublish, publish, ne_eq, not_false_eq_true, if_true]

theorem Frame.legible {frame : Frame} {old older : Bytes} (stale : older = old ∨ frame.Complete) :
    Legible (frame.load old) (frame.load older) where
  publish := by
    rcases stale with rfl | complete
    · rfl
    · exact deserializePublish_stale complete old older
  ack := by rw [deserializeAck_load, deserializeAck_load]
  connack := deserializeConnack_stale frame old older
  suback sign := deserializeSuback_stale sign frame old older

/-! ## The parts of a client -/

namespace Machine.Twin

variable {known : Known} {m other : Machine}

theorem weaken {less : Known} (twin : m.Twin known other) (exact : less.exact ↔ known.exact)
    (ownError : less.ownError → known.ownError) (clientError : less.clientError → known.clientError)
    (session : less.session → known.session) (buffer : less.buffer → known.buffer) (line : less.line → known.line)
    (settings : less.settings → known.settings) (secret : less.secret → known.secret) : m.Twin less other where
  tls := twin.tls
  mqtt := { twin.mqtt with
    readbuf := fun holds => twin.mqtt.readbuf (exact.1 holds)
    legible := fun holds => twin.mqtt.legible (buffer holds)
    keepAliveInterval := fun holds => twin.mqtt.keepAliveInterval (session holds)
    cleansession := fun holds => twin.mqtt.cleansession (session holds) }
  mqttTls := { twin.mqttTls with
    psk := fun holds => twin.mqttTls.psk (secret holds)
    lastError := fun holds => twin.mqttTls.lastError (clientError holds) }
  impl := { twin.impl with
    conf := fun holds => twin.impl.conf (settings holds)
    lastError := fun holds => twin.impl.lastError (ownError holds) }
  http := { twin.http with connection := fun holds => twin.http.connection (line holds) }
  replies := twin.replies
  log := twin.log
  complete := twin.complete.imp_left exact.2

end Machine.Twin

section Parts

variable {known : Known}

theorem emit_twins (event : Event) : Respects (Machine.Twin known) (emit event) :=
  Relates.modify fun _ _ twin => { twin with log := congrArg (event :: ·) twin.log }

theorem reply_twins {α : Type} {change : Machine → α × Machine}
    (same : ∀ {m other : Machine}, other.replies = m.replies →
      (change m).1 = (change other).1 ∧ (change other).2.replies = (change m).2.replies)
    (kept : ∀ m, (change m).2 = { m with replies := (change m).2.replies })
    (reads : ∀ m, (change m).2.replies.reads ⊆ m.replies.reads) :
    Respects (Machine.Twin known) (modifyGet change : M α) := by
  refine Relates.modifyGet fun m other twin => ⟨(same twin.replies).1, ?_⟩
  rw [kept m, kept other]
  exact { twin with
    replies := (same twin.replies).2
    complete := twin.complete.imp_right fun complete reply member => complete reply (reads m member) }

theorem ofExcept_twins {α : Type} (result : Except Fault α) : Respects (Machine.Twin known) (M.ofExcept result) := by
  cases result with
  | ok value => exact Relates.pure fun _ _ twin => twin
  | error fault => exact Relates.throw fun _ _ twin => twin

theorem onlyIf_twins {condition : Bool} {action : M Unit} (acts : condition → Respects (Machine.Twin known) action) :
    Respects (Machine.Twin known) (onlyIf condition action) :=
  Relates.ite acts fun _ => Relates.pure fun _ _ twin => twin

theorem startTimer_twins (milliseconds : Nat) : Respects (Machine.Twin known) (startTimer milliseconds) :=
  Relates.bind (emit_twins _) fun _ =>
    reply_twins (fun same => by simp only [same, and_self]) (fun _ => rfl) fun _ => List.Subset.refl _

theorem fail_twins (error : Bytes) : Respects (Machine.Twin known) (TlsConnection.fail error) :=
  Relates.modify fun _ _ twin => { twin with tls := congrArg (Connection.fail · error) twin.tls }

theorem tlsConnect_twins : Respects (Machine.Twin known) TlsConnection.connect := by
  refine Relates.read (fun _ _ twin => by simp only [twin.tls]) fun m => Relates.ite (fun _ => ?_) fun _ => ?_
  · exact Relates.pure fun _ _ twin => twin
  · refine Relates.bind (reply_twins (fun same => by simp only [same, and_self]) (fun _ => rfl)
      fun _ => List.Subset.refl _) fun reply => ?_
    cases reply with
    | some error => exact Relates.bind (fail_twins error) fun _ => Relates.pure fun _ _ twin => twin
    | none =>
        refine Relates.bind (Relates.modify fun _ _ twin => ?_) fun _ => Relates.bind (emit_twins _) fun _ =>
          Relates.pure fun _ _ twin => twin
        exact { twin with tls := by simp only [twin.tls] }

theorem tlsClose_twins : Respects (Machine.Twin known) TlsConnection.close := by
  refine Relates.read (fun _ _ twin => by simp only [twin.tls]) fun m => Relates.ite (fun _ => ?_) fun _ => ?_
  · refine Relates.bind (Relates.modify fun _ _ twin => ?_) fun _ => emit_twins _
    exact { twin with tls := by simp only [twin.tls] }
  · exact Relates.pure fun _ _ twin => twin

theorem lose_twins (error : Bytes) : Respects (Machine.Twin known) (TlsConnection.lose error) :=
  Relates.bind (fail_twins error) fun _ => tlsClose_twins

theorem mqtt_twins {change : Mqtt → Mqtt}
    (kept : ∀ {mqtt other : Mqtt}, mqtt.Twin known.session known.exact known.buffer other →
      (change mqtt).Twin known.session known.exact known.buffer (change other)) :
    Respects (Machine.Twin known) (Mqtt.update change) :=
  Relates.modify fun _ _ twin => { twin with mqtt := kept twin.mqtt }

theorem client_twins {change : MqttTls → MqttTls}
    (kept : ∀ {client other : MqttTls}, client.Twin known.clientError known.secret other →
      (change client).Twin known.clientError known.secret (change other)) :
    Respects (Machine.Twin known) (MqttTls.update change) :=
  Relates.modify fun _ _ twin => { twin with mqttTls := kept twin.mqttTls }

theorem impl_twins {change : Impl → Impl}
    (kept : ∀ {impl other : Impl}, impl.Twin known.ownError known.settings other →
      (change impl).Twin known.ownError known.settings (change other)) :
    Respects (Machine.Twin known) (Client.update change) :=
  Relates.modify fun _ _ twin => { twin with impl := kept twin.impl }

theorem http_twins {change : Http → Http}
    (kept : ∀ {http other : Http}, http.Twin known.line other → (change http).Twin known.line (change other)) :
    Respects (Machine.Twin known) (Http.update change) :=
  Relates.modify fun _ _ twin => { twin with http := kept twin.http }

theorem absent_twins : Respects (Machine.Twin known)
    (MqttTls.update fun client => { client with sessionPresent := false }) :=
  client_twins fun twin => { twin with sessionPresent := rfl }

end Parts

/-! ## The MQTT client -/

section Packets

variable {known : Known}

theorem sendPacket_twins (event : Event) (timer : Timer) : Respects (Machine.Twin known) (Mqtt.sendPacket event timer) := by
  refine Relates.ite (fun _ => Relates.pure fun _ _ twin => twin) fun _ => ?_
  refine Relates.read (fun _ _ twin => by simp only [twin.tls]) fun m => Relates.ite (fun _ => ?_) fun _ => ?_
  · exact Relates.bind (fail_twins _) fun _ => Relates.pure fun _ _ twin => twin
  · refine Relates.bind (reply_twins (fun same => by simp only [same, and_self]) (fun _ => rfl)
      fun _ => List.Subset.refl _) fun reply => ?_
    cases reply with
    | sent expires => exact Relates.bind (emit_twins event) fun _ => Relates.pure fun _ _ twin => twin
    | expired => exact Relates.pure fun _ _ twin => twin
    | failed error => exact Relates.bind (lose_twins error) fun _ => Relates.pure fun _ _ twin => twin

def Reading.isPacket : Reading → Prop
  | .packet _ => True
  | _ => False

/-- What is known once a packet has been read. -/
def Known.reading (known : Known) (read : Prop) : Known := { known with buffer := known.buffer ∨ read }

theorem Machine.Twin.forget {m other : Machine} {read : Prop} (twin : m.Twin (known.reading read) other) :
    m.Twin known other :=
  twin.weaken Iff.rfl id id id .inl id id id

theorem Machine.Twin.unread {m other : Machine} {read : Prop} (twin : m.Twin known other) (not : ¬read) :
    m.Twin (known.reading read) other :=
  twin.weaken Iff.rfl id id id (fun holds => holds.resolve_right not) id id id

theorem nextRead_twins : Relates (Machine.Twin known) nextRead
    (fun reply m other => (known.exact ∨ reply.Complete) ∧ m.Twin known other) (Machine.Twin known) := by
  refine Relates.modifyGet fun m other twin => ⟨by simp only [twin.replies], ?_, ?_⟩
  · refine twin.complete.imp_right fun complete => ?_
    cases replies : m.replies.reads with
    | nil => trivial
    | cons reply rest => exact complete reply (replies ▸ List.mem_cons_self)
  · exact { twin with
      replies := by simp only [twin.replies]
      complete := twin.complete.imp_right fun complete reply member => complete reply (List.mem_of_mem_tail member) }

theorem receive_twins {reading : Reading} (complete : known.exact ∨ (ReadReply.mk reading none).Complete) :
    Relates (Machine.Twin known) (Mqtt.receive reading) (fun _ => Machine.Twin (known.reading reading.isPacket))
      (Machine.Twin known) := by
  cases reading with
  | failure => exact Relates.pure fun _ _ twin => twin.unread id
  | bufferOverflow => exact Relates.pure fun _ _ twin => twin.unread id
  | packet frame =>
      refine Relates.bind (emit_twins _) fun _ => Relates.modify fun m other twin => ?_
      have same (exact : known.exact) : frame.load other.mqtt.readbuf = frame.load m.mqtt.readbuf := by
        rw [twin.mqtt.readbuf exact]
      exact { twin with
        mqtt := { twin.mqtt with
          readbuf := same
          legible := fun _ => frame.legible (complete.imp_left twin.mqtt.readbuf) } }

theorem readPacket_twins : Relates (Machine.Twin known) Mqtt.readPacket
    (fun reading => Machine.Twin (known.reading reading.isPacket)) (Machine.Twin known) := by
  refine Relates.read (fun _ _ twin => by simp only [twin.tls]) fun m => Relates.ite (fun _ => ?_) fun _ => ?_
  · exact Relates.bind (fail_twins _) fun _ => Relates.pure fun _ _ twin => twin.unread id
  · refine Relates.bind nextRead_twins fun reply => Relates.assuming fun complete => ?_
    have closes : Respects (Machine.Twin known) (reply.closed.forM TlsConnection.lose) := by
      cases reply.closed with
      | none => exact Relates.pure fun _ _ twin => twin
      | some error => exact lose_twins error
    exact Relates.bind closes fun _ => Relates.bind (receive_twins complete) fun _ => Relates.pure fun _ _ twin => twin

theorem keepalive_twins (session : known.session) : Respects (Machine.Twin known) Mqtt.keepalive := by
  refine Relates.read (fun _ _ twin => by
    simp only [twin.mqtt.keepAliveInterval session, twin.mqtt.pingOutstanding]) fun m => ?_
  refine Relates.ite (fun _ => Relates.pure fun _ _ twin => twin) fun _ => ?_
  refine Relates.bind (reply_twins (fun same => by simp only [same, and_self]) (fun _ => rfl)
    fun _ => List.Subset.refl _) fun due => Relates.ite (fun _ => ?_) fun _ => Relates.pure fun _ _ twin => twin
  refine Relates.bind (startTimer_twins _) fun timer => Relates.bind (sendPacket_twins _ _) fun outcome => ?_
  exact onlyIf_twins fun _ => mqtt_twins fun twin => { twin with pingOutstanding := rfl }

theorem idOr_twins (set : Option Nat) : Respects (Machine.Twin known) (Mqtt.idOr set) := by
  cases set with
  | some id => exact Relates.pure fun _ _ twin => twin
  | none =>
      exact Relates.bind (reply_twins (fun same => by simp only [same, and_self]) (fun _ => rfl)
        fun _ => List.Subset.refl _) fun _ => Relates.pure fun _ _ twin => twin

theorem getNext_twins : Respects (Machine.Twin known) Mqtt.getNext := by
  refine Relates.bind (mqtt_twins fun twin => { twin with packetid := by simp only [twin.packetid] }) fun _ => ?_
  exact Relates.read (fun _ _ twin => by simp only [twin.mqtt.packetid]) fun _ => Relates.pure fun _ _ twin => twin

theorem cleanSession_twins : Respects (Machine.Twin known) Mqtt.cleanSession :=
  mqtt_twins fun twin => { twin with
    pingOutstanding := rfl, isconnected := rfl, inflight := rfl, pubrel := fun _ => rfl, incomingQoS2messages := rfl }

theorem acknowledge_twins (buffer : known.buffer) : Respects (Machine.Twin known) Mqtt.acknowledge := by
  refine Relates.read (fun _ _ twin => by simp only [(twin.mqtt.legible buffer).ack]) fun m => ?_
  refine Relates.bind (ofExcept_twins _) fun outcome => Relates.ite (fun _ => Relates.pure fun _ _ twin => twin) fun _ => ?_
  refine Relates.bind (idOr_twins _) fun id => Relates.bind (mqtt_twins fun {mqtt other} twin => ?_) fun _ =>
    Relates.pure fun _ _ twin => twin
  refine { twin with inflight := by simp only [twin.inflight], pubrel := fun some => twin.pubrel ?_ }
  revert some
  cases mqtt.inflight with
  | none => exact fun nothing => nothing
  | some message => exact fun _ => rfl

theorem readConnack_twins (buffer : known.buffer) : Respects (Machine.Twin known) Mqtt.readConnack := by
  refine Relates.read (fun _ _ twin => by simp only [(twin.mqtt.legible buffer).connack]) fun m => ?_
  refine Relates.bind (ofExcept_twins _) fun outcome => Relates.bind (Relates.modify fun _ _ twin => ?_) fun _ =>
    Relates.pure fun _ _ twin => twin
  exact { twin with mqttTls := { twin.mqttTls with sessionPresent := rfl } }

theorem readSuback_twins (platform : Platform) (buffer : known.buffer) :
    Respects (Machine.Twin known) (Mqtt.readSuback platform) := by
  refine Relates.read (fun _ _ twin => by simp only [(twin.mqtt.legible buffer).suback]) fun m => ?_
  exact Relates.bind (ofExcept_twins _) fun _ => Relates.pure fun _ _ twin => twin

end Packets

section Cycle

variable (platform : Platform) {known : Known}

theorem deliverMessage_twins (message : Message) : Respects (Machine.Twin known) (Mqtt.deliverMessage platform message) := by
  refine Relates.read (fun _ _ twin => by
    simp only [twin.impl.privateMessagesTopic, twin.impl.identity, twin.mqtt.incomingQoS2messages]) fun m => ?_
  exact Relates.bind (ofExcept_twins _) fun _ => emit_twins _

theorem arrive_twins (message : Message) : Respects (Machine.Twin known) (Mqtt.arrive platform message) := by
  refine Relates.ite (fun _ => deliverMessage_twins platform message) fun _ => ?_
  refine Relates.read (fun _ _ twin => by simp only [twin.mqtt.incomingQoS2messages]) fun m => ?_
  refine Relates.ite (fun _ => ?_) fun _ => Relates.pure fun _ _ twin => twin
  cases useQoS2msgid message.id m.mqtt.incomingQoS2messages with
  | none => exact Relates.pure fun _ _ twin => twin
  | some incoming =>
      exact Relates.bind (mqtt_twins fun twin => { twin with incomingQoS2messages := rfl }) fun _ =>
        deliverMessage_twins platform message

/-- What is done with a packet once it has arrived. -/
theorem arrived_twins {answer : M Bool} (answers : ∀ {known : Known}, known.buffer → Respects (Machine.Twin known) answer)
    (arrived : Bool) : Relates (Machine.Twin (known.reading (arrived = true))) (if arrived then answer else pure false)
      (fun _ => Machine.Twin known) (Machine.Twin known) := by
  refine Relates.ite (fun is => ?_) fun _ => Relates.pure fun _ _ twin => twin.forget
  have answered : Respects (Machine.Twin (known.reading (arrived = true))) answer := answers (.inr is)
  exact answered.weaken (fun _ _ twin => twin) (fun _ _ _ twin => twin.forget) fun _ _ twin => twin.forget

variable (session : known.session)
include session

theorem finish_twins (type : PacketType) (timer : Timer) : Respects (Machine.Twin known) (Mqtt.finish type timer) :=
  Relates.bind (keepalive_twins session) fun _ => Relates.pure fun _ _ twin => twin

theorem cyclePublish_twins (buffer : known.buffer) (timer : Timer) :
    Respects (Machine.Twin known) (Mqtt.cyclePublish platform timer) := by
  refine Relates.read (fun _ _ twin => by simp only [(twin.mqtt.legible buffer).publish]) fun m => ?_
  refine Relates.bind (ofExcept_twins _) fun found => ?_
  cases found with
  | none => exact Relates.pure fun _ _ twin => twin
  | some message =>
      refine Relates.bind (arrive_twins platform message) fun _ => ?_
      have answers (type : PacketType) : Respects (Machine.Twin known) (do
          let outcome ← Mqtt.sendPacket (.sent (.ack type message.id)) timer
          if outcome.1 then Mqtt.finish .publish outcome.2 else return (.failure, outcome.2)) :=
        Relates.bind (sendPacket_twins _ _) fun _ => Relates.ite (fun _ => finish_twins session _ _) fun _ =>
          Relates.pure fun _ _ twin => twin
      cases message.qos with
      | qos0 => exact finish_twins session _ _
      | qos1 => exact answers .puback
      | qos2 => exact answers .pubrec
      | qos3 => exact Relates.pure fun _ _ twin => twin

theorem cycleAck_twins (buffer : known.buffer) (type : PacketType) (timer : Timer) :
    Respects (Machine.Twin known) (Mqtt.cycleAck type timer) := by
  refine Relates.read (fun _ _ twin => by simp only [(twin.mqtt.legible buffer).ack]) fun m => ?_
  refine Relates.bind (ofExcept_twins _) fun outcome => Relates.ite (fun _ => Relates.pure fun _ _ twin => twin) fun _ => ?_
  refine Relates.bind (idOr_twins _) fun id => Relates.bind (sendPacket_twins _ _) fun outcome => ?_
  refine Relates.ite (fun _ => Relates.pure fun _ _ twin => twin) fun _ => Relates.bind (onlyIf_twins fun _ => ?_) fun _ =>
    finish_twins session _ _
  exact mqtt_twins fun twin => { twin with incomingQoS2messages := by simp only [twin.incomingQoS2messages] }

theorem dispatch_twins (buffer : known.buffer) (timer : Timer) (type : PacketType) :
    Respects (Machine.Twin known) (Mqtt.dispatch platform timer type) := by
  unfold Mqtt.dispatch
  split
  · exact cyclePublish_twins platform session buffer timer
  · exact cycleAck_twins session buffer _ timer
  · exact cycleAck_twins session buffer _ timer
  · exact Relates.bind (mqtt_twins fun twin => { twin with pingOutstanding := rfl }) fun _ => finish_twins session _ _
  · exact finish_twins session _ _

def CycleResult.isPacket : CycleResult → Prop
  | .packet _ => True
  | _ => False

theorem cycle_twins (timer : Timer) : Relates (Machine.Twin known) (Mqtt.cycle platform timer)
    (fun outcome => Machine.Twin (known.reading outcome.1.isPacket)) (Machine.Twin known) := by
  have idles {result : CycleResult} (not : ¬result.isPacket) : Relates (Machine.Twin known)
      (do Mqtt.keepalive; return (result, timer)) (fun outcome => Machine.Twin (known.reading outcome.1.isPacket))
      (Machine.Twin known) :=
    Relates.bind (keepalive_twins session) fun _ => Relates.pure fun _ _ twin => twin.unread not
  refine Relates.bind readPacket_twins fun reading => ?_
  cases reading with
  | failure => exact (idles id).weaken (fun _ _ twin => twin.forget) (fun _ _ _ twin => twin) fun _ _ twin => twin
  | bufferOverflow => exact (idles id).weaken (fun _ _ twin => twin.forget) (fun _ _ _ twin => twin) fun _ _ twin => twin
  | packet frame =>
      have dispatched : Respects (Machine.Twin (known.reading True)) (Mqtt.dispatch platform timer (packetType frame.header)) :=
        @dispatch_twins platform (known.reading True) session (.inr trivial) timer _
      refine dispatched.weaken (fun _ _ twin => twin) (fun outcome _ _ twin => ?_) fun _ _ twin => twin.forget
      exact twin.weaken Iff.rfl id id id (Or.imp_right fun _ => trivial) id id id

theorem waitfor_twins (type : PacketType) (timer : Timer) : Relates (Machine.Twin known) (Mqtt.waitfor platform type timer)
    (fun outcome => Machine.Twin (known.reading (outcome.1 = true))) (Machine.Twin known) := by
  induction timer with
  | zero => exact Relates.pure fun _ _ twin => twin.unread (by simp)
  | succ ticks continued =>
      refine Relates.bind (cycle_twins platform session _) fun outcome => Relates.ite (fun is => ?_) fun _ => ?_
      · refine Relates.pure fun _ _ twin => ?_
        rw [is] at twin
        exact twin.weaken Iff.rfl id id id (Or.imp_right fun _ => trivial) id id id
      · refine Relates.ite (fun _ => ?_) fun _ => ?_
        · exact Relates.pure fun _ _ twin => twin.forget.unread (by simp)
        · exact continued.weaken (fun _ _ twin => twin.forget) (fun _ _ _ twin => twin) fun _ _ twin => twin

theorem yieldLoop_twins (timer : Timer) : Respects (Machine.Twin known) (Mqtt.yieldLoop platform timer) := by
  induction timer with
  | zero => exact Relates.pure fun _ _ twin => twin
  | succ ticks continued =>
      refine Relates.bind ((cycle_twins platform session _).weaken (fun _ _ twin => twin) (fun _ _ _ twin => twin.forget)
        fun _ _ twin => twin) fun outcome => ?_
      obtain ⟨result, left⟩ := outcome
      cases result with
      | packet type => exact Relates.ite (fun _ => Relates.pure fun _ _ twin => twin) fun _ => continued
      | failure => exact Relates.pure fun _ _ twin => twin
      | bufferOverflow => exact Relates.pure fun _ _ twin => twin

theorem yield_twins (timeout : Nat) : Respects (Machine.Twin known) (Mqtt.yield platform timeout) :=
  Relates.bind (startTimer_twins _) fun timer => yieldLoop_twins platform session timer

theorem waited_twins {type : PacketType} {answer : M Bool}
    (answers : ∀ {known : Known}, known.buffer → Respects (Machine.Twin known) answer) (timer : Timer) :
    Respects (Machine.Twin known) (do
      let outcome ← Mqtt.waitfor platform type timer
      if outcome.1 then answer else pure false) :=
  Relates.bind (waitfor_twins platform session type timer) fun outcome => arrived_twins answers outcome.1

theorem transmit_twins (event : Event) (timer : Timer) (qos : QoS) :
    Respects (Machine.Twin known) (Mqtt.transmit platform event timer qos) := by
  refine Relates.bind (sendPacket_twins _ _) fun outcome => Relates.bind ?_ fun rc =>
    Relates.bind (onlyIf_twins fun _ => cleanSession_twins) fun _ => Relates.pure fun _ _ twin => twin
  refine Relates.ite (fun _ => Relates.pure fun _ _ twin => twin) fun _ => Relates.ite (fun _ => ?_) fun _ => ?_
  · exact waited_twins platform session acknowledge_twins _
  · exact Relates.pure fun _ _ twin => twin

theorem mqttPublish_twins (topicName payload : Bytes) (qos : QoS) :
    Respects (Machine.Twin known) (Mqtt.publish platform topicName payload qos) := by
  refine Relates.read (fun _ _ twin => by simp only [twin.mqtt.commandTimeout]) fun m => ?_
  refine Relates.bind (startTimer_twins _) fun timer => ?_
  refine Relates.read (fun _ _ twin => by simp only [twin.mqtt.isconnected]) fun m => ?_
  refine Relates.ite (fun _ => Relates.pure fun _ _ twin => twin) fun _ => ?_
  refine Relates.bind (Relates.ite (fun _ => getNext_twins) fun _ => Relates.pure fun _ _ twin => twin) fun id => ?_
  refine Relates.ite (fun _ => Relates.pure fun _ _ twin => twin) fun _ => ?_
  refine Relates.read (fun _ _ twin => by simp only [twin.mqtt.cleansession session]) fun m => ?_
  refine Relates.bind (onlyIf_twins fun _ => ?_) fun _ => transmit_twins platform session _ _ _
  exact mqtt_twins fun twin => { twin with inflight := rfl, pubrel := fun _ => rfl }

theorem resend_twins (accepted : Bool) (timer : Timer) :
    Respects (Machine.Twin known) (Mqtt.resend platform accepted timer) := by
  refine Relates.read (fun m other twin => ?_) fun m => ?_
  · simp only [twin.mqtt.inflight]
    cases sent : m.mqtt.inflight with
    | none => rfl
    | some message => simp only [twin.mqtt.pubrel (by rw [sent]; rfl)]
  · cases m.mqtt.inflight with
    | none => exact Relates.pure fun _ _ twin => twin
    | some message =>
        exact Relates.ite (fun _ => transmit_twins platform session _ _ _) fun _ => transmit_twins platform session _ _ _

theorem request_twins {packet : Nat → Packet} {type : PacketType} {answer : M Bool}
    (answers : ∀ {known : Known}, known.buffer → Respects (Machine.Twin known) answer) :
    Respects (Machine.Twin known) (Mqtt.request platform packet type answer) := by
  refine Relates.read (fun _ _ twin => by simp only [twin.mqtt.commandTimeout]) fun m => ?_
  refine Relates.bind (startTimer_twins _) fun timer => ?_
  refine Relates.read (fun _ _ twin => by simp only [twin.mqtt.isconnected]) fun m => Relates.bind ?_ fun rc =>
    Relates.bind (onlyIf_twins fun _ => cleanSession_twins) fun _ => Relates.pure fun _ _ twin => twin
  refine Relates.ite (fun _ => Relates.pure fun _ _ twin => twin) fun _ => Relates.bind getNext_twins fun id => ?_
  refine Relates.ite (fun _ => Relates.pure fun _ _ twin => twin) fun _ => ?_
  refine Relates.bind (sendPacket_twins _ _) fun outcome => Relates.ite (fun _ => Relates.pure fun _ _ twin => twin) fun _ => ?_
  exact waited_twins platform session answers _

theorem mqttSubscribe_twins (topicFilter : Bytes) (qos : QoS) :
    Respects (Machine.Twin known) (Mqtt.subscribe platform topicFilter qos) :=
  request_twins platform session (readSuback_twins platform)

theorem mqttUnsubscribe_twins (topicFilter : Bytes) :
    Respects (Machine.Twin known) (Mqtt.unsubscribe platform topicFilter) :=
  request_twins platform session fun _ => Relates.pure fun _ _ twin => twin

theorem mqttDisconnect_twins : Respects (Machine.Twin known) Mqtt.disconnect := by
  refine Relates.read (fun _ _ twin => by simp only [twin.mqtt.commandTimeout]) fun m => ?_
  refine Relates.bind (startTimer_twins _) fun timer => Relates.bind (sendPacket_twins _ _) fun _ => ?_
  refine mqtt_twins fun {mqtt other} twin => ?_
  have same := twin.cleansession session
  unfold Mqtt.ended
  simp only [same]
  split
  · exact { twin with
      pingOutstanding := rfl, isconnected := rfl, inflight := rfl, pubrel := fun _ => rfl, incomingQoS2messages := rfl }
  · exact { twin with cleansession := fun _ => rfl, isconnected := rfl, pingOutstanding := rfl }

end Cycle

/-! ## The client over TLS -/

section Sessions

variable (platform : Platform) {known : Known}

theorem Machine.Twin.sessionOpened {m other : Machine} {opened : Prop}
    (twin : m.Twin { known with session := True } other) : m.Twin { known with session := known.session ∨ opened } other :=
  twin.weaken Iff.rfl id id (fun _ => trivial) id id id id

theorem mqttConnect_twins (clientId : Bytes) (cleansession : Bool) :
    Relates (Machine.Twin known) (Mqtt.connect platform clientId cleansession)
      (fun rc => Machine.Twin { known with session := known.session ∨ rc = true }) (Machine.Twin known) := by
  have unopened {m other : Machine} (twin : m.Twin known other) :
      m.Twin { known with session := known.session ∨ false = true } other :=
    twin.weaken Iff.rfl id id (fun holds => holds.resolve_right Bool.false_ne_true) id id id id
  refine Relates.read (fun _ _ twin => by simp only [twin.mqtt.commandTimeout]) fun m => ?_
  refine Relates.bind (startTimer_twins _) fun timer => ?_
  refine Relates.read (fun _ _ twin => by simp only [twin.mqtt.isconnected]) fun m => ?_
  refine Relates.ite (fun _ => Relates.pure fun _ _ twin => unopened twin) fun _ => ?_
  have begins : Relates (Machine.Twin known)
      (Mqtt.update fun mqtt => { mqtt with keepAliveInterval := Mqtt.defaultKeepAlive, cleansession := cleansession })
      (fun _ => Machine.Twin { known with session := True }) (Machine.Twin known) :=
    Relates.modify fun _ _ twin => { twin with
      mqtt := { twin.mqtt with keepAliveInterval := fun _ => rfl, cleansession := fun _ => rfl } }
  refine Relates.bind begins fun _ => Relates.weaken (?_ : Respects (Machine.Twin { known with session := True }) _)
    (fun _ _ twin => twin) (fun _ _ _ twin => twin.sessionOpened)
    fun _ _ twin => twin.weaken Iff.rfl id id (fun _ => trivial) id id id id
  refine Relates.ite (fun _ => Relates.pure fun _ _ twin => twin) fun _ => ?_
  refine Relates.bind (sendPacket_twins _ _) fun outcome => Relates.ite (fun _ => Relates.pure fun _ _ twin => twin) fun _ => ?_
  refine Relates.bind (waitfor_twins platform trivial _ _) fun outcome => ?_
  refine Relates.bind (arrived_twins (fun buffer => readConnack_twins buffer) outcome.1) fun accepted => ?_
  refine Relates.bind (resend_twins platform trivial _ _) fun rc => Relates.bind (onlyIf_twins fun _ => ?_) fun _ =>
    Relates.pure fun _ _ twin => twin
  exact mqtt_twins fun twin => { twin with isconnected := rfl }

/-- An error text says which connection was used, and that is the same in both. -/
theorem onError_twins (error : Bytes) : Relates (Machine.Twin known) (MqttTls.onError error)
    (fun rc m other => rc = false ∧ m.Twin { known with clientError := True } other) (Machine.Twin known) := by
  refine Relates.read (fun _ _ twin => by simp only [twin.tls]) fun m => ?_
  refine Relates.bind (Relates.modify fun _ _ twin => ?_) fun _ => Relates.pure fun _ _ twin => ⟨rfl, twin⟩
  exact { twin with mqttTls := { twin.mqttTls with lastError := fun _ => rfl, sessionPresent := rfl } }

theorem orError_twins {action : M Bool} (acts : Respects (Machine.Twin known) action) (error : Bytes) :
    Respects (Machine.Twin known) (do if ← action then return true else MqttTls.onError error) := by
  refine Relates.bind acts fun _ => Relates.ite (fun _ => Relates.pure fun _ _ twin => twin) fun _ => ?_
  refine (onError_twins error).weaken (fun _ _ twin => twin) (fun _ _ _ ended => ?_) fun _ _ twin => twin
  exact ended.2.weaken Iff.rfl id (fun _ => trivial) id id id id id

theorem isConnected_twins (session : known.session) : Respects (Machine.Twin known) MqttTls.isConnected := by
  refine Relates.read (fun _ _ twin => by simp only [twin.tls, twin.mqtt.isconnected]) fun m => ?_
  refine Relates.ite (fun _ => ?_) fun _ => Relates.ite (fun _ => ?_) fun _ => Relates.pure fun _ _ twin => twin
  · refine Relates.bind (onlyIf_twins fun _ => ?_) fun _ => Relates.pure fun _ _ twin => twin
    exact Relates.bind (mqttDisconnect_twins session) fun _ => absent_twins
  · exact Relates.bind tlsClose_twins fun _ => Relates.bind absent_twins fun _ => Relates.pure fun _ _ twin => twin

theorem disconnect_twins (session : known.session) : Respects (Machine.Twin known) MqttTls.disconnect := by
  refine Relates.read (fun _ _ twin => by simp only [twin.mqtt.isconnected]) fun m => ?_
  refine Relates.bind (onlyIf_twins fun _ => mqttDisconnect_twins session) fun _ => ?_
  exact Relates.bind tlsClose_twins fun _ => absent_twins

/-- What is known when a connection has been made, or not. -/
def Known.opened (known : Known) (rc : Bool) : Known :=
  { known with session := known.session ∨ rc = true, clientError := True }

theorem Machine.Twin.unopened {m other : Machine} (twin : m.Twin { known with clientError := True } other) :
    m.Twin (known.opened false) other :=
  twin.weaken Iff.rfl id id (fun holds => holds.resolve_right Bool.false_ne_true) id id id id

/-- What `connect` does once it is clear that there is no connection. -/
theorem opens_twins (cleanSession : Bool) : Relates (Machine.Twin known)
    (do
      if !(← TlsConnection.connect) then
        let tls := (← get).tls
        MqttTls.onError (bytes "Failed to connect to " ++ tls.host ++ bytes ":" ++ tls.port)
      else if ← MqttTls.mqttConnect platform cleanSession then do
        MqttTls.update fun client => { client with lastError := [] }
        return true
      else do
        TlsConnection.close
        return false)
    (fun rc => Machine.Twin (known.opened rc)) (Machine.Twin known) := by
  refine Relates.bind tlsConnect_twins fun connected => Relates.ite (fun _ => ?_) fun _ => ?_
  · refine Relates.read (fun _ _ twin => by simp only [twin.tls]) fun m => ?_
    refine (onError_twins _).weaken (fun _ _ twin => twin) ?_ fun _ _ twin => twin
    rintro _ m other ⟨rfl, twin⟩
    exact twin.unopened
  · have connects : Relates (Machine.Twin known) (MqttTls.mqttConnect platform cleanSession)
        (fun rc => Machine.Twin { known.opened rc with clientError := known.clientError ∨ rc = false })
        (Machine.Twin known) := by
      refine Relates.read (fun _ _ twin => by simp only [twin.mqttTls.clientId]) fun m => ?_
      refine Relates.bind (mqttConnect_twins platform _ _) fun rc => ?_
      cases rc with
      | true =>
          refine Relates.pure fun _ _ twin => ?_
          exact twin.weaken Iff.rfl id (fun holds => holds.resolve_right (by decide)) id id id id id
      | false =>
          refine (@onError_twins known _).weaken (fun _ _ twin => twin.weaken Iff.rfl id id .inl id id id id) ?_
            fun _ _ twin => twin
          rintro _ m other ⟨rfl, twin⟩
          exact twin.weaken Iff.rfl id (fun _ => trivial) (fun holds => holds.resolve_right Bool.false_ne_true) id id id id
    refine Relates.bind connects fun rc => ?_
    cases rc with
    | true =>
        refine Relates.bind (Relates.modify fun _ _ twin => ?_) fun _ => Relates.pure fun _ _ twin => twin
        exact { twin with mqttTls := { twin.mqttTls with lastError := fun _ => rfl } }
    | false =>
        have shut : Respects (Machine.Twin { known with clientError := True }) TlsConnection.close := tlsClose_twins
        refine Relates.bind (shut.weaken (fun _ _ twin => ?_) (fun _ _ _ twin => twin) fun _ _ twin => ?_) fun _ =>
          Relates.pure fun _ _ twin => twin.unopened
        · exact twin.weaken Iff.rfl id (fun _ => .inr rfl) .inl id id id id
        · exact twin.weaken Iff.rfl id (fun _ => trivial) id id id id id

theorem connectSession_twins (session : known.session) (cleanSession : Bool) :
    Respects (Machine.Twin known) (MqttTls.connectSession platform cleanSession) := by
  refine Relates.bind (isConnected_twins session) fun connected => Relates.ite (fun _ => Relates.pure fun _ _ twin => twin)
    fun _ => (opens_twins platform cleanSession).weaken (fun _ _ twin => twin) (fun _ _ _ twin => ?_) fun _ _ twin => twin
  exact twin.weaken Iff.rfl id (fun _ => trivial) .inl id id id id

theorem connect_twins (session : known.session) : Respects (Machine.Twin known) (MqttTls.connect platform) := by
  refine Relates.bind (connectSession_twins platform session true) fun rc => Relates.ite (fun _ => ?_) fun _ => ?_
  · exact Relates.pure fun _ _ twin => twin
  · refine Relates.read (fun _ _ twin => by simp only [twin.mqttTls.usePersistentSession]) fun m => ?_
    refine Relates.ite (fun _ => Relates.pure fun _ _ twin => twin) fun _ => ?_
    exact Relates.bind (disconnect_twins session) fun _ => connectSession_twins platform session false

theorem reconnect_twins (session : known.session) : Respects (Machine.Twin known) (MqttTls.reconnect platform) :=
  Relates.read (fun _ _ twin => by simp only [twin.mqttTls.usePersistentSession]) fun _ =>
    connectSession_twins platform session _

theorem subscribe_twins (session : known.session) (topic : Bytes) :
    Respects (Machine.Twin known) (MqttTls.subscribe platform topic) :=
  Relates.read (fun _ _ twin => by simp only [twin.mqttTls.qos]) fun _ =>
    orError_twins (mqttSubscribe_twins platform session _ _) _

theorem unsubscribe_twins (session : known.session) (topic : Bytes) :
    Respects (Machine.Twin known) (MqttTls.unsubscribe platform topic) :=
  orError_twins (mqttUnsubscribe_twins platform session _) _

theorem publish_twins (session : known.session) (topic message : Bytes) :
    Respects (Machine.Twin known) (MqttTls.publish platform topic message) :=
  Relates.read (fun _ _ twin => by simp only [twin.mqttTls.qos]) fun _ =>
    orError_twins (mqttPublish_twins platform session _ _ _) _

theorem runMessageLoop_twins (session : known.session) (timeout : Nat) :
    Respects (Machine.Twin known) (MqttTls.runMessageLoop platform timeout) := by
  refine Relates.bind (yield_twins platform session timeout) fun _ => Relates.ite (fun _ => Relates.pure fun _ _ twin => twin)
    fun _ => Relates.read (fun _ _ twin => by simp only [twin.tls]) fun m => ?_
  refine Relates.ite (fun _ => Relates.pure fun _ _ twin => twin) fun _ => ?_
  refine (onError_twins _).weaken (fun _ _ twin => twin) (fun _ _ _ ended => ?_) fun _ _ twin => twin
  exact ended.2.weaken Iff.rfl id (fun _ => trivial) id id id id id

end Sessions

/-! ## Authentication -/

section Requests

variable (platform : Platform) {known : Known}

def Http.closed (http : Http) : Http :=
  match http.connection with
  | none => http
  | some transport =>
      { http.setConnection transport { http.connectionOf transport with connected := false } with connection := none }

theorem Http.closed_twin (http : Http) : Http.Twin False http http.closed ∧ http.closed.connection = none := by
  unfold Http.closed
  split
  next unlinked => exact ⟨⟨rfl, rfl, rfl, rfl, False.elim⟩, unlinked⟩
  next transport _ => cases transport <;> exact ⟨⟨rfl, rfl, rfl, rfl, False.elim⟩, rfl⟩

theorem httpClose_twins : Relates (Machine.Twin known) Http.close (fun _ => Machine.Twin { known with line := True })
    (Machine.Twin known) := by
  refine Relates.modify fun m other twin => { twin with http := ?_ }
  obtain ⟨⟨error, networkError, tcp, tls, -⟩, unlinked⟩ := m.http.closed_twin
  obtain ⟨⟨error', networkError', tcp', tls', -⟩, unlinked'⟩ := other.http.closed_twin
  exact ⟨error'.trans (twin.http.error.trans error.symm),
    networkError'.trans (twin.http.networkError.trans networkError.symm), tcp'.trans (twin.http.tcp.trans tcp.symm),
    tls'.trans (twin.http.tls.trans tls.symm), fun _ => unlinked'.trans unlinked.symm⟩

theorem connectionOf_twin {line : Prop} {http other : Http} (twin : http.Twin line other) (transport : Transport) :
    (other.connectionOf transport).lastError = (http.connectionOf transport).lastError := by
  cases transport with
  | tcp => exact twin.tcp
  | tls => exact twin.tls

theorem setConnection_twin {line : Prop} {http other : Http} (twin : http.Twin line other) (transport : Transport)
    {connection connection' : Connection} (same : connection'.lastError = connection.lastError) :
    (http.setConnection transport connection).Twin line (other.setConnection transport connection') := by
  cases transport with
  | tcp => exact { twin with tcp := same }
  | tls => exact { twin with tls := same }

theorem connectTo_twins (url : Url) : Relates (Machine.Twin known) (Http.connectTo url)
    (fun _ => Machine.Twin { known with line := True }) (Machine.Twin known) := by
  refine Relates.bind httpClose_twins fun _ => Relates.weaken (?_ : Respects (Machine.Twin { known with line := True }) _)
    (fun _ _ twin => twin) (fun _ _ _ twin => twin)
    fun _ _ twin => twin.weaken Iff.rfl id id id id (fun _ => trivial) id id
  cases Http.transportOf url.scheme with
  | none =>
      refine Relates.bind (http_twins fun twin => ?_) fun _ => Relates.pure fun _ _ twin => twin
      exact { twin with networkError := by simp only [twin.networkError] }
  | some transport =>
      refine Relates.bind (reply_twins (fun same => by simp only [same, and_self]) (fun _ => rfl)
        fun _ => List.Subset.refl _) fun exchange => ?_
      cases exchange.connect with
      | some error =>
          refine Relates.bind (http_twins fun {http other} twin => ?_) fun _ => Relates.pure fun _ _ twin => twin
          have same := congrArg (Status.set · error) (connectionOf_twin twin transport)
          exact { setConnection_twin twin transport same with networkError := same, connection := fun _ => rfl }
      | none =>
          refine Relates.bind (http_twins fun {http other} twin => ?_) fun _ => Relates.pure fun _ _ twin => twin
          have same : (Connection.mk url.host url.port true none).lastError = none := rfl
          exact { setConnection_twin twin transport same with networkError := rfl, connection := fun _ => rfl }

theorem drop_twins (line : known.line) (error : Status) : Respects (Machine.Twin known) (Http.drop error) := by
  refine http_twins fun {http other} twin => ?_
  have linked := twin.connection line
  rw [linked]
  cases http.connection with
  | none => exact twin
  | some transport =>
      cases error with
      | none => exact twin
      | some text =>
          have same := congrArg (Status.set · text) (connectionOf_twin twin transport)
          exact { setConnection_twin twin transport same with connection := fun _ => rfl }

theorem readResponse_twins (line : known.line) (stop : Status) (parser : ResponseParser) (reads : List Bytes) :
    Respects (Machine.Twin known) (Http.readResponse platform stop parser reads) := by
  induction reads generalizing parser with
  | nil =>
      refine Relates.ite (fun _ => Relates.pure fun _ _ twin => twin) fun _ => ?_
      exact Relates.bind (drop_twins line stop) fun _ => ofExcept_twins _
  | cons data rest continued =>
      refine Relates.ite (fun _ => Relates.pure fun _ _ twin => twin) fun _ => ?_
      exact Relates.bind (ofExcept_twins _) fun parser => continued parser

theorem execute_twins (method : Method) (url data : Bytes) :
    Respects (Machine.Twin known) (Http.execute platform method url data) := by
  unfold Http.execute
  cases platform.http.parseUrl url with
  | none =>
      refine Relates.bind (http_twins fun twin => ?_) fun _ => Relates.pure fun _ _ twin => twin
      exact { twin with error := by simp only [twin.error] }
  | some target =>
      refine Relates.bind (connectTo_twins target) fun result =>
        Relates.weaken (?_ : Respects (Machine.Twin { known with line := True }) _) (fun _ _ twin => twin)
          (fun _ _ _ twin => twin.weaken Iff.rfl id id id id (fun _ => trivial) id id)
          fun _ _ twin => twin.weaken Iff.rfl id id id id (fun _ => trivial) id id
      have shuts : Respects (Machine.Twin { known with line := True }) Http.close :=
        httpClose_twins.weaken (fun _ _ twin => twin) (fun _ _ _ twin => twin) fun _ _ twin => twin
      cases result with
      | none =>
          refine Relates.bind (http_twins fun twin => ?_) fun _ => Relates.pure fun _ _ twin => twin
          exact { twin with error := twin.networkError }
      | some exchange =>
          refine Relates.bind (emit_twins _) fun _ => Relates.ite (fun _ => ?_) fun _ => ?_
          · refine Relates.bind (drop_twins trivial _) fun _ => Relates.bind (http_twins fun twin => ?_) fun _ =>
              Relates.bind shuts fun _ => Relates.pure fun _ _ twin => twin
            exact { twin with error := twin.networkError }
          · refine Relates.bind (readResponse_twins platform trivial _ _ _) fun parser => Relates.ite (fun _ => ?_) fun _ => ?_
            · refine Relates.bind (http_twins fun twin => ?_) fun _ => Relates.bind shuts fun _ =>
                Relates.pure fun _ _ twin => twin
              exact { twin with error := rfl }
            · exact Relates.bind shuts fun _ => Relates.pure fun _ _ twin => twin

theorem makeRequest_twins (method : Method) (url data : Bytes) :
    Respects (Machine.Twin known) (Http.makeRequest platform method url data) := by
  refine Relates.bind (execute_twins platform method url data) fun result => ?_
  cases result with
  | none =>
      refine Relates.read (fun _ _ twin => by simp only [twin.http.error]) fun m => ?_
      exact Relates.throw fun _ _ twin => twin
  | some response =>
      refine Relates.ite (fun _ => Relates.throw fun _ _ twin => twin) fun _ =>
        Relates.ite (fun _ => Relates.pure fun _ _ twin => twin) fun _ => Relates.bind (ofExcept_twins _) fun json => ?_
      cases json <;> exact Relates.pure fun _ _ twin => twin

theorem makePostRequest_twins (url : Bytes) (data : List (Bytes × Json)) :
    Respects (Machine.Twin known) (MpinFull.makePostRequest platform url data) :=
  Relates.bind (ofExcept_twins _) fun _ => makeRequest_twins platform _ _ _

theorem random_twins : Respects (Machine.Twin known) MpinFull.random := by
  refine Relates.bind (reply_twins (fun same => by simp only [same, and_self]) (fun _ => rfl)
    fun _ => List.Subset.refl _) fun drawn => ?_
  cases drawn with
  | some bytes => exact Relates.pure fun _ _ twin => twin
  | none => exact Relates.throw fun _ _ twin => twin

theorem check_twins {α : Type} (function : String) (result : Except Int α) :
    Respects (Machine.Twin known) (MpinFull.check function result) := by
  cases result with
  | ok value => exact Relates.pure fun _ _ twin => twin
  | error code => exact Relates.throw fun _ _ twin => twin

theorem renewExpiredIdentity_twins (renewSecret : Json) (expiredId : Identity) :
    Respects (Machine.Twin known) (MpinFull.renewExpiredIdentity platform renewSecret expiredId) := by
  refine Relates.bind (ofExcept_twins _) fun mpinId => Relates.bind (ofExcept_twins _) fun dtaList => ?_
  refine Relates.bind (ofExcept_twins _) fun cs1 => Relates.bind (ofExcept_twins _) fun cs2Url => ?_
  refine Relates.bind (makeRequest_twins platform _ _ _) fun response => Relates.bind (ofExcept_twins _) fun cs2 => ?_
  exact Relates.bind (check_twins _ _) fun clientSecret => Relates.pure fun _ _ twin => twin

theorem doAuth_twins (server : Bytes) (id : Identity) : Respects (Machine.Twin known) (MpinFull.doAuth platform server id) := by
  refine Relates.bind random_twins fun random => Relates.bind (check_twins _ _) fun pass1 => ?_
  refine Relates.bind (makePostRequest_twins platform _ _) fun response => Relates.bind (ofExcept_twins _) fun y => ?_
  refine Relates.bind (check_twins _ _) fun v => Relates.bind random_twins fun random => ?_
  refine Relates.bind (check_twins _ _) fun pair => Relates.bind (makePostRequest_twins platform _ _) fun response => ?_
  refine Relates.bind (ofExcept_twins _) fun authOTT => Relates.bind (makePostRequest_twins platform _ _) fun response => ?_
  refine Relates.bind (ofExcept_twins _) fun t => Relates.bind (check_twins _ _) fun precomp => ?_
  refine Relates.bind (check_twins _ _) fun sharedSecret => Relates.bind (ofExcept_twins _) fun members => ?_
  cases Json.find members (bytes "renewSecret") with
  | none => exact Relates.pure fun _ _ twin => twin
  | some renewSecret =>
      exact Relates.bind (renewExpiredIdentity_twins platform _ _) fun _ => Relates.pure fun _ _ twin => twin

theorem mpinAuthenticate_twins (server : Bytes) (id : Identity) :
    Respects (Machine.Twin known) (MpinFull.authenticate platform server id) := by
  refine Relates.tryCatch (doAuth_twins platform server id) fun fault => ?_
  cases fault <;> exact Relates.throw fun _ _ twin => twin

theorem authenticate_twins : Relates
    (fun m other => (known.ownError ∨ m.impl.authenticated = false) ∧ m.Twin known other) (Client.authenticate platform)
    (fun rc m other => (rc = false → m.impl.lastError ≠ []) ∧ m.Twin { known with ownError := True } other)
    (Machine.Twin known) := by
  refine Relates.get (fun _ _ related => by simp only [related.2.impl.authenticated]) fun m => ?_
  refine Relates.ite (fun authenticated => Relates.pure ?_) fun _ => ?_
  · rintro s t ⟨rfl, flag, twin⟩
    refine ⟨fun impossible => absurd impossible (by decide), ?_⟩
    exact twin.weaken Iff.rfl (fun _ => flag.resolve_right (by simp [authenticated])) id id id id id id
  have succeeds : Relates (Machine.Twin known)
      (do
        Client.update fun impl => { impl with lastError := [] }
        let conf := (← get).impl.conf
        let result ← MpinFull.authenticate platform conf.authServerUrl conf.identity
        result.newIdentity.forM fun newIdentity => do
          Client.update fun impl => { impl with conf := { impl.conf with identity := newIdentity } }
          notify (.onIdentityChanged newIdentity)
        MqttTls.update fun client =>
          { client with psk := result.sharedSecret, pskId := hexEncode result.clientId }
        notify .onAuthenticated
        return true)
      (fun rc m other => rc = true ∧ m.Twin { known with ownError := True } other)
      (Machine.Twin { known with ownError := True }) := by
    have clears : Relates (Machine.Twin known) (Client.update fun impl => { impl with lastError := [] })
        (fun _ => Machine.Twin { known with ownError := True }) (Machine.Twin { known with ownError := True }) :=
      Relates.modify fun _ _ twin => { twin with impl := { twin.impl with lastError := fun _ => rfl } }
    refine Relates.bind clears fun _ => Relates.read (fun _ _ twin => by
      simp only [twin.impl.authServerUrl, twin.impl.identity]) fun m => ?_
    refine Relates.bind (mpinAuthenticate_twins platform _ _) fun result => Relates.bind ?_ fun _ =>
      Relates.bind (client_twins fun twin => { twin with psk := fun _ => ⟨rfl, rfl⟩ }) fun _ =>
        Relates.bind (emit_twins _) fun _ => Relates.pure fun _ _ twin => ⟨rfl, twin⟩
    cases result.newIdentity with
    | none => exact Relates.pure fun _ _ twin => twin
    | some newIdentity =>
        refine Relates.bind (impl_twins fun twin => ?_) fun _ => emit_twins _
        exact { twin with conf := fun known => by simp only [twin.conf known], identity := rfl }
  refine (Relates.tryCatch (succeeds.weaken (fun _ _ related => related.2.2) ?_ fun _ _ twin => twin) fun fault => ?_)
  · rintro _ m other ⟨rfl, twin⟩
    exact ⟨fun impossible => absurd impossible (by decide), twin⟩
  · cases fault with
    | iot what =>
        have notes : Relates (Machine.Twin { known with ownError := True })
            (Client.update fun impl => { impl with lastError := bytes "Authentication failed: " ++ cString what })
            (fun _ m other => m.impl.lastError ≠ [] ∧ m.Twin { known with ownError := True } other) (Machine.Twin known) := by
          refine Relates.modify fun m other twin => ⟨?_, { twin with impl := { twin.impl with lastError := fun _ => rfl } }⟩
          exact fun empty => absurd (List.append_eq_nil_iff.1 empty).1 (by decide)
        exact Relates.bind notes fun _ => Relates.pure fun _ _ noted => ⟨fun _ => noted.1, noted.2⟩
    | _ => exact Relates.throw fun _ _ twin => twin.weaken Iff.rfl (fun _ => trivial) id id id id id id

end Requests

end IotClient
