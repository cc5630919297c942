import IotClient.Proof.Connect
import IotClient.Proof.Faults
import IotClient.Proof.Subscribe
import IotClient.Spec.Session

namespace IotClient
open Logic

def Message.Deliverable (sok : Sok) (sign : CharSign) (privateMessagesTopic : Bytes) (message : Message) : Prop :=
  ∀ sokRecvKey incoming, ∃ callback,
    onMessageArrived sok sign ⟨privateMessagesTopic, sokRecvKey, incoming⟩ message = .ok callback

theorem deserializePublish_digestible (sok : Sok) {sign : CharSign} {topic : Bytes} {frame : Frame}
    (publish : packetType frame.header = .publish) (digestible : frame.Digestible sign topic) (old : Bytes) :
    ∃ deserialized, deserializePublish (frame.load old) = .ok deserialized ∧
      ∀ message, deserialized = some message → message.Deliverable sok sign topic := by
  unfold Frame.Digestible at digestible
  rw [publish] at digestible
  cases publication : frame.publication with
  | none =>
      rw [publication] at digestible
      refine ⟨none, ?_, by simp⟩
      rw [deserializePublish_load frame old publish, show frame.topic = none from digestible]
  | some parts =>
      obtain ⟨name, id, payload⟩ := parts
      rw [publication] at digestible
      refine ⟨_, deserializePublish_publication old publish publication, ?_⟩
      rintro message same sokRecvKey incoming
      cases same
      unfold onMessageArrived
      have long : ¬ ((payload.length : Int) < 0) := by omega
      rw [if_neg long]
      exact classifyMessage_isOk_iff.mpr digestible

/-! ## No packet raises an exception -/

/-- What is still to be received can be processed while the topic for private messages stays the same. -/
def Calm (sign : CharSign) (topic : Bytes) (m : Machine) : Prop :=
  m.impl.privateMessagesTopic = topic ∧
    ∀ reply ∈ m.replies.reads, ∀ frame, reply.reading = .packet frame → frame.Digestible sign topic

theorem Calm.steady {sign : CharSign} {topic : Bytes} {before after : Machine} (steady : Steady before after)
    (calm : Calm sign topic before) : Calm sign topic after :=
  ⟨steady.privateMessagesTopic.trans calm.1, fun reply member => calm.2 reply (steady.reads member)⟩

theorem Calm.waits {sign : CharSign} {topic : Bytes} {allowed : Event → Bool} {before after : Machine}
    (waits : Waits allowed before after) (calm : Calm sign topic before) : Calm sign topic after :=
  ⟨(congrArg Impl.privateMessagesTopic waits.impl).trans calm.1, fun reply member => calm.2 reply (waits.reads member)⟩

section Safe

variable (platform : Platform) {topic : Bytes}

theorem safe_of_waits {α : Type} {allowed : Event → Bool} {program : M α} (waits : Keeps (Waits allowed) program)
    (throws : Throws (fun _ => False) program) : Safe (Calm platform.sign topic) program :=
  waits.safe throws Calm.waits

theorem update_safe (change : Mqtt → Mqtt) : Safe (Calm platform.sign topic) (Mqtt.update change) :=
  Triple.modify fun _ calm => calm

def Holds (sign : CharSign) (topic : Bytes) (frame : Frame) (m : Machine) : Prop :=
  Calm sign topic m ∧ frame.Digestible sign topic ∧ ∃ old, m.mqtt.readbuf = frame.load old

theorem readPacket_safe :
    Triple (Calm platform.sign topic) Mqtt.readPacket
      (fun reading m => Calm platform.sign topic m ∧ ∀ frame, reading = .packet frame → Holds platform.sign topic frame m)
      fun _ => False := by
  refine triple_of_returns ?_ readPacket_throws
  intro before reading after calm run
  refine ⟨calm.waits (readPacket_waits.returns run), ?_⟩
  rintro frame rfl
  refine ⟨calm.waits (readPacket_waits.returns run), ?_, (readPacket_packet run).readbuf⟩
  unfold Mqtt.readPacket at run
  rw [run_get_bind] at run
  split at run
  · obtain ⟨_, between, failed, run⟩ := run_bind_eq_ok.mp run
    obtain ⟨impossible, _⟩ := run_pure_eq_ok.mp run
    cases impossible
  · obtain ⟨reply, first, replied, run⟩ := run_bind_eq_ok.mp run
    obtain ⟨_, second, lost, run⟩ := run_bind_eq_ok.mp run
    obtain ⟨_, third, received, run⟩ := run_bind_eq_ok.mp run
    obtain ⟨reading, rfl⟩ := run_pure_eq_ok.mp run
    have head := congrArg Prod.fst (run_modifyGet_eq_ok.mp replied)
    simp only at head
    cases reads : before.replies.reads with
    | nil =>
        rw [reads] at head
        subst head
        cases reading
    | cons next rest =>
        rw [reads] at head
        subst head
        exact calm.2 next (by simp [reads]) frame reading

theorem deliverMessage_safe {message : Message} (deliverable : message.Deliverable platform.sok platform.sign topic) :
    Safe (Calm platform.sign topic) (Mqtt.deliverMessage platform message) := by
  apply Triple.get
  intro read
  rintro m ⟨rfl, calm⟩
  obtain ⟨callback, arrived⟩ := deliverable m.impl.conf.identity.sokRecvKey m.mqtt.incomingQoS2messages
  rw [← calm.1] at arrived
  simp only [arrived]
  exact calm

theorem arrive_safe {message : Message} (deliverable : message.Deliverable platform.sok platform.sign topic) :
    Safe (Calm platform.sign topic) (Mqtt.arrive platform message) := by
  refine Triple.ite (fun _ => deliverMessage_safe platform deliverable) fun _ => Triple.read fun m => ?_
  refine Triple.ite (fun _ => ?_) fun _ => Triple.pure fun _ given => given
  cases useQoS2msgid message.id m.mqtt.incomingQoS2messages with
  | none => exact Triple.pure fun _ given => given
  | some incoming => exact Triple.bind (update_safe platform _) fun _ => deliverMessage_safe platform deliverable

theorem keepalive_safe : Safe (Calm platform.sign topic) Mqtt.keepalive :=
  safe_of_waits platform keepalive_waits keepalive_throws

theorem finish_safe (type : PacketType) (timer : Timer) : Safe (Calm platform.sign topic) (Mqtt.finish type timer) :=
  safe_of_waits platform (finish_waits type timer) (finish_throws type timer)

theorem sendPacket_safe (event : Event) (timer : Timer) :
    Safe (Calm platform.sign topic) (Mqtt.sendPacket event timer) := by
  have waits : Keeps (Waits fun _ => true) (Mqtt.sendPacket event timer) := sendPacket_waits timer rfl rfl
  exact safe_of_waits platform waits (sendPacket_throws event timer)

theorem arrived_safe {message : Message} (deliverable : message.Deliverable platform.sok platform.sign topic)
    (timer : Timer) :
    Safe (Calm platform.sign topic) (do
      Mqtt.arrive platform message
      match message.qos with
      | .qos0 => Mqtt.finish .publish timer
      | .qos3 => return (.failure, timer)
      | qos => do
          let type := if qos = .qos1 then PacketType.puback else PacketType.pubrec
          let (sent, timer) ← Mqtt.sendPacket (.sent (.ack type message.id)) timer
          if sent then Mqtt.finish .publish timer else return (.failure, timer)) := by
  have answers (event : Event) : Safe (Calm platform.sign topic) (do
      let outcome ← Mqtt.sendPacket event timer
      if outcome.1 then Mqtt.finish .publish outcome.2 else return (.failure, outcome.2)) :=
    Triple.bind (sendPacket_safe platform _ _) fun _ => Triple.ite (fun _ => finish_safe platform _ _) fun _ =>
      Triple.pure fun _ given => given
  refine Triple.bind (arrive_safe platform deliverable) fun _ => ?_
  cases message.qos with
  | qos0 => exact finish_safe platform _ _
  | qos1 => exact answers _
  | qos2 => exact answers _
  | qos3 => exact Triple.pure fun _ given => given

theorem cyclePublish_safe {frame : Frame} (publish : packetType frame.header = .publish) (timer : Timer) :
    Triple (Holds platform.sign topic frame) (Mqtt.cyclePublish platform timer)
      (fun _ => Calm platform.sign topic) fun _ => False := by
  apply Triple.get
  intro read
  rintro m ⟨rfl, calm, digestible, old, loaded⟩
  obtain ⟨deserialized, deserializes, deliverable⟩ := deserializePublish_digestible platform.sok publish digestible old
  rw [loaded, deserializes]
  cases deserialized with
  | none => exact calm
  | some message => exact arrived_safe platform (deliverable message rfl) timer m calm

theorem idOr_safe (set : Option Nat) : Safe (Calm platform.sign topic) (Mqtt.idOr set) := by
  cases set with
  | some id => exact Triple.pure fun _ given => given
  | none => exact fun _ calm => calm

theorem cycleAck_safe {frame : Frame} (type : PacketType) (timer : Timer) :
    Triple (Holds platform.sign topic frame) (Mqtt.cycleAck type timer)
      (fun _ => Calm platform.sign topic) fun _ => False := by
  apply Triple.get
  intro read
  rintro m ⟨rfl, calm, _, old, loaded⟩
  rw [loaded, deserializeAck_load]
  have rest : Safe (Calm platform.sign topic) (do
      if 1 ≠ 1 then return (.failure, timer)
      else
        let id ← Mqtt.idOr frame.packetId
        let answer := if type = .pubrec then PacketType.pubrel else PacketType.pubcomp
        let outcome ← Mqtt.sendPacket (.sent (.ack answer id)) timer
        if !outcome.1 then return (.failure, outcome.2)
        else do
          onlyIf (type = .pubrel) (Mqtt.update fun mqtt =>
            { mqtt with incomingQoS2messages := freeQoS2msgid id mqtt.incomingQoS2messages })
          Mqtt.finish type outcome.2 : M (CycleResult × Timer)) := by
    refine Triple.ite (fun _ => Triple.pure fun _ given => given) fun _ => Triple.bind (idOr_safe platform _) fun id => ?_
    refine Triple.bind (sendPacket_safe platform _ _) fun outcome => ?_
    refine Triple.ite (fun _ => Triple.pure fun _ given => given) fun _ => ?_
    refine Triple.bind ?_ fun _ => finish_safe platform _ _
    exact Triple.ite (fun _ => update_safe platform _) fun _ => Triple.pure fun _ given => given
  exact rest m calm

theorem dispatch_calm {frame : Frame} (timer : Timer) :
    Triple (Holds platform.sign topic frame) (Mqtt.dispatch platform timer (packetType frame.header))
      (fun _ => Calm platform.sign topic) fun _ => False := by
  have finishes (type : PacketType) : Triple (Holds platform.sign topic frame) (Mqtt.finish type timer)
      (fun _ => Calm platform.sign topic) fun _ => False :=
    (finish_safe platform type timer).starting fun _ holds => holds.1
  cases type : packetType frame.header with
  | publish => exact cyclePublish_safe platform type timer
  | pubrec => exact cycleAck_safe platform .pubrec timer
  | pubrel => exact cycleAck_safe platform .pubrel timer
  | pingresp =>
      exact Triple.bind (Triple.modify fun _ holds => holds.1) fun _ => finish_safe platform _ _
  | _ => exact finishes _

theorem dispatch_safe {frame : Frame} (timer : Timer) :
    Safe (Holds platform.sign topic frame) (Mqtt.dispatch platform timer (packetType frame.header)) := by
  have stays {before after : Machine} (waits : Waits Event.quiet before after)
      (loaded : frame.Digestible platform.sign topic ∧ ∃ old, before.mqtt.readbuf = frame.load old) :
      frame.Digestible platform.sign topic ∧ ∃ old, after.mqtt.readbuf = frame.load old := by
    rw [waits.readbuf (by simp [Event.quiet])]
    exact loaded
  exact ((dispatch_calm platform timer).keeping (dispatch_waits platform timer _) stays).weaken
    (fun _ holds => ⟨holds, holds.2⟩) (fun _ _ kept => kept) fun _ impossible => impossible.1

theorem cycle_safe (timer : Timer) :
    Triple (Calm platform.sign topic) (Mqtt.cycle platform timer)
      (fun outcome m => Calm platform.sign topic m ∧ ∀ type, outcome.1 = .packet type →
        ∃ frame, packetType frame.header = type ∧ Holds platform.sign topic frame m)
      fun _ => False := by
  refine Triple.bind (readPacket_safe platform) fun reading => ?_
  cases reading with
  | failure =>
      refine Triple.bind ((keepalive_safe platform).starting fun _ given => given.1) fun _ => ?_
      exact Triple.pure fun _ calm => ⟨calm, by simp⟩
  | bufferOverflow =>
      refine Triple.bind ((keepalive_safe platform).starting fun _ given => given.1) fun _ => ?_
      exact Triple.pure fun _ calm => ⟨calm, by simp⟩
  | packet frame =>
      refine ((dispatch_safe platform timer).returning (dispatch_answers platform _ timer)).weaken
        (fun _ given => given.2 frame rfl) ?_ fun _ impossible => impossible
      rintro ⟨result, left⟩ m ⟨holds, answers⟩
      refine ⟨holds.1, fun type same => ⟨frame, ?_, holds⟩⟩
      rcases answers with answered | failed
      · exact (CycleResult.packet.inj (answered.symm.trans same))
      · rw [failed] at same
        cases same

theorem waitfor_safe (type : PacketType) (timer : Timer) :
    Triple (Calm platform.sign topic) (Mqtt.waitfor platform type timer)
      (fun outcome m => Calm platform.sign topic m ∧ (outcome.1 →
        ∃ frame, packetType frame.header = type ∧ Holds platform.sign topic frame m))
      fun _ => False := by
  induction timer with
  | zero => exact Triple.pure fun _ calm => ⟨calm, by simp⟩
  | succ ticks ih =>
      refine Triple.bind (cycle_safe platform _) fun outcome => ?_
      apply Triple.ite
      · intro same
        exact Triple.pure fun _ given => ⟨given.1, fun _ => given.2 type same⟩
      · intro _
        refine Triple.ite (fun _ => Triple.pure fun _ given => ⟨given.1, by simp⟩) fun _ => ?_
        exact ih.starting fun _ given => given.1

/-! ## Requests and connections -/

theorem startTimer_safe (milliseconds : Nat) : Safe (Calm platform.sign topic) (startTimer milliseconds) := by
  have waits : Keeps (Waits fun _ => true) (startTimer milliseconds) := startTimer_waits rfl
  exact safe_of_waits platform waits (startTimer_throws milliseconds)

theorem request_safe (packet : Nat → Packet) (type : PacketType) {answer : M Bool}
    (answers : ∀ frame, packetType frame.header = type →
      Triple (Holds platform.sign topic frame) answer (fun _ => Calm platform.sign topic) fun _ => False) :
    Safe (Calm platform.sign topic) (Mqtt.request platform packet type answer) := by
  refine Triple.read fun m => Triple.bind (startTimer_safe platform _) fun timer => Triple.read fun m => ?_
  have asked : Safe (Calm platform.sign topic)
      (if !m.mqtt.isconnected then pure false
        else do
          let id ← Mqtt.getNext
          if !(packet id).fits then pure false
          else
            let outcome ← Mqtt.sendPacket (.sent (packet id)) timer
            if !outcome.1 then pure false
            else
              let waited ← Mqtt.waitfor platform type outcome.2
              if waited.1 then answer else pure false) := by
    refine Triple.ite (fun _ => Triple.pure fun _ calm => calm) fun _ => ?_
    have numbered : Safe (Calm platform.sign topic) Mqtt.getNext :=
      Triple.bind (update_safe platform _) fun _ => Triple.read fun _ => Triple.pure fun _ calm => calm
    refine Triple.bind numbered fun id => Triple.ite (fun _ => Triple.pure fun _ calm => calm) fun _ => ?_
    refine Triple.bind (sendPacket_safe platform _ _) fun outcome => ?_
    refine Triple.ite (fun _ => Triple.pure fun _ calm => calm) fun _ => ?_
    refine Triple.bind (waitfor_safe platform _ _) fun waited => ?_
    apply Triple.ite
    · rintro arrived m ⟨_, holding⟩
      obtain ⟨frame, typed, holds⟩ := holding arrived
      exact answers frame typed m holds
    · intro _
      exact Triple.pure fun _ given => given.1
  refine Triple.bind asked fun rc => Triple.bind ?_ fun _ => Triple.pure fun _ calm => calm
  exact Triple.ite (fun _ => update_safe platform _) fun _ => Triple.pure fun _ calm => calm

theorem readSuback_safe {frame : Frame} (suback : packetType frame.header = .suback) :
    Triple (Holds platform.sign topic frame) (Mqtt.readSuback platform) (fun _ => Calm platform.sign topic)
      fun _ => False := by
  apply Triple.get
  intro read
  rintro m ⟨rfl, calm, digestible, old, loaded⟩
  unfold Frame.Digestible at digestible
  rw [suback] at digestible
  rw [loaded, deserializeSuback_load platform.sign suback]
  match body : frame.body with
  | [] => exact calm
  | [_] => exact calm
  | [_, _] => exact calm
  | [_, _, code] => exact calm
  | _ :: _ :: _ :: _ :: _ =>
      simp only [body, List.length_cons] at digestible
      omega

theorem onError_safe (error : Bytes) : Safe (Calm platform.sign topic) (MqttTls.onError error) :=
  (onError_steady error).safe (onError_throws error) Calm.steady

theorem clientSubscribe_safe (filter : Bytes) :
    Safe (Calm platform.sign topic) (MqttTls.subscribe platform filter) := by
  refine Triple.read fun m => Triple.bind (request_safe platform _ _ fun frame => readSuback_safe platform) fun granted => ?_
  exact Triple.ite (fun _ => Triple.pure fun _ calm => calm) fun _ => onError_safe platform _

theorem restore_safe (topics : List Bytes) : Safe (Calm platform.sign topic) (Client.restore platform topics) := by
  induction topics with
  | nil => exact Triple.pure fun _ calm => calm
  | cons filter rest ih =>
      refine Triple.bind (clientSubscribe_safe platform filter) fun granted => Triple.ite (fun _ => ih) fun _ => ?_
      refine Triple.bind ?_ fun _ => Triple.pure fun _ calm => calm
      exact reportClientError_steady.safe reportClientError_throws Calm.steady

theorem acknowledge_safe {frame : Frame} :
    Triple (Holds platform.sign topic frame) Mqtt.acknowledge (fun _ => Calm platform.sign topic) fun _ => False := by
  apply Triple.get
  intro read
  rintro m ⟨rfl, calm, _, old, loaded⟩
  rw [loaded, deserializeAck_load]
  have rest : Safe (Calm platform.sign topic) (do
      if 1 ≠ 1 then return false
      else
        let id ← Mqtt.idOr frame.packetId
        Mqtt.update fun mqtt => { mqtt with inflight := mqtt.inflight.filter fun message => message.id != id }
        return true : M Bool) := by
    refine Triple.ite (fun _ => Triple.pure fun _ calm => calm) fun _ => Triple.bind (idOr_safe platform _) fun id => ?_
    exact Triple.bind (update_safe platform _) fun _ => Triple.pure fun _ calm => calm
  exact rest m calm

theorem transmit_safe (event : Event) (timer : Timer) (qos : QoS) :
    Safe (Calm platform.sign topic) (Mqtt.transmit platform event timer qos) := by
  refine Triple.bind (sendPacket_safe platform _ _) fun outcome => ?_
  have confirmed : Safe (Calm platform.sign topic)
      (if !outcome.1 then pure false
        else if qos = .qos1 then do
          let waited ← Mqtt.waitfor platform .puback outcome.2
          if waited.1 then Mqtt.acknowledge else pure false
        else pure true) := by
    refine Triple.ite (fun _ => Triple.pure fun _ calm => calm) fun _ => ?_
    refine Triple.ite (fun _ => ?_) fun _ => Triple.pure fun _ calm => calm
    refine Triple.bind (waitfor_safe platform _ _) fun waited => ?_
    apply Triple.ite
    · rintro arrived m ⟨_, holding⟩
      obtain ⟨frame, _, holds⟩ := holding arrived
      exact acknowledge_safe platform m holds
    · intro _
      exact Triple.pure fun _ given => given.1
  refine Triple.bind confirmed fun rc => Triple.bind ?_ fun _ => Triple.pure fun _ calm => calm
  exact Triple.ite (fun _ => update_safe platform _) fun _ => Triple.pure fun _ calm => calm

theorem readConnack_safe {frame : Frame} (connack : packetType frame.header = .connack) :
    Triple (Holds platform.sign topic frame) Mqtt.readConnack (fun _ => Calm platform.sign topic) fun _ => False := by
  apply Triple.get
  intro read
  rintro m ⟨rfl, calm, _, old, loaded⟩
  obtain ⟨sessionPresent, code, deserialized, _⟩ := deserializeConnack_load connack old
  rw [loaded, deserialized]
  exact calm

theorem mqttConnect_safe (clientId : Bytes) (cleansession : Bool) :
    Safe (Calm platform.sign topic) (Mqtt.connect platform clientId cleansession) := by
  refine Triple.read fun m => Triple.bind (startTimer_safe platform _) fun timer => Triple.read fun m => ?_
  refine Triple.ite (fun _ => Triple.pure fun _ calm => calm) fun _ => Triple.bind (update_safe platform _) fun _ => ?_
  refine Triple.ite (fun _ => Triple.pure fun _ calm => calm) fun _ => ?_
  refine Triple.bind (sendPacket_safe platform _ _) fun outcome => ?_
  refine Triple.ite (fun _ => Triple.pure fun _ calm => calm) fun _ => ?_
  refine Triple.bind (waitfor_safe platform _ _) fun waited => ?_
  have answered : Triple (fun m => Calm platform.sign topic m ∧ (waited.1 →
      ∃ frame, packetType frame.header = .connack ∧ Holds platform.sign topic frame m))
      (if waited.1 then Mqtt.readConnack else pure false) (fun _ => Calm platform.sign topic) fun _ => False := by
    apply Triple.ite
    · rintro arrived m ⟨_, holding⟩
      obtain ⟨frame, connack, holds⟩ := holding arrived
      exact readConnack_safe platform connack m holds
    · intro _
      exact Triple.pure fun _ given => given.1
  refine Triple.bind answered fun accepted => ?_
  have resending : Safe (Calm platform.sign topic) (Mqtt.resend platform accepted waited.2) := by
    refine Triple.read fun m => ?_
    cases m.mqtt.inflight with
    | none => exact Triple.pure fun _ calm => calm
    | some message =>
        exact Triple.ite (fun _ => transmit_safe platform _ _ _) fun _ => transmit_safe platform _ _ _
  refine Triple.bind resending fun rc => Triple.bind ?_ fun _ => Triple.pure fun _ calm => calm
  exact Triple.ite (fun _ => update_safe platform _) fun _ => Triple.pure fun _ calm => calm

end Safe

end IotClient
