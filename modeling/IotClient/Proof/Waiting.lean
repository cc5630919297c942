import IotClient.Logic.Program
import IotClient.Proof.Delivery
import IotClient.Spec.Commands

namespace IotClient
open Logic

/-! ## What waiting for a packet may change -/

def Callback.incoming : Callback → Bool
  | .onError _ => true
  | .onMessageArrived _ _ => true
  | .onPrivateMessageArrived _ _ => true
  | _ => false

def Event.quiet : Event → Bool
  | .callback made => made.incoming
  | .closed => true
  | .deadline _ => true
  | .sent (.ack _ _) => true
  | .sent .pingreq => true
  | _ => false

def Event.passive : Event → Bool
  | .received _ => true
  | event => event.quiet

def Mqtt.settled (mqtt : Mqtt) : Mqtt :=
  { mqtt with readbuf := [], pingOutstanding := false, incomingQoS2messages := [] }

/-- Only `allowed` events happen. The read buffer changes when a packet is received. -/
structure Waits (allowed : Event → Bool) (before after : Machine) : Prop where
  log : ∃ events, after.log = events ++ before.log ∧ ∀ event ∈ events, allowed event
  readbuf : (∀ frame, ¬ allowed (.received frame)) → after.mqtt.readbuf = before.mqtt.readbuf
  mqtt : after.mqtt.settled = before.mqtt.settled
  mqttTls : after.mqttTls = before.mqttTls
  impl : after.impl = before.impl
  connected : after.tls.connected → before.tls.connected
  reads : after.replies.reads ⊆ before.replies.reads

namespace Waits

variable {allowed : Event → Bool} {before after : Machine}

theorem isconnected (waits : Waits allowed before after) :
    after.mqtt.isconnected = before.mqtt.isconnected :=
  (congrArg Mqtt.isconnected waits.mqtt :)

theorem cleansession (waits : Waits allowed before after) :
    after.mqtt.cleansession = before.mqtt.cleansession :=
  (congrArg Mqtt.cleansession waits.mqtt :)

theorem inflight (waits : Waits allowed before after) : after.mqtt.inflight = before.mqtt.inflight :=
  (congrArg Mqtt.inflight waits.mqtt :)

theorem pubrel (waits : Waits allowed before after) : after.mqtt.pubrel = before.mqtt.pubrel :=
  (congrArg Mqtt.pubrel waits.mqtt :)

theorem mono {other : Event → Bool} (waits : Waits allowed before after)
    (more : ∀ event, allowed event → other event) : Waits other before after := by
  obtain ⟨events, grows, all⟩ := waits.log
  exact
    { waits with
      log := ⟨events, grows, fun event member => more event (all event member)⟩
      readbuf := fun silent => waits.readbuf fun frame received => silent frame (more _ received) }

end Waits

instance (allowed : Event → Bool) : Following (Waits allowed) where
  refl state := ⟨⟨[], by simp⟩, fun _ => rfl, rfl, rfl, rfl, id, List.Subset.refl _⟩
  trans first second := by
    obtain ⟨older, grows, all⟩ := first.log
    obtain ⟨newer, grows', all'⟩ := second.log
    refine ⟨⟨newer ++ older, ?_, ?_⟩, fun silent => (second.readbuf silent).trans (first.readbuf silent),
      second.mqtt.trans first.mqtt, second.mqttTls.trans first.mqttTls, second.impl.trans first.impl,
      first.connected ∘ second.connected, List.Subset.trans second.reads first.reads⟩
    · rw [grows', grows, List.append_assoc]
    · intro event member
      rcases List.mem_append.mp member with member | member
      · exact all' event member
      · exact all event member

theorem onlyIf_keeps {relation : Machine → Machine → Prop} [Following relation] {condition : Bool}
    {action : M Unit} (keeps : condition → Keeps relation action) : Keeps relation (onlyIf condition action) :=
  Keeps.ite keeps fun _ => Keeps.pure _

section Keeps

variable {allowed : Event → Bool}

theorem emit_waits {event : Event} (fits : allowed event) : Keeps (Waits allowed) (emit event) :=
  Keeps.modify fun _ => ⟨⟨[event], rfl, by simpa using fits⟩, fun _ => rfl, rfl, rfl, rfl, id, List.Subset.refl _⟩

theorem reply_waits {α : Type} {change : Machine → α × Machine}
    (only : ∀ m, (change m).2 = { m with replies := (change m).2.replies })
    (reads : ∀ m, (change m).2.replies.reads ⊆ m.replies.reads) :
    Keeps (Waits allowed) (modifyGet change : M α) := by
  apply Keeps.modifyGet
  intro m
  refine ⟨⟨[], ?_, by simp⟩, fun _ => ?_, ?_, ?_, ?_, ?_, reads m⟩ <;> rw [only m]
  · rfl
  · exact id

theorem update_waits {change : Mqtt → Mqtt} (settled : ∀ mqtt, (change mqtt).settled = mqtt.settled)
    (readbuf : ∀ mqtt, (change mqtt).readbuf = mqtt.readbuf) : Keeps (Waits allowed) (Mqtt.update change) :=
  Keeps.modify fun m => ⟨⟨[], by simp⟩, fun _ => readbuf m.mqtt, settled m.mqtt, rfl, rfl, id, List.Subset.refl _⟩

theorem ofExcept_waits {α : Type} (result : Except Fault α) : Keeps (Waits allowed) (M.ofExcept result) := by
  cases result with
  | ok value => exact Keeps.pure value
  | error fault => exact Keeps.throw fault

theorem fail_waits (error : Bytes) : Keeps (Waits allowed) (TlsConnection.fail error) :=
  Keeps.modify fun _ => ⟨⟨[], by simp⟩, fun _ => rfl, rfl, rfl, rfl, id, List.Subset.refl _⟩

theorem disconnected_waits :
    Keeps (Waits allowed)
      (modify fun m => { m with tls := { m.tls with connected := false } } : M PUnit) :=
  Keeps.modify fun _ => ⟨⟨[], by simp⟩, fun _ => rfl, rfl, rfl, rfl, by simp, List.Subset.refl _⟩

theorem close_waits (closed : allowed .closed) : Keeps (Waits allowed) TlsConnection.close := by
  refine Keeps.bind Keeps.get ?_
  intro m
  apply Keeps.ite
  · intro _
    exact Keeps.bind disconnected_waits fun _ => emit_waits closed
  · intro _
    exact Keeps.pure _

theorem lose_waits (error : Bytes) (closed : allowed .closed) :
    Keeps (Waits allowed) (TlsConnection.lose error) :=
  Keeps.bind (fail_waits error) fun _ => close_waits closed

theorem sendPacket_waits {event : Event} (timer : Timer) (fits : allowed event) (closed : allowed .closed) :
    Keeps (Waits allowed) (Mqtt.sendPacket event timer) := by
  apply Keeps.ite
  · intro _
    exact Keeps.pure _
  · intro _
    refine Keeps.bind Keeps.get ?_
    intro m
    apply Keeps.ite
    · intro _
      exact Keeps.bind (fail_waits _) fun _ => Keeps.pure _
    · intro _
      refine Keeps.bind (reply_waits (fun _ => rfl) fun _ => List.Subset.refl _) ?_
      intro reply
      cases reply with
      | sent expires => exact Keeps.bind (emit_waits fits) fun _ => Keeps.pure _
      | expired => exact Keeps.pure _
      | failed error => exact Keeps.bind (lose_waits error closed) fun _ => Keeps.pure _

theorem startTimer_waits {milliseconds : Nat} (fits : allowed (.deadline milliseconds)) :
    Keeps (Waits allowed) (startTimer milliseconds) :=
  Keeps.bind (emit_waits fits) fun _ => reply_waits (fun _ => rfl) fun _ => List.Subset.refl _

end Keeps

/-! ## One cycle -/

theorem keepalive_waits : Keeps (Waits Event.quiet) Mqtt.keepalive := by
  refine Keeps.bind Keeps.get ?_
  intro m
  apply Keeps.ite
  · intro _
    exact Keeps.pure _
  · intro _
    refine Keeps.bind (reply_waits (fun _ => rfl) fun _ => List.Subset.refl _) ?_
    intro due
    apply Keeps.ite
    · intro _
      refine Keeps.bind (startTimer_waits rfl) ?_
      intro timer
      refine Keeps.bind (sendPacket_waits timer rfl rfl) ?_
      intro outcome
      exact onlyIf_keeps fun _ => update_waits (fun _ => rfl) fun _ => rfl
    · intro _
      exact Keeps.pure _

theorem finish_waits (type : PacketType) (timer : Timer) :
    Keeps (Waits Event.quiet) (Mqtt.finish type timer) :=
  Keeps.bind keepalive_waits fun _ => Keeps.pure _

section Cycle

theorem ofExcept_returns {α : Type} {condition : α → Prop} {result : Except Fault α}
    (returns : ∀ value, result = .ok value → condition value) : Returns condition (M.ofExcept result) := by
  intro before value after run
  cases result with
  | ok _ =>
      obtain ⟨rfl, _⟩ := run_pure_eq_ok.mp run
      exact returns _ rfl
  | error fault => exact absurd run run_throw_ne_ok

theorem onMessageArrived_incoming {sok : Sok} {sign : CharSign} {receiver : Receiver} {message : Message}
    {callback : Callback} (arrived : onMessageArrived sok sign receiver message = .ok callback) :
    callback.incoming := by
  unfold onMessageArrived classifyMessage at arrived
  split at arrived
  · cases arrived
  · split at arrived
    · split at arrived
      · cases arrived
        rfl
      · cases arrived
        rfl
      · cases arrived
    · cases arrived
      rfl

variable (platform : Platform)

theorem deliverMessage_waits (message : Message) :
    Keeps (Waits Event.quiet) (Mqtt.deliverMessage platform message) := by
  refine Keeps.bind Keeps.get ?_
  intro m
  refine Keeps.bind_returns (ofExcept_waits _) (ofExcept_returns fun callback arrived => ?_) fun callback incoming =>
    emit_waits incoming
  exact onMessageArrived_incoming arrived

theorem arrive_waits (message : Message) : Keeps (Waits Event.quiet) (Mqtt.arrive platform message) := by
  apply Keeps.ite
  · intro _
    exact deliverMessage_waits platform message
  · intro _
    refine Keeps.bind Keeps.get ?_
    intro m
    apply Keeps.ite
    · intro _
      cases useQoS2msgid message.id m.mqtt.incomingQoS2messages with
      | none => exact Keeps.pure _
      | some incoming =>
          exact Keeps.bind (update_waits (fun _ => rfl) fun _ => rfl) fun _ => deliverMessage_waits platform message
    · intro _
      exact Keeps.pure _

theorem answer_waits (event : Event) (fits : event.quiet) (timer : Timer)
    (rest : Timer → M (CycleResult × Timer)) (keeps : ∀ timer, Keeps (Waits Event.quiet) (rest timer)) :
    Keeps (Waits Event.quiet) (do
      let (sent, timer) ← Mqtt.sendPacket event timer
      if sent then rest timer else return (.failure, timer)) := by
  refine Keeps.bind (sendPacket_waits timer fits rfl) ?_
  intro outcome
  apply Keeps.ite
  · intro _
    exact keeps _
  · intro _
    exact Keeps.pure _

theorem cyclePublish_waits (timer : Timer) :
    Keeps (Waits Event.quiet) (Mqtt.cyclePublish platform timer) := by
  refine Keeps.bind Keeps.get ?_
  intro m
  refine Keeps.bind (ofExcept_waits _) ?_
  intro deserialized
  cases deserialized with
  | none => exact Keeps.pure _
  | some message =>
      refine Keeps.bind (arrive_waits platform message) ?_
      intro _
      cases message.qos with
      | qos0 => exact finish_waits _ _
      | qos1 => exact answer_waits _ rfl _ _ fun _ => finish_waits _ _
      | qos2 => exact answer_waits _ rfl _ _ fun _ => finish_waits _ _
      | qos3 => exact Keeps.pure _

theorem idOr_waits (set : Option Nat) : Keeps (Waits Event.quiet) (Mqtt.idOr set) := by
  cases set with
  | some id => exact Keeps.pure _
  | none => exact Keeps.bind (reply_waits (fun _ => rfl) fun _ => List.Subset.refl _) fun _ => Keeps.pure _

theorem cycleAck_waits (type : PacketType) (timer : Timer) :
    Keeps (Waits Event.quiet) (Mqtt.cycleAck type timer) := by
  refine Keeps.bind Keeps.get ?_
  intro m
  refine Keeps.bind (ofExcept_waits _) ?_
  intro deserialized
  apply Keeps.ite
  · intro _
    exact Keeps.pure _
  · intro _
    refine Keeps.bind (idOr_waits _) ?_
    intro id
    refine Keeps.bind (sendPacket_waits timer rfl rfl) ?_
    intro outcome
    apply Keeps.ite
    · intro _
      exact Keeps.pure _
    · intro _
      exact Keeps.bind (onlyIf_keeps fun _ => update_waits (fun _ => rfl) fun _ => rfl) fun _ => finish_waits _ _

theorem receive_waits (reading : Reading) : Keeps (Waits Event.passive) (Mqtt.receive reading) := by
  cases reading with
  | packet frame =>
      refine Keeps.bind (emit_waits rfl) fun _ => Keeps.modify fun m => ?_
      exact ⟨⟨[], by simp⟩, fun silent => absurd rfl (silent frame), rfl, rfl, rfl, id, List.Subset.refl _⟩
  | failure => exact Keeps.pure _
  | bufferOverflow => exact Keeps.pure _

theorem losing_waits (closed : Status) :
    Keeps (Waits Event.quiet) (closed.forM TlsConnection.lose : M PUnit) := by
  cases closed with
  | none => exact Keeps.pure _
  | some error => exact lose_waits error rfl

theorem passive_of_quiet (event : Event) (quiet : event.quiet) : event.passive := by
  cases event <;> first | rfl | exact quiet

theorem Waits.passive {before after : Machine} (waits : Waits Event.quiet before after) :
    Waits Event.passive before after :=
  waits.mono passive_of_quiet

theorem readPacket_waits : Keeps (Waits Event.passive) Mqtt.readPacket := by
  refine Keeps.bind Keeps.get fun m => Keeps.ite (fun _ => ?_) fun _ => ?_
  · exact Keeps.bind (fail_waits _) fun _ => Keeps.pure _
  · refine Keeps.bind (reply_waits (fun _ => rfl) fun _ => (List.tail_suffix _).subset) fun reply => ?_
    refine Keeps.bind ((losing_waits _).mono Waits.passive) fun _ => ?_
    exact Keeps.bind (receive_waits _) fun _ => Keeps.pure _

theorem dispatch_waits (timer : Timer) (type : PacketType) :
    Keeps (Waits Event.quiet) (Mqtt.dispatch platform timer type) := by
  cases type with
  | publish => exact cyclePublish_waits platform timer
  | pubrec => exact cycleAck_waits .pubrec timer
  | pubrel => exact cycleAck_waits .pubrel timer
  | pingresp => exact Keeps.bind (update_waits (fun _ => rfl) fun _ => rfl) fun _ => finish_waits _ _
  | _ => exact finish_waits _ _

theorem process_waits (timer : Timer) (reading : Reading) :
    Keeps (Waits Event.quiet) (Mqtt.process platform timer reading) := by
  cases reading with
  | failure => exact Keeps.bind keepalive_waits fun _ => Keeps.pure _
  | bufferOverflow => exact Keeps.bind keepalive_waits fun _ => Keeps.pure _
  | packet frame => exact dispatch_waits platform timer _

theorem cycle_waits (timer : Timer) : Keeps (Waits Event.passive) (Mqtt.cycle platform timer) :=
  Keeps.bind readPacket_waits fun reading => (process_waits platform timer reading).mono Waits.passive

theorem waitfor_waits (type : PacketType) (timer : Timer) :
    Keeps (Waits Event.passive) (Mqtt.waitfor platform type timer) := by
  induction timer with
  | zero => exact Keeps.pure _
  | succ ticks ih =>
      refine Keeps.bind (cycle_waits platform _) fun outcome => Keeps.ite (fun _ => ?_) fun _ => ?_
      · exact Keeps.pure _
      · exact Keeps.ite (fun _ => Keeps.pure _) fun _ => ih

theorem yield_waits (timeout : Nat) : Keeps (Waits Event.passive) (Mqtt.yield platform timeout) := by
  refine Keeps.bind (startTimer_waits rfl) fun timer => ?_
  induction timer with
  | zero => exact Keeps.pure _
  | succ ticks ih =>
      refine Keeps.bind (cycle_waits platform _) fun outcome => ?_
      obtain ⟨result, left⟩ := outcome
      cases result with
      | packet type => exact Keeps.ite (fun _ => Keeps.pure _) fun _ => ih
      | failure => exact Keeps.pure _
      | bufferOverflow => exact Keeps.pure _

end Cycle

/-! ## What a cycle has read -/

structure Reads (frame : Frame) (before after : Machine) : Prop where
  log : ∃ later earlier, after.log = later ++ .received frame :: (earlier ++ before.log) ∧
    (∀ event ∈ later, event.quiet) ∧ ∀ event ∈ earlier, event.quiet
  readbuf : ∃ old, after.mqtt.readbuf = frame.load old

theorem readPacket_returns {reading : Reading} {before after : Machine}
    (run : Mqtt.readPacket before = .ok reading after) :
    (reading = .failure ∧ Waits Event.quiet before after) ∨
      ∃ between, Waits Event.quiet before between ∧ Mqtt.receive reading between = .ok ⟨⟩ after := by
  unfold Mqtt.readPacket at run
  rw [run_get_bind] at run
  split at run
  · obtain ⟨_, between, failed, run⟩ := run_bind_eq_ok.mp run
    obtain ⟨rfl, rfl⟩ := run_pure_eq_ok.mp run
    exact .inl ⟨rfl, (fail_waits _).returns failed⟩
  · obtain ⟨reply, first, replied, run⟩ := run_bind_eq_ok.mp run
    obtain ⟨_, second, lost, run⟩ := run_bind_eq_ok.mp run
    obtain ⟨_, third, received, run⟩ := run_bind_eq_ok.mp run
    obtain ⟨rfl, rfl⟩ := run_pure_eq_ok.mp run
    have quiet : Waits Event.quiet before first := (reply_waits (fun _ => rfl) fun _ => (List.tail_suffix _).subset).returns replied
    exact .inr ⟨second, Following.trans quiet ((losing_waits _).returns lost), received⟩

theorem readPacket_packet {frame : Frame} {before after : Machine}
    (run : Mqtt.readPacket before = .ok (.packet frame) after) : Reads frame before after := by
  rcases readPacket_returns run with ⟨impossible, _⟩ | ⟨between, quiet, received⟩
  · cases impossible
  · obtain ⟨events, grows, all⟩ := quiet.log
    obtain ⟨_, noted, emitted, loaded⟩ := run_bind_eq_ok.mp received
    have noted := run_modify_eq_ok.mp emitted
    have loaded := run_modify_eq_ok.mp loaded
    subst noted loaded
    exact ⟨⟨[], events, by simp [grows], by simp, all⟩, ⟨_, rfl⟩⟩

theorem readPacket_silent {reading : Reading} {before after : Machine}
    (run : Mqtt.readPacket before = .ok reading after) (silent : ∀ frame, reading ≠ .packet frame) :
    Waits Event.quiet before after := by
  rcases readPacket_returns run with ⟨_, quiet⟩ | ⟨between, quiet, received⟩
  · exact quiet
  · cases reading with
    | packet frame => exact absurd rfl (silent frame)
    | failure =>
        obtain ⟨_, rfl⟩ := run_pure_eq_ok.mp received
        exact quiet
    | bufferOverflow =>
        obtain ⟨_, rfl⟩ := run_pure_eq_ok.mp received
        exact quiet

theorem Reads.trans {frame : Frame} {before between after : Machine} (reads : Reads frame before between)
    (quiet : Waits Event.quiet between after) : Reads frame before after := by
  obtain ⟨later, earlier, log, allLater, allEarlier⟩ := reads.log
  obtain ⟨old, readbuf⟩ := reads.readbuf
  obtain ⟨events, grows, all⟩ := quiet.log
  refine ⟨⟨events ++ later, earlier, by rw [grows, log, List.append_assoc], ?_, allEarlier⟩, old, ?_⟩
  · intro event member
    rcases List.mem_append.mp member with member | member
    · exact all event member
    · exact allLater event member
  · exact (quiet.readbuf fun _ => by simp [Event.quiet]).trans readbuf

section Cycle

variable (platform : Platform)

def PacketType.plain (type : PacketType) : Prop :=
  type ≠ .publish ∧ type ≠ .pubrec ∧ type ≠ .pubrel

theorem finish_result (type : PacketType) (timer : Timer) :
    Returns (·.1 = .packet type) (Mqtt.finish type timer) :=
  Returns.bind fun _ => Returns.pure rfl

theorem dispatch_plain {type : PacketType} (plain : type.plain) (timer : Timer) :
    Returns (·.1 = .packet type) (Mqtt.dispatch platform timer type) := by
  cases type with
  | publish => exact absurd rfl plain.1
  | pubrec => exact absurd rfl plain.2.1
  | pubrel => exact absurd rfl plain.2.2
  | pingresp => exact Returns.bind fun _ => finish_result _ _
  | _ => exact finish_result _ _

def CycleResult.answers (type : PacketType) (result : CycleResult) : Prop :=
  result = .packet type ∨ result = .failure

theorem finish_answers (type : PacketType) (timer : Timer) :
    Returns (·.1.answers type) (Mqtt.finish type timer) :=
  Returns.bind fun _ => Returns.pure (.inl rfl)

theorem cyclePublish_answers (timer : Timer) :
    Returns (·.1.answers .publish) (Mqtt.cyclePublish platform timer) := by
  refine Returns.bind fun m => Returns.bind fun deserialized => ?_
  cases deserialized with
  | none => exact Returns.pure (.inl rfl)
  | some message =>
      refine Returns.bind fun _ => ?_
      cases message.qos with
      | qos0 => exact finish_answers _ _
      | qos3 => exact Returns.pure (.inr rfl)
      | qos1 =>
          exact Returns.bind fun _ => Returns.ite (finish_answers _ _) (Returns.pure (.inr rfl))
      | qos2 =>
          exact Returns.bind fun _ => Returns.ite (finish_answers _ _) (Returns.pure (.inr rfl))

theorem cycleAck_answers (type : PacketType) (timer : Timer) :
    Returns (·.1.answers type) (Mqtt.cycleAck type timer) := by
  refine Returns.bind fun m => Returns.bind fun deserialized => ?_
  refine Returns.ite (Returns.pure (.inr rfl)) (Returns.bind fun id => Returns.bind fun outcome => ?_)
  exact Returns.ite (Returns.pure (.inr rfl)) (Returns.bind fun _ => finish_answers _ _)

theorem dispatch_answers (type : PacketType) (timer : Timer) :
    Returns (·.1.answers type) (Mqtt.dispatch platform timer type) := by
  cases type with
  | publish => exact cyclePublish_answers platform timer
  | pubrec => exact cycleAck_answers _ _
  | pubrel => exact cycleAck_answers _ _
  | pingresp => exact Returns.bind fun _ => finish_answers _ _
  | _ => exact finish_answers _ _

/-- What a cycle returns: the type of the packet it has read, unless it could not be answered. -/
theorem cycle_returns {timer left : Timer} {result : CycleResult} {before after : Machine}
    (run : Mqtt.cycle platform timer before = .ok (result, left) after) :
    (Waits Event.quiet before after ∧ ∀ type, result ≠ .packet type) ∨
      ∃ frame, Reads frame before after ∧ result.answers (packetType frame.header) ∧
        ((packetType frame.header).plain → result = .packet (packetType frame.header)) := by
  obtain ⟨reading, between, read, processed⟩ := run_bind_eq_ok.mp run
  have quiet := (process_waits platform timer reading).returns processed
  cases reading with
  | failure =>
      left
      refine ⟨Following.trans (readPacket_silent read (by simp)) quiet, ?_⟩
      obtain ⟨_, _, _, ended⟩ := run_bind_eq_ok.mp processed
      simp only [run_pure_eq_ok, Prod.mk.injEq] at ended
      simp [← ended.1.1]
  | bufferOverflow =>
      left
      refine ⟨Following.trans (readPacket_silent read (by simp)) quiet, ?_⟩
      obtain ⟨_, _, _, ended⟩ := run_bind_eq_ok.mp processed
      simp only [run_pure_eq_ok, Prod.mk.injEq] at ended
      simp [← ended.1.1]
  | packet frame =>
      right
      exact ⟨frame, (readPacket_packet read).trans quiet,
        dispatch_answers platform _ _ _ _ _ processed,
        fun plain => dispatch_plain platform plain _ _ _ _ processed⟩

/-! ## Waiting -/

def Event.besides (type : PacketType) (event : Event) : Bool :=
  event.passive && (event.frameOf type).isNone

theorem besides_of_quiet (type : PacketType) {event : Event} (quiet : event.quiet) : event.besides type := by
  cases event with
  | received frame => cases quiet
  | _ => simpa [Event.besides, Event.passive, Event.frameOf] using quiet

theorem passive_of_besides {type : PacketType} {event : Event} (besides : event.besides type) : event.passive := by
  simp only [Event.besides, Bool.and_eq_true] at besides
  exact besides.1

def Misses (type : PacketType) (before after : List Event) : Prop :=
  ∃ events, after = events ++ before ∧ ∀ event ∈ events, event.besides type

def Arrives (type : PacketType) (frame : Frame) (before after : List Event) : Prop :=
  packetType frame.header = type ∧ ∃ later earlier, after = later ++ .received frame :: (earlier ++ before) ∧
    (∀ event ∈ later, event.quiet) ∧ ∀ event ∈ earlier, event.besides type

theorem Misses.trans {type : PacketType} {before between after : List Event}
    (first : Misses type before between) (second : Misses type between after) : Misses type before after := by
  obtain ⟨older, rfl, all⟩ := first
  obtain ⟨newer, rfl, all'⟩ := second
  refine ⟨newer ++ older, (List.append_assoc ..).symm, ?_⟩
  intro event member
  rcases List.mem_append.mp member with member | member
  · exact all' event member
  · exact all event member

theorem Misses.arrives {type : PacketType} {frame : Frame} {before between after : List Event}
    (first : Misses type before between) (second : Arrives type frame between after) :
    Arrives type frame before after := by
  obtain ⟨older, rfl, all⟩ := first
  obtain ⟨typed, later, earlier, rfl, quiet, all'⟩ := second
  refine ⟨typed, later, earlier ++ older, by rw [List.append_assoc], quiet, ?_⟩
  intro event member
  rcases List.mem_append.mp member with member | member
  · exact all' event member
  · exact all event member

theorem cycle_misses {type : PacketType} (plain : type.plain) {timer left : Timer} {result : CycleResult}
    {before after : Machine} (run : Mqtt.cycle platform timer before = .ok (result, left) after)
    (other : result ≠ .packet type) : Misses type before.log after.log := by
  rcases cycle_returns platform run with ⟨quiet, _⟩ | ⟨frame, reads, _, passes⟩
  · obtain ⟨events, grows, all⟩ := quiet.log
    exact ⟨events, grows, fun event member => besides_of_quiet type (all event member)⟩
  · obtain ⟨later, earlier, log, allLater, allEarlier⟩ := reads.log
    have different : packetType frame.header ≠ type := by
      rintro rfl
      exact other (passes plain)
    refine ⟨later ++ .received frame :: earlier, by simp [log], ?_⟩
    intro event member
    rcases List.mem_append.mp member with member | member
    · exact besides_of_quiet type (allLater event member)
    · rcases List.mem_cons.mp member with rfl | member
      · simp [Event.besides, Event.passive, Event.frameOf, different]
      · exact besides_of_quiet type (allEarlier event member)

theorem cycle_arrives {type : PacketType} {timer left : Timer} {before after : Machine}
    (run : Mqtt.cycle platform timer before = .ok (.packet type, left) after) :
    ∃ frame, Arrives type frame before.log after.log ∧ ∃ old, after.mqtt.readbuf = frame.load old := by
  rcases cycle_returns platform run with ⟨_, never⟩ | ⟨frame, reads, answers, _⟩
  · exact absurd rfl (never type)
  · obtain ⟨later, earlier, log, allLater, allEarlier⟩ := reads.log
    refine ⟨frame, ⟨?_, later, earlier, log, allLater, ?_⟩, reads.readbuf⟩
    · rcases answers with same | impossible
      · exact (CycleResult.packet.inj same).symm
      · cases impossible
    · exact fun event member => besides_of_quiet type (allEarlier event member)

theorem waitfor_returns {type : PacketType} (plain : type.plain) {timer left : Timer} {arrived : Bool}
    {before after : Machine} (run : Mqtt.waitfor platform type timer before = .ok (arrived, left) after) :
    if arrived then ∃ frame, Arrives type frame before.log after.log ∧ ∃ old, after.mqtt.readbuf = frame.load old
    else Misses type before.log after.log := by
  induction timer generalizing before with
  | zero =>
      simp only [Mqtt.waitfor, run_pure_eq_ok, Prod.mk.injEq] at run
      obtain ⟨⟨rfl, _⟩, rfl⟩ := run
      exact ⟨[], by simp⟩
  | succ ticks ih =>
      obtain ⟨⟨result, rest⟩, between, cycled, run⟩ := run_bind_eq_ok.mp run
      dsimp only at run
      by_cases found : result = .packet type
      · subst found
        simp only [if_true, run_pure_eq_ok, Prod.mk.injEq] at run
        obtain ⟨⟨rfl, _⟩, rfl⟩ := run
        exact cycle_arrives platform cycled
      · have misses := cycle_misses platform plain cycled found
        rw [if_neg found] at run
        by_cases expired : rest = 0
        · simp only [if_pos expired, run_pure_eq_ok, Prod.mk.injEq] at run
          obtain ⟨⟨rfl, _⟩, rfl⟩ := run
          exact misses
        · rw [if_neg expired] at run
          have waited := ih run
          cases arrived with
          | true =>
              obtain ⟨frame, arrives, loaded⟩ := waited
              exact ⟨frame, misses.arrives arrives, loaded⟩
          | false => exact misses.trans waited

end Cycle

/-! ## Where the packets come from -/

def Frame.expected (frame : Frame) (m : Machine) : Prop :=
  ∃ reply ∈ m.replies.reads, reply.reading = .packet frame

structure Sourced (before after : Machine) : Prop where
  log : ∃ events, after.log = events ++ before.log ∧ ∀ frame, .received frame ∈ events → frame.expected before
  reads : after.replies.reads ⊆ before.replies.reads

theorem Frame.expected.earlier {frame : Frame} {before after : Machine} (expected : frame.expected after)
    (reads : after.replies.reads ⊆ before.replies.reads) : frame.expected before := by
  obtain ⟨reply, member, packet⟩ := expected
  exact ⟨reply, reads member, packet⟩

instance : Following Sourced where
  refl m := ⟨⟨[], by simp⟩, List.Subset.refl _⟩
  trans first second := by
    obtain ⟨older, grows, all⟩ := first.log
    obtain ⟨newer, grows', all'⟩ := second.log
    refine ⟨⟨newer ++ older, ?_, ?_⟩, List.Subset.trans second.reads first.reads⟩
    · rw [grows', grows, List.append_assoc]
    · intro frame member
      rcases List.mem_append.mp member with member | member
      · exact (all' frame member).earlier first.reads
      · exact all frame member

theorem Sourced.arrives {type : PacketType} {frame : Frame} {before after : Machine} (sourced : Sourced before after)
    (arrives : Arrives type frame before.log after.log) : frame.expected before := by
  obtain ⟨events, grows, all⟩ := sourced.log
  obtain ⟨_, later, earlier, log, _⟩ := arrives
  have split : events ++ before.log = (later ++ .received frame :: earlier) ++ before.log := by
    rw [← grows, log]
    simp
  refine all frame ?_
  rw [List.append_cancel_right split]
  simp

theorem sourced_of_silent {α : Type} {allowed : Event → Bool} {program : M α} (waits : Keeps (Waits allowed) program)
    (silent : ∀ frame, allowed (.received frame) = false) : Keeps Sourced program := by
  refine waits.mono fun {before after} waits => ?_
  obtain ⟨events, grows, all⟩ := waits.log
  refine ⟨⟨events, grows, fun frame member => ?_⟩, waits.reads⟩
  have received := all _ member
  rw [silent frame] at received
  cases received

section Sourced

variable (platform : Platform)

theorem nextRead_sourced (m : Machine) :
    Triple (fun s => s = m) nextRead
      (fun reply s => Sourced m s ∧ ∀ frame, reply.reading = .packet frame → frame.expected m) (Sourced m) := by
  rintro s rfl
  refine ⟨⟨⟨[], by simp⟩, (List.tail_suffix _).subset⟩, fun frame reading => ?_⟩
  cases reads : s.replies.reads with
  | nil =>
      rw [reads] at reading
      cases reading
  | cons next rest =>
      rw [reads] at reading
      exact ⟨next, by simp [reads], reading⟩

theorem receive_sourced {m : Machine} (reading : Reading) :
    Triple (fun s => Sourced m s ∧ ∀ frame, reading = .packet frame → frame.expected m) (Mqtt.receive reading)
      (fun _ => Sourced m) (Sourced m) := by
  cases reading with
  | packet frame =>
      rintro s ⟨sourced, expected⟩
      obtain ⟨events, grows, all⟩ := sourced.log
      refine ⟨⟨.received frame :: events, congrArg _ grows, fun other member => ?_⟩, sourced.reads⟩
      rcases List.mem_cons.mp member with same | member
      · cases same
        exact expected frame rfl
      · exact all other member
  | failure => exact Triple.pure fun _ given => given.1
  | bufferOverflow => exact Triple.pure fun _ given => given.1

theorem readPacket_sourced : Keeps Sourced Mqtt.readPacket := by
  intro m
  have kept {α : Type} {program : M α} (waits : Keeps (Waits Event.quiet) program) :
      Preserves (Sourced m) program :=
    (sourced_of_silent waits fun _ => rfl).preserves fun later earlier => Following.trans earlier later
  have sourced : Triple (fun s => s = m) Mqtt.readPacket (fun _ => Sourced m) (Sourced m) := by
    refine Triple.get fun read => Triple.ite (fun _ => ?_) fun _ => ?_
    · refine (kept (Keeps.bind (fail_waits _) fun _ => Keeps.pure _)).starting ?_
      rintro s ⟨_, rfl⟩
      exact Following.refl s
    · refine Triple.bind ((nextRead_sourced m).starting fun _ given => given.2) fun reply => ?_
      refine Triple.bind ((kept (losing_waits reply.closed)).constant) fun _ => ?_
      exact Triple.bind (receive_sourced reply.reading) fun _ => Triple.pure fun _ given => given
  exact sourced.last rfl

theorem cycle_sourced (timer : Timer) : Keeps Sourced (Mqtt.cycle platform timer) :=
  Keeps.bind readPacket_sourced fun reading => sourced_of_silent (process_waits platform timer reading) fun _ => rfl

theorem waitfor_sourced (type : PacketType) (timer : Timer) : Keeps Sourced (Mqtt.waitfor platform type timer) := by
  induction timer with
  | zero => exact Keeps.pure _
  | succ ticks ih =>
      refine Keeps.bind (cycle_sourced platform _) fun outcome => Keeps.ite (fun _ => Keeps.pure _) fun _ => ?_
      exact Keeps.ite (fun _ => Keeps.pure _) fun _ => ih

end Sourced

end IotClient
