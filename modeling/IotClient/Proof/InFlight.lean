import IotClient.Proof.AtMostOnce
import IotClient.Proof.Steady

namespace IotClient
open Logic

/-! ## The publish in flight -/

/-- At QoS 2 what is in flight is the message published last. A clean session may still hold an older one,
which it drops before the next connection. -/
structure Tracked (m : Machine) : Prop where
  inflight : ∀ message, m.mqtt.inflight = some message →
    lastPublished m.log = some message ∨ (m.mqtt.isconnected ∧ m.mqtt.cleansession)
  resends : ResendsLast m.log
  qos2 : ∀ message, .sent (.publish message) ∈ m.log → message.qos = .qos2
  client : m.mqttTls.qos = .qos2
  conf : m.impl.conf.useMqttQoS2 = true

def Event.unpublished : Event → Bool
  | .sent (.publish _) => false
  | .resent _ => false
  | _ => true

theorem unpublished_cons {event : Event} (unpublished : event.unpublished) (older : List Event) :
    lastPublished (event :: older) = lastPublished older ∧ (ResendsLast (event :: older) ↔ ResendsLast older) ∧
      ∀ message, .sent (.publish message) ∈ event :: older ↔ .sent (.publish message) ∈ older := by
  cases event.bearing with
  | publish => cases unpublished
  | resent => cases unpublished
  | connect => exact ⟨rfl, Iff.rfl, by simp⟩
  | pubrel => exact ⟨rfl, Iff.rfl, by simp⟩
  | foreign arrivals published lastPublished _ _ resendsLast =>
      refine ⟨lastPublished older, resendsLast older, fun message => ?_⟩
      have other : Event.sent (.publish message) ≠ event := by
        rintro rfl
        cases unpublished
      simp [other]

theorem unpublished_append {events : List Event} (unpublished : ∀ event ∈ events, event.unpublished)
    (older : List Event) :
    lastPublished (events ++ older) = lastPublished older ∧ (ResendsLast (events ++ older) ↔ ResendsLast older) ∧
      ∀ message, .sent (.publish message) ∈ events ++ older ↔ .sent (.publish message) ∈ older := by
  induction events with
  | nil => exact ⟨rfl, Iff.rfl, fun _ => Iff.rfl⟩
  | cons event rest ih =>
      obtain ⟨last, resends, sent⟩ := ih fun other member => unpublished other (List.mem_cons_of_mem _ member)
      obtain ⟨last', resends', sent'⟩ := unpublished_cons (unpublished event List.mem_cons_self) (rest ++ older)
      exact ⟨last'.trans last, resends'.trans resends, fun message => (sent' message).trans (sent message)⟩

structure Unpublishing (before after : Machine) : Prop where
  log : ∃ events, after.log = events ++ before.log ∧ ∀ event ∈ events, event.unpublished
  inflight : ∀ message, after.mqtt.inflight = some message → before.mqtt.inflight = some message ∧
    (before.mqtt.isconnected ∧ before.mqtt.cleansession → after.mqtt.isconnected ∧ after.mqtt.cleansession)
  qos : after.mqttTls.qos = before.mqttTls.qos
  conf : after.impl.conf.useMqttQoS2 = before.impl.conf.useMqttQoS2

instance : Following Unpublishing where
  refl m := ⟨⟨[], by simp⟩, fun _ same => ⟨same, id⟩, rfl, rfl⟩
  trans first second := by
    obtain ⟨older, grows, all⟩ := first.log
    obtain ⟨newer, grows', all'⟩ := second.log
    refine ⟨⟨newer ++ older, ?_, ?_⟩, ?_, second.qos.trans first.qos, second.conf.trans first.conf⟩
    · rw [grows', grows, List.append_assoc]
    · intro event member
      rcases List.mem_append.mp member with member | member
      · exact all' event member
      · exact all event member
    · intro message held
      obtain ⟨held', kept'⟩ := second.inflight message held
      obtain ⟨held'', kept⟩ := first.inflight message held'
      exact ⟨held'', kept' ∘ kept⟩

theorem Tracked.unpublishing {before after : Machine} (unpublishing : Unpublishing before after)
    (tracked : Tracked before) : Tracked after := by
  obtain ⟨events, grows, all⟩ := unpublishing.log
  obtain ⟨last, resends, sent⟩ := unpublished_append all before.log
  refine ⟨?_, ?_, ?_, unpublishing.qos.trans tracked.client, unpublishing.conf.trans tracked.conf⟩
  · intro message held
    obtain ⟨held', kept⟩ := unpublishing.inflight message held
    rw [grows, last]
    exact (tracked.inflight message held').imp_right kept
  · rw [grows]
    exact resends.mpr tracked.resends
  · intro message member
    rw [grows, sent] at member
    exact tracked.qos2 message member

theorem unpublished_of_aside {event : Event} (aside : event.aside) : event.unpublished := by
  cases event with
  | sent packet => cases packet <;> first | rfl | cases aside
  | resent => cases aside
  | _ => rfl

theorem Steady.unpublishing {before after : Machine} (steady : Steady before after) :
    Unpublishing before after := by
  obtain ⟨events, grows, all⟩ := steady.log
  refine ⟨⟨events, grows, fun event member => unpublished_of_aside (all event member)⟩, ?_, steady.qos,
    steady.useMqttQoS2⟩
  intro message held
  rw [steady.inflight] at held
  rw [steady.isconnected, steady.cleansession]
  exact ⟨held, id⟩

theorem Waits.unpublishing {before after : Machine} (waits : Waits Event.passive before after) :
    Unpublishing before after :=
  waits.steady.unpublishing

variable (platform : Platform)

theorem steady_preserves {α : Type} {program : M α} (steady : Keeps Steady program) : Preserves Tracked program :=
  steady.preserves fun related => Tracked.unpublishing related.unpublishing

/-! ## Publishing -/

theorem acknowledge_preserves {inv : Machine → Prop}
    (waits : ∀ {before after}, Waits Event.passive before after → inv before → inv after)
    (acknowledges : ∀ m keep, inv m →
      inv { m with mqtt := { m.mqtt with inflight := m.mqtt.inflight.filter keep } }) :
    Preserves inv Mqtt.acknowledge := by
  refine Triple.read fun m => Triple.bind ((ofExcept_waits _).preserves waits) fun outcome => ?_
  apply Triple.ite
  · intro _
    exact Triple.pure fun _ given => given
  · intro _
    refine Triple.bind ((idOr_waits _).preserves fun quiet => waits quiet.passive) fun id => ?_
    exact Triple.bind (Triple.modify fun m given => acknowledges m _ given) fun _ => Triple.pure fun _ given => given

theorem transmit_triple {event : Event} {pre inv : Machine → Prop}
    (stable : ∀ {before after}, Waits Event.quiet before after → pre before → pre after)
    (emits : ∀ m, pre m → inv { m with log := event :: m.log })
    (waits : ∀ {before after}, Waits Event.passive before after → inv before → inv after)
    (acknowledges : ∀ m keep, inv m →
      inv { m with mqtt := { m.mqtt with inflight := m.mqtt.inflight.filter keep } })
    (cleans : ∀ m, pre m ∨ inv m → inv { m with mqtt := m.mqtt.clean }) (timer : Timer) (qos : QoS) :
    Triple pre (Mqtt.transmit platform event timer qos) (fun _ => inv) inv := by
  refine Triple.bind (sendPacket_triple stable emits timer) ?_
  rintro ⟨sent, left⟩
  have decided : Triple (fun m => if sent then inv m else pre m)
      (if !sent then pure false
        else if qos = .qos1 then do
          let waited ← Mqtt.waitfor platform .puback left
          if waited.1 then Mqtt.acknowledge else pure false
        else pure true)
      (fun rc m => if rc then inv m else pre m ∨ inv m) inv := by
    cases sent with
    | false => exact Triple.pure fun _ given => .inl given
    | true =>
        apply Triple.ite
        · intro impossible
          cases impossible
        · intro _
          apply Triple.ite
          · intro _
            refine Triple.bind ((waitfor_waits platform _ _).preserves waits) fun outcome => ?_
            apply Triple.ite
            · intro _
              refine (acknowledge_preserves waits acknowledges).weaken (fun _ given => given) ?_ fun _ given => given
              intro rc m given
              cases rc with
              | true => exact given
              | false => exact .inr given
            · intro _
              exact Triple.pure fun _ given => .inr given
          · intro _
            exact Triple.pure fun _ given => given
  have cleaned (rc : Bool) : Triple (fun m => if rc then inv m else pre m ∨ inv m)
      (onlyIf (!rc) Mqtt.cleanSession) (fun _ => inv) inv := by
    cases rc with
    | true => exact Triple.pure fun _ given => given
    | false => exact Triple.modify cleans
  exact Triple.bind decided fun rc => Triple.bind (cleaned rc) fun _ => Triple.pure fun _ given => given

structure Recorded (message : Publish) (m : Machine) : Prop where
  inflight : ∀ other, m.mqtt.inflight = some other →
    other = message ∨ (m.mqtt.isconnected ∧ m.mqtt.cleansession)
  resends : ResendsLast m.log
  qos2 : ∀ other, .sent (.publish other) ∈ m.log → other.qos = .qos2
  client : m.mqttTls.qos = .qos2
  conf : m.impl.conf.useMqttQoS2 = true

theorem Tracked.clean {m : Machine} (resends : ResendsLast m.log)
    (qos2 : ∀ other, .sent (.publish other) ∈ m.log → other.qos = .qos2) (client : m.mqttTls.qos = .qos2)
    (conf : m.impl.conf.useMqttQoS2 = true) : Tracked { m with mqtt := m.mqtt.clean } :=
  ⟨fun _ held => (by cases held), resends, qos2, client, conf⟩

theorem Tracked.acknowledge {m : Machine} (tracked : Tracked m) (keep : Publish → Bool) :
    Tracked { m with mqtt := { m.mqtt with inflight := m.mqtt.inflight.filter keep } } := by
  refine ⟨?_, tracked.resends, tracked.qos2, tracked.client, tracked.conf⟩
  intro message held
  exact tracked.inflight message (Option.filter_eq_some_iff.mp held).1

theorem Recorded.quiet {message : Publish} {before after : Machine} (waits : Waits Event.quiet before after)
    (recorded : Recorded message before) : Recorded message after := by
  have unpublishing := waits.passive.unpublishing
  obtain ⟨events, grows, all⟩ := unpublishing.log
  obtain ⟨_, resends, sent⟩ := unpublished_append all before.log
  refine ⟨?_, ?_, ?_, unpublishing.qos.trans recorded.client, unpublishing.conf.trans recorded.conf⟩
  · intro other held
    obtain ⟨held', kept⟩ := unpublishing.inflight other held
    exact (recorded.inflight other held').imp_right kept
  · rw [grows]
    exact resends.mpr recorded.resends
  · intro other member
    rw [grows, sent] at member
    exact recorded.qos2 other member

theorem Recorded.sent {message : Publish} {m : Machine} (recorded : Recorded message m)
    (qos2 : message.qos = .qos2) : Tracked { m with log := .sent (.publish message) :: m.log } := by
  refine ⟨?_, recorded.resends, ?_, recorded.client, recorded.conf⟩
  · intro other held
    rcases recorded.inflight other held with rfl | clean
    · exact .inl rfl
    · exact .inr clean
  · intro other member
    rcases List.mem_cons.mp member with same | member
    · cases same
      exact qos2
    · exact recorded.qos2 other member

def Open (m : Machine) : Prop :=
  Tracked m ∧ m.mqtt.isconnected

theorem Open.recorded {m : Machine} (opened : Open m) (clean : m.mqtt.cleansession) (message : Publish) :
    Recorded message m :=
  ⟨fun _ _ => .inr ⟨opened.2, clean⟩, opened.1.resends, opened.1.qos2, opened.1.client, opened.1.conf⟩

theorem Open.record {m : Machine} (opened : Open m) (message : Publish) :
    Recorded message { m with mqtt := { m.mqtt with
      inflight := if message.id = 0 then none else some message, pubrel := false } } := by
  refine ⟨?_, opened.1.resends, opened.1.qos2, opened.1.client, opened.1.conf⟩
  intro other held
  simp only [Option.ite_none_left_eq_some, Option.some.injEq] at held
  exact .inl held.2.symm

theorem transmit_recorded (message : Publish) (qos2 : message.qos = .qos2) (timer : Timer) :
    Triple (Recorded message) (Mqtt.transmit platform (.sent (.publish message)) timer .qos2) (fun _ => Tracked)
      Tracked := by
  apply transmit_triple
  · exact Recorded.quiet
  · exact fun m recorded => recorded.sent qos2
  · exact fun waits => Tracked.unpublishing waits.unpublishing
  · exact fun m keep tracked => tracked.acknowledge keep
  · rintro m (recorded | tracked)
    · exact .clean recorded.resends recorded.qos2 recorded.client recorded.conf
    · exact .clean tracked.resends tracked.qos2 tracked.client tracked.conf

theorem publish_preserves (topicName payload : Bytes) :
    Preserves Tracked (Mqtt.publish platform topicName payload .qos2) := by
  refine Triple.read fun m => Triple.bind (steady_preserves (steady_of_quiet (startTimer_waits rfl))) fun timer => ?_
  apply Triple.get
  intro m
  apply Triple.ite
  · intro _
    exact Triple.pure fun _ given => given.2
  · intro connected
    have numbered : Triple (fun state => state = m ∧ Tracked state)
        (if QoS.qos2 = .qos1 ∨ QoS.qos2 = .qos2 then Mqtt.getNext else pure 0) (fun _ => Open) Tracked := by
      refine Triple.bind (Triple.modify ?_) fun _ => Triple.read fun _ => Triple.pure fun _ given => given
      rintro state ⟨rfl, tracked⟩
      exact ⟨⟨tracked.inflight, tracked.resends, tracked.qos2, tracked.client, tracked.conf⟩, by simpa using connected⟩
    apply Triple.bind numbered
    intro id
    apply Triple.ite
    · intro _
      exact Triple.pure fun _ given => given.1
    · intro _
      apply Triple.get
      intro m
      have recorded : Triple (fun state => state = m ∧ Open state)
          (onlyIf (!m.mqtt.cleansession) (Mqtt.update fun mqtt => { mqtt with
            inflight := if id = 0 then none else some ⟨.qos2, id, topicName, payload⟩, pubrel := false }))
          (fun _ => Recorded ⟨.qos2, id, topicName, payload⟩) Tracked := by
        cases clean : m.mqtt.cleansession with
        | true =>
            apply Triple.pure
            rintro state ⟨rfl, opened⟩
            exact opened.recorded clean _
        | false => exact Triple.modify fun state given => given.2.record _
      exact Triple.bind recorded fun _ => transmit_recorded platform _ rfl timer

/-! ## Connecting -/

def Idle (m : Machine) : Prop :=
  Tracked m ∧ m.mqtt.isconnected = false

theorem Idle.last {m : Machine} (idle : Idle m) {message : Publish} (held : m.mqtt.inflight = some message) :
    lastPublished m.log = some message := by
  rcases idle.1.inflight message held with last | ⟨connected, _⟩
  · exact last
  · rw [idle.2] at connected
    cases connected

theorem Idle.waits {before after : Machine} (waits : Waits Event.passive before after) (idle : Idle before) :
    Idle after :=
  ⟨idle.1.unpublishing waits.unpublishing, waits.isconnected.trans idle.2⟩

theorem Idle.emit {m : Machine} (idle : Idle m) {event : Event} (unpublished : event.unpublished) :
    Idle { m with log := event :: m.log } := by
  refine ⟨idle.1.unpublishing ⟨⟨[event], rfl, ?_⟩, fun _ held => ⟨held, fun both => both⟩, rfl, rfl⟩, idle.2⟩
  simpa using unpublished

theorem Idle.resend {m : Machine} (idle : Idle m) {message : Publish} (last : lastPublished m.log = some message) :
    Idle { m with log := .resent message :: m.log } := by
  refine ⟨⟨idle.1.inflight, ⟨last, idle.1.resends⟩, ?_, idle.1.client, idle.1.conf⟩, idle.2⟩
  intro other member
  exact idle.1.qos2 other (by simpa using member)

theorem transmit_idle {event : Event} {message : Publish}
    (emits : ∀ m, Idle m → lastPublished m.log = some message → Idle { m with log := event :: m.log })
    (timer : Timer) (qos : QoS) :
    Triple (fun m => Idle m ∧ lastPublished m.log = some message) (Mqtt.transmit platform event timer qos)
      (fun _ => Idle) Idle := by
  apply transmit_triple
  · intro before after waits given
    obtain ⟨events, grows, all⟩ := waits.passive.unpublishing.log
    refine ⟨given.1.waits waits.passive, ?_⟩
    rw [grows, (unpublished_append all before.log).1]
    exact given.2
  · exact fun m given => emits m given.1 given.2
  · exact fun waits => Idle.waits waits
  · exact fun m keep idle => ⟨idle.1.acknowledge keep, idle.2⟩
  · intro m given
    have tracked : Tracked m := by
      rcases given with given | given
      · exact given.1.1
      · exact given.1
    exact ⟨.clean tracked.resends tracked.qos2 tracked.client tracked.conf, rfl⟩

theorem resend_idle_preserves (accepted : Bool) (timer : Timer) :
    Preserves Idle (Mqtt.resend platform accepted timer) := by
  apply Triple.get
  intro m
  cases held : m.mqtt.inflight with
  | none => exact Triple.pure fun _ given => given.2
  | some message =>
      have last : ∀ state, state = m ∧ Idle state → Idle state ∧ lastPublished state.log = some message := by
        rintro state ⟨rfl, idle⟩
        exact ⟨idle, idle.last held⟩
      apply Triple.ite
      · intro _
        refine (transmit_idle platform ?_ timer _).weaken last (fun _ _ given => given) fun _ given => given
        exact fun m idle _ => idle.emit rfl
      · intro _
        refine (transmit_idle platform ?_ timer _).weaken last (fun _ _ given => given) fun _ given => given
        exact fun m idle last => idle.resend last

theorem readConnack_idle : Preserves Idle Mqtt.readConnack := by
  refine Triple.read fun m => Triple.bind ((ofExcept_waits _).preserves Idle.waits) fun outcome => ?_
  refine Triple.bind (Triple.modify fun m idle => ?_) fun _ => Triple.pure fun _ given => given
  exact ⟨⟨idle.1.inflight, idle.1.resends, idle.1.qos2, idle.1.client, idle.1.conf⟩, idle.2⟩

theorem connect_preserves (clientId : Bytes) (cleansession : Bool) :
    Preserves Tracked (Mqtt.connect platform clientId cleansession) := by
  have tracked {α : Type} {program : M α} (idle : Preserves Idle program) :
      Triple Idle program (fun _ => Idle) Tracked :=
    idle.weaken (fun _ given => given) (fun _ _ given => given) fun _ given => given.1
  refine Triple.read fun m => Triple.bind (steady_preserves (steady_of_quiet (startTimer_waits rfl))) fun timer => ?_
  apply Triple.get
  intro m
  apply Triple.ite
  · intro _
    exact Triple.pure fun _ given => given.2
  · intro disconnected
    have configured : Triple (fun state => state = m ∧ Tracked state)
        (Mqtt.update fun mqtt => { mqtt with
          keepAliveInterval := Mqtt.defaultKeepAlive, cleansession := cleansession })
        (fun _ => Idle) Tracked := by
      apply Triple.modify
      rintro state ⟨rfl, tracked⟩
      have idle : Idle state := ⟨tracked, by simpa using disconnected⟩
      exact ⟨⟨fun message held => .inl (idle.last held), tracked.resends, tracked.qos2, tracked.client,
        tracked.conf⟩, idle.2⟩
    apply Triple.bind configured
    intro _
    apply Triple.ite
    · intro _
      exact Triple.pure fun _ given => given.1
    · intro _
      have sending : Triple Idle (Mqtt.sendPacket (.sent (.connect clientId cleansession Mqtt.defaultKeepAlive)) timer)
          (fun outcome m => if outcome.1 then Idle m else Idle m) Tracked :=
        sendPacket_triple (fun waits => Idle.waits waits.passive) (fun m idle => idle.emit rfl) timer
      refine Triple.bind sending fun outcome => ?_
      simp only [ite_self]
      apply Triple.ite
      · intro _
        exact Triple.pure fun _ given => given.1
      · intro _
        refine Triple.bind (tracked ((waitfor_waits platform _ _).preserves Idle.waits)) fun waited => ?_
        have answered : Preserves Idle (if waited.1 then Mqtt.readConnack else pure false) :=
          Triple.ite (fun _ => readConnack_idle) fun _ => Triple.pure fun _ given => given
        refine Triple.bind (tracked answered) fun accepted => ?_
        refine Triple.bind (tracked (resend_idle_preserves platform accepted _)) fun rc => ?_
        have finished : Triple Idle (onlyIf rc (Mqtt.update fun mqtt => { mqtt with isconnected := true }))
            (fun _ => Tracked) Tracked := by
          apply Triple.ite
          · intro _
            apply Triple.modify
            intro m idle
            exact ⟨fun message held => .inl (idle.last held), idle.1.resends, idle.1.qos2, idle.1.client, idle.1.conf⟩
          · intro _
            exact Triple.pure fun _ given => given.1
        exact Triple.bind finished fun _ => Triple.pure fun _ given => given

/-! ## The other commands -/

theorem Tracked.emit {m : Machine} (tracked : Tracked m) {event : Event} (unpublished : event.unpublished) :
    Tracked { m with log := event :: m.log } :=
  tracked.unpublishing ⟨⟨[event], rfl, by simpa using unpublished⟩, fun _ held => ⟨held, fun both => both⟩, rfl, rfl⟩

theorem cleanSession_preserves : Preserves Tracked Mqtt.cleanSession :=
  Triple.modify fun _ tracked => .clean tracked.resends tracked.qos2 tracked.client tracked.conf

theorem sendPacket_preserves {event : Event} (unpublished : event.unpublished) (timer : Timer) :
    Preserves Tracked (Mqtt.sendPacket event timer) := by
  have sending : Triple Tracked (Mqtt.sendPacket event timer) (fun outcome m => if outcome.1 then Tracked m else Tracked m)
      Tracked :=
    sendPacket_triple (fun waits => Tracked.unpublishing waits.passive.unpublishing)
      (fun m tracked => tracked.emit unpublished) timer
  simpa only [ite_self] using sending

theorem disconnect_preserves : Preserves Tracked Mqtt.disconnect := by
  refine Triple.read fun m => Triple.bind (steady_preserves (steady_of_quiet (startTimer_waits rfl))) fun timer => ?_
  refine Triple.bind (sendPacket_preserves rfl timer) fun _ => Triple.modify fun m tracked => ?_
  unfold Mqtt.ended
  split
  · exact .clean tracked.resends tracked.qos2 tracked.client tracked.conf
  · rename_i kept
    refine ⟨fun message held => ?_, tracked.resends, tracked.qos2, tracked.client, tracked.conf⟩
    rcases tracked.inflight message held with last | ⟨_, clean⟩
    · exact .inl last
    · exact absurd clean kept

theorem request_preserves {packet : Nat → Packet} (unpublished : ∀ id, (Event.sent (packet id)).unpublished)
    (type : PacketType) {answer : M Bool} (answering : Keeps Steady answer) :
    Preserves Tracked (Mqtt.request platform packet type answer) := by
  refine Triple.read fun m => Triple.bind (steady_preserves (steady_of_quiet (startTimer_waits rfl))) fun timer => ?_
  apply Triple.read
  intro m
  have asked : Preserves Tracked (do
      let id ← Mqtt.getNext
      if !(packet id).fits then pure false
      else
        let outcome ← Mqtt.sendPacket (.sent (packet id)) timer
        if !outcome.1 then pure false
        else
          let waited ← Mqtt.waitfor platform type outcome.2
          if waited.1 then answer else pure false) := by
    have numbered : Preserves Tracked Mqtt.getNext := by
      refine Triple.bind (Triple.modify fun m tracked => ?_) fun _ => Triple.read fun _ => Triple.pure fun _ given => given
      exact ⟨tracked.inflight, tracked.resends, tracked.qos2, tracked.client, tracked.conf⟩
    refine Triple.bind numbered fun id => Triple.ite (fun _ => Triple.pure fun _ given => given) fun _ => ?_
    refine Triple.bind (sendPacket_preserves (unpublished id) timer) fun outcome => ?_
    refine Triple.ite (fun _ => Triple.pure fun _ given => given) fun _ => ?_
    refine Triple.bind (steady_preserves (steady_of_passive (waitfor_waits platform _ _))) fun waited => ?_
    exact Triple.ite (fun _ => steady_preserves answering) fun _ => Triple.pure fun _ given => given
  have decided : Preserves Tracked (if !m.mqtt.isconnected then pure false else _) :=
    Triple.ite (fun _ => Triple.pure fun _ given => given) fun _ => asked
  refine Triple.bind decided fun rc => ?_
  have cleaned : Preserves Tracked (onlyIf (!rc) Mqtt.cleanSession) :=
    Triple.ite (fun _ => cleanSession_preserves) fun _ => Triple.pure fun _ given => given
  exact Triple.bind cleaned fun _ => Triple.pure fun _ given => given

theorem isConnected_preserves : Preserves Tracked MqttTls.isConnected := by
  apply Triple.read
  intro m
  apply Triple.ite
  · intro _
    have left : Preserves Tracked (onlyIf m.mqtt.isconnected do
        Mqtt.disconnect
        MqttTls.update fun client => { client with sessionPresent := false }) :=
      Triple.ite (fun _ => Triple.bind disconnect_preserves fun _ => steady_preserves absent_steady)
        fun _ => Triple.pure fun _ given => given
    exact Triple.bind left fun _ => Triple.pure fun _ given => given
  · intro _
    apply Triple.ite
    · intro _
      refine Triple.bind (steady_preserves (steady_of_quiet (close_waits rfl))) fun _ => ?_
      exact Triple.bind (steady_preserves absent_steady) fun _ => Triple.pure fun _ given => given
    · intro _
      exact Triple.pure fun _ given => given

theorem clientDisconnect_preserves : Preserves Tracked MqttTls.disconnect := by
  apply Triple.read
  intro m
  have left : Preserves Tracked (onlyIf m.mqtt.isconnected Mqtt.disconnect) :=
    Triple.ite (fun _ => disconnect_preserves) fun _ => Triple.pure fun _ given => given
  refine Triple.bind left fun _ => ?_
  exact Triple.bind (steady_preserves (steady_of_quiet (close_waits rfl))) fun _ => steady_preserves absent_steady

theorem orError_preserves {action : M Bool} (preserves : Preserves Tracked action) (error : Bytes) :
    Preserves Tracked (do if ← action then return true else MqttTls.onError error) :=
  Triple.bind preserves fun _ =>
    Triple.ite (fun _ => Triple.pure fun _ given => given) fun _ => steady_preserves (onError_steady error)

theorem tlsConnect_preserves : Preserves Tracked TlsConnection.connect := by
  refine Triple.read fun m => Triple.ite (fun _ => Triple.pure fun _ given => given) fun _ => ?_
  refine Triple.bind (steady_preserves (reply_steady (fun _ => rfl) fun _ => List.Subset.refl _)) fun reply => ?_
  cases reply with
  | some error =>
      refine Triple.bind (steady_preserves (steady_of_quiet (fail_waits error))) fun _ => ?_
      exact Triple.pure fun _ given => given
  | none =>
      have opened : Preserves Tracked
          (modify fun m => { m with tls := { m.tls with connected := true, lastError := none } } : M PUnit) :=
        Triple.modify fun m tracked => ⟨tracked.inflight, tracked.resends, tracked.qos2, tracked.client, tracked.conf⟩
      refine Triple.bind opened fun _ => ?_
      exact Triple.bind (Triple.modify fun m tracked => tracked.emit rfl) fun _ => Triple.pure fun _ given => given

theorem connectSession_preserves (cleanSession : Bool) :
    Preserves Tracked (MqttTls.connectSession platform cleanSession) := by
  refine Triple.bind isConnected_preserves fun connected => ?_
  refine Triple.ite (fun _ => Triple.pure fun _ given => given) fun _ => ?_
  refine Triple.bind tlsConnect_preserves fun reached => ?_
  apply Triple.ite
  · intro _
    exact Triple.read fun m => steady_preserves (onError_steady _)
  · intro _
    have connecting : Preserves Tracked (MqttTls.mqttConnect platform cleanSession) :=
      Triple.read fun m => orError_preserves (connect_preserves platform _ _) _
    refine Triple.bind connecting fun accepted => ?_
    apply Triple.ite
    · intro _
      refine Triple.bind (Triple.modify fun m tracked => ?_) fun _ => Triple.pure fun _ given => given
      exact ⟨tracked.inflight, tracked.resends, tracked.qos2, tracked.client, tracked.conf⟩
    · intro _
      refine Triple.bind (steady_preserves (steady_of_quiet (close_waits rfl))) fun _ => ?_
      exact Triple.pure fun _ given => given

theorem clientConnect_preserves : Preserves Tracked (MqttTls.connect platform) := by
  refine Triple.bind (connectSession_preserves platform true) fun connected => ?_
  refine Triple.ite (fun _ => Triple.pure fun _ given => given) fun _ => Triple.read fun m => ?_
  refine Triple.ite (fun _ => Triple.pure fun _ given => given) fun _ => ?_
  exact Triple.bind clientDisconnect_preserves fun _ => connectSession_preserves platform false

theorem clientSubscribe_preserves (topic : Bytes) : Preserves Tracked (MqttTls.subscribe platform topic) :=
  Triple.read fun _ =>
    orError_preserves (request_preserves platform (fun _ => rfl) _ (steady_of_quiet (readSuback_waits platform))) _

theorem clientUnsubscribe_preserves (topic : Bytes) : Preserves Tracked (MqttTls.unsubscribe platform topic) :=
  orError_preserves (request_preserves platform (fun _ => rfl) _ (Keeps.pure _)) _

theorem clientPublish_preserves (topic message : Bytes) :
    Preserves Tracked (MqttTls.publish platform topic message) := by
  apply Triple.get
  intro m
  have publishing : ∀ state, state = m ∧ Tracked state → m.mqttTls.qos = .qos2 := by
    rintro state ⟨rfl, tracked⟩
    exact tracked.client
  intro before given
  rw [publishing before given]
  exact orError_preserves (publish_preserves platform _ _) _ before given.2

/-! ## Calls of the client -/

theorem modify_preserves {change : Machine → Machine} (keeps : ∀ m, Tracked m → Tracked (change m)) :
    Preserves Tracked (modify change : M PUnit) :=
  Triple.modify keeps

theorem update_preserves {change : Impl → Impl}
    (conf : ∀ impl, (change impl).conf.useMqttQoS2 = impl.conf.useMqttQoS2) :
    Preserves Tracked (Client.update change) :=
  Triple.modify fun m tracked =>
    ⟨tracked.inflight, tracked.resends, tracked.qos2, tracked.client, (conf m.impl).trans tracked.conf⟩

theorem restore_preserves (topics : List Bytes) : Preserves Tracked (Client.restore platform topics) := by
  induction topics with
  | nil => exact Triple.pure fun _ given => given
  | cons topic rest ih =>
      refine Triple.bind (clientSubscribe_preserves platform topic) fun granted => ?_
      refine Triple.ite (fun _ => ih) fun _ => ?_
      exact Triple.bind (steady_preserves reportClientError_steady) fun _ => Triple.pure fun _ given => given

theorem reconnect_preserves : Preserves Tracked (Client.reconnect platform) := by
  refine Triple.bind (steady_preserves (authenticate_steady platform)) fun authenticated => ?_
  refine Triple.ite (fun _ => Triple.pure fun _ given => given) fun _ => ?_
  have again : Preserves Tracked (MqttTls.reconnect platform) :=
    Triple.read fun _ => connectSession_preserves platform _
  refine Triple.bind again fun connected => ?_
  refine Triple.ite (fun _ => Triple.pure fun _ given => given) fun _ => Triple.read fun m => ?_
  refine Triple.ite (fun _ => Triple.pure fun _ given => given) fun _ => ?_
  exact Triple.read fun m => restore_preserves platform _

theorem reportConnected_preserves : Preserves Tracked Client.reportConnected :=
  Triple.bind (update_preserves fun _ => rfl) fun _ =>
    Triple.bind (Triple.modify fun _ tracked => Tracked.emit tracked rfl) fun _ => Triple.pure fun _ given => given

theorem checkConnection_preserves : Preserves Tracked (Client.checkConnection platform) := by
  refine Triple.bind isConnected_preserves fun connected => ?_
  refine Triple.ite (fun _ => Triple.read fun _ => Triple.pure fun _ given => given) fun _ => Triple.read fun m => ?_
  have lost : Preserves Tracked (onlyIf (m.impl.state = .connected) Client.reportLost) :=
    Triple.ite (fun _ => Triple.bind (update_preserves fun _ => rfl) fun _ =>
      Triple.read fun _ => Triple.modify fun _ tracked => Tracked.emit tracked rfl) fun _ => Triple.pure fun _ given => given
  refine Triple.bind lost fun _ => Triple.bind (reconnect_preserves platform) fun reconnected => ?_
  refine Triple.ite (fun _ => reportConnected_preserves) fun _ => ?_
  refine Triple.bind (steady_preserves reportLastError_steady) fun _ => ?_
  exact Triple.read fun _ => Triple.pure fun _ given => given

theorem checkState_preserves : Preserves Tracked (Client.checkState platform) := by
  apply Triple.read
  intro m
  cases m.impl.state with
  | noSession =>
      exact Triple.bind (steady_preserves (emit_steady rfl)) fun _ => Triple.pure fun _ given => given
  | initial =>
      have connecting : Preserves Tracked (Client.initialConnect platform) :=
        Triple.bind (steady_preserves (authenticate_steady platform)) fun _ =>
          Triple.ite (fun _ => clientConnect_preserves platform) fun _ => Triple.pure fun _ given => given
      refine Triple.bind connecting fun _ => Triple.ite (fun _ => reportConnected_preserves) fun _ => ?_
      exact Triple.bind (steady_preserves reportLastError_steady) fun _ => Triple.pure fun _ given => given
  | connected => exact checkConnection_preserves platform
  | disconnected => exact checkConnection_preserves platform

theorem prepare_preserves {conf : Config} (useMqttQoS2 : conf.useMqttQoS2 = true) (userId : Bytes) :
    Preserves Tracked (Client.prepare conf userId) := by
  refine Triple.bind (update_preserves fun _ => rfl) fun _ => Triple.bind (modify_preserves ?_) fun _ => ?_
  · exact fun _ tracked => ⟨tracked.inflight, tracked.resends, tracked.qos2, tracked.client, tracked.conf⟩
  · have timed : Preserves Tracked (onlyIf (conf.mqttCommandTimeoutMillisec > 0) (Mqtt.update fun mqtt =>
        { mqtt with commandTimeout := conf.mqttCommandTimeoutMillisec })) := by
      apply Triple.ite
      · intro _
        apply Triple.modify
        exact fun _ tracked => ⟨tracked.inflight, tracked.resends, tracked.qos2, tracked.client, tracked.conf⟩
      · intro _
        exact Triple.pure fun _ given => given
    refine Triple.bind timed fun _ => Triple.bind (modify_preserves ?_) fun _ => update_preserves fun _ => rfl
    intro m tracked
    exact ⟨tracked.inflight, tracked.resends, tracked.qos2, if_pos useMqttQoS2, tracked.conf⟩

theorem startSession_preserves : Preserves Tracked (Client.startSession platform) := by
  apply Triple.read
  intro m
  refine Triple.ite (fun _ => Triple.get fun m => ?_) fun _ => Triple.pure fun _ given => given
  intro before given
  have useMqttQoS2 : m.impl.conf.useMqttQoS2 = true := given.1 ▸ given.2.conf
  refine Triple.bind (steady_preserves (ofExcept_steady _)) (fun userId => ?_) before given.2
  refine Triple.bind (prepare_preserves useMqttQoS2 userId) fun _ => ?_
  exact Triple.bind (checkState_preserves platform) fun _ => Triple.pure fun _ given => given

theorem endSession_preserves : Preserves Tracked Client.endSession := by
  refine Triple.read fun m => Triple.ite (fun _ => Triple.pure fun _ given => given) fun _ => ?_
  exact Triple.bind clientDisconnect_preserves fun _ => update_preserves fun _ => rfl

theorem command_preserves {action : M Bool} (preserves : Preserves Tracked action) {success : Impl → Impl}
    (conf : ∀ impl, (success impl).conf = impl.conf) :
    Preserves Tracked (Client.command platform action success) := by
  refine Triple.bind (checkState_preserves platform) fun passed => ?_
  refine Triple.ite (fun _ => Triple.pure fun _ given => given) fun _ => Triple.bind preserves fun _ => ?_
  apply Triple.ite
  · intro _
    refine Triple.bind (update_preserves fun impl => ?_) fun _ => Triple.pure fun _ given => given
    rw [conf]
  · intro _
    exact Triple.bind (steady_preserves reportClientError_steady) fun _ => Triple.pure fun _ given => given

theorem sendPrivateMessage_preserves (userIdTo payload : Bytes) (encrypt : Bool) :
    Preserves Tracked (Client.sendPrivateMessage platform userIdTo payload encrypt) := by
  refine Triple.tryCatch (?_ : Preserves Tracked _) fun fault => ?_
  · have seeded : Preserves Tracked (if encrypt then nextIv else pure none) :=
      Triple.ite (fun _ => steady_preserves (reply_steady (fun _ => rfl) fun _ => List.Subset.refl _)) fun _ => Triple.pure fun _ given => given
    refine Triple.bind seeded fun random => Triple.read fun m => ?_
    refine Triple.bind (steady_preserves (ofExcept_steady _)) fun text => ?_
    exact command_preserves platform (clientPublish_preserves platform _ _) fun _ => rfl
  · cases fault with
    | iot what => exact Triple.bind (steady_preserves (emit_steady rfl)) fun _ => Triple.pure fun _ given => given
    | _ => exact Triple.throw fun _ given => given

theorem perform_preserves {call : Client.Call} (qos2 : ∀ conf, call = .configure conf → conf.useMqttQoS2 = true) :
    Preserves Tracked (Client.perform platform call) := by
  cases call with
  | configure conf =>
      refine Triple.bind (modify_preserves ?_) fun _ => Triple.pure fun _ given => given
      exact fun m tracked => ⟨tracked.inflight, tracked.resends, tracked.qos2, tracked.client, qos2 conf rfl⟩
  | startSession => exact Triple.bind (startSession_preserves platform) fun _ => Triple.pure fun _ given => given
  | endSession => exact Triple.bind endSession_preserves fun _ => Triple.pure fun _ given => given
  | isConnected => exact isConnected_preserves
  | subscribe topic => exact command_preserves platform (clientSubscribe_preserves platform topic) fun _ => rfl
  | unsubscribe topic => exact command_preserves platform (clientUnsubscribe_preserves platform topic) fun _ => rfl
  | publish topic payload =>
      exact command_preserves platform (clientPublish_preserves platform topic payload) fun _ => rfl
  | listenForPrivateMessages =>
      exact Triple.read fun m => command_preserves platform (clientSubscribe_preserves platform _) fun _ => rfl
  | sendPrivateMessage userIdTo payload encrypt =>
      exact sendPrivateMessage_preserves platform userIdTo payload encrypt
  | runMessageLoop timeout =>
      exact command_preserves platform (steady_preserves (runMessageLoop_steady platform timeout)) fun _ => rfl

theorem run_tracked {calls : List Client.Call}
    (qos2 : ∀ conf, .configure conf ∈ calls → conf.useMqttQoS2 = true) {m : Machine} (tracked : Tracked m) :
    Tracked (Client.run platform calls m) :=
  calls.foldlRecOn _ tracked fun _ tracked _ member =>
    Triple.last (perform_preserves platform fun conf same => qos2 conf (same ▸ member)) tracked

theorem fresh_tracked (readbuf : Bytes) (replies : Replies) : Tracked (Client.fresh readbuf replies) :=
  ⟨fun _ held => (by cases held), trivial, fun _ member => (by cases member), rfl, rfl⟩

/-- Over every run at QoS 2 the broker accepts each message at most once just when no message was sent again
after its release. -/
theorem run_atMostOnce_iff {calls : List Client.Call}
    (qos2 : ∀ conf, .configure conf ∈ calls → conf.useMqttQoS2 = true) (readbuf : Bytes) (replies : Replies) :
    AtMostOnce (Client.run platform calls (Client.fresh readbuf replies)).log ↔
      resendsUnreleased (Client.run platform calls (Client.fresh readbuf replies)).log := by
  have tracked := run_tracked platform qos2 (fresh_tracked readbuf replies)
  exact atMostOnce_iff_resendsUnreleased tracked.resends tracked.qos2

/-! ## Sample runs -/

def publishAndListen (loops : Nat) : List Client.Call :=
  [.configure (sampleConf true true), .startSession, .publish (bytes "t") (bytes "p")] ++
    List.replicate loops (.runMessageLoop 100)

def secondChance (reads : List ReadReply) : Replies :=
  { sampleReplies (List.replicate 12 3) [none, none, none] (List.replicate 12 (.sent false)) reads with
    randoms := List.replicate 4 (some [])
    exchanges := sampleExchanges ++ sampleExchanges }

def lostConnection : ReadReply := ⟨.failure, some (bytes "lost")⟩

theorem run_atMostOnce_interrupted :
    AtMostOnce (Client.run (plainPlatform .signed) (publishAndListen 2) (Client.fresh []
      (secondChance [sampleConnack 0, sampleConnack 0, lostConnection, sampleConnack 0]))).log := by
  apply (run_atMostOnce_iff _ _ _ _).mpr
  · decide +kernel
  · simp [publishAndListen, sampleConf]

/-- The connection is lost after the PUBCOMP, and the message is sent again. -/
theorem not_run_atMostOnce :
    ¬ AtMostOnce (Client.run (plainPlatform .signed) (publishAndListen 3) (Client.fresh []
      (secondChance [sampleConnack 0, sampleConnack 0, samplePacket 0x50 [0, 1] (by simp),
        samplePacket 0x70 [0, 1] (by simp), ⟨.failure, none⟩, lostConnection, sampleConnack 0]))).log := by
  intro once
  have twice : ¬ (Broker.afterAll (arrivals (Client.run (plainPlatform .signed) (publishAndListen 3) (Client.fresh []
      (secondChance [sampleConnack 0, sampleConnack 0, samplePacket 0x50 [0, 1] (by simp),
        samplePacket 0x70 [0, 1] (by simp), ⟨.failure, none⟩, lostConnection, sampleConnack 0]))).log)).accepted.Nodup := by
    decide +kernel
  exact twice (once _ (List.Sublist.refl _))

end IotClient
