import IotClient.Proof.Session
import IotClient.Spec.SessionPresent

namespace IotClient
open Logic

/-! ## The flag and the connection -/

def FlagFits (m : Machine) : Prop := m.mqttTls.sessionPresent → m.mqtt.isconnected

def Grounded (m : Machine) : Prop := m.mqtt.inflight = none

structure Resting (m : Machine) : Prop where
  absent : m.mqttTls.sessionPresent = false
  grounded : Grounded m
  unlinked : Unlinked m

theorem flagFits_of_absent {m : Machine} (absent : m.mqttTls.sessionPresent = false) : FlagFits m := by
  intro present
  rw [absent] at present
  cases present

theorem FlagFits.waits {allowed : Event → Bool} {before after : Machine} (waits : Waits allowed before after)
    (fits : FlagFits before) : FlagFits after := by
  unfold FlagFits
  rw [waits.mqttTls, waits.isconnected]
  exact fits

theorem Resting.waits {allowed : Event → Bool} {before after : Machine} (waits : Waits allowed before after)
    (resting : Resting before) : Resting after :=
  ⟨(congrArg MqttTls.sessionPresent waits.mqttTls).trans resting.absent, waits.inflight.trans resting.grounded,
    waits.isconnected.trans resting.unlinked⟩

section Flag

variable (platform : Platform)

theorem flagFits_of_waits {α : Type} {allowed : Event → Bool} {program : M α} (waits : Keeps (Waits allowed) program) :
    Preserves FlagFits program :=
  waits.preserves FlagFits.waits

theorem onError_fits {pre : Machine → Prop} (error : Bytes) {faulty : Machine → Prop} :
    Triple pre (MqttTls.onError error) (fun _ => FlagFits) faulty :=
  Triple.read fun _ => Triple.bind (Triple.modify fun _ _ => flagFits_of_absent rfl) fun _ => Triple.pure fun _ fits => fits

theorem isConnected_fits :
    Triple FlagFits MqttTls.isConnected
      (fun connected m => if connected then FlagFits m else m.mqttTls.sessionPresent = false) FlagFits := by
  have absent {pre faulty : Machine → Prop} : Triple pre
      (MqttTls.update fun client => { client with sessionPresent := false })
      (fun _ m => m.mqttTls.sessionPresent = false) faulty := Triple.modify fun _ _ => rfl
  have anything {α : Type} {pre faulty : Machine → Prop} {program : M α} (throws : Throws (fun _ => False) program) :
      Triple pre program (fun _ _ => True) faulty := triple_of_returns (fun _ _ => trivial) throws
  refine Triple.get fun read => Triple.ite (fun _ => ?_) fun _ => Triple.ite (fun _ => ?_) fun _ => ?_
  · have left : Triple (fun m => m = read ∧ FlagFits m) (onlyIf read.mqtt.isconnected do
          Mqtt.disconnect
          MqttTls.update fun client => { client with sessionPresent := false })
        (fun _ m => m.mqttTls.sessionPresent = false) FlagFits := by
      refine Triple.ite (fun _ => Triple.bind (anything mqttDisconnect_throws) fun _ => absent) fun unlinked => ?_
      refine Triple.pure ?_
      rintro m ⟨rfl, fits⟩
      exact Bool.eq_false_iff.mpr fun present => unlinked (fits present)
    exact Triple.bind left fun _ => Triple.pure fun _ absent => absent
  · exact Triple.bind (anything close_throws) fun _ => Triple.bind absent fun _ => Triple.pure fun _ absent => absent
  · exact Triple.pure fun _ given => given.2

theorem clientDisconnect_fits {pre faulty : Machine → Prop} :
    Triple pre MqttTls.disconnect (fun _ => FlagFits) faulty := by
  have anything {α : Type} {pre faulty : Machine → Prop} {program : M α} (throws : Throws (fun _ => False) program) :
      Triple pre program (fun _ _ => True) faulty := triple_of_returns (fun _ _ => trivial) throws
  refine Triple.read fun _ => Triple.bind (anything (onlyIf_throws mqttDisconnect_throws)) fun _ => ?_
  exact Triple.bind (anything close_throws) fun _ => Triple.modify fun _ _ => flagFits_of_absent rfl

theorem orError_fits {action : M Bool}
    (acts : Triple FlagFits action (fun rc m => rc = true → FlagFits m) FlagFits) (error : Bytes) :
    Preserves FlagFits (do if ← action then return true else MqttTls.onError error) := by
  refine Triple.bind acts fun rc => ?_
  cases rc with
  | true => exact Triple.pure fun _ fits => fits rfl
  | false => exact onError_fits error

theorem getNext_fits : Preserves FlagFits Mqtt.getNext :=
  Triple.bind (Triple.modify fun _ fits => fits) fun _ => Triple.read fun _ => Triple.pure fun _ fits => fits

theorem cleanUnless_fits (rc : Bool) :
    Triple FlagFits (do
      onlyIf (!rc) Mqtt.cleanSession
      return rc) (fun rc m => rc = true → FlagFits m) FlagFits := by
  cases rc with
  | true => exact Triple.bind (Triple.pure fun _ fits => fits) fun _ => Triple.pure fun _ fits _ => fits
  | false =>
      have cleaned : Triple FlagFits Mqtt.cleanSession (fun _ _ => True) FlagFits := Triple.modify fun _ _ => trivial
      exact Triple.bind cleaned fun _ => Triple.pure fun _ _ impossible => by cases impossible

theorem request_fits (packet : Nat → Packet) (type : PacketType) {answer : M Bool}
    (answering : Keeps (Waits Event.quiet) answer) :
    Triple FlagFits (Mqtt.request platform packet type answer) (fun rc m => rc = true → FlagFits m) FlagFits := by
  have failed : Preserves FlagFits (pure false : M Bool) := Triple.pure fun _ fits => fits
  have sending (event : Event) (timer : Timer) : Preserves FlagFits (Mqtt.sendPacket event timer) := by
    have waits : Keeps (Waits fun _ => true) (Mqtt.sendPacket event timer) := sendPacket_waits timer rfl rfl
    exact flagFits_of_waits waits
  have timing (milliseconds : Nat) : Preserves FlagFits (startTimer milliseconds) := by
    have waits : Keeps (Waits fun _ => true) (startTimer milliseconds) := startTimer_waits rfl
    exact flagFits_of_waits waits
  refine Triple.read fun _ => Triple.bind (timing _) fun timer => Triple.read fun m => ?_
  refine Triple.bind (Triple.ite (fun _ => failed) fun _ => ?_) fun rc => cleanUnless_fits rc
  refine Triple.bind getNext_fits fun id => Triple.ite (fun _ => failed) fun _ => ?_
  refine Triple.bind (sending _ timer) fun outcome => Triple.ite (fun _ => failed) fun _ => ?_
  refine Triple.bind (flagFits_of_waits (waitfor_waits platform type _)) fun waited => ?_
  exact Triple.ite (fun _ => flagFits_of_waits answering) fun _ => failed

theorem transmit_fits {event : Event} (timer : Timer) (qos : QoS) :
    Triple FlagFits (Mqtt.transmit platform event timer qos) (fun rc m => rc = true → FlagFits m) FlagFits := by
  have failed {rc : Bool} : Preserves FlagFits (pure rc : M Bool) := Triple.pure fun _ fits => fits
  have sending : Keeps (Waits fun _ => true) (Mqtt.sendPacket event timer) := sendPacket_waits timer rfl rfl
  refine Triple.bind (flagFits_of_waits sending) fun outcome => ?_
  refine Triple.bind (Triple.ite (fun _ => failed) fun _ => Triple.ite (fun _ => ?_) fun _ => failed) fun rc =>
    cleanUnless_fits rc
  refine Triple.bind (flagFits_of_waits (waitfor_waits platform .puback _)) fun waited => ?_
  refine Triple.ite (fun _ => Triple.read fun m => ?_) fun _ => failed
  have reading : Preserves FlagFits (M.ofExcept (deserializeAck m.mqtt.readbuf)) := by
    have waits : Keeps (Waits fun _ => true) (M.ofExcept (deserializeAck m.mqtt.readbuf)) := ofExcept_waits _
    exact flagFits_of_waits waits
  refine Triple.bind reading fun read => Triple.ite (fun _ => failed) fun _ => ?_
  refine Triple.bind (flagFits_of_waits (idOr_waits _)) fun id => ?_
  exact Triple.bind (Triple.modify fun _ fits => fits) fun _ => failed

theorem mqttPublish_fits (topicName payload : Bytes) (qos : QoS) :
    Triple FlagFits (Mqtt.publish platform topicName payload qos) (fun rc m => rc = true → FlagFits m) FlagFits := by
  have failed : Triple FlagFits (pure false : M Bool) (fun rc m => rc = true → FlagFits m) FlagFits :=
    Triple.pure fun _ fits _ => fits
  have timing (milliseconds : Nat) : Keeps (Waits fun _ => true) (startTimer milliseconds) := startTimer_waits rfl
  refine Triple.read fun _ => Triple.bind (flagFits_of_waits (timing _)) fun timer => Triple.read fun m => ?_
  refine Triple.ite (fun _ => failed) fun _ => ?_
  refine Triple.bind (Triple.ite (fun _ => getNext_fits) fun _ => Triple.pure fun _ fits => fits) fun id => ?_
  refine Triple.ite (fun _ => failed) fun _ => Triple.read fun m => ?_
  have noted (condition : Bool) (change : Mqtt → Mqtt) (same : ∀ mqtt, (change mqtt).isconnected = mqtt.isconnected) :
      Preserves FlagFits (onlyIf condition (Mqtt.update change)) := by
    refine Triple.ite (fun _ => Triple.modify fun m fits present => ?_) fun _ => Triple.pure fun _ fits => fits
    exact (same m.mqtt).trans (fits present)
  exact Triple.bind (noted _ _ fun _ => rfl) fun _ => transmit_fits platform timer qos

/-! ## Connecting -/

theorem resend_grounded (accepted : Bool) (timer : Timer) {faulty : Machine → Prop} :
    Triple Grounded (Mqtt.resend platform accepted timer) (fun _ => Grounded) faulty := by
  refine Triple.get fun read => ?_
  rintro m ⟨rfl, grounded⟩
  rw [grounded]
  exact grounded

theorem mqttConnect_flagFits (clientId : Bytes) (cleansession : Bool) :
    Triple Resting (Mqtt.connect platform clientId cleansession)
      (fun rc m => m.mqtt.isconnected = rc ∧ Grounded m) FlagFits := by
  have kept {α : Type} {allowed : Event → Bool} {program : M α} (waits : Keeps (Waits allowed) program) :
      Triple Resting program (fun _ => Resting) FlagFits :=
    (waits.preserves Resting.waits).weaken (fun _ given => given) (fun _ _ given => given) fun _ resting =>
      flagFits_of_absent resting.absent
  have grounds : Triple Resting (Mqtt.connect platform clientId cleansession) (fun _ => Grounded) FlagFits := by
    have failed : Triple Resting (pure false : M Bool) (fun _ => Grounded) FlagFits :=
      Triple.pure fun _ resting => resting.grounded
    have timing (milliseconds : Nat) : Keeps (Waits fun _ => true) (startTimer milliseconds) := startTimer_waits rfl
    have sending (event : Event) (timer : Timer) : Keeps (Waits fun _ => true) (Mqtt.sendPacket event timer) :=
      sendPacket_waits timer rfl rfl
    refine Triple.read fun m => Triple.bind (kept (timing _)) fun timer => Triple.read fun m => ?_
    have changed (change : Mqtt → Mqtt) (inflight : ∀ mqtt, (change mqtt).inflight = mqtt.inflight)
        (isconnected : ∀ mqtt, (change mqtt).isconnected = mqtt.isconnected) :
        Triple Resting (Mqtt.update change) (fun _ => Resting) FlagFits :=
      Triple.modify fun m resting => ⟨resting.absent, (inflight m.mqtt).trans resting.grounded,
        (isconnected m.mqtt).trans resting.unlinked⟩
    refine Triple.ite (fun _ => failed) fun _ => Triple.bind (changed _ (fun _ => rfl) fun _ => rfl) fun _ => ?_
    refine Triple.ite (fun _ => failed) fun _ => Triple.bind (kept (sending _ timer)) fun outcome => ?_
    refine Triple.ite (fun _ => failed) fun _ => Triple.bind (kept (waitfor_waits platform _ _)) fun waited => ?_
    have answered : Triple Resting (if waited.1 then Mqtt.readConnack else pure false) (fun _ => Grounded) FlagFits := by
      refine Triple.ite (fun _ => Triple.read fun m => ?_) fun _ => failed
      have reading : Keeps (Waits fun _ => true) (M.ofExcept (deserializeConnack m.mqtt.readbuf)) := ofExcept_waits _
      have noted (present : Bool) : Triple Resting
          (modify fun m => { m with mqttTls := { m.mqttTls with sessionPresent := present } } : M PUnit)
          (fun _ => Grounded) FlagFits := Triple.modify fun m resting => resting.grounded
      refine Triple.bind (kept reading) fun read => Triple.bind (noted _) fun _ => ?_
      exact Triple.pure fun _ grounded => grounded
    refine Triple.bind answered fun accepted => Triple.bind (resend_grounded platform accepted _) fun rc => ?_
    have linked (change : Mqtt → Mqtt) (same : ∀ mqtt, (change mqtt).inflight = mqtt.inflight) :
        Triple Grounded (onlyIf rc (Mqtt.update change)) (fun _ => Grounded) FlagFits :=
      Triple.ite (fun _ => Triple.modify fun m grounded => (same m.mqtt).trans grounded) fun _ =>
        Triple.pure fun _ grounded => grounded
    exact Triple.bind (linked _ fun _ => rfl) fun _ => Triple.pure fun _ grounded => grounded
  refine ((mqttConnect_links platform clientId cleansession).and grounds).weaken ?_ (fun _ _ given => given) ?_
  · exact fun _ resting => ⟨resting.unlinked, resting⟩
  · exact fun _ given => given.2

theorem isConnected_grounded : Preserves Grounded MqttTls.isConnected := by
  refine triple_of_returns ?_ isConnected_throws
  intro before connected after grounded run
  have outcome := isConnected_returns run
  cases connected with
  | true =>
      obtain ⟨_, _, rfl⟩ := outcome
      exact grounded
  | false =>
      obtain ⟨_, _, mqtt, _⟩ := outcome
      unfold Grounded
      rw [mqtt]
      split
      · unfold Mqtt.ended
        split
        · rfl
        · exact grounded
      · exact grounded

theorem connectSession_fits (cleanSession : Bool) :
    Triple (fun m => FlagFits m ∧ Grounded m) (MqttTls.connectSession platform cleanSession)
      (fun _ m => FlagFits m ∧ Grounded m) FlagFits := by
  have looking : Triple (fun m => FlagFits m ∧ Grounded m) MqttTls.isConnected
      (fun connected m => if connected then FlagFits m ∧ Grounded m else Resting m ∧ m.tls.connected = false)
      FlagFits := by
    have settles : Triple (fun _ => True) MqttTls.isConnected Settled Grounded := isConnected_settles
    refine (isConnected_fits.and (isConnected_grounded.and settles)).weaken ?_ ?_ fun _ given => given.1
    · exact fun _ given => ⟨given.1, given.2, trivial⟩
    · rintro connected m ⟨fits, grounded, settled⟩
      cases connected with
      | true => exact ⟨fits, grounded⟩
      | false => exact ⟨⟨fits, grounded, settled.1⟩, settled.2 rfl⟩
  have failing (error : Bytes) : Triple Grounded (MqttTls.onError error) (fun _ m => FlagFits m ∧ Grounded m) FlagFits :=
    Triple.read fun _ => Triple.bind (Triple.modify fun _ grounded => ⟨flagFits_of_absent rfl, grounded⟩) fun _ =>
      Triple.pure fun _ given => given
  refine Triple.bind looking fun connected => ?_
  cases connected with
  | true => exact Triple.pure fun _ given => given
  | false =>
      have trying : Triple (fun m => Resting m ∧ m.tls.connected = false) TlsConnection.connect (fun _ => Resting)
          FlagFits := by
        refine triple_of_returns ?_ tlsConnect_throws
        rintro before reached after ⟨resting, closed⟩ run
        obtain ⟨mqtt, mqttTls, _⟩ := tlsConnect_returns closed run
        refine ⟨?_, ?_, ?_⟩
        · rw [mqttTls]
          exact resting.absent
        · unfold Grounded
          rw [mqtt]
          exact resting.grounded
        · unfold Unlinked
          rw [mqtt]
          exact resting.unlinked
      refine Triple.bind trying fun reached => Triple.ite (fun _ => ?_) fun _ => ?_
      · exact (Triple.read fun m => failing _).starting fun _ resting => resting.grounded
      · have connecting : Triple Resting (MqttTls.mqttConnect platform cleanSession)
            (fun _ m => FlagFits m ∧ Grounded m) FlagFits := by
          refine Triple.read fun m => Triple.bind (mqttConnect_flagFits platform _ _) fun rc => ?_
          cases rc with
          | true => exact Triple.pure fun _ given => ⟨fun _ => given.1, given.2⟩
          | false => exact (failing _).starting fun _ given => given.2
        refine Triple.bind connecting fun accepted => Triple.ite (fun _ => ?_) fun _ => ?_
        · exact Triple.bind (Triple.modify fun _ given => given) fun _ => Triple.pure fun _ given => given
        · have closing : Keeps (Waits Event.quiet) TlsConnection.close := close_waits rfl
          refine Triple.bind ((closing.preserves fun waits given => ?_).weaken (fun _ given => given)
            (fun _ _ given => given) fun _ given => given.1) fun _ => Triple.pure fun _ given => given
          exact ⟨given.1.waits waits, waits.inflight.trans given.2⟩

theorem clientDisconnect_leaves {faulty : Machine → Prop} :
    Triple Grounded MqttTls.disconnect (fun _ m => (FlagFits m ∧ Grounded m) ∧ m.tls.connected = false) faulty := by
  have left (read : Machine) :
      Triple Grounded (onlyIf read.mqtt.isconnected Mqtt.disconnect) (fun _ => Grounded) faulty := by
    refine Triple.ite (fun _ => triple_of_returns ?_ mqttDisconnect_throws) fun _ => Triple.pure fun _ given => given
    intro before _ after grounded run
    unfold Mqtt.disconnect at run
    obtain ⟨timer, started, starting, run⟩ := run_bind_eq_ok.mp (run_get_bind ▸ run)
    obtain ⟨outcome, out, sending, run⟩ := run_bind_eq_ok.mp run
    have timed : Waits (fun _ => true) before started := (startTimer_waits rfl).returns starting
    have sent : Waits (fun _ => true) started out := (sendPacket_waits _ rfl rfl).returns sending
    rw [← run_modify_eq_ok.mp run]
    show (Mqtt.ended out.mqtt).inflight = none
    unfold Mqtt.ended
    split
    · rfl
    · exact sent.inflight.trans (timed.inflight.trans grounded)
  have closing : Keeps (Waits Event.quiet) TlsConnection.close := close_waits rfl
  refine Triple.read fun m => Triple.bind (left m) fun _ => ?_
  refine Triple.bind (close_closes (closing.preserves fun waits grounded => waits.inflight.trans grounded)) fun _ => ?_
  exact Triple.modify fun _ given => ⟨⟨flagFits_of_absent rfl, given.1⟩, given.2⟩

theorem clientConnect_fits :
    Triple (fun m => FlagFits m ∧ Grounded m) (MqttTls.connect platform) (fun _ => FlagFits) FlagFits := by
  refine Triple.bind (connectSession_fits platform true) fun connected => ?_
  refine Triple.ite (fun _ => Triple.pure fun _ given => given.1) fun _ => Triple.read fun m => ?_
  refine Triple.ite (fun _ => Triple.pure fun _ given => given.1) fun _ => ?_
  refine Triple.bind (clientDisconnect_leaves.starting fun _ given => given.2) fun _ => ?_
  exact (connectSession_fits platform false).weaken (fun _ given => given.1) (fun _ _ given => given.1) fun _ fits => fits

theorem perform_fits (call : MqttTls.Call) :
    Triple (fun m => FlagFits m ∧ (call.connects → Grounded m)) (MqttTls.perform platform call) (fun _ => FlagFits)
      FlagFits := by
  have set {change : Machine → Machine} (fits : ∀ m, FlagFits m → FlagFits (change m)) {connects : Prop} :
      Triple (fun m => FlagFits m ∧ (connects → Grounded m)) (do
        modify change
        return true : M Bool) (fun _ => FlagFits) FlagFits :=
    Triple.bind (Triple.modify fun m given => fits m given.1) fun _ => Triple.pure fun _ fits => fits
  have acts {action : M Bool} {connects : Prop} (preserves : Preserves FlagFits action) :
      Triple (fun m => FlagFits m ∧ (connects → Grounded m)) action (fun _ => FlagFits) FlagFits :=
    preserves.starting fun _ given => given.1
  cases call with
  | setId clientId => exact set fun _ fits => fits
  | setBrokerAddress host port => exact set fun _ fits => fits
  | setPsk psk pskId => exact set fun _ fits => fits
  | setCommandTimeout timeout => exact set fun _ fits => fits
  | setQoS qos => exact set fun _ fits => fits
  | usePersistentSession usePersistentSession => exact set fun _ fits => fits
  | connect => exact (clientConnect_fits platform).starting fun _ given => ⟨given.1, given.2 rfl⟩
  | reconnect =>
      refine Triple.read fun m => (connectSession_fits platform _).weaken ?_ (fun _ _ given => given.1) fun _ fits => fits
      exact fun _ given => ⟨given.1, given.2 rfl⟩
  | disconnect => exact Triple.bind clientDisconnect_fits fun _ => Triple.pure fun _ fits => fits
  | isConnected =>
      refine acts (isConnected_fits.weaken (fun _ given => given) (fun connected m given => ?_) fun _ fits => fits)
      cases connected with
      | true => exact given
      | false => exact flagFits_of_absent given
  | subscribe topic =>
      exact acts (Triple.read fun m => orError_fits (request_fits platform _ _ (readSuback_waits platform)) _)
  | unsubscribe topic => exact acts (orError_fits (request_fits platform _ _ (Keeps.pure _)) _)
  | publish topic message => exact acts (Triple.read fun m => orError_fits (mqttPublish_fits platform _ _ _) _)
  | runMessageLoop timeout =>
      refine acts (Triple.bind (flagFits_of_waits (yield_waits platform timeout)) fun _ => ?_)
      refine Triple.ite (fun _ => Triple.pure fun _ fits => fits) fun _ => Triple.read fun m => ?_
      exact Triple.ite (fun _ => Triple.pure fun _ fits => fits) fun _ => onError_fits _

/-! ## The flag after a new connection -/

theorem connacks_append {events older : List Event}
    (none : ∀ event ∈ events, event ≠ .opened ∧ event.frameOf .connack = Option.none) :
    connacks (events ++ older) = connacks older := by
  induction events with
  | nil => rfl
  | cons event rest ih =>
      have rest' := ih fun other member => none other (List.mem_cons_of_mem _ member)
      obtain ⟨unopened, nothing⟩ := none event List.mem_cons_self
      rw [← rest', List.cons_append]
      cases event with
      | opened => exact absurd rfl unopened
      | received frame =>
          show (Event.frameOf .connack (.received frame)).toList ++ _ = _
          rw [nothing]
          rfl
      | _ => rfl

def Announced (start m : Machine) : Prop :=
  ∃ frame flags rest, connacks m.log = [frame] ∧ packetType frame.header = .connack ∧ frame.expected start ∧
    frame.body = flags :: rest ∧ m.mqttTls.sessionPresent = decide (flags &&& 0x80 ≠ 0)

theorem connectSession_announced {cleanSession : Bool} {before after : Machine} (grounded : Grounded before)
    (run : MqttTls.connectSession platform cleanSession before = .ok true after) :
    (before.tls.connected = true ∧ after = before) ∨ Announced before after := by
  rcases connectSession_returns platform run with already | ⟨checked, tried, answered, checking, trying, connecting, rfl⟩
  · exact .inl already
  · obtain ⟨_, closed, _⟩ := isConnected_returns checking
    obtain ⟨mqtt, _, _, opening⟩ := tlsConnect_returns closed trying
    have still : Grounded tried := by
      unfold Grounded
      rw [mqtt]
      exact isConnected_grounded.returns grounded checking
    obtain ⟨frame, flags, rest, body, ⟨typed, later, earlier, arrived, allLater, allEarlier⟩, flag, expected⟩ :=
      mqttConnect_returns platform still connecting
    refine .inr ⟨frame, flags, 0 :: rest, ?_, typed, ?_, body, flag⟩
    · show connacks answered.log = [frame]
      rw [arrived, opening, connacks_append fun event member => ?_]
      · show (Event.frameOf .connack (.received frame)).toList ++ _ = _
        rw [connacks_append fun event member => ?_]
        · simp [Event.frameOf, typed, connacks]
        · refine ⟨?_, frameOf_of_besides (allEarlier event member)⟩
          rintro rfl
          cases passive_of_besides (allEarlier _ member)
      · refine ⟨?_, frameOf_of_quiet (allLater event member)⟩
        rintro rfl
        cases allLater _ member
    · exact (expected.earlier (tlsConnect_mute.returns trying).reads).earlier (linkage_mute.isConnected.returns checking).reads

theorem clientConnect_announced {before after : Machine} (fits : FlagFits before) (grounded : Grounded before)
    (run : MqttTls.connect platform before = .ok true after) : after = before ∨ Announced before after := by
  obtain ⟨connected, first, connecting, run⟩ := run_bind_eq_ok.mp run
  have grounded' := ((connectSession_fits platform true).returns ⟨fits, grounded⟩ connecting).2
  cases connected with
  | false => cases (run_pure_eq_ok.mp run).1
  | true =>
      simp only [Bool.not_true, Bool.false_eq_true, if_false, run_get_bind] at run
      split at run
      · obtain ⟨_, rfl⟩ := run_pure_eq_ok.mp run
        exact (connectSession_announced platform grounded connecting).imp And.right id
      · obtain ⟨_, left, leaving, run⟩ := run_bind_eq_ok.mp run
        have leaves : Triple Grounded MqttTls.disconnect
            (fun _ m => (FlagFits m ∧ Grounded m) ∧ m.tls.connected = false) Grounded := clientDisconnect_leaves
        obtain ⟨⟨_, grounded''⟩, closed⟩ := leaves.returns grounded' leaving
        rcases connectSession_announced platform grounded'' run with ⟨open', _⟩ | announced
        · rw [closed] at open'
          cases open'
        · obtain ⟨frame, flags, rest, only, typed, expected, body, flag⟩ := announced
          refine .inr ⟨frame, flags, rest, only, typed, ?_, body, flag⟩
          exact (expected.earlier (linkage_mute.disconnect.returns leaving).reads).earlier
            (((mechanics_mute platform).connectSession true).returns connecting).reads

theorem Announced.current {start m : Machine} {call : MqttTls.Call} (connects : call.connects)
    (unambiguous : MqttTls.Unambiguous start call) (announced : Announced start m) :
    ∃ frame, connacks m.log = [frame] ∧ m.mqttTls.sessionPresent = frame.sessionPresent := by
  obtain ⟨frame, flags, rest, only, typed, ⟨reply, member, packet⟩, body, flag⟩ := announced
  refine ⟨frame, only, ?_⟩
  have agree := (unambiguous connects).2 reply member frame packet typed
  rw [Frame.flagsAgree, body] at agree
  rw [flag, Frame.sessionPresent, body]
  simpa using agree

theorem announces_of_unambiguous {m : Machine} (fits : FlagFits m) {call : MqttTls.Call}
    (unambiguous : MqttTls.Unambiguous m call) : call.Announces platform m := by
  intro after connects run opened
  have grounded : Grounded m := (unambiguous connects).1
  have outcome : after = m ∨ Announced m after := by
    cases call with
    | connect => exact clientConnect_announced platform fits grounded run
    | reconnect =>
        have run : MqttTls.connectSession platform (!m.mqttTls.usePersistentSession) m = .ok true after := run
        exact (connectSession_announced platform grounded run).imp And.right id
    | _ => cases connects
  rcases outcome with rfl | announced
  · simp [Machine.since] at opened
  · exact announced.current connects unambiguous

theorem reached_flagFits {m : Machine} (reached : MqttTls.Reached platform MqttTls.Unambiguous m) : FlagFits m := by
  refine reached.invariant FlagFits ?_ fun m call fits met =>
    (perform_fits platform call).last ⟨fits, fun connects => (met connects).1⟩
  rintro _ ⟨impl, readbuf, replies, rfl⟩
  exact flagFits_of_absent rfl

/-- While nothing is in flight when a connection is made, and the bit that is read is the session-present bit,
the flag is never stale. -/
theorem reached_current {m : Machine} (reached : MqttTls.Reached platform MqttTls.Unambiguous m) :
    MqttTls.Current platform MqttTls.Unambiguous m :=
  ⟨reached_flagFits platform reached, fun _ met => announces_of_unambiguous platform (reached_flagFits platform reached) met⟩

end Flag

/-! ## Sample runs -/

def sampleImpl : Impl := (Client.fresh [] (sampleReplies [] [] [] [])).impl

def connectedReplies (flags : UInt8) : Replies :=
  sampleReplies [1] [none] [.sent false] [samplePacket 0x20 [flags, 0] (by simp)]

def connecting (flags : UInt8) : Machine :=
  last (MqttTls.perform (plainPlatform .signed) (.usePersistentSession false)
    { Client.fresh [] (connectedReplies flags) with impl := sampleImpl })

theorem reached_current_connected : ∃ m : Machine,
    m.mqtt.isconnected = true ∧ MqttTls.Current (plainPlatform .signed) MqttTls.Unambiguous m := by
  have fresh : MqttTls.Reached (plainPlatform .signed) MqttTls.Unambiguous
      { Client.fresh [] (connectedReplies 0) with impl := sampleImpl } := .start ⟨sampleImpl, [], connectedReplies 0, rfl⟩
  have start : MqttTls.Reached (plainPlatform .signed) MqttTls.Unambiguous (connecting 0) :=
    fresh.next (.usePersistentSession false) nofun
  have unambiguous : MqttTls.Unambiguous (connecting 0) .connect := by
    refine fun _ => ⟨rfl, ?_⟩
    rintro reply member frame packet _
    obtain rfl := List.mem_singleton.mp member
    cases packet
    decide
  refine ⟨_, ?_, reached_current (plainPlatform .signed) (start.next .connect unambiguous)⟩
  decide +kernel

def Event.opens : Event → Bool
  | .opened => true
  | _ => false

theorem mem_of_opens {events : List Event} (opens : events.any Event.opens) : .opened ∈ events := by
  obtain ⟨event, member, opened⟩ := List.any_eq_true.mp opens
  cases event with
  | opened => exact member
  | _ => cases opened

/-- A CONNACK with the session-present bit, which is not the bit that is read. -/
theorem not_reached_current : ¬ ∀ (platform : Platform) (m : Machine),
    MqttTls.Reached platform (fun _ _ => True) m → MqttTls.Current platform (fun _ _ => True) m := by
  intro current
  have fresh : MqttTls.Reached (plainPlatform .signed) (fun _ _ => True)
      { Client.fresh [] (connectedReplies 1) with impl := sampleImpl } := .start ⟨sampleImpl, [], connectedReplies 1, rfl⟩
  have start : MqttTls.Reached (plainPlatform .signed) (fun _ _ => True) (connecting 1) :=
    fresh.next (.usePersistentSession false) trivial
  have returned : returnsTrue (MqttTls.perform (plainPlatform .signed) .connect (connecting 1)) := by decide +kernel
  have opens : ((connecting 1).since
      (last (MqttTls.perform (plainPlatform .signed) .connect (connecting 1)))).any Event.opens := by
    decide +kernel
  obtain ⟨frame, only, flag⟩ :=
    (current _ _ start).2 .connect trivial _ rfl (eq_ok_of_returnsTrue returned) (mem_of_opens opens)
  have bit : (connacks (last (MqttTls.perform (plainPlatform .signed) .connect (connecting 1))).log).map
      Frame.sessionPresent = [true] := by
    decide +kernel
  have read : (last (MqttTls.perform (plainPlatform .signed) .connect (connecting 1))).mqttTls.sessionPresent =
      false := by
    decide +kernel
  rw [only, List.map_singleton, ← flag, read] at bit
  cases bit

end IotClient
