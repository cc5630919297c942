import IotClient.Proof.Digestion
import IotClient.Proof.Mechanics
import IotClient.Proof.Tally

namespace IotClient
open Logic

/-! ## Errors that are not about an incoming message -/

theorem unrelated_of_take {text : Bytes} (rest : Bytes) (long : 11 ≤ text.length)
    (differs : text.take 11 ≠ bytes "Failed to d") : (Callback.onError (text ++ rest)).unrelated := by
  simp only [Callback.unrelated, Bool.not_eq_true', ← Bool.not_eq_true, List.isPrefixOf_iff_prefix]
  rintro ⟨tail, same⟩
  have begins := congrArg (List.take 11) same
  rw [List.take_append_of_le_length long, List.take_append_of_le_length (by decide +kernel)] at begins
  exact differs (begins.symm.trans (by decide +kernel))

theorem ErrorText.unrelated {error : Bytes} (text : ErrorText error) (rest : Bytes) :
    (Callback.onError (error ++ rest)).unrelated := by
  cases text with
  | mqttConnect => exact unrelated_of_take _ (by decide +kernel) (by decide +kernel)
  | messageLoop => exact unrelated_of_take _ (by decide +kernel) (by decide +kernel)
  | _ =>
      simp only [List.append_assoc]
      exact unrelated_of_take _ (by decide +kernel) (by decide +kernel)

theorem unrelated_nil : (Callback.onError []).unrelated := by decide +kernel

structure Worded (m : Machine) : Prop where
  client : (Callback.onError m.mqttTls.lastError).unrelated
  impl : (Callback.onError m.impl.lastError).unrelated

/-! ## What does not concern incoming messages -/

structure Tame (before after : Machine) : Prop where
  log : Worded before → ∃ events, after.log = events ++ before.log ∧ ∀ event ∈ events, event.inert
  worded : Worded before → Worded after
  incoming : after.mqtt.incomingQoS2messages = before.mqtt.incomingQoS2messages
  cleansession : after.mqtt.cleansession = before.mqtt.cleansession
  topic : after.impl.privateMessagesTopic = before.impl.privateMessagesTopic
  reads : after.replies.reads ⊆ before.replies.reads

instance : Following Tame where
  refl m := ⟨fun _ => ⟨[], by simp⟩, id, rfl, rfl, rfl, List.Subset.refl _⟩
  trans first second := by
    refine ⟨fun worded => ?_, second.worded ∘ first.worded, second.incoming.trans first.incoming,
      second.cleansession.trans first.cleansession, second.topic.trans first.topic, List.Subset.trans second.reads first.reads⟩
    obtain ⟨older, grows, all⟩ := first.log worded
    obtain ⟨newer, grows', all'⟩ := second.log (first.worded worded)
    refine ⟨newer ++ older, by rw [grows', grows, List.append_assoc], fun event member => ?_⟩
    rcases List.mem_append.mp member with member | member
    · exact all' event member
    · exact all event member

theorem emit_tame {event : Event} (inert : event.inert) : Keeps Tame (emit event) :=
  Keeps.modify fun _ => ⟨fun _ => ⟨[event], rfl, by simpa using inert⟩, fun worded => ⟨worded.client, worded.impl⟩,
    rfl, rfl, rfl, List.Subset.refl _⟩

theorem tame_of_aside {change : Machine → Machine}
    (only : ∀ m, change m = { m with tls := (change m).tls, replies := (change m).replies })
    (reads : ∀ m, (change m).replies.reads ⊆ m.replies.reads) (m : Machine) : Tame m (change m) := by
  refine ⟨fun _ => ⟨[], ?_, by simp⟩, fun worded => ?_, ?_, ?_, ?_, reads m⟩
  · rw [only m]
    rfl
  · rw [only m]
    exact ⟨worded.client, worded.impl⟩
  all_goals rw [only m]

theorem reply_tame {α : Type} {change : Machine → α × Machine}
    (only : ∀ m, (change m).2 = { m with replies := (change m).2.replies })
    (reads : ∀ m, (change m).2.replies.reads ⊆ m.replies.reads) : Keeps Tame (modifyGet change : M α) :=
  Keeps.modifyGet (tame_of_aside (fun m => (only m).trans (by rw [only m])) reads)

theorem mqtt_tame {change : Mqtt → Mqtt}
    (incoming : ∀ mqtt, (change mqtt).incomingQoS2messages = mqtt.incomingQoS2messages)
    (cleansession : ∀ mqtt, (change mqtt).cleansession = mqtt.cleansession) : Keeps Tame (Mqtt.update change) :=
  Keeps.modify fun m => ⟨fun _ => ⟨[], by simp⟩, fun worded => ⟨worded.client, worded.impl⟩, incoming m.mqtt,
    cleansession m.mqtt, rfl, List.Subset.refl _⟩

theorem client_tame {change : MqttTls → MqttTls}
    (lastError : ∀ client, (change client).lastError = client.lastError ∨
      (Callback.onError (change client).lastError).unrelated) : Keeps Tame (MqttTls.update change) := by
  refine Keeps.modify fun m => ⟨fun _ => ⟨[], by simp⟩, fun worded => ⟨?_, worded.impl⟩, rfl, rfl, rfl, List.Subset.refl _⟩
  rcases lastError m.mqttTls with same | unrelated
  · exact (congrArg (fun error => (Callback.onError error).unrelated = true) same).mpr worded.client
  · exact unrelated

theorem impl_tame {change : Impl → Impl}
    (lastError : ∀ impl, (change impl).lastError = impl.lastError ∨ (Callback.onError (change impl).lastError).unrelated)
    (topic : ∀ impl, (change impl).privateMessagesTopic = impl.privateMessagesTopic) :
    Keeps Tame (Client.update change) := by
  refine Keeps.modify fun m => ⟨fun _ => ⟨[], by simp⟩, fun worded => ⟨worded.client, ?_⟩, rfl, rfl, topic m.impl,
    List.Subset.refl _⟩
  rcases lastError m.impl with same | unrelated
  · exact (congrArg (fun error => (Callback.onError error).unrelated = true) same).mpr worded.impl
  · exact unrelated

theorem fail_tame (error : Bytes) : Keeps Tame (TlsConnection.fail error) :=
  Keeps.modify (tame_of_aside (fun _ => rfl) fun _ => List.Subset.refl _)

theorem close_tame : Keeps Tame TlsConnection.close := by
  refine Keeps.bind Keeps.get fun m => Keeps.ite (fun _ => ?_) fun _ => Keeps.pure _
  refine Keeps.bind (Keeps.modify (tame_of_aside (fun _ => rfl) fun _ => List.Subset.refl _)) fun _ => ?_
  exact emit_tame rfl

theorem lose_tame (error : Bytes) : Keeps Tame (TlsConnection.lose error) :=
  Keeps.bind (fail_tame error) fun _ => close_tame

theorem nextSend_tame : Keeps Tame nextSend :=
  reply_tame (fun _ => rfl) fun _ => List.Subset.refl _

theorem sendPacket_tame {event : Event} (inert : event.inert) (timer : Timer) :
    Keeps Tame (Mqtt.sendPacket event timer) := by
  intro m
  have sends : Triple (Tame m) (Mqtt.sendPacket event timer) (fun outcome after => if outcome.1 then Tame m after else Tame m after)
      (Tame m) :=
    sendPacket_follows fail_tame nextSend_tame lose_tame (fun later earlier => Following.trans earlier later)
      (fun between tame => Following.trans tame (emit_tame inert between)) timer
  simp only [ite_self] at sends
  exact sends.last (Following.refl m)

theorem startTimer_tame (milliseconds : Nat) : Keeps Tame (startTimer milliseconds) :=
  Keeps.bind (emit_tame rfl) fun _ => reply_tame (fun _ => rfl) fun _ => List.Subset.refl _

theorem keepalive_tame : Keeps Tame Mqtt.keepalive := by
  refine Keeps.bind Keeps.get fun m => Keeps.ite (fun _ => Keeps.pure _) fun _ => ?_
  refine Keeps.bind (reply_tame (fun _ => rfl) fun _ => List.Subset.refl _) fun due => ?_
  refine Keeps.ite (fun _ => Keeps.bind (startTimer_tame _) fun timer => ?_) fun _ => Keeps.pure _
  refine Keeps.bind (sendPacket_tame rfl timer) fun outcome => ?_
  exact onlyIf_keeps fun _ => mqtt_tame (fun _ => rfl) fun _ => rfl

theorem finish_tame (type : PacketType) (timer : Timer) : Keeps Tame (Mqtt.finish type timer) :=
  Keeps.bind keepalive_tame fun _ => Keeps.pure _

theorem getNext_tame : Keeps Tame Mqtt.getNext :=
  Keeps.bind (mqtt_tame (fun _ => rfl) fun _ => rfl) fun _ => Keeps.bind Keeps.get fun _ => Keeps.pure _

theorem nextUnset_tame : Keeps Tame nextUnset :=
  reply_tame (fun _ => rfl) fun _ => List.Subset.refl _

theorem idOr_tame (set : Option Nat) : Keeps Tame (Mqtt.idOr set) := by
  cases set with
  | some id => exact Keeps.pure _
  | none => exact Keeps.bind nextUnset_tame fun _ => Keeps.pure _

theorem onError_tame {error : Bytes} (text : ErrorText error) : Keeps Tame (MqttTls.onError error) := by
  refine Keeps.bind Keeps.get fun m => Keeps.bind (client_tame fun client => .inr ?_) fun _ => Keeps.pure _
  simp only [List.append_assoc]
  exact text.unrelated _

theorem tlsConnect_tame : Keeps Tame TlsConnection.connect := by
  refine Keeps.bind Keeps.get fun m => Keeps.ite (fun _ => Keeps.pure _) fun _ => ?_
  refine Keeps.bind (reply_tame (fun _ => rfl) fun _ => List.Subset.refl _) fun reply => ?_
  cases reply with
  | some error => exact Keeps.bind (fail_tame error) fun _ => Keeps.pure _
  | none =>
      refine Keeps.bind (Keeps.modify (tame_of_aside (fun _ => rfl) fun _ => List.Subset.refl _)) fun _ => ?_
      exact Keeps.bind (emit_tame rfl) fun _ => Keeps.pure _

theorem Authenticates.tame {before after : Machine} (authenticates : Authenticates before after) : Tame before after where
  log _ := by
    obtain ⟨events, grows, all⟩ := authenticates.log
    refine ⟨events, grows, fun event member => ?_⟩
    cases event with
    | requested method url data => rfl
    | callback made => cases made <;> first | rfl | cases all _ member
    | _ => cases all _ member
  worded worded := by
    refine ⟨by rw [authenticates.mqttTls]; exact worded.client, ?_⟩
    rcases authenticates.lastError with same | empty | ⟨what, failed⟩
    · rw [same]
      exact worded.impl
    · rw [empty]
      exact unrelated_nil
    · rw [failed]
      exact unrelated_of_take _ (by decide +kernel) (by decide +kernel)
  incoming := congrArg Mqtt.incomingQoS2messages authenticates.mqtt
  cleansession := congrArg Mqtt.cleansession authenticates.mqtt
  topic := by rw [authenticates.impl]
  reads := by
    rw [authenticates.replies]
    exact List.Subset.refl _

theorem authenticate_tame (platform : Platform) : Keeps Tame (Client.authenticate platform) :=
  (authenticate_authenticates platform).mono Authenticates.tame

theorem report_tame {callback : Machine → Callback} (unrelated : ∀ m, Worded m → (callback m).unrelated) :
    Keeps Tame (do notify (callback (← get))) :=
  fun m => ⟨fun worded => ⟨[_], rfl, by simpa [Event.inert] using unrelated m worded⟩, fun worded => ⟨worded.client, worded.impl⟩,
    rfl, rfl, rfl, List.Subset.refl _⟩

theorem getLastError_unrelated {m : Machine} (worded : Worded m) : (Callback.onError (Client.getLastError m)).unrelated := by
  unfold Client.getLastError
  split
  · exact worded.client
  · exact worded.impl

theorem reportLastError_tame : Keeps Tame Client.reportLastError :=
  report_tame fun _ worded => getLastError_unrelated worded

theorem reportClientError_tame : Keeps Tame Client.reportClientError :=
  report_tame fun _ worded => worded.client

theorem reportLost_tame : Keeps Tame Client.reportLost :=
  Keeps.bind (impl_tame (fun _ => .inl rfl) fun _ => rfl) fun _ => report_tame fun _ _ => rfl

/-! ## Receiving packets -/

def Receptive (sign : CharSign) : Option Bytes → Machine → Prop
  | some topic, m => Calm sign topic m
  | none, _ => True

/-- What the client needs to know of itself to receive packets. In a quiet call no identifier is in the table and none
comes; otherwise the session is kept. -/
structure Watchful (quiet : Bool) (sign : CharSign) (topic : Option Bytes) (m : Machine) : Prop where
  worded : Worded m
  calm : Receptive sign topic m
  unused : quiet = true → m.Unused
  cleansession : quiet = false → m.mqtt.cleansession = false

structure Attentive (quiet : Bool) (sign : CharSign) (topic : Option Bytes) (m : Machine) : Prop
    extends Watchful quiet sign topic m where
  tallied : SenderRules m.log → Uncrowded m.log → Tally m.mqtt.incomingQoS2messages m.log

structure Noticed (quiet : Bool) (sign : CharSign) (topic : Bytes) (frame : Frame) (m : Machine) : Prop
    extends Watchful quiet sign (some topic) m where
  log : ∃ older, m.log = .received frame :: older ∧
    (SenderRules older → Uncrowded older → Tally m.mqtt.incomingQoS2messages older)
  digestible : frame.Digestible sign topic
  loaded : ∃ old, m.mqtt.readbuf = frame.load old
  idle : quiet = true → frame.qos2Id = none

def Heard (id : Nat) (m : Machine) : Prop :=
  SenderRules m.log → Uncrowded m.log → id ∈ openIds m.log

section Tame

variable {quiet : Bool} {sign : CharSign} {topic : Option Bytes} {before after m : Machine}

theorem Receptive.tame (tame : Tame before after) (receptive : Receptive sign topic before) : Receptive sign topic after := by
  cases topic with
  | none => trivial
  | some topic => exact ⟨tame.topic.trans receptive.1, fun reply member => receptive.2 reply (tame.reads member)⟩

theorem Watchful.tame (tame : Tame before after) (watchful : Watchful quiet sign topic before) :
    Watchful quiet sign topic after where
  worded := tame.worded watchful.worded
  calm := watchful.calm.tame tame
  unused isQuiet := by
    obtain ⟨empty, none⟩ := watchful.unused isQuiet
    exact ⟨by rwa [tame.incoming], fun reply member => none reply (tame.reads member)⟩
  cleansession isLoud := tame.cleansession.trans (watchful.cleansession isLoud)

theorem Attentive.tame (tame : Tame before after) (attentive : Attentive quiet sign topic before) :
    Attentive quiet sign topic after where
  toWatchful := attentive.toWatchful.tame tame
  tallied rules uncrowded := by
    obtain ⟨events, grows, all⟩ := tame.log attentive.worded
    rw [grows] at rules uncrowded
    rw [grows, tame.incoming]
    exact (attentive.tallied rules.append uncrowded.append).inerts all

theorem Heard.tame {id : Nat} (tame : Tame before after) (worded : Worded before) (heard : Heard id before) :
    Heard id after := by
  obtain ⟨events, grows, all⟩ := tame.log worded
  intro rules uncrowded
  rw [grows] at rules uncrowded
  rw [grows, openIds_inerts all]
  exact heard rules.append uncrowded.append

theorem attentive_of_tame {α : Type} {program : M α} (tame : Keeps Tame program)
    (throws : Throws (fun _ => False) program) : Safe (Attentive quiet sign topic) program :=
  tame.safe throws Attentive.tame

end Tame

section Receiving

variable {quiet : Bool} {sign : CharSign} {topic : Bytes} {before after m : Machine}

theorem Noticed.attentive {frame : Frame} (noticed : Noticed quiet sign topic frame m) (other : frame.qos2Id = none) :
    Attentive quiet sign (some topic) m where
  toWatchful := noticed.toWatchful
  tallied rules uncrowded := by
    obtain ⟨older, log, tallied⟩ := noticed.log
    rw [log] at rules uncrowded ⊢
    refine (tallied rules.older uncrowded.older).received fun id begins => ?_
    rw [begins.1] at other
    cases other

theorem nextRead_notices :
    Triple (Attentive quiet sign (some topic)) nextRead
      (fun reply m => Attentive quiet sign (some topic) m ∧ ∀ frame, reply.reading = .packet frame →
        frame.Digestible sign topic ∧ (quiet = true → frame.qos2Id = none)) fun _ => False := by
  intro m attentive
  have tame : Keeps Tame nextRead := reply_tame (fun _ => rfl) fun _ => (List.tail_suffix _).subset
  refine ⟨attentive.tame (tame m), fun frame reading => ?_⟩
  cases reads : m.replies.reads with
  | nil =>
      rw [reads] at reading
      cases reading
  | cons next rest =>
      rw [reads] at reading
      have member : next ∈ m.replies.reads := by simp [reads]
      exact ⟨attentive.calm.2 next member frame reading, fun isQuiet => (attentive.unused isQuiet).2 next member frame reading⟩

theorem losing_tame (closed : Status) : Keeps Tame (closed.forM TlsConnection.lose : M PUnit) := by
  cases closed with
  | none => exact Keeps.pure _
  | some error => exact lose_tame error

theorem losing_throws (closed : Status) : Throws (fun _ => False) (closed.forM TlsConnection.lose : M PUnit) := by
  cases closed with
  | none => exact Throws.pure _
  | some error => exact lose_throws error

theorem readPacket_notices :
    Triple (Attentive quiet sign (some topic)) Mqtt.readPacket
      (fun reading m => match reading with
        | .packet frame => Noticed quiet sign topic frame m
        | _ => Attentive quiet sign (some topic) m) fun _ => False := by
  refine Triple.read fun read => Triple.ite (fun _ => ?_) fun _ => Triple.bind nextRead_notices fun reply => ?_
  · exact Triple.bind (attentive_of_tame (fail_tame _) (Throws.modify _)) fun _ => Triple.pure fun _ given => given
  · refine Triple.bind ((attentive_of_tame (losing_tame reply.closed) (losing_throws _)).constant) fun _ => ?_
    cases reply.reading with
    | failure => exact Triple.bind (Triple.pure fun _ given => given.1) fun _ => Triple.pure fun _ given => given
    | bufferOverflow => exact Triple.bind (Triple.pure fun _ given => given.1) fun _ => Triple.pure fun _ given => given
    | packet frame =>
        rintro m ⟨attentive, expected⟩
        obtain ⟨digestible, idle⟩ := expected frame rfl
        exact
          { worded := ⟨attentive.worded.client, attentive.worded.impl⟩
            calm := attentive.calm
            unused := attentive.unused
            cleansession := attentive.cleansession
            log := ⟨m.log, rfl, attentive.tallied⟩
            digestible := digestible
            loaded := ⟨_, rfl⟩
            idle := idle }

variable (platform : Platform)

theorem onMessageArrived_passes {sok : Sok} {receiver : Receiver} {frame : Frame} {qos : QoS} {id : Nat}
    {topicName payload : Bytes} {length : Int} {made : Callback}
    (publication : frame.publication = some (topicName, id, payload))
    (arrived : onMessageArrived sok sign receiver ⟨qos, id, topicName, payload, length⟩ = .ok made) :
    made.passes frame := by
  unfold onMessageArrived classifyMessage at arrived
  split at arrived
  · cases arrived
  · split at arrived
    · split at arrived
      · cases arrived
        rfl
      · cases arrived
        simp [Callback.passes, List.isPrefixOf_iff_prefix]
      · cases arrived
    · cases arrived
      simp [Callback.passes, publication]

theorem deliverMessage_eq {message : Message} (deliverable : message.Deliverable platform.sok platform.sign topic)
    (calm : Calm platform.sign topic m) :
    ∃ made receiver, onMessageArrived platform.sok platform.sign receiver message = .ok made ∧
      Mqtt.deliverMessage platform message m = .ok ⟨⟩ { m with log := .callback made :: m.log } := by
  obtain ⟨made, arrived⟩ := deliverable m.impl.conf.identity.sokRecvKey m.mqtt.incomingQoS2messages
  rw [← calm.1] at arrived
  refine ⟨made, _, arrived, ?_⟩
  show (M.ofExcept _ >>= notify) m = _
  rw [arrived]
  rfl

def Passed (quiet : Bool) (sign : CharSign) (topic : Bytes) (message : Message) (m : Machine) : Prop :=
  Attentive quiet sign (some topic) m ∧ (message.qos = .qos2 → Heard message.id m)

theorem Noticed.repeated {frame : Frame} {id : Nat} (noticed : Noticed quiet sign topic frame m)
    (qos2 : frame.qos2Id = some id) (used : id ∈ m.mqtt.incomingQoS2messages) :
    Attentive quiet sign (some topic) m ∧ Heard id m := by
  obtain ⟨older, log, tallied⟩ := noticed.log
  have opened (rules : SenderRules m.log) (uncrowded : Uncrowded m.log) :
      Tally m.mqtt.incomingQoS2messages older ∧ id ∈ openIds older := by
    rw [log] at rules uncrowded
    have tally := tallied rules.older uncrowded.older
    exact ⟨tally, (tally.noted id).mp (mem_notedIds.mpr ⟨used, (rules.2.1 id qos2).1⟩)⟩
  refine ⟨⟨noticed.toWatchful, fun rules uncrowded => ?_⟩, fun rules uncrowded => ?_⟩
  · obtain ⟨tally, member⟩ := opened rules uncrowded
    rw [log]
    refine tally.received fun other begins => begins.2 ?_
    have same : id = other := Option.some.inj (qos2.symm.trans begins.1)
    exact same ▸ member
  · obtain ⟨_, member⟩ := opened rules uncrowded
    rw [log]
    simp [openIds, qos2, member]

theorem Noticed.accepted {frame : Frame} {id : Nat} {made : Callback} {used : List Nat}
    (noticed : Noticed quiet sign topic frame m) (qos2 : frame.qos2Id = some id)
    (fresh : id ∉ m.mqtt.incomingQoS2messages) (uses : useQoS2msgid id m.mqtt.incomingQoS2messages = some used)
    (passes : made.passes frame) {later : Machine}
    (changed : later = { m with mqtt := { m.mqtt with incomingQoS2messages := used }, log := .callback made :: m.log }) :
    Attentive quiet sign (some topic) later ∧ Heard id later := by
  subst changed
  obtain ⟨older, log, tallied⟩ := noticed.log
  obtain ⟨front, back, slots, rfl⟩ := useQoS2msgid_eq_some uses
  have begins (rules : SenderRules m.log) (uncrowded : Uncrowded m.log) :
      Tally (front ++ 0 :: back) older ∧ frame.begins id older ∧ id ≠ 0 := by
    rw [log] at rules uncrowded
    have tally := tallied rules.older uncrowded.older
    have nonzero := (rules.2.1 id qos2).1
    refine ⟨slots ▸ tally, ⟨qos2, fun member => fresh ?_⟩, nonzero⟩
    exact (mem_notedIds.mp ((tally.noted id).mpr member)).1
  refine ⟨⟨⟨⟨noticed.worded.client, noticed.worded.impl⟩, noticed.calm, ?_, noticed.cleansession⟩, ?_⟩, ?_⟩
  · intro isQuiet
    rw [noticed.idle isQuiet] at qos2
    cases qos2
  · intro rules uncrowded
    obtain ⟨tally, begun, nonzero⟩ := begins rules.older uncrowded.older
    simp only [log]
    exact tally.delivered begun nonzero passes
  · intro rules uncrowded
    obtain ⟨_, begun, _⟩ := begins rules.older uncrowded.older
    simp [openIds, log, qos2, begun.2]

theorem Noticed.room {frame : Frame} {id : Nat} (noticed : Noticed quiet sign topic frame m) (qos2 : frame.qos2Id = some id)
    (fresh : id ∉ m.mqtt.incomingQoS2messages) (full : useQoS2msgid id m.mqtt.incomingQoS2messages = none)
    (rules : SenderRules m.log) : ¬ Uncrowded m.log := by
  intro uncrowded
  obtain ⟨older, log, tallied⟩ := noticed.log
  rw [log] at rules uncrowded
  have tally := tallied rules.older uncrowded.older
  have begins : frame.begins id older :=
    ⟨qos2, fun member => fresh (mem_notedIds.mp ((tally.noted id).mpr member)).1⟩
  have some := (useQoS2msgid_isSome id m.mqtt.incomingQoS2messages).mpr (tally.free (uncrowded.2 id begins))
  rw [full] at some
  cases some

theorem arrive_passes {frame : Frame} {message : Message}
    (publish : packetType frame.header = .publish) (publication : frame.publication = some (message.topicName, message.id, message.payload))
    (qos : message.qos = qosOf frame.header) (deliverable : message.Deliverable platform.sok platform.sign topic) :
    Triple (Noticed quiet platform.sign topic frame) (Mqtt.arrive platform message)
      (fun _ => Passed quiet platform.sign topic message) fun _ => False := by
  intro m noticed
  unfold Mqtt.arrive
  by_cases qos2 : message.qos = .qos2
  · have id : frame.qos2Id = some message.id := by
      simp [Frame.qos2Id, publish, ← qos, qos2, publication]
    rw [if_neg (not_not.mpr qos2)]
    by_cases used : message.id ∈ m.mqtt.incomingQoS2messages
    · have taken : isQoS2msgidFree m.mqtt.incomingQoS2messages message.id = false := by
        simp [isQoS2msgidFree, used]
      rw [run_get_bind]
      simp only [taken]
      obtain ⟨attentive, heard⟩ := noticed.repeated id used
      exact ⟨attentive, fun _ => heard⟩
    · have free : isQoS2msgidFree m.mqtt.incomingQoS2messages message.id = true := by
        simp [isQoS2msgidFree, used]
      rw [run_get_bind]
      simp only [free, if_true]
      cases uses : useQoS2msgid message.id m.mqtt.incomingQoS2messages with
      | none =>
          have crowded := noticed.room id used uses
          exact ⟨⟨noticed.toWatchful, fun rules uncrowded => absurd uncrowded (crowded rules)⟩,
            fun _ rules uncrowded => absurd uncrowded (crowded rules)⟩
      | some slots =>
          obtain ⟨made, receiver, arrived, delivers⟩ := deliverMessage_eq platform
            (m := { m with mqtt := { m.mqtt with incomingQoS2messages := slots } }) deliverable noticed.calm
          have passes := onMessageArrived_passes publication arrived
          obtain ⟨attentive, heard⟩ := noticed.accepted id used uses passes rfl
          have run : (do
              Mqtt.update fun mqtt => { mqtt with incomingQoS2messages := slots }
              Mqtt.deliverMessage platform message : M Unit) m = .ok ⟨⟩ _ := delivers
          simp only [run]
          exact ⟨attentive, fun _ => heard⟩
  · have other : frame.qos2Id = none := by
      simp [Frame.qos2Id, ← qos, qos2]
    rw [if_pos qos2]
    obtain ⟨made, receiver, arrived, delivers⟩ := deliverMessage_eq platform deliverable noticed.calm
    rw [delivers]
    refine ⟨⟨⟨⟨noticed.worded.client, noticed.worded.impl⟩, noticed.calm, noticed.unused, noticed.cleansession⟩, ?_⟩,
      fun same => absurd same qos2⟩
    intro rules uncrowded
    refine ((noticed.attentive other).tallied rules uncrowded).callback fun id => ?_
    obtain ⟨older, log, _⟩ := noticed.log
    simp [log, passedOn, other]

theorem finish_attentive (type : PacketType) (timer : Timer) :
    Safe (Attentive quiet sign (some topic)) (Mqtt.finish type timer) :=
  attentive_of_tame (finish_tame type timer) (finish_throws type timer)

theorem answer_attentive {event : Event} {heard : Machine → Prop} (timer : Timer)
    (stable : ∀ {before after}, Tame before after → heard before → heard after)
    (answered : ∀ m, heard m → Attentive quiet sign (some topic) { m with log := event :: m.log })
    (attentive : ∀ m, heard m → Attentive quiet sign (some topic) m) (type : PacketType) :
    Triple heard (do
      let (sent, timer) ← Mqtt.sendPacket event timer
      if sent then Mqtt.finish type timer else return (.failure, timer))
      (fun _ => Attentive quiet sign (some topic)) fun _ => False := by
  refine Triple.bind (sendPacket_follows fail_tame nextSend_tame lose_tame stable answered timer) fun outcome => ?_
  obtain ⟨sent, left⟩ := outcome
  cases sent with
  | true => exact finish_attentive type left
  | false => exact Triple.pure fun m given => attentive m given

theorem Attentive.emits {event : Event} (attentive : Attentive quiet sign (some topic) m) (inert : event.inert) :
    Attentive quiet sign (some topic) { m with log := event :: m.log } :=
  attentive.tame (emit_tame inert m)

theorem Attentive.pubrec {id : Nat} (attentive : Attentive quiet sign (some topic) m) (heard : Heard id m) :
    Attentive quiet sign (some topic) { m with log := .sent (.ack .pubrec id) :: m.log } where
  worded := ⟨attentive.worded.client, attentive.worded.impl⟩
  calm := attentive.calm
  unused := attentive.unused
  cleansession := attentive.cleansession
  tallied rules uncrowded := (attentive.tallied rules uncrowded).pubrec (heard rules uncrowded)

theorem cyclePublish_attentive {frame : Frame} (publish : packetType frame.header = .publish) (timer : Timer) :
    Triple (Noticed quiet platform.sign topic frame) (Mqtt.cyclePublish platform timer)
      (fun _ => Attentive quiet platform.sign (some topic)) fun _ => False := by
  refine Triple.get fun read => ?_
  rintro m ⟨rfl, noticed⟩
  obtain ⟨old, loaded⟩ := noticed.loaded
  obtain ⟨deserialized, deserializes, deliverable⟩ :=
    deserializePublish_digestible platform.sok publish noticed.digestible old
  rw [loaded, deserializes]
  cases publication : frame.publication with
  | none =>
      have other : frame.qos2Id = none := by simp [Frame.qos2Id, publication]
      have undelivered : deserialized = none := by
        have digestible := noticed.digestible
        unfold Frame.Digestible at digestible
        rw [publish, publication] at digestible
        rw [deserializePublish_load frame old publish, show frame.topic = none from digestible] at deserializes
        exact (Except.ok.inj deserializes).symm
      subst undelivered
      exact noticed.attentive other
  | some parts =>
      obtain ⟨topicName, id, payload⟩ := parts
      rw [deserializePublish_publication old publish publication] at deserializes
      cases deserializes
      refine Triple.bind (arrive_passes platform publish publication rfl (deliverable _ rfl)) (fun _ => ?_) m noticed
      cases qos : qosOf frame.header with
      | qos0 => exact (finish_attentive _ _).starting fun _ passed => passed.1
      | qos1 =>
          exact (answer_attentive timer (fun tame attentive => attentive.tame tame)
            (fun _ attentive => attentive.emits rfl) (fun _ attentive => attentive) .publish).starting fun _ passed => passed.1
      | qos2 =>
          have stable {before after : Machine} (tame : Tame before after)
              (given : Attentive quiet platform.sign (some topic) before ∧ Heard id before) :
              Attentive quiet platform.sign (some topic) after ∧ Heard id after :=
            ⟨given.1.tame tame, given.2.tame tame given.1.worded⟩
          exact (answer_attentive timer stable (fun _ given => given.1.pubrec given.2) (fun _ given => given.1)
            .publish).starting fun _ passed => ⟨passed.1, passed.2 rfl⟩
      | qos3 => exact Triple.pure fun _ passed => passed.1

theorem Watchful.frees {id : Nat} {change : Mqtt → Mqtt} (watchful : Watchful quiet sign (some topic) m)
    (frees : ∀ mqtt, change mqtt = { mqtt with incomingQoS2messages := freeQoS2msgid id mqtt.incomingQoS2messages }) :
    Watchful quiet sign (some topic) { m with mqtt := change m.mqtt } where
  worded := ⟨watchful.worded.client, watchful.worded.impl⟩
  calm := watchful.calm
  unused isQuiet := by
    obtain ⟨empty, none⟩ := watchful.unused isQuiet
    refine ⟨fun other member => ?_, none⟩
    rw [frees] at member
    rcases freeQoS2msgid_cases id m.mqtt.incomingQoS2messages with ⟨_, same⟩ | ⟨front, back, slots, freed⟩
    · rw [same] at member
      exact empty other member
    · rw [freed] at member
      rw [slots] at empty
      simp only [List.mem_append, List.mem_cons] at member empty
      rcases member with member | rfl | member
      · exact empty other (.inl member)
      · rfl
      · exact empty other (.inr (.inr member))
  cleansession isLoud := by
    rw [frees]
    exact watchful.cleansession isLoud

def Completed (quiet : Bool) (sign : CharSign) (topic : Bytes) (id : Nat) (m : Machine) : Prop :=
  Watchful quiet sign (some topic) m ∧ (SenderRules m.log → Uncrowded m.log →
    Tally (freeQoS2msgid id m.mqtt.incomingQoS2messages) m.log)

theorem pubcomp_attentive {id : Nat} (timer : Timer) :
    Triple (Attentive quiet sign (some topic)) (do
      let (sent, timer) ← Mqtt.sendPacket (.sent (.ack .pubcomp id)) timer
      if !sent then return (.failure, timer)
      else do
        onlyIf true (Mqtt.update fun mqtt =>
          { mqtt with incomingQoS2messages := freeQoS2msgid id mqtt.incomingQoS2messages })
        Mqtt.finish .pubrel timer)
      (fun _ => Attentive quiet sign (some topic)) fun _ => False := by
  have emits (m : Machine) (attentive : Attentive quiet sign (some topic) m) :
      Completed quiet sign topic id { m with log := .sent (.ack .pubcomp id) :: m.log } :=
    ⟨⟨⟨attentive.worded.client, attentive.worded.impl⟩, attentive.calm, attentive.unused, attentive.cleansession⟩,
      fun rules uncrowded => (attentive.tallied rules uncrowded).pubcomp id⟩
  refine Triple.bind (sendPacket_follows fail_tame nextSend_tame lose_tame Attentive.tame emits timer) fun outcome => ?_
  obtain ⟨sent, left⟩ := outcome
  cases sent with
  | false => exact Triple.pure fun _ attentive => attentive
  | true =>
      have freed : Triple (Completed quiet sign topic id)
          (Mqtt.update fun mqtt => { mqtt with incomingQoS2messages := freeQoS2msgid id mqtt.incomingQoS2messages })
          (fun _ => Attentive quiet sign (some topic)) fun _ => False :=
        Triple.modify fun m given => ⟨given.1.frees fun _ => rfl, given.2⟩
      exact Triple.bind freed fun _ => finish_attentive _ _

theorem qos2Id_of_type {frame : Frame} (other : packetType frame.header ≠ .publish) : frame.qos2Id = none := by
  simp [Frame.qos2Id, other]

theorem idOr_attentive (set : Option Nat) : Safe (Attentive quiet sign (some topic)) (Mqtt.idOr set) :=
  attentive_of_tame (idOr_tame set) (idOr_throws set)

theorem cycleAck_attentive {frame : Frame} {type : PacketType} (answers : type = .pubrec ∨ type = .pubrel)
    (isType : packetType frame.header = type) (timer : Timer) :
    Triple (Noticed quiet sign topic frame) (Mqtt.cycleAck type timer)
      (fun _ => Attentive quiet sign (some topic)) fun _ => False := by
  refine Triple.get fun read => ?_
  rintro m ⟨rfl, noticed⟩
  obtain ⟨old, loaded⟩ := noticed.loaded
  rw [loaded, deserializeAck_load]
  have attentive := noticed.attentive (qos2Id_of_type (by rcases answers with rfl | rfl <;> simp [isType]))
  refine Triple.bind (idOr_attentive frame.packetId) (fun id => ?_) m attentive
  rcases answers with rfl | rfl
  · refine Triple.bind (attentive_of_tame (sendPacket_tame rfl timer) (sendPacket_throws _ _)) fun outcome => ?_
    obtain ⟨sent, left⟩ := outcome
    cases sent with
    | false => exact Triple.pure fun _ attentive => attentive
    | true => exact Triple.bind (Triple.pure fun _ attentive => attentive) fun _ => finish_attentive _ _
  · exact pubcomp_attentive timer

theorem dispatch_attentive {frame : Frame} (timer : Timer) :
    Triple (Noticed quiet platform.sign topic frame) (Mqtt.dispatch platform timer (packetType frame.header))
      (fun _ => Attentive quiet platform.sign (some topic)) fun _ => False := by
  have others (other : packetType frame.header ≠ .publish) (type : PacketType) :
      Triple (Noticed quiet platform.sign topic frame) (Mqtt.finish type timer)
        (fun _ => Attentive quiet platform.sign (some topic)) fun _ => False :=
    (finish_attentive type timer).starting fun _ noticed => noticed.attentive (qos2Id_of_type other)
  cases isType : packetType frame.header with
  | publish => exact cyclePublish_attentive platform isType timer
  | pubrec => exact cycleAck_attentive (.inl rfl) isType timer
  | pubrel => exact cycleAck_attentive (.inr rfl) isType timer
  | pingresp =>
      have cleared : Safe (Attentive quiet platform.sign (some topic)) (Mqtt.update fun mqtt => { mqtt with pingOutstanding := false }) :=
        attentive_of_tame (mqtt_tame (fun _ => rfl) fun _ => rfl) (Throws.modify _)
      refine Triple.bind (cleared.starting fun _ noticed => ?_) fun _ => finish_attentive _ _
      exact noticed.attentive (qos2Id_of_type (by simp [isType]))
  | _ => exact others (by simp [isType]) _

theorem cycle_attentive (timer : Timer) : Safe (Attentive quiet platform.sign (some topic)) (Mqtt.cycle platform timer) := by
  have kept (result : CycleResult) : Safe (Attentive quiet platform.sign (some topic)) (do
      Mqtt.keepalive
      return (result, timer)) :=
    Triple.bind (attentive_of_tame keepalive_tame keepalive_throws) fun _ => Triple.pure fun _ given => given
  refine Triple.bind readPacket_notices fun reading => ?_
  cases reading with
  | failure => exact kept _
  | bufferOverflow => exact kept _
  | packet frame => exact dispatch_attentive platform timer

end Receiving

/-! ## Calls in which no message is open -/

section Quiet

variable {sign : CharSign} {topic : Option Bytes}

/-- In a quiet call what becomes of the session does not matter. -/
theorem Attentive.mqtt {m : Machine} {change : Mqtt → Mqtt} (attentive : Attentive true sign topic m)
    (incoming : (change m.mqtt).incomingQoS2messages = m.mqtt.incomingQoS2messages) :
    Attentive true sign topic { m with mqtt := change m.mqtt } where
  worded := ⟨attentive.worded.client, attentive.worded.impl⟩
  calm := by cases topic <;> exact attentive.calm
  unused _ := ⟨by rw [incoming]; exact (attentive.unused rfl).1, (attentive.unused rfl).2⟩
  cleansession := nofun
  tallied rules uncrowded := by
    rw [incoming]
    exact attentive.tallied rules uncrowded

theorem Attentive.clean {m : Machine} (attentive : Attentive true sign topic m) :
    Attentive true sign topic { m with mqtt := m.mqtt.clean } where
  worded := ⟨attentive.worded.client, attentive.worded.impl⟩
  calm := by cases topic <;> exact attentive.calm
  unused _ := ⟨fun id member => List.eq_of_mem_replicate member, (attentive.unused rfl).2⟩
  cleansession := nofun
  tallied rules uncrowded := (attentive.tallied rules uncrowded).clean (attentive.unused rfl).1

theorem Attentive.connect {m : Machine} {clientId : Bytes} {keepAliveInterval : Nat}
    (attentive : Attentive true sign topic m) :
    Attentive true sign topic { m with log := .sent (.connect clientId true keepAliveInterval) :: m.log } where
  worded := ⟨attentive.worded.client, attentive.worded.impl⟩
  calm := by cases topic <;> exact attentive.calm
  unused := attentive.unused
  cleansession := nofun
  tallied rules uncrowded := (attentive.tallied rules uncrowded).connect (attentive.unused rfl).1

theorem attentive_carries {α : Type} {quiet : Bool} {program : M α} (tame : Keeps Tame program) :
    Keeps (Carries (Attentive quiet sign topic)) program :=
  tame.mono Attentive.tame

theorem sendPacket_carries {event : Event} (outgoing : event.Outgoing) (timer : Timer) :
    Keeps (Carries (Attentive true sign topic)) (Mqtt.sendPacket event timer) := by
  cases outgoing with
  | connect clientId cleansession keepAliveInterval =>
      cases cleansession with
      | false => exact attentive_carries (sendPacket_tame rfl timer)
      | true =>
          have sends : Triple (Attentive true sign topic)
              (Mqtt.sendPacket (.sent (.connect clientId true keepAliveInterval)) timer)
              (fun outcome m => if outcome.1 then Attentive true sign topic m else Attentive true sign topic m)
              (Attentive true sign topic) :=
            sendPacket_follows fail_tame nextSend_tame lose_tame Attentive.tame (fun _ attentive => attentive.connect) timer
          simp only [ite_self] at sends
          exact sends.carries
  | _ => exact attentive_carries (sendPacket_tame rfl timer)

theorem linkage_quiet : Linkage (Carries (Attentive true sign topic)) where
  startTimer _ := attentive_carries (startTimer_tame _)
  sendPacket outgoing timer := sendPacket_carries outgoing timer
  nextUnset := attentive_carries nextUnset_tame
  mqtt incoming := Keeps.modify fun m attentive => attentive.mqtt (incoming m.mqtt)
  clean := Keeps.modify fun _ attentive => attentive.clean
  ended := by
    refine Keeps.modify fun m attentive => ?_
    unfold Mqtt.ended
    split
    · exact attentive.clean
    · exact @Attentive.mqtt _ _ m (fun mqtt => { mqtt with isconnected := false, pingOutstanding := false }) attentive rfl
  client lastError := by
    refine attentive_carries (client_tame fun client => (lastError client).imp id fun empty => ?_)
    rw [empty]
    exact unrelated_nil
  onError text := attentive_carries (onError_tame text)
  tlsConnect := attentive_carries tlsConnect_tame
  close := attentive_carries close_tame

theorem conduct_quiet (platform : Platform) (topic : Bytes) :
    Conduct platform (Carries (Attentive true platform.sign (some topic))) where
  toLinkage := linkage_quiet
  cycle timer := (cycle_attentive platform timer).preserves.carries
  authenticate := attentive_carries (authenticate_tame platform)
  impl kept := attentive_carries (impl_tame (fun impl => .inl (kept impl).1) fun impl => (kept impl).2.1)
  onConnected := attentive_carries (emit_tame rfl)
  reportLost := attentive_carries reportLost_tame
  reportLastError := attentive_carries reportLastError_tame
  reportClientError := attentive_carries reportClientError_tame
  noSession := attentive_carries (emit_tame (by decide +kernel))
  unsent what := by
    have unrelated := @unrelated_of_take (bytes "Failed to serialize private message: ") what (by decide +kernel) (by decide +kernel)
    exact attentive_carries (emit_tame unrelated)
  nextIv := attentive_carries (reply_tame (fun _ => rfl) fun _ => List.Subset.refl _)

end Quiet

end IotClient
