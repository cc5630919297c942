import IotClient.Proof.Receiving
import IotClient.Proof.Session

namespace IotClient
open Logic

/-! ## Replies that come at once -/

theorem cons_of_takeWhile {α : Type} {test : α → Bool} {items : List α} {count : Nat}
    (long : count + 1 ≤ (items.takeWhile test).length) :
    ∃ first rest, items = first :: rest ∧ test first ∧ count ≤ (rest.takeWhile test).length := by
  cases items with
  | nil => simp at long
  | cons first rest =>
      cases passes : test first with
      | false => simp [passes] at long
      | true =>
          simp only [List.takeWhile_cons, passes, if_true, List.length_cons] at long
          exact ⟨first, rest, rfl, passes, Nat.le_of_succ_le_succ long⟩

section Prompt

variable {deadlines writes : Nat} {answers : List PacketType} {m : Machine}

theorem startTimer_prompt (prompt : m.replies.Prompt (deadlines + 1) writes answers) (milliseconds : Nat) :
    ∃ ticks replies, startTimer milliseconds m =
        .ok (ticks + 2) { m with replies := replies, log := .deadline milliseconds :: m.log } ∧
      replies.Prompt deadlines writes answers := by
  obtain ⟨tick, rest, ticks, long, more⟩ := cons_of_takeWhile prompt.ticks
  obtain ⟨left, rfl⟩ := Nat.exists_eq_add_of_lt (of_decide_eq_true long)
  refine ⟨left, { m.replies with ticks := rest }, ?_, ⟨more, prompt.sends, prompt.pings, prompt.reads⟩⟩
  show EStateM.Result.ok (m.replies.ticks.headD 0) _ = _
  rw [ticks]
  simp only [List.headD_cons, List.tail_cons]
  rw [show 1 + left + 1 = left + 2 by omega]

theorem sendPacket_prompt (prompt : m.replies.Prompt deadlines (writes + 1) answers) (connected : m.tls.connected = true)
    (event : Event) (timer : Timer) :
    ∃ replies, Mqtt.sendPacket event (timer + 1) m =
        .ok (true, timer + 1) { m with replies := replies, log := event :: m.log } ∧
      replies.Prompt deadlines writes answers := by
  obtain ⟨reply, rest, sends, sent, more⟩ := cons_of_takeWhile prompt.sends
  have sent := of_decide_eq_true sent
  subst sent
  refine ⟨{ m.replies with sends := rest }, ?_, ⟨prompt.ticks, more, prompt.pings, prompt.reads⟩⟩
  obtain ⟨⟨host, port, isOpen, lastError⟩, mqtt, mqttTls, impl, http, replies, log⟩ := m
  obtain ⟨ticks, connects, sending, reads, pings, unset, ivs, randoms, exchanges⟩ := replies
  cases connected
  cases sends
  rfl

theorem keepalive_idle (idle : m.replies.pings.headD false = false) :
    ∃ pings, Mqtt.keepalive m = .ok ⟨⟩ { m with replies := { m.replies with pings := pings } } ∧
      (pings = m.replies.pings ∨ pings = m.replies.pings.tail) := by
  unfold Mqtt.keepalive
  rw [run_get_bind]
  split
  · exact ⟨_, rfl, .inl rfl⟩
  · refine ⟨_, ?_, .inr rfl⟩
    have asks : nextPing m = .ok false { m with replies := { m.replies with pings := m.replies.pings.tail } } := by
      show EStateM.Result.ok (m.replies.pings.headD false) _ = _
      rw [idle]
    rw [run_bind_ok asks]
    rfl

theorem readPacket_eq {frame : Frame} {rest : List ReadReply} (connected : m.tls.connected = true)
    (reads : m.replies.reads = ⟨.packet frame, none⟩ :: rest) :
    Mqtt.readPacket m = .ok (.packet frame) { m with
      mqtt := { m.mqtt with readbuf := frame.load m.mqtt.readbuf }
      replies := { m.replies with reads := rest }
      log := .received frame :: m.log } := by
  obtain ⟨⟨host, port, isOpen, lastError⟩, mqtt, mqttTls, impl, http, replies, log⟩ := m
  obtain ⟨ticks, connects, sends, reading, pings, unset, ivs, randoms, exchanges⟩ := replies
  cases connected
  cases reads
  rfl

theorem cycle_prompt (platform : Platform) {type : PacketType}
    (awaited : type = .connack ∨ type = .suback ∨ type = .unsuback)
    (prompt : m.replies.Prompt deadlines writes (type :: answers)) (connected : m.tls.connected = true) (timer : Timer) :
    ∃ frame replies, Mqtt.cycle platform timer m = .ok (.packet type, timer) { m with
        mqtt := { m.mqtt with readbuf := frame.load m.mqtt.readbuf }
        replies := replies
        log := .received frame :: m.log } ∧
      frame.grants type ∧ replies.Prompt deadlines writes answers := by
  obtain ⟨frame, later, reads, grants, rest⟩ := prompt.reads
  have reading := readPacket_eq connected reads
  have idle : m.replies.pings.headD false = false := by
    cases pings : m.replies.pings with
    | nil => rfl
    | cons due _ => exact prompt.pings due (by simp [pings])
  obtain ⟨pings, waits, kept⟩ := @keepalive_idle { m with
    mqtt := { m.mqtt with readbuf := frame.load m.mqtt.readbuf }
    replies := { m.replies with reads := later }
    log := .received frame :: m.log } idle
  refine ⟨frame, { m.replies with reads := later, pings := pings }, ?_, grants, prompt.ticks, prompt.sends, ?_, rest⟩
  · unfold Mqtt.cycle
    rw [run_bind_ok reading]
    show Mqtt.dispatch platform timer (packetType frame.header) _ = _
    rw [grants.1]
    rcases awaited with rfl | rfl | rfl <;> exact run_bind_ok waits
  · intro due member
    apply prompt.pings due
    rcases kept with same | same
    · rw [same] at member
      exact (List.take_sublist_take_left (Nat.le_succ _)).subset member
    · rw [same] at member
      cases earlier : m.replies.pings with
      | nil => simp [earlier] at member
      | cons first others =>
          simp only [earlier, List.tail_cons] at member
          simp [member]

theorem waitfor_prompt (platform : Platform) {type : PacketType}
    (awaited : type = .connack ∨ type = .suback ∨ type = .unsuback)
    (prompt : m.replies.Prompt deadlines writes (type :: answers)) (connected : m.tls.connected = true) (ticks : Nat) :
    ∃ frame replies, Mqtt.waitfor platform type (ticks + 2) m = .ok (true, ticks + 1) { m with
        mqtt := { m.mqtt with readbuf := frame.load m.mqtt.readbuf }
        replies := replies
        log := .received frame :: m.log } ∧
      frame.grants type ∧ replies.Prompt deadlines writes answers := by
  obtain ⟨frame, replies, cycles, granted⟩ := cycle_prompt platform awaited prompt connected (ticks + 2)
  refine ⟨frame, replies, ?_, granted⟩
  unfold Mqtt.waitfor
  rw [run_bind_ok cycles]
  simp only [if_true]
  rfl

end Prompt

/-! ## An open connection on which everything is answered at once -/

structure Attended (sign : CharSign) (topic : Bytes) (isconnected : Bool) (deadlines writes : Nat)
    (answers : List PacketType) (m : Machine) : Prop where
  attentive : Attentive false sign (some topic) m
  connected : m.tls.connected = true
  isconnected : m.mqtt.isconnected = isconnected
  qos : m.mqttTls.qos = .qos2
  inflight : ∀ message, m.mqtt.inflight = some message → message.qos = .qos2
  prompt : m.replies.Prompt deadlines writes answers

section Attended

variable (platform : Platform) {sign : CharSign} {topic : Bytes} {isconnected : Bool} {deadlines writes : Nat}
  {answers : List PacketType} {m : Machine}

theorem startTimer_attended (attended : Attended sign topic isconnected (deadlines + 1) writes answers m) (milliseconds : Nat) :
    ∃ ticks after, startTimer milliseconds m = .ok (ticks + 2) after ∧
      Attended sign topic isconnected deadlines writes answers after := by
  obtain ⟨ticks, replies, starting, prompt⟩ := startTimer_prompt attended.prompt milliseconds
  have attentive := attended.attentive.tame ((startTimer_tame _).returns starting)
  exact ⟨ticks, _, starting, attentive, attended.connected, attended.isconnected, attended.qos, attended.inflight, prompt⟩

theorem sendPacket_attended {event : Event} (inert : event.inert)
    (attended : Attended sign topic isconnected deadlines (writes + 1) answers m) (timer : Timer) :
    ∃ after, Mqtt.sendPacket event (timer + 1) m = .ok (true, timer + 1) after ∧ after.mqttTls = m.mqttTls ∧
      Attended sign topic isconnected deadlines writes answers after := by
  obtain ⟨replies, sending, prompt⟩ := sendPacket_prompt attended.prompt attended.connected event timer
  have attentive := attended.attentive.tame ((sendPacket_tame inert _).returns sending)
  exact ⟨_, sending, rfl, attentive, attended.connected, attended.isconnected, attended.qos, attended.inflight, prompt⟩

theorem getNext_attended (attended : Attended sign topic isconnected deadlines writes answers m) :
    ∃ id after, Mqtt.getNext m = .ok id after ∧ Attended sign topic isconnected deadlines writes answers after := by
  have numbering : Mqtt.getNext m = .ok (Mqtt.nextId m.mqtt.packetid) _ := rfl
  have attentive := attended.attentive.tame (getNext_tame.returns numbering)
  exact ⟨_, _, numbering, attentive, attended.connected, attended.isconnected, attended.qos, attended.inflight, attended.prompt⟩

theorem waitfor_attentive {quiet : Bool} (type : PacketType) (timer : Timer) :
    Keeps (Carries (Attentive quiet platform.sign (some topic))) (Mqtt.waitfor platform type timer) :=
  waitfor_keeps (fun timer => (cycle_attentive platform timer).preserves.carries) type timer

theorem waitfor_attended {type : PacketType} (awaited : type = .connack ∨ type = .suback ∨ type = .unsuback)
    (attended : Attended platform.sign topic isconnected deadlines writes (type :: answers) m) (ticks : Nat) :
    ∃ (frame : Frame) (after : Machine), Mqtt.waitfor platform type (ticks + 2) m = .ok (true, ticks + 1) after ∧
      Attended platform.sign topic isconnected deadlines writes answers after ∧ frame.grants type ∧
      ∃ old, after.mqtt.readbuf = frame.load old := by
  obtain ⟨frame, replies, waiting, grants, prompt⟩ := waitfor_prompt platform awaited attended.prompt attended.connected ticks
  have attentive := (waitfor_attentive platform type _).returns waiting attended.attentive
  exact ⟨frame, _, waiting, ⟨attentive, attended.connected, attended.isconnected, attended.qos, attended.inflight, prompt⟩, grants,
    _, rfl⟩

theorem request_attended {packet : Nat → Packet} {type : PacketType} {answer : M Bool}
    (awaited : type = .suback ∨ type = .unsuback) (inert : ∀ id, (Event.sent (packet id)).inert)
    (fits : ∀ id, (packet id).fits)
    (accepts : ∀ {m : Machine} {frame : Frame}, frame.grants type → (∃ old, m.mqtt.readbuf = frame.load old) →
      answer m = .ok true m)
    (attended : Attended platform.sign topic true (deadlines + 1) (writes + 1) (type :: answers) m) :
    ∃ after, Mqtt.request platform packet type answer m = .ok true after ∧
      Attended platform.sign topic true deadlines writes answers after := by
  obtain ⟨ticks, started, starting, attended'⟩ := startTimer_attended attended m.mqtt.commandTimeout
  obtain ⟨id, numbered, numbering, attended''⟩ := getNext_attended attended'
  obtain ⟨sent, sending, _, attended₃⟩ := sendPacket_attended (inert id) attended'' (ticks + 1)
  obtain ⟨frame, waited, waiting, attended₄, grants, loaded⟩ := waitfor_attended platform (.inr awaited) attended₃ ticks
  refine ⟨waited, ?_, attended₄⟩
  unfold Mqtt.request
  rw [run_get_bind]
  refine run_bind_eq_ok.mpr ⟨_, _, starting, ?_⟩
  rw [run_get_bind, attended'.isconnected]
  refine run_bind_eq_ok.mpr ⟨true, waited, ?_, rfl⟩
  refine run_bind_eq_ok.mpr ⟨id, numbered, numbering, ?_⟩
  rw [fits id]
  refine run_bind_eq_ok.mpr ⟨_, _, sending, ?_⟩
  exact run_bind_eq_ok.mpr ⟨_, _, waiting, accepts grants loaded⟩

theorem readSuback_grants {frame : Frame} (grants : frame.grants .suback) (loaded : ∃ old, m.mqtt.readbuf = frame.load old) :
    Mqtt.readSuback platform m = .ok true m := by
  obtain ⟨suback, high, low, code, body, small⟩ := grants
  obtain ⟨old, loaded⟩ := loaded
  have granted : charValue platform.sign code ≠ 0x80 := by
    rw [ne_eq, charValue_eq_failure]
    rintro ⟨rfl, _⟩
    exact absurd small (by decide)
  unfold Mqtt.readSuback
  rw [run_get_bind, loaded, deserializeSuback_load platform.sign suback, body]
  refine run_bind_eq_ok.mpr ⟨_, _, rfl, ?_⟩
  simp [granted]

theorem clientSubscribe_attended {filter : Bytes} (fits : (Packet.subscribe 0 (cString filter) .qos2).fits)
    (attended : Attended platform.sign topic true (deadlines + 1) (writes + 1) (.suback :: answers) m) :
    ∃ after, MqttTls.subscribe platform filter m = .ok true after ∧
      Attended platform.sign topic true deadlines writes answers after := by
  obtain ⟨after, requesting, attended'⟩ := request_attended platform (.inl rfl)
    (fun id => (rfl : (Event.sent (.subscribe id (cString filter) m.mqttTls.qos)).inert)) (fun _ => fits)
    (fun grants loaded => readSuback_grants platform grants loaded) attended
  refine ⟨after, ?_, attended'⟩
  unfold MqttTls.subscribe
  rw [run_get_bind]
  exact run_bind_eq_ok.mpr ⟨true, after, requesting, rfl⟩

theorem clientUnsubscribe_attended {filter : Bytes} (fits : (Packet.unsubscribe 0 (cString filter)).fits)
    (attended : Attended platform.sign topic true (deadlines + 1) (writes + 1) (.unsuback :: answers) m) :
    ∃ after, MqttTls.unsubscribe platform filter m = .ok true after ∧
      Attended platform.sign topic true deadlines writes answers after := by
  obtain ⟨after, requesting, attended'⟩ := request_attended platform (.inr rfl)
    (fun id => (rfl : (Event.sent (.unsubscribe id (cString filter))).inert)) (fun _ => fits) (fun _ _ => rfl) attended
  exact ⟨after, run_bind_eq_ok.mpr ⟨true, after, requesting, rfl⟩, attended'⟩

theorem transmit_attended {event : Event} (inert : event.inert)
    (attended : Attended sign topic isconnected deadlines (writes + 1) answers m) (timer : Timer) :
    ∃ after, Mqtt.transmit platform event (timer + 1) .qos2 m = .ok true after ∧ after.mqttTls = m.mqttTls ∧
      Attended sign topic isconnected deadlines writes answers after := by
  obtain ⟨sent, sending, kept⟩ := sendPacket_attended inert attended timer
  exact ⟨sent, run_bind_eq_ok.mpr ⟨_, _, sending, rfl⟩, kept⟩

theorem mqttPublish_attended (topicName payload : Bytes)
    (attended : Attended sign topic true (deadlines + 1) (writes + 1) answers m) :
    ∃ ok after, Mqtt.publish platform topicName payload .qos2 m = .ok ok after ∧ Attentive false sign (some topic) after := by
  obtain ⟨ticks, started, starting, attended'⟩ := startTimer_attended attended m.mqtt.commandTimeout
  obtain ⟨id, numbered, numbering, attended''⟩ := getNext_attended attended'
  cases fits : (Packet.publish ⟨.qos2, id, topicName, payload⟩).fits with
  | false =>
      refine ⟨false, numbered, ?_, attended''.attentive⟩
      unfold Mqtt.publish
      rw [run_get_bind]
      refine run_bind_eq_ok.mpr ⟨_, _, starting, ?_⟩
      rw [run_get_bind, attended'.isconnected]
      refine run_bind_eq_ok.mpr ⟨id, numbered, numbering, ?_⟩
      rw [fits]
      rfl
  | true =>
      have records : Keeps Tame (Mqtt.update fun mqtt => { mqtt with
          inflight := if id = 0 then none else some ⟨.qos2, id, topicName, payload⟩, pubrel := false }) :=
        mqtt_tame (fun _ => rfl) fun _ => rfl
      have recorded := attended''.attentive.tame (records numbered)
      have inflight (message : Publish) (recorded : (if id = 0 then none else some ⟨.qos2, id, topicName, payload⟩) = some message) :
          message.qos = .qos2 := by
        split at recorded <;> cases recorded
        rfl
      obtain ⟨sent, sending, _, attended₃⟩ := transmit_attended platform (rfl : (Event.sent (.publish ⟨.qos2, id, topicName, payload⟩)).inert)
        ⟨recorded, attended''.connected, attended''.isconnected, attended''.qos, inflight, attended''.prompt⟩ (ticks + 1)
      refine ⟨true, sent, ?_, attended₃.attentive⟩
      unfold Mqtt.publish
      rw [run_get_bind]
      refine run_bind_eq_ok.mpr ⟨_, _, starting, ?_⟩
      rw [run_get_bind, attended'.isconnected]
      refine run_bind_eq_ok.mpr ⟨id, numbered, numbering, ?_⟩
      rw [fits]
      refine run_bind_eq_ok.mpr ⟨numbered, numbered, rfl, ?_⟩
      rw [attended''.attentive.cleansession rfl]
      exact run_bind_eq_ok.mpr ⟨⟨⟩, _, rfl, sending⟩

theorem clientPublish_attended (filter payload : Bytes)
    (attended : Attended sign topic true (deadlines + 1) (writes + 1) answers m) :
    ∃ ok after, MqttTls.publish platform filter payload m = .ok ok after ∧ Attentive false sign (some topic) after := by
  obtain ⟨ok, published, publishing, attentive⟩ := mqttPublish_attended platform (cString filter) payload attended
  rw [← attended.qos] at publishing
  cases ok with
  | true =>
      refine ⟨true, published, ?_, attentive⟩
      unfold MqttTls.publish
      rw [run_get_bind]
      exact run_bind_eq_ok.mpr ⟨true, published, publishing, rfl⟩
  | false =>
      have failing : MqttTls.onError (bytes "Failed to publish message to " ++ filter ++ bytes " topic") published = .ok false _ := rfl
      refine ⟨false, _, ?_, attentive.tame ((onError_tame (.publish filter)).returns failing)⟩
      unfold MqttTls.publish
      rw [run_get_bind]
      exact run_bind_eq_ok.mpr ⟨false, published, publishing, failing⟩

/-! ## Connecting again -/

theorem Attentive.resume (attentive : Attentive false sign (some topic) m) (keepAliveInterval : Nat) :
    Attentive false sign (some topic)
      { m with mqtt := { m.mqtt with keepAliveInterval := keepAliveInterval, cleansession := false } } where
  worded := ⟨attentive.worded.client, attentive.worded.impl⟩
  calm := attentive.calm
  unused := nofun
  cleansession _ := rfl
  tallied := attentive.tallied

theorem readConnack_grants {frame : Frame} (grants : frame.grants .connack)
    (loaded : ∃ old, m.mqtt.readbuf = frame.load old) :
    ∃ accepted, Mqtt.readConnack m = .ok accepted { m with mqttTls := { m.mqttTls with sessionPresent := false } } := by
  obtain ⟨old, loaded⟩ := loaded
  obtain ⟨sessionPresent, code, deserialized, _, present⟩ := deserializeConnack_load grants.1 old
  have absent : sessionPresent = false := by
    rw [← Bool.not_eq_true]
    intro set
    obtain ⟨flags, rest, body, high⟩ := present set
    have low := grants.2
    simp only [body, List.head?_cons, Option.all_some, decide_eq_true_eq] at low
    exact high low
  unfold Mqtt.readConnack
  rw [run_get_bind, loaded, deserialized, absent]
  exact ⟨_, rfl⟩

theorem resend_attended (accepted : Bool) (attended : Attended sign topic isconnected deadlines (writes + 1) answers m)
    (timer : Timer) :
    ∃ ok after, Mqtt.resend platform accepted (timer + 1) m = .ok ok after ∧ after.mqttTls = m.mqttTls ∧
      Attended sign topic isconnected deadlines writes answers after := by
  unfold Mqtt.resend
  rw [run_get_bind]
  cases inflight : m.mqtt.inflight with
  | none =>
      refine ⟨accepted, m, rfl, rfl, ?_⟩
      have prompt := attended.prompt
      exact ⟨attended.attentive, attended.connected, attended.isconnected, attended.qos, attended.inflight, prompt.ticks,
        Nat.le_of_succ_le prompt.sends, prompt.pings, prompt.reads⟩
  | some message =>
      have qos := attended.inflight message inflight
      simp only [qos]
      cases m.mqtt.pubrel with
      | true =>
          obtain ⟨after, sending, kept⟩ := transmit_attended platform
            (rfl : (Event.sent (.ack .pubrel message.id)).inert) attended timer
          exact ⟨true, after, sending, kept⟩
      | false =>
          obtain ⟨after, sending, kept⟩ := transmit_attended platform (rfl : (Event.resent message).inert) attended timer
          exact ⟨true, after, sending, kept⟩

theorem mqttConnect_attended (clientId : Bytes)
    (attended : Attended platform.sign topic false (deadlines + 1) (writes + 2) (.connack :: answers) m) :
    ∃ ok after, Mqtt.connect platform clientId false m = .ok ok after ∧ Attentive false platform.sign (some topic) after ∧
      (ok = true → Attended platform.sign topic true deadlines writes answers after ∧
        after.mqttTls.sessionPresent = false) := by
  obtain ⟨ticks, started, starting, attended'⟩ := startTimer_attended attended m.mqtt.commandTimeout
  have resumed := attended'.attentive.resume Mqtt.defaultKeepAlive
  have begins : Attended platform.sign topic false deadlines (writes + 2) (.connack :: answers) { started with
      mqtt := { started.mqtt with keepAliveInterval := Mqtt.defaultKeepAlive, cleansession := false } } :=
    ⟨resumed, attended'.connected, attended'.isconnected, attended'.qos, attended'.inflight, attended'.prompt⟩
  cases fits : (Packet.connect clientId false Mqtt.defaultKeepAlive).fits with
  | false =>
      refine ⟨false, _, ?_, resumed, nofun⟩
      unfold Mqtt.connect
      rw [run_get_bind]
      refine run_bind_eq_ok.mpr ⟨_, _, starting, ?_⟩
      rw [run_get_bind, attended'.isconnected]
      refine run_bind_eq_ok.mpr ⟨⟨⟩, _, rfl, ?_⟩
      simp only [fits]
      rfl
  | true =>
      obtain ⟨sent, sending, _, attended₂⟩ := sendPacket_attended
        (rfl : (Event.sent (.connect clientId false Mqtt.defaultKeepAlive)).inert) begins (ticks + 1)
      obtain ⟨frame, waited, waiting, attended₃, grants, loaded⟩ := waitfor_attended platform (.inl rfl) attended₂ ticks
      obtain ⟨accepted, reading⟩ := readConnack_grants grants loaded
      have noted : Keeps Tame (MqttTls.update fun client => { client with sessionPresent := false }) :=
        client_tame fun _ => .inl rfl
      have attended₄ : Attended platform.sign topic false deadlines (writes + 1) answers
          { waited with mqttTls := { waited.mqttTls with sessionPresent := false } } :=
        ⟨attended₃.attentive.tame (noted waited), attended₃.connected, attended₃.isconnected, attended₃.qos,
          attended₃.inflight, attended₃.prompt⟩
      obtain ⟨rc, resent, resending, same, attended₅⟩ := resend_attended platform accepted attended₄ ticks
      have run (ended : Machine) (ends : onlyIf rc (Mqtt.update fun mqtt => { mqtt with isconnected := true }) resent = .ok ⟨⟩ ended) :
          Mqtt.connect platform clientId false m = .ok rc ended := by
        unfold Mqtt.connect
        rw [run_get_bind]
        refine run_bind_eq_ok.mpr ⟨_, _, starting, ?_⟩
        rw [run_get_bind, attended'.isconnected]
        refine run_bind_eq_ok.mpr ⟨⟨⟩, _, rfl, ?_⟩
        simp only [fits]
        refine run_bind_eq_ok.mpr ⟨_, _, sending, ?_⟩
        refine run_bind_eq_ok.mpr ⟨_, _, waiting, ?_⟩
        refine run_bind_eq_ok.mpr ⟨_, _, reading, ?_⟩
        refine run_bind_eq_ok.mpr ⟨_, _, resending, ?_⟩
        exact run_bind_eq_ok.mpr ⟨_, _, ends, rfl⟩
      cases rc with
      | false => exact ⟨false, resent, run resent rfl, attended₅.attentive, nofun⟩
      | true =>
          have links : Keeps Tame (Mqtt.update fun mqtt => { mqtt with isconnected := true }) :=
            mqtt_tame (fun _ => rfl) fun _ => rfl
          have attentive := attended₅.attentive.tame (links resent)
          refine ⟨true, _, run _ rfl, attentive, fun _ => ⟨⟨attentive, attended₅.connected, rfl, attended₅.qos,
            attended₅.inflight, attended₅.prompt⟩, ?_⟩⟩
          exact congrArg MqttTls.sessionPresent same

structure Detached (sign : CharSign) (topic : Bytes) (topics : List Bytes) (deadlines writes : Nat)
    (answers : List PacketType) (m : Machine) : Prop where
  attentive : Attentive false sign (some topic) m
  closed : m.tls.connected = false
  isconnected : m.mqtt.isconnected = false
  persistent : m.mqttTls.usePersistentSession = true
  qos : m.mqttTls.qos = .qos2
  inflight : ∀ message, m.mqtt.inflight = some message → message.qos = .qos2
  subscriptions : m.impl.subscriptions = topics
  prompt : m.replies.Prompt deadlines writes answers

theorem tlsConnect_detached {topics : List Bytes} (detached : Detached sign topic topics deadlines writes answers m) :
    ∃ ok after, TlsConnection.connect m = .ok ok after ∧ Attentive false sign (some topic) after ∧
      (ok = true → Attended sign topic false deadlines writes answers after) := by
  have connects := @tlsConnect_tame m
  unfold TlsConnection.connect at connects ⊢
  rw [run_get_bind, if_neg (by rw [detached.closed]; simp)] at connects ⊢
  cases reply : m.replies.connects.headD (some []) with
  | some error =>
      have asking : nextConnect m = .ok (some error) { m with replies := { m.replies with connects := m.replies.connects.tail } } := by
        show EStateM.Result.ok (m.replies.connects.headD (some [])) _ = _
        rw [reply]
      rw [run_bind_ok asking] at connects ⊢
      exact ⟨false, _, rfl, detached.attentive.tame connects, nofun⟩
  | none =>
      have asking : nextConnect m = .ok none { m with replies := { m.replies with connects := m.replies.connects.tail } } := by
        show EStateM.Result.ok (m.replies.connects.headD (some [])) _ = _
        rw [reply]
      rw [run_bind_ok asking] at connects ⊢
      have attentive := detached.attentive.tame connects
      have prompt := detached.prompt
      exact ⟨true, _, rfl, attentive, fun _ => ⟨attentive, rfl, detached.isconnected, detached.qos, detached.inflight,
        prompt.ticks, prompt.sends, prompt.pings, prompt.reads⟩⟩

theorem isConnected_detached {topics : List Bytes} (detached : Detached sign topic topics deadlines writes answers m) :
    MqttTls.isConnected m = .ok false m := by
  unfold MqttTls.isConnected
  rw [run_get_bind, detached.closed, detached.isconnected]
  rfl

theorem onError_attentive {error : Bytes} (text : ErrorText error) (attentive : Attentive false sign (some topic) m) :
    ∃ after, MqttTls.onError error m = .ok false after ∧ Attentive false sign (some topic) after :=
  ⟨_, rfl, attentive.tame (onError_tame text m)⟩

theorem connectSession_detached {topics : List Bytes}
    (detached : Detached platform.sign topic topics (deadlines + 1) (writes + 2) (.connack :: answers) m) :
    ∃ ok after, MqttTls.connectSession platform false m = .ok ok after ∧ Attentive false platform.sign (some topic) after ∧
      (ok = true → Attended platform.sign topic true deadlines writes answers after ∧
        after.mqttTls.sessionPresent = false) := by
  unfold MqttTls.connectSession
  rw [run_bind_ok (isConnected_detached detached)]
  obtain ⟨connected, tried, trying, attentive, attended⟩ := tlsConnect_detached detached
  cases connected with
  | false =>
      obtain ⟨failed, failing, attentive'⟩ := onError_attentive (.tlsConnect tried.tls.host tried.tls.port) attentive
      exact ⟨false, failed, run_bind_eq_ok.mpr ⟨_, _, trying, failing⟩, attentive', nofun⟩
  | true =>
      obtain ⟨ok, answered, asking, attentive', linked⟩ := mqttConnect_attended platform tried.mqttTls.clientId (attended rfl)
      cases ok with
      | false =>
          obtain ⟨failed, failing, attentive''⟩ := onError_attentive .mqttConnect attentive'
          obtain ⟨_, closed, closing⟩ := close_throws.ok failed
          refine ⟨false, closed, run_bind_eq_ok.mpr ⟨_, _, trying, ?_⟩, attentive''.tame (close_tame.returns closing), nofun⟩
          refine run_bind_eq_ok.mpr ⟨false, failed, ?_, run_bind_eq_ok.mpr ⟨_, _, closing, rfl⟩⟩
          exact run_bind_eq_ok.mpr ⟨tried, tried, rfl, run_bind_eq_ok.mpr ⟨false, answered, asking, failing⟩⟩
      | true =>
          obtain ⟨attended', absent⟩ := linked rfl
          have cleared : Keeps Tame (MqttTls.update fun client => { client with lastError := [] }) :=
            client_tame fun _ => .inr unrelated_nil
          have attentive'' := attentive'.tame (cleared answered)
          refine ⟨true, { answered with mqttTls := { answered.mqttTls with lastError := [] } },
            run_bind_eq_ok.mpr ⟨_, _, trying, ?_⟩, attentive'', fun _ => ⟨⟨attentive'', attended'.connected,
              attended'.isconnected, attended'.qos, attended'.inflight, attended'.prompt⟩, absent⟩⟩
          refine run_bind_eq_ok.mpr ⟨true, answered, ?_, rfl⟩
          exact run_bind_eq_ok.mpr ⟨tried, tried, rfl, run_bind_eq_ok.mpr ⟨true, answered, asking, rfl⟩⟩

theorem restore_attended {topics : List Bytes} (fits : ∀ filter ∈ topics, (Packet.subscribe 0 (cString filter) .qos2).fits)
    (attended : Attended platform.sign topic true (topics.length + deadlines) (topics.length + writes)
      (topics.map (fun _ => .suback) ++ answers) m) :
    ∃ after, Client.restore platform topics m = .ok true after ∧
      Attended platform.sign topic true deadlines writes answers after := by
  induction topics generalizing m with
  | nil =>
      simp only [List.length_nil, Nat.zero_add, List.map_nil, List.nil_append] at attended
      exact ⟨m, rfl, attended⟩
  | cons filter rest ih =>
      simp only [List.length_cons, Nat.add_right_comm _ 1, List.map_cons, List.cons_append] at attended
      obtain ⟨subscribed, subscribing, attended'⟩ := clientSubscribe_attended platform (fits filter (by simp)) attended
      obtain ⟨after, restoring, attended''⟩ := ih (fun other member => fits other (List.mem_cons_of_mem _ member)) attended'
      exact ⟨after, run_bind_eq_ok.mpr ⟨true, subscribed, subscribing, restoring⟩, attended''⟩

theorem Detached.authenticates {topics : List Bytes} {before after : Machine} (authenticates : Authenticates before after)
    (given : Detached sign topic topics deadlines writes answers before ∧ before.impl.state = .disconnected) :
    Detached sign topic topics deadlines writes answers after ∧ after.impl.state = .disconnected := by
  obtain ⟨detached, state⟩ := given
  have prompt := detached.prompt
  refine ⟨⟨detached.attentive.tame authenticates.tame, ?_, ?_, ?_, ?_, ?_, ?_, ?_⟩, ?_⟩
  · rw [authenticates.tls, detached.closed]
  · rw [authenticates.mqtt, detached.isconnected]
  · rw [authenticates.mqttTls]
    exact detached.persistent
  · rw [authenticates.mqttTls]
    exact detached.qos
  · rw [authenticates.mqtt]
    exact detached.inflight
  · rw [authenticates.impl]
    exact detached.subscriptions
  · rw [authenticates.replies]
    exact ⟨prompt.ticks, prompt.sends, prompt.pings, prompt.reads⟩
  · rw [authenticates.impl]
    exact state

theorem reconnect_detached {topics : List Bytes} (fits : ∀ filter ∈ topics, (Packet.subscribe 0 (cString filter) .qos2).fits) :
    Triple (fun m => Detached platform.sign topic topics (topics.length + deadlines + 1) (topics.length + writes + 2)
        (.connack :: (topics.map (fun _ => .suback) ++ answers)) m ∧ m.impl.state = .disconnected)
      (Client.reconnect platform)
      (fun ok m => if ok then Attended platform.sign topic true deadlines writes answers m
        else Attentive false platform.sign (some topic) m ∧ m.impl.state = .disconnected)
      (Attentive false platform.sign (some topic)) := by
  have authenticating := ((authenticate_authenticates platform).preserves (@Detached.authenticates platform.sign topic
    (topics.length + deadlines + 1) (topics.length + writes + 2) (.connack :: (topics.map (fun _ => .suback) ++ answers))
    topics)).weaken (fun _ given => given) (fun _ _ given => given) fun _ given => given.1.attentive
  refine Triple.bind authenticating fun ok => ?_
  cases ok with
  | false => exact Triple.pure fun m given => ⟨given.1.attentive, given.2⟩
  | true =>
      refine Triple.of_ok fun m given => ?_
      obtain ⟨detached, state⟩ := given
      obtain ⟨ok, linked, linking, attentive, attended⟩ := connectSession_detached platform detached
      have reconnecting : MqttTls.reconnect platform m = .ok ok linked := by
        unfold MqttTls.reconnect
        rw [run_get_bind, detached.persistent]
        exact linking
      have impl := ((mechanics_mute platform).reconnect.returns reconnecting).impl
      cases ok with
      | false => exact ⟨false, linked, run_bind_eq_ok.mpr ⟨false, linked, reconnecting, rfl⟩, attentive, impl ▸ state⟩
      | true =>
          obtain ⟨attended, absent⟩ := attended rfl
          obtain ⟨restored, restoring, attended'⟩ := restore_attended platform fits attended
          refine ⟨true, restored, run_bind_eq_ok.mpr ⟨true, linked, reconnecting, ?_⟩, attended'⟩
          refine run_bind_eq_ok.mpr ⟨linked, linked, rfl, ?_⟩
          rw [absent]
          refine run_bind_eq_ok.mpr ⟨linked, linked, rfl, ?_⟩
          rw [impl, detached.subscriptions]
          exact restoring

structure Poised (sign : CharSign) (topic : Bytes) (writes : Nat) (answers : List PacketType) (m : Machine) : Prop where
  attentive : Attentive false sign (some topic) m
  state : m.impl.state = .connected ∨ m.impl.state = .disconnected
  persistent : m.mqttTls.usePersistentSession = true
  qos : m.mqttTls.qos = .qos2
  inflight : ∀ message, m.mqtt.inflight = some message → message.qos = .qos2
  fits : ∀ filter ∈ m.impl.subscriptions, (Packet.subscribe 0 (cString filter) .qos2).fits
  live : m.live = true → m.replies.Prompt writes writes answers
  lost : m.live = false → m.replies.Prompt (m.impl.subscriptions.length + writes + 2)
    (m.impl.subscriptions.length + writes + 2) (.connack :: (m.impl.subscriptions.map (fun _ => .suback) ++ answers))

theorem Prompt.spend (prompt : m.replies.Prompt (deadlines + 1) writes answers) :
    m.replies.Prompt deadlines writes answers :=
  ⟨Nat.le_of_succ_le prompt.ticks, prompt.sends, prompt.pings, prompt.reads⟩

theorem ended_persistent {mqtt : Mqtt} (persistent : mqtt.cleansession = false) :
    mqtt.ended = { mqtt with isconnected := false, pingOutstanding := false } :=
  if_neg (by simp [persistent])

theorem isConnected_poised {topics : List Bytes} (poised : Poised sign topic writes answers m)
    (same : m.impl.subscriptions = topics) (dead : (m.tls.connected && m.mqtt.isconnected) = false) :
    ∃ after, MqttTls.isConnected m = .ok false after ∧ Detached sign topic topics (topics.length + writes + 1)
        (topics.length + writes + 2) (.connack :: (topics.map (fun _ => .suback) ++ answers)) after ∧
      after.impl.state = m.impl.state := by
  subst same
  have lost := poised.lost (by simp only [Machine.live, Bool.and_assoc, dead, Bool.and_false])
  have absent : Keeps Tame (MqttTls.update fun client => { client with sessionPresent := false }) :=
    client_tame fun _ => .inl rfl
  cases connected : m.tls.connected with
  | true =>
      rw [connected, Bool.true_and] at dead
      have closing : TlsConnection.close m =
          .ok ⟨⟩ { m with tls := { m.tls with connected := false }, log := .closed :: m.log } := by
        unfold TlsConnection.close
        rw [run_get_bind, if_pos connected]
        rfl
      have attentive := (poised.attentive.tame (close_tame.returns closing)).tame (absent _)
      refine ⟨_, ?_, ⟨attentive, rfl, dead, poised.persistent, poised.qos, poised.inflight, rfl, Prompt.spend lost⟩, rfl⟩
      unfold MqttTls.isConnected
      rw [run_get_bind, connected, dead]
      exact run_bind_eq_ok.mpr ⟨⟨⟩, _, closing, rfl⟩
  | false =>
      cases linked : m.mqtt.isconnected with
      | false =>
          refine ⟨m, ?_, ⟨poised.attentive, connected, linked, poised.persistent, poised.qos, poised.inflight, rfl,
            Prompt.spend lost⟩, rfl⟩
          unfold MqttTls.isConnected
          rw [run_get_bind, connected, linked]
          rfl
      | true =>
          obtain ⟨ticks, replies, starting, prompt⟩ := startTimer_prompt lost m.mqtt.commandTimeout
          have attentive := poised.attentive.tame ((startTimer_tame _).returns starting)
          have sending : Mqtt.sendPacket (.sent .disconnect) (ticks + 2)
              { m with replies := replies, log := .deadline m.mqtt.commandTimeout :: m.log } =
              .ok (false, ticks + 2) { m with
                tls := m.tls.fail TlsConnection.writeDisconnected
                replies := replies
                log := .deadline m.mqtt.commandTimeout :: m.log } := by
            unfold Mqtt.sendPacket
            rw [if_neg (Nat.succ_ne_zero _), run_get_bind, connected]
            rfl
          have attentive := attentive.tame ((sendPacket_tame rfl _).returns sending)
          have ends : Keeps Tame (Mqtt.update fun mqtt => { mqtt with isconnected := false, pingOutstanding := false }) :=
            mqtt_tame (fun _ => rfl) fun _ => rfl
          have attentive := (attentive.tame (ends _)).tame (absent _)
          refine ⟨_, ?_, ⟨attentive, ?_, rfl, poised.persistent, poised.qos, poised.inflight, rfl, prompt⟩, rfl⟩
          · unfold MqttTls.isConnected Mqtt.disconnect
            rw [run_get_bind, connected, linked]
            refine run_bind_eq_ok.mpr ⟨⟨⟩, _, ?_, rfl⟩
            refine run_bind_eq_ok.mpr ⟨⟨⟩, _, ?_, rfl⟩
            refine run_bind_eq_ok.mpr ⟨m, m, rfl, run_bind_eq_ok.mpr ⟨_, _, starting, ?_⟩⟩
            refine run_bind_eq_ok.mpr ⟨_, _, sending, ?_⟩
            show EStateM.Result.ok _ { m with mqtt := m.mqtt.ended, tls := _, replies := _, log := _ } = _
            rw [ended_persistent (poised.attentive.cleansession rfl)]
            rfl
          · exact connected

theorem isConnected_linked (linked : (m.tls.connected && m.mqtt.isconnected) = true) : MqttTls.isConnected m = .ok true m := by
  obtain ⟨connected, isconnected⟩ := Bool.and_eq_true_iff.mp linked
  unfold MqttTls.isConnected
  rw [run_get_bind, connected, isconnected]
  rfl

theorem reportLost_detached {topics : List Bytes} (detached : Detached sign topic topics deadlines writes answers m) :
    ∃ after, Client.reportLost m = .ok ⟨⟩ after ∧ Detached sign topic topics deadlines writes answers after ∧
      after.impl.state = .disconnected :=
  ⟨_, rfl, ⟨detached.attentive.tame (reportLost_tame m), detached.closed, detached.isconnected, detached.persistent,
    detached.qos, detached.inflight, detached.subscriptions, detached.prompt⟩, rfl⟩

theorem reportConnected_attended (attended : Attended sign topic isconnected deadlines writes answers m) :
    ∃ after, Client.reportConnected m = .ok true after ∧ Attended sign topic isconnected deadlines writes answers after := by
  have reports : Keeps Tame Client.reportConnected :=
    Keeps.bind (impl_tame (fun _ => .inl rfl) fun _ => rfl) fun _ => Keeps.bind (emit_tame rfl) fun _ => Keeps.pure _
  exact ⟨_, rfl, attended.attentive.tame (reports m), attended.connected, attended.isconnected, attended.qos,
    attended.inflight, attended.prompt⟩

theorem reconnecting_detached {topics : List Bytes} (fits : ∀ filter ∈ topics, (Packet.subscribe 0 (cString filter) .qos2).fits) :
    Triple (fun m => Detached platform.sign topic topics (topics.length + deadlines + 1) (topics.length + writes + 2)
        (.connack :: (topics.map (fun _ => .suback) ++ answers)) m ∧ m.impl.state = .disconnected)
      (do
        if ← Client.reconnect platform then Client.reportConnected
        else do
          Client.reportLastError
          return (← get).impl.state = .connected)
      (fun ok m => if ok then Attended platform.sign topic true deadlines writes answers m
        else Attentive false platform.sign (some topic) m)
      (Attentive false platform.sign (some topic)) := by
  refine Triple.bind (reconnect_detached platform fits) fun ok => ?_
  cases ok with
  | true =>
      refine Triple.of_ok fun reconnected attended => ?_
      obtain ⟨after, reports, attended'⟩ := reportConnected_attended attended
      exact ⟨true, after, reports, attended'⟩
  | false =>
      refine Triple.of_ok fun failed given => ?_
      obtain ⟨attentive, state⟩ := given
      have reports : Client.reportLastError failed = .ok ⟨⟩ _ := rfl
      refine ⟨false, _, run_bind_eq_ok.mpr ⟨⟨⟩, _, reports, ?_⟩, attentive.tame (reportLastError_tame failed)⟩
      rw [run_get_bind]
      simp only [state]
      rfl

theorem checkConnection_poised :
    Triple (Poised platform.sign topic writes answers) (Client.checkConnection platform)
      (fun ok m => if ok then Attended platform.sign topic true writes writes answers m
        else Attentive false platform.sign (some topic) m)
      (Attentive false platform.sign (some topic)) := by
  intro m poised
  unfold Client.checkConnection
  cases linked : m.tls.connected && m.mqtt.isconnected with
  | true =>
      rw [run_bind_ok (isConnected_linked linked)]
      rcases poised.state with state | state
      · have both := Bool.and_eq_true_iff.mp linked
        have live : m.live = true := by simp [Machine.live, state, both]
        simp only [if_true, run_get_bind, state]
        exact ⟨poised.attentive, both.1, both.2, poised.qos, poised.inflight, poised.live live⟩
      · simp only [if_true, run_get_bind, state]
        exact poised.attentive
  | false =>
      obtain ⟨given, checking, detached, state⟩ := isConnected_poised poised rfl linked
      rw [run_bind_ok checking, if_neg Bool.false_ne_true, run_get_bind]
      rcases poised.state with connected | disconnected
      · obtain ⟨lost, reports, detached', disconnected⟩ := reportLost_detached detached
        have reporting : onlyIf (given.impl.state = .connected) Client.reportLost given = .ok ⟨⟩ lost := by
          rw [state, connected]
          exact reports
        rw [run_bind_ok reporting]
        exact reconnecting_detached platform poised.fits lost ⟨detached', disconnected⟩
      · have reporting : onlyIf (given.impl.state = .connected) Client.reportLost given = .ok ⟨⟩ given := by
          rw [state, disconnected]
          rfl
        rw [run_bind_ok reporting]
        exact reconnecting_detached platform poised.fits given ⟨detached, state.trans disconnected⟩

/-! ## Calls that do not fail -/

theorem checkState_poised :
    Triple (Poised platform.sign topic writes answers) (Client.checkState platform)
      (fun ok m => if ok then Attended platform.sign topic true writes writes answers m
        else Attentive false platform.sign (some topic) m)
      (Attentive false platform.sign (some topic)) := by
  refine Triple.get fun read => ?_
  rintro m ⟨rfl, poised⟩
  rcases poised.state with state | state
  · rw [state]
    exact checkConnection_poised platform m poised
  · rw [state]
    exact checkConnection_poised platform m poised

theorem command_poised {action : M Bool} {success : Impl → Impl}
    (tame : ∀ impl, (success impl).lastError = impl.lastError ∧
      (success impl).privateMessagesTopic = impl.privateMessagesTopic)
    (acts : Triple (Attended platform.sign topic true writes writes answers) action
      (fun _ => Attentive false platform.sign (some topic)) (Attentive false platform.sign (some topic))) :
    Triple (Poised platform.sign topic writes answers) (Client.command platform action success)
      (fun _ => Attentive false platform.sign (some topic)) (Attentive false platform.sign (some topic)) := by
  have kept {program : M Unit} (keeps : Keeps Tame program) (result : Bool) :
      Preserves (Attentive false platform.sign (some topic)) (do program; return result) :=
    (Keeps.bind keeps fun _ => Keeps.pure _).preserves Attentive.tame
  refine Triple.bind (checkState_poised platform) fun ok => ?_
  cases ok with
  | false => exact Triple.pure fun _ attentive => attentive
  | true =>
      refine Triple.bind acts fun done => ?_
      cases done with
      | true => exact kept (impl_tame (fun impl => .inl (tame impl).1) fun impl => (tame impl).2) true
      | false => exact kept reportClientError_tame false

theorem clientLoop_attentive (timeout : Nat) :
    Preserves (Attentive false platform.sign (some topic)) (MqttTls.runMessageLoop platform timeout) := by
  have carries : Keeps (Carries (Attentive false platform.sign (some topic))) (MqttTls.runMessageLoop platform timeout) := by
    refine Keeps.bind (Keeps.bind (attentive_carries (startTimer_tame _)) fun _ => ?_) fun _ => ?_
    · exact yieldLoop_keeps (fun timer => (cycle_attentive platform timer).preserves.carries) _
    · refine Keeps.ite (fun _ => Keeps.pure _) fun _ => Keeps.bind Keeps.get fun _ => ?_
      exact Keeps.ite (fun _ => Keeps.pure _) fun _ => attentive_carries (onError_tame .messageLoop)
  exact carries.preserves id

theorem publish_poised (name payload : Bytes) :
    Triple (Poised platform.sign topic 1 []) (Client.publish platform name payload)
      (fun _ => Attentive false platform.sign (some topic)) (Attentive false platform.sign (some topic)) :=
  command_poised platform (fun _ => ⟨rfl, rfl⟩)
    (Triple.of_ok fun _ attended => clientPublish_attended platform name payload attended)

theorem subscribe_poised {filter : Bytes} (fits : (Packet.subscribe 0 (cString filter) .qos2).fits) :
    Triple (Poised platform.sign topic 1 [.suback]) (Client.subscribe platform filter)
      (fun _ => Attentive false platform.sign (some topic)) (Attentive false platform.sign (some topic)) := by
  refine command_poised platform (fun _ => ⟨rfl, rfl⟩) (Triple.of_ok fun m attended => ?_)
  obtain ⟨after, subscribing, attended'⟩ := clientSubscribe_attended platform fits attended
  exact ⟨true, after, subscribing, attended'.attentive⟩

theorem unsubscribe_poised {filter : Bytes} (fits : (Packet.unsubscribe 0 (cString filter)).fits) :
    Triple (Poised platform.sign topic 1 [.unsuback]) (Client.unsubscribe platform filter)
      (fun _ => Attentive false platform.sign (some topic)) (Attentive false platform.sign (some topic)) := by
  refine command_poised platform (fun _ => ⟨rfl, rfl⟩) (Triple.of_ok fun m attended => ?_)
  obtain ⟨after, unsubscribing, attended'⟩ := clientUnsubscribe_attended platform fits attended
  exact ⟨true, after, unsubscribing, attended'.attentive⟩

theorem runMessageLoop_poised (timeout : Nat) :
    Triple (Poised platform.sign topic 0 []) (Client.runMessageLoop platform timeout)
      (fun _ => Attentive false platform.sign (some topic)) (Attentive false platform.sign (some topic)) :=
  command_poised platform (fun _ => ⟨rfl, rfl⟩)
    ((clientLoop_attentive platform timeout).starting fun _ attended => attended.attentive)

theorem unsent_tame (what : Bytes) :
    Keeps Tame (notify (.onError (bytes "Failed to serialize private message: " ++ what))) :=
  emit_tame (@unrelated_of_take (bytes "Failed to serialize private message: ") what (by decide +kernel) (by decide +kernel))

theorem nextIv_poised : Triple (Poised sign topic writes answers) nextIv (fun _ => Poised sign topic writes answers)
    (Attentive false sign (some topic)) := by
  intro m poised
  have draws : Keeps Tame nextIv := reply_tame (fun _ => rfl) fun _ => List.Subset.refl _
  refine ⟨poised.attentive.tame (draws m), poised.state, poised.persistent, poised.qos, poised.inflight, poised.fits,
    fun live => ?_, fun lost => ?_⟩
  · have prompt := poised.live live
    exact ⟨prompt.ticks, prompt.sends, prompt.pings, prompt.reads⟩
  · have prompt := poised.lost lost
    exact ⟨prompt.ticks, prompt.sends, prompt.pings, prompt.reads⟩

theorem sendPrivateMessage_poised (userIdTo payload : Bytes) (encrypt : Bool) :
    Triple (Poised platform.sign topic 1 []) (Client.sendPrivateMessage platform userIdTo payload encrypt)
      (fun _ => Attentive false platform.sign (some topic)) (Attentive false platform.sign (some topic)) := by
  have serializing (result : Except Fault Bytes) : Triple (Poised platform.sign topic 1 []) (M.ofExcept result)
      (fun _ => Poised platform.sign topic 1 []) (Attentive false platform.sign (some topic)) := by
    intro m poised
    cases result with
    | ok text => exact poised
    | error fault => exact poised.attentive
  refine @Triple.tryCatch _ _ _ _ _ _ _ _ (Attentive false platform.sign (some topic)) ?_ fun fault => ?_
  · refine Triple.bind (Triple.ite (fun _ => nextIv_poised) fun _ => Triple.pure fun _ poised => poised) fun random => ?_
    exact Triple.read fun read => Triple.bind (serializing _) fun text => publish_poised platform _ text
  · cases fault with
    | iot what => exact (Keeps.bind (unsent_tame _) fun _ => Keeps.pure _).preserves Attentive.tame
    | _ => exact Triple.throw fun _ attentive => attentive

theorem mqttDisconnect_attentive : Keeps (Carries (Attentive false sign (some topic))) Mqtt.disconnect := by
  refine Keeps.bind Keeps.get fun _ => Keeps.bind (attentive_carries (startTimer_tame _)) fun _ => ?_
  refine Keeps.bind (attentive_carries (sendPacket_tame rfl _)) fun _ => Keeps.modify fun m attentive => ?_
  rw [ended_persistent (attentive.cleansession rfl)]
  have ends : Keeps Tame (Mqtt.update fun mqtt => { mqtt with isconnected := false, pingOutstanding := false }) :=
    mqtt_tame (fun _ => rfl) fun _ => rfl
  exact attentive.tame (ends m)

theorem absent_attentive : Keeps (Carries (Attentive false sign (some topic)))
    (MqttTls.update fun client => { client with sessionPresent := false }) :=
  attentive_carries (client_tame fun _ => .inl rfl)

theorem isConnected_attentive : Keeps (Carries (Attentive false sign (some topic))) MqttTls.isConnected :=
  isConnected_keeps mqttDisconnect_attentive (attentive_carries close_tame) absent_attentive

theorem endSession_attentive : Keeps (Carries (Attentive false sign (some topic))) Client.endSession := by
  refine Keeps.bind Keeps.get fun _ => Keeps.ite (fun _ => Keeps.pure _) fun _ => ?_
  refine Keeps.bind ?_ fun _ => attentive_carries (impl_tame (fun _ => .inl rfl) fun _ => rfl)
  exact disconnect_keeps mqttDisconnect_attentive (attentive_carries close_tame) absent_attentive

theorem Client.Smooth.poised {call : Client.Call} {own : Nat} {expected : List PacketType} (smooth : Client.Smooth m call)
    (attentive : Attentive false sign (some topic) m) (checks : call.checksState = true)
    (writes : call.writes m = (if call.reconnects m then m.impl.subscriptions.length + 2 else 0) + own)
    (answers : call.answers m =
      (if call.reconnects m then .connack :: m.impl.subscriptions.map fun _ => .suback else []) ++ expected) :
    Poised sign topic own expected m := by
  have prompt := smooth.prompt
  rw [writes, answers] at prompt
  refine ⟨attentive, smooth.state, smooth.persistent, smooth.qos, smooth.inflight, ?_, fun live => ?_, fun lost => ?_⟩
  · exact List.all_eq_true.mp (Bool.and_eq_true_iff.mp smooth.fits).1
  · simpa [Client.Call.reconnects, live] using prompt
  · simp only [Client.Call.reconnects, checks, lost, Bool.not_false, Bool.and_self, if_true, Nat.add_right_comm _ 2] at prompt
    exact prompt

theorem configure_tame (conf : Config) : Keeps Tame (Client.perform platform (.configure conf)) := by
  have sets : Keeps Tame (Client.configure conf) := impl_tame (fun _ => .inl rfl) fun _ => rfl
  exact Keeps.bind sets fun _ => Keeps.pure _

/-- A call that does not fail loses nothing of what it receives. -/
theorem perform_smooth {call : Client.Call} (smooth : Client.Smooth m call)
    (attentive : Attentive false platform.sign (some topic) m) :
    Attentive false platform.sign (some topic) (last (Client.perform platform call m)) := by
  have poised := @Client.Smooth.poised platform.sign topic m call
  have started : m.impl.state ≠ .noSession := by rcases smooth.state with state | state <;> simp [state]
  cases call with
  | configure conf => exact attentive.tame (configure_tame platform conf m)
  | startSession =>
      rw [startSession_started platform started]
      exact attentive
  | endSession => exact Keeps.bind endSession_attentive (fun _ => Keeps.pure _) m attentive
  | isConnected => exact isConnected_attentive m attentive
  | subscribe filter =>
      exact (subscribe_poised platform (Bool.and_eq_true_iff.mp smooth.fits).2).last (poised smooth attentive rfl rfl rfl)
  | unsubscribe filter =>
      exact (unsubscribe_poised platform (Bool.and_eq_true_iff.mp smooth.fits).2).last (poised smooth attentive rfl rfl rfl)
  | publish name payload => exact (publish_poised platform name payload).last (poised smooth attentive rfl rfl rfl)
  | listenForPrivateMessages =>
      exact (subscribe_poised platform (Bool.and_eq_true_iff.mp smooth.fits).2).last (poised smooth attentive rfl rfl rfl)
  | sendPrivateMessage userIdTo payload encrypt =>
      exact (sendPrivateMessage_poised platform userIdTo payload encrypt).last (poised smooth attentive rfl rfl rfl)
  | runMessageLoop timeout => exact (runMessageLoop_poised platform timeout).last (poised smooth attentive rfl rfl rfl)

end Attended

/-! ## Whole runs -/

structure Tallied (m : Machine) : Prop where
  worded : Worded m
  tally : SenderRules m.log → Uncrowded m.log → Tally m.mqtt.incomingQoS2messages m.log

section Tallied

variable (platform : Platform) {m : Machine}

theorem tallied_of_attentive {quiet : Bool} {sign : CharSign} {topic : Option Bytes}
    (attentive : Attentive quiet sign topic m) : Tallied m :=
  ⟨attentive.worded, attentive.tallied⟩

theorem Tallied.tame {before after : Machine} (tame : Tame before after) (tallied : Tallied before) : Tallied after where
  worded := tame.worded tallied.worded
  tally rules uncrowded := by
    obtain ⟨events, grows, all⟩ := tame.log tallied.worded
    rw [grows] at rules uncrowded
    rw [grows, tame.incoming]
    exact (tallied.tally rules.append uncrowded.append).inerts all

theorem Tallied.quiet {sign : CharSign} {topic : Option Bytes} (tallied : Tallied m) (unused : m.Unused)
    (receptive : Receptive sign topic m) : Attentive true sign topic m :=
  ⟨⟨tallied.worded, receptive, fun _ => unused, nofun⟩, tallied.tally⟩

theorem refused_tallied : Preserves Tallied (notify (.onError (bytes "No session started"))) :=
  (emit_tame (by decide +kernel)).preserves Tallied.tame

theorem sendPrivateMessage_tallied (userIdTo payload : Bytes) (encrypt : Bool) :
    Triple (fun m => Tallied m ∧ m.impl.state = .noSession) (Client.sendPrivateMessage platform userIdTo payload encrypt)
      (fun _ => Tallied) Tallied := by
  have draws : Keeps Tame nextIv := reply_tame (fun _ => rfl) fun _ => List.Subset.refl _
  exact sendPrivateMessage_noSession platform refused_tallied (fun _ => (unsent_tame _).preserves Tallied.tame)
    (draws.preserves Tallied.tame) userIdTo payload encrypt

theorem startSession_tallied (tallied : Tallied m) (unused : m.Unused) (digests : m.Digests platform.sign)
    (state : m.impl.state = .noSession) : Tallied (last (Client.perform platform .startSession m)) := by
  have starts : Triple (fun given => given = m) (Client.startSession platform) (fun _ => Tallied) Tallied := by
    refine Triple.get fun read => ?_
    rintro m ⟨rfl, rfl⟩
    rw [if_pos state, run_get_bind]
    cases identified : m.impl.conf.identity.getUserId platform.sign with
    | error fault => exact tallied
    | ok userId =>
        have own := m.ownTopic_noSession state identified
        rw [run_bind_ok (rfl : M.ofExcept (.ok userId) m = .ok userId m), run_bind_ok (prepare_eq _ _ _)]
        have checks : Triple (Attentive true platform.sign (some (getPrivateMessageTopic userId))) (Client.checkState platform)
            (fun _ => Tallied) Tallied :=
          ((conduct_quiet platform (getPrivateMessageTopic userId)).checkState.preserves id).weaken (fun _ given => given)
            (fun _ _ => tallied_of_attentive) fun _ => tallied_of_attentive
        refine Triple.bind checks (fun _ => Triple.pure fun _ given => given) _ ⟨⟨?_, ⟨rfl, own ▸ digests⟩, fun _ => ?_, nofun⟩, ?_⟩
        · exact ⟨tallied.worded.client, tallied.worded.impl⟩
        · exact unused
        · exact tallied.tally
  exact (Triple.bind starts fun _ => Triple.pure fun _ given => given).last rfl

theorem perform_quiet {call : Client.Call} (tallied : Tallied m) (unused : m.Unused) (digests : m.Digests platform.sign) :
    Tallied (last (Client.perform platform call m)) := by
  by_cases state : m.impl.state = .noSession
  · cases call with
    | configure conf => exact tallied.tame (configure_tame platform conf m)
    | startSession => exact startSession_tallied platform tallied unused digests state
    | endSession =>
        have ends : Client.perform platform .endSession m = .ok true m :=
          run_bind_eq_ok.mpr ⟨⟨⟩, m, endSession_noSession state, rfl⟩
        rw [ends]
        exact tallied
    | isConnected => exact tallied_of_attentive (linkage_quiet.isConnected m (@Tallied.quiet m .signed none tallied unused trivial))
    | sendPrivateMessage userIdTo payload encrypt =>
        exact (sendPrivateMessage_tallied platform userIdTo payload encrypt).last ⟨tallied, state⟩
    | listenForPrivateMessages => exact (command_noSession platform refused_tallied _ _).last ⟨tallied, state⟩
    | subscribe topic => exact (command_noSession platform refused_tallied _ _).last ⟨tallied, state⟩
    | unsubscribe topic => exact (command_noSession platform refused_tallied _ _).last ⟨tallied, state⟩
    | publish topic payload => exact (command_noSession platform refused_tallied _ _).last ⟨tallied, state⟩
    | runMessageLoop timeout => exact (command_noSession platform refused_tallied _ _).last ⟨tallied, state⟩
  · by_cases starting : call = .startSession
    · subst starting
      rw [startSession_started platform state]
      exact tallied
    · have calm : Calm platform.sign m.impl.privateMessagesTopic m := ⟨rfl, m.ownTopic_started state ▸ digests⟩
      exact tallied_of_attentive ((conduct_quiet platform _).perform starting m (tallied.quiet unused calm))

theorem perform_spared {call : Client.Call} (tallied : Tallied m) (spared : Client.Spared platform m call) :
    Tallied (last (Client.perform platform call m)) := by
  obtain ⟨digests, unused | smooth⟩ := spared
  · exact perform_quiet platform tallied unused digests
  · have started : m.impl.state ≠ .noSession := by rcases smooth.state with state | state <;> simp [state]
    have calm : Calm platform.sign m.impl.privateMessagesTopic m := ⟨rfl, m.ownTopic_started started ▸ digests⟩
    exact tallied_of_attentive (perform_smooth platform smooth
      ⟨⟨tallied.worded, calm, nofun, fun _ => smooth.cleansession⟩, tallied.tally⟩)

theorem fresh_tallied (readbuf : Bytes) (replies : Replies) : Tallied (Client.fresh readbuf replies) where
  worded := ⟨unrelated_nil, unrelated_nil⟩
  tally _ _ :=
    { noted := fun id => by simp [notedIds, openIds, Client.fresh, Mqtt.clean]
      distinct := by simp [notedIds, Client.fresh, Mqtt.clean]
      room := by simp [Client.fresh, Mqtt.clean]
      counted := by simp [openIds, acknowledged, Client.fresh]
      once := trivial }

theorem visited_tallied (visited : Client.Visited platform (Client.Spared platform) m) : Tallied m := by
  refine visited.invariant Tallied ?_ ?_
  · rintro _ ⟨readbuf, replies, rfl⟩
    exact fresh_tallied readbuf replies
  · intro m visit tallied spared
    have asked : Tallied { m with replies := visit.1 } :=
      ⟨⟨tallied.worded.client, tallied.worded.impl⟩, tallied.tally⟩
    exact perform_spared platform asked spared

/-- As long as the table has room and no call fails while a message is open, every message that is acknowledged has
been passed on exactly once. -/
theorem visited_exactlyOnce (visited : Client.Visited platform (Client.Spared platform) m) (rules : SenderRules m.log)
    (uncrowded : Uncrowded m.log) : ExactlyOnce m.log :=
  ((visited_tallied platform visited).tally rules uncrowded).once

end Tallied

def Machine.impersonal (sign : CharSign) (m : Machine) : Bool :=
  m.replies.reads.all fun reply =>
    match reply.reading with
    | .packet frame => frame.unassuming ||
        packetType frame.header == .publish && frame.publication.any fun (topic, _, _) => topic != m.ownTopic sign
    | _ => true

theorem Machine.digests_of_impersonal {sign : CharSign} (m : Machine) (impersonal : m.impersonal sign) : m.Digests sign := by
  intro reply member frame packet
  have own := List.all_eq_true.mp impersonal reply member
  rw [packet] at own
  rcases Bool.or_eq_true_iff.mp own with unassuming | publish
  · exact frame.digestible_of_unassuming unassuming
  · simp only [Bool.and_eq_true, beq_iff_eq, Option.any_eq_true] at publish
    obtain ⟨type, ⟨topic, id, payload⟩, publication, other⟩ := publish
    unfold Frame.Digestible
    rw [type, publication]
    exact fun same => absurd same (by simpa using other)

theorem Machine.unused_of_empty {m : Machine} (noted : notedIds m.mqtt.incomingQoS2messages = [])
    (unassuming : m.unassuming) : m.Unused := by
  refine ⟨fun id member => ?_, fun reply member frame packet => ?_⟩
  · by_contra nonzero
    have impossible : id ∈ notedIds m.mqtt.incomingQoS2messages := mem_notedIds.mpr ⟨member, nonzero⟩
    simp [noted] at impossible
  · have own := List.all_eq_true.mp unassuming reply member
    rw [packet] at own
    simp only [Frame.unassuming, Bool.and_eq_true, bne_iff_ne] at own
    exact qos2Id_of_type own.1

def samplePublish (id : UInt8) : ReadReply := samplePacket 0x34 [0, 1, 116, 0, id, 120] (by simp)

def samplePubrel (id : UInt8) : ReadReply := samplePair 0x62 0 id

def silence : Replies := sampleReplies [] [] [] []

def persistentStart : List (Replies × Client.Call) :=
  [(silence, .configure (sampleConf true true)), (secondChance [sampleConnack 0, sampleConnack 0], .startSession)]

theorem visited_persistentStart : Client.Visited (plainPlatform .signed) (Client.Spared (plainPlatform .signed))
    (persistentStart.foldl (Client.visit (plainPlatform .signed)) (Client.fresh [] silence)) := by
  have start : Client.Visited (plainPlatform .signed) (Client.Spared (plainPlatform .signed))
      ([].foldl (Client.visit (plainPlatform .signed)) (Client.fresh [] silence)) := .start ⟨[], silence, rfl⟩
  have steps : persistentStart = [] ++ [(silence, .configure (sampleConf true true))] ++
      [(secondChance [sampleConnack 0, sampleConnack 0], .startSession)] := rfl
  rw [steps]
  refine Reachable.snoc (Reachable.snoc start ⟨?_, .inl ?_⟩) ⟨?_, .inl ?_⟩
  · exact Machine.digests_of_unassuming _ (by decide +kernel)
  · exact Machine.unused_of_empty (by decide +kernel) (by decide +kernel)
  · exact Machine.digests_of_unassuming _ (by decide +kernel)
  · exact Machine.unused_of_empty (by decide +kernel) (by decide +kernel)

theorem Client.Smooth.of_idle {m : Machine} {call : Client.Call} {answers : List PacketType}
    (session : m.impl.state = .connected ∧ m.mqttTls.usePersistentSession = true ∧ m.mqtt.cleansession = false ∧
      m.mqttTls.qos = .qos2 ∧ m.mqtt.inflight = none ∧ call.fits m)
    (replies : call.writes m ≤ (m.replies.ticks.takeWhile (1 < ·)).length ∧
      call.writes m ≤ (m.replies.sends.takeWhile (· = .sent false)).length ∧ m.replies.pings = [])
    (awaits : call.answers m = answers) (reads : firstGrant answers m.replies.reads) : Client.Smooth m call where
  state := .inl session.1
  persistent := session.2.1
  cleansession := session.2.2.1
  qos := session.2.2.2.1
  inflight message some := by simp [session.2.2.2.2.1] at some
  fits := session.2.2.2.2.2
  prompt := ⟨replies.1, replies.2.1, by simp [replies.2.2], awaits ▸ reads⟩

def resentPublish : List (Replies × Client.Call) :=
  persistentStart ++ [(secondChance [samplePublish 1, lostConnection], .runMessageLoop 100)] ++
    [(secondChance [sampleConnack 0, samplePublish 1, samplePubrel 1], .runMessageLoop 100)]

theorem visited_resentPublish : Client.Visited (plainPlatform .signed) (Client.Spared (plainPlatform .signed))
    (resentPublish.foldl (Client.visit (plainPlatform .signed)) (Client.fresh [] silence)) := by
  unfold resentPublish
  refine Reachable.snoc (Reachable.snoc visited_persistentStart ?_) ?_
  · exact ⟨Machine.digests_of_impersonal _ (by decide +kernel), .inr (@Client.Smooth.of_idle _ _ [] (by decide +kernel)
      (by decide +kernel) (by decide +kernel) trivial)⟩
  · exact ⟨Machine.digests_of_impersonal _ (by decide +kernel), .inr (@Client.Smooth.of_idle _ _ [.connack]
      (by decide +kernel) (by decide +kernel) (by decide +kernel)
      ⟨_, _, rfl, ⟨by decide +kernel, by decide +kernel⟩, trivial⟩)⟩

theorem visited_exactlyOnce_resent : ∃ m : Machine, acknowledged 1 m.log ∧ 1 ∉ openIds m.log ∧ ExactlyOnce m.log := by
  -- the run is named, so that nothing but the kernel evaluates it
  obtain ⟨m, run⟩ : ∃ m, m =
    resentPublish.foldl (Client.visit (plainPlatform .signed)) (Client.fresh [] silence) := ⟨_, rfl⟩
  have visited : Client.Visited (plainPlatform .signed) (Client.Spared (plainPlatform .signed)) m := by
    rw [run]
    exact visited_resentPublish
  have rules : SenderRules m.log := by
    rw [run]
    decide +kernel
  have uncrowded : Uncrowded m.log := by
    rw [run]
    decide +kernel
  have ended : acknowledged 1 m.log ∧ 1 ∉ openIds m.log := by
    rw [run]
    decide +kernel
  exact ⟨m, ended.1, ended.2, visited_exactlyOnce (plainPlatform .signed) visited rules uncrowded⟩

/-- Of eleven messages in flight the last is acknowledged, but not passed on. -/
def elevenMessages : List (Replies × Client.Call) :=
  [({ secondChance ((List.range 11).map fun id => samplePublish (.ofNat (id + 1))) with ticks := [20] }, .runMessageLoop 100)]

theorem ExactlyOnce.now {log : List Event} (once : ExactlyOnce log) (id : Nat) (sent : acknowledged id log) :
    deliveries id log = 1 := by
  cases log with
  | nil => cases sent
  | cons event older => exact once.2 id sent

def Client.Call.persistent (call : Client.Call) : Prop :=
  ∀ conf, call = .configure conf → conf.useMqttQoS2 = true ∧ conf.useMqttPersistentSession = true

theorem visited_elevenMessages : Client.Visited (plainPlatform .signed) (fun _ call => call.persistent)
    ((persistentStart ++ elevenMessages).foldl (Client.visit (plainPlatform .signed)) (Client.fresh [] silence)) := by
  refine (persistentStart ++ elevenMessages).foldlRecOn _ (Reachable.start ⟨[], silence, rfl⟩) fun _ visited visit member =>
    visited.next visit fun conf same => ?_
  simp only [persistentStart, elevenMessages, List.cons_append, List.nil_append, List.mem_cons, List.not_mem_nil,
    or_false] at member
  rcases member with rfl | rfl | rfl <;> cases same
  exact ⟨rfl, rfl⟩

theorem not_exactlyOnce_crowded : ∃ m, Client.Visited (plainPlatform .signed) (fun _ call => call.persistent) m ∧
    SenderRules m.log ∧ ¬ ExactlyOnce m.log := by
  obtain ⟨m, run⟩ : ∃ m, m =
    (persistentStart ++ elevenMessages).foldl (Client.visit (plainPlatform .signed)) (Client.fresh [] silence) := ⟨_, rfl⟩
  have visited : Client.Visited (plainPlatform .signed) (fun _ call => call.persistent) m := by
    rw [run]
    exact visited_elevenMessages
  have rules : SenderRules m.log := by
    rw [run]
    decide +kernel
  have lost : acknowledged 11 m.log ∧ deliveries 11 m.log = 0 := by
    rw [run]
    decide +kernel
  refine ⟨m, visited, rules, fun once => ?_⟩
  have delivered := once.now 11 lost.1
  omega

end IotClient
