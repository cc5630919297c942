import IotClient.Proof.Commands

namespace IotClient
open Logic

variable (platform : Platform)

theorem clientPublish_returns {topic payload : Bytes} {result : Bool} {before checked after : Machine}
    (check : Client.checkState platform before = .ok true checked)
    (run : Client.publish platform topic payload before = .ok result after) :
    ∃ callbacks log, after.log = callbacks ++ log ∧ (∀ event ∈ callbacks, event.quiet) ∧
      if checked.transmits (checked.nextPublish topic payload) then
        Transmitted checked.mqttTls.qos result (.sent (.publish (checked.nextPublish topic payload)) ::
          .deadline checked.mqtt.commandTimeout :: checked.log) log
      else Fruitless result checked.log log := by
  obtain ⟨between, acted, callbacks, log, quiet⟩ := command_returns platform check run
  unfold MqttTls.publish at acted
  rw [run_get_bind] at acted
  obtain ⟨published, publishing, same⟩ := orError_returns acted
  exact ⟨callbacks, between.log, log, quiet, same ▸ publish_returns platform publishing⟩

theorem not_acknowledged_of_quiet {message : Publish} {quiet rest : List Event}
    (all : ∀ event ∈ quiet, event.quiet) (silent : ∀ frame, .received frame ∉ rest) :
    ¬ Acknowledged message (quiet ++ rest) := by
  rintro ⟨later, frame, between, earlier, split, _⟩
  have member : Event.received frame ∈ quiet ++ rest := by simp [split]
  rcases List.mem_append.mp member with member | member
  · exact not_received_of_quiet all frame member
  · exact silent frame member

/-- At QoS 1 the wait ends with the first PUBACK, whichever message it is for. -/
theorem acknowledged_iff_packetId {message : Publish} {frame : Frame} {callbacks later earlier rest : List Event}
    (qos1 : message.qos = .qos1) (typed : packetType frame.header = .puback)
    (allCallbacks : ∀ event ∈ callbacks, event.quiet) (allLater : ∀ event ∈ later, event.quiet)
    (allEarlier : ∀ event ∈ earlier, event.besides .puback)
    (silent : ∀ frame, .received frame ∉ rest) :
    Acknowledged message
        (callbacks ++ later ++ .received frame :: (earlier ++ .sent (.publish message) :: rest)) ↔
      frame.packetId = some message.id := by
  constructor
  · rintro ⟨later', other, between, earlier', split, _, typed', id⟩
    have member : Event.received other ∈
        callbacks ++ later ++ .received frame :: (earlier ++ .sent (.publish message) :: rest) := by
      simp [split]
    have typed' : packetType other.header = .puback := by rw [typed', qos1]; rfl
    have missing : Event.received other ∉ earlier := by
      intro member
      have none := frameOf_of_besides (allEarlier _ member)
      simp [Event.frameOf, typed'] at none
    simp only [List.mem_append, List.mem_cons, not_received_of_quiet allCallbacks,
      not_received_of_quiet allLater, missing, silent, Event.received.injEq, false_or, or_false,
      reduceCtorEq] at member
    rw [← member]
    exact id
  · intro id
    refine ⟨callbacks ++ later, frame, earlier, rest, rfl, ?_, by rw [typed, qos1]; rfl, id⟩
    intro member
    have passive := allEarlier _ member
    simp [Event.besides, Event.passive, Event.quiet] at passive

theorem acknowledged_iff_of_transmits {topic payload : Bytes} {result : Bool} {before checked after : Machine}
    (check : Client.checkState platform before = .ok true checked)
    (run : Client.publish platform topic payload before = .ok result after)
    (transmits : checked.transmits (checked.nextPublish topic payload)) :
    (result = true → Acknowledged (checked.nextPublish topic payload) (checked.since after)) ↔
      checked.mqttTls.qos = .qos1 ∧ ∀ frame, firstReceived .puback (checked.since after) = some frame →
        frame.packetId = some (checked.nextPublish topic payload).id := by
  obtain ⟨callbacks, log, grows, quiet, outcome⟩ := clientPublish_returns platform check run
  rw [if_pos transmits, Transmitted] at outcome
  by_cases qos1 : checked.mqttTls.qos = .qos1
  · rw [if_pos qos1] at outcome
    cases result with
    | true =>
        obtain ⟨frame, typed, later, earlier, rfl, allLater, allEarlier⟩ := outcome
        have since := since_append checked after (callbacks ++ later ++
          .received frame :: (earlier ++ .sent (.publish (checked.nextPublish topic payload)) ::
            [.deadline checked.mqtt.commandTimeout])) (by simp [grows])
        have first : firstReceived .puback (checked.since after) = some frame := by
          rw [since]
          apply firstReceived_eq_some typed
          intro event member
          simp only [List.mem_append, List.mem_cons, List.not_mem_nil, or_false] at member
          rcases member with member | rfl | rfl
          · exact frameOf_of_besides (allEarlier event member)
          · rfl
          · rfl
        rw [first, since, acknowledged_iff_packetId qos1 typed quiet allLater allEarlier (by simp)]
        simp [qos1]
    | false =>
        obtain ⟨events, rfl, besides⟩ := outcome
        have since := since_append checked after (callbacks ++ events ++
          [.sent (.publish (checked.nextPublish topic payload)), .deadline checked.mqtt.commandTimeout])
          (by simp [grows])
        have first : firstReceived .puback (checked.since after) = none := by
          rw [since]
          apply firstReceived_eq_none
          intro event member
          simp only [List.mem_append, List.mem_cons, List.not_mem_nil, or_false] at member
          rcases member with (member | member) | rfl | rfl
          · exact frameOf_of_quiet (quiet event member)
          · exact frameOf_of_besides (besides event member)
          · rfl
          · rfl
        simp [first, qos1]
  · rw [if_neg qos1] at outcome
    obtain ⟨rfl, rfl⟩ := outcome
    have since := since_append checked after (callbacks ++
      [.sent (.publish (checked.nextPublish topic payload)), .deadline checked.mqtt.commandTimeout])
      (by simp [grows])
    rw [since]
    constructor
    · intro acknowledged
      exact absurd (acknowledged rfl) (not_acknowledged_of_quiet quiet (by simp))
    · intro condition
      exact absurd condition.1 qos1

theorem publishAcknowledged_iff {topic payload : Bytes} {result : Bool} {before after : Machine}
    (run : Client.publish platform topic payload before = .ok result after) :
    PublishAcknowledged platform topic payload before after result ↔
      PubackMatches platform topic payload before after := by
  cases check : Client.checkState platform before with
  | error fault checked =>
      obtain ⟨_, _, impossible, _⟩ := run_bind_eq_ok.mp run
      rw [check] at impossible
      cases impossible
  | ok passed checked =>
      cases passed with
      | false =>
          obtain ⟨_, _, same, run⟩ := run_bind_eq_ok.mp run
          rw [check] at same
          cases same
          obtain ⟨rfl, _⟩ := run_pure_eq_ok.mp run
          simp [PublishAcknowledged, PubackMatches, check]
      | true =>
          simp only [PublishAcknowledged, PubackMatches, check, EStateM.Result.ok.injEq, true_and,
            exists_eq_left', forall_eq']
          by_cases transmits : checked.transmits (checked.nextPublish topic payload)
          · simp only [transmits, true_implies]
            exact acknowledged_iff_of_transmits platform check run transmits
          · obtain ⟨_, _, _, _, outcome⟩ := clientPublish_returns platform check run
            rw [if_neg transmits] at outcome
            simp [transmits, outcome.1]

/-! ## Sample calls -/

def publisher (useMqttQoS2 : Bool) (reads : List ReadReply) : Machine := inSession .signed useMqttQoS2 reads

theorem publishAcknowledged_puback :
    ∃ after, Client.publish (plainPlatform .signed) (bytes "t") (bytes "p")
        (publisher false [samplePacket 0x40 [0, 1] (by simp)]) = .ok true after ∧
      PublishAcknowledged (plainPlatform .signed) (bytes "t") (bytes "p")
        (publisher false [samplePacket 0x40 [0, 1] (by simp)]) after true := by
  have returned : returnsTrue (Client.publish (plainPlatform .signed) (bytes "t") (bytes "p")
      (publisher false [samplePacket 0x40 [0, 1] (by simp)])) := by decide +kernel
  have configured : (last (Client.checkState (plainPlatform .signed)
      (publisher false [samplePacket 0x40 [0, 1] (by simp)]))).mqttTls.qos = .qos1 := by decide +kernel
  have numbered : (Machine.nextPublish (last (Client.checkState (plainPlatform .signed)
      (publisher false [samplePacket 0x40 [0, 1] (by simp)]))) (bytes "t") (bytes "p")).id = 1 := by
    decide +kernel
  have answered : (firstReceived .puback (Machine.since
      (last (Client.checkState (plainPlatform .signed) (publisher false [samplePacket 0x40 [0, 1] (by simp)])))
      (last (Client.publish (plainPlatform .signed) (bytes "t") (bytes "p")
        (publisher false [samplePacket 0x40 [0, 1] (by simp)]))))).map Frame.packetId = some (some 1) := by
    decide +kernel
  generalize publisher false [samplePacket 0x40 [0, 1] (by simp)] = before at *
  have run := eq_ok_of_returnsTrue returned
  refine ⟨_, run, (publishAcknowledged_iff _ run).mpr ?_⟩
  intro checked check transmits
  obtain rfl := checked_eq check
  refine ⟨configured, fun frame received => ?_⟩
  rw [received] at answered
  rw [numbered]
  exact Option.some.inj answered

theorem not_publishAcknowledged_of_transmits {platform : Platform} {topic payload : Bytes} {before after : Machine}
    (run : Client.publish platform topic payload before = .ok true after)
    (transmits : (last (Client.checkState platform before)).transmits
      ((last (Client.checkState platform before)).nextPublish topic payload))
    (unmatched : (last (Client.checkState platform before)).mqttTls.qos ≠ .qos1 ∨
      ∃ frame, firstReceived .puback ((last (Client.checkState platform before)).since after) = some frame ∧
        frame.packetId ≠ some ((last (Client.checkState platform before)).nextPublish topic payload).id) :
    ¬ PublishAcknowledged platform topic payload before after true := by
  intro acknowledged
  obtain ⟨checked, check, acked⟩ := acknowledged rfl
  obtain rfl := checked_eq check
  obtain ⟨qos1, matching⟩ := (acknowledged_iff_of_transmits platform check run transmits).mp fun _ => acked
  rcases unmatched with other | ⟨frame, received, different⟩
  · exact other qos1
  · exact different (matching frame received)

/-- At QoS 2 nothing is received at all, and at QoS 1 a PUBACK for another message is. -/
theorem not_publishAcknowledged :
    (∃ after, Client.publish (plainPlatform .signed) (bytes "t") (bytes "p") (publisher true []) = .ok true after ∧
      ¬ PublishAcknowledged (plainPlatform .signed) (bytes "t") (bytes "p") (publisher true []) after true) ∧
    ∃ after, Client.publish (plainPlatform .signed) (bytes "t") (bytes "p")
        (publisher false [samplePacket 0x40 [0, 9] (by simp)]) = .ok true after ∧
      ¬ PublishAcknowledged (plainPlatform .signed) (bytes "t") (bytes "p")
        (publisher false [samplePacket 0x40 [0, 9] (by simp)]) after true := by
  constructor
  · have run := eq_ok_of_returnsTrue (show returnsTrue (Client.publish (plainPlatform .signed) (bytes "t")
      (bytes "p") (publisher true [])) by decide +kernel)
    refine ⟨_, run, not_publishAcknowledged_of_transmits run ?_ (.inl ?_)⟩
    · decide +kernel
    · decide +kernel
  · have returned : returnsTrue (Client.publish (plainPlatform .signed) (bytes "t") (bytes "p")
        (publisher false [samplePacket 0x40 [0, 9] (by simp)])) := by decide +kernel
    have transmits : (last (Client.checkState (plainPlatform .signed)
        (publisher false [samplePacket 0x40 [0, 9] (by simp)]))).transmits
          ((last (Client.checkState (plainPlatform .signed)
            (publisher false [samplePacket 0x40 [0, 9] (by simp)]))).nextPublish (bytes "t") (bytes "p")) := by
      decide +kernel
    have numbered : (Machine.nextPublish (last (Client.checkState (plainPlatform .signed)
        (publisher false [samplePacket 0x40 [0, 9] (by simp)]))) (bytes "t") (bytes "p")).id = 1 := by
      decide +kernel
    have answered : (firstReceived .puback (Machine.since
        (last (Client.checkState (plainPlatform .signed) (publisher false [samplePacket 0x40 [0, 9] (by simp)])))
        (last (Client.publish (plainPlatform .signed) (bytes "t") (bytes "p")
          (publisher false [samplePacket 0x40 [0, 9] (by simp)]))))).map Frame.packetId = some (some 9) := by
      decide +kernel
    generalize publisher false [samplePacket 0x40 [0, 9] (by simp)] = before at *
    have run := eq_ok_of_returnsTrue returned
    obtain ⟨frame, received, id⟩ := Option.map_eq_some_iff.mp answered
    refine ⟨_, run, not_publishAcknowledged_of_transmits run transmits (.inr ⟨frame, received, ?_⟩)⟩
    rw [id, numbered]
    decide

end IotClient
