import IotClient.Logic.Program
import IotClient.Proof.Framing
import IotClient.Spec.MqttRefinement

namespace IotClient

open Logic

/-! ## The packets of a stream -/

def ReadResult.content : ReadResult → Option (UInt8 × Bytes)
  | .packet header body => some (header, body)
  | _ => none

theorem Mqtt.deliverMessage_eq (platform : Platform) (message : Message) (m : Machine) :
    Mqtt.deliverMessage platform message m =
      match onMessageArrived platform.sok platform.sign m.receiver message with
      | .ok callback => .ok () { m with log := .callback callback :: m.log }
      | .error fault => .error fault m := by
  simp only [Mqtt.deliverMessage, run_get_bind]
  show (M.ofExcept (onMessageArrived platform.sok platform.sign m.receiver message) >>= notify) m = _
  cases onMessageArrived platform.sok platform.sign m.receiver message <;> rfl

/-- The delivery of a message, with the table of identifiers already changed when it fails. -/
theorem Mqtt.arrive_handles (platform : Platform) (message : Message) (m : Machine) :
    match handlePublish platform.sok platform.sign m.receiver message with
    | .ok (incoming, callbacks) => Mqtt.arrive platform message m = .ok () (m.handed incoming callbacks)
    | .error fault => ∃ after, Mqtt.arrive platform message m = .error fault after ∧ after.log = m.log := by
  unfold handlePublish Mqtt.arrive
  by_cases qos : message.qos ≠ .qos2
  · rw [if_pos qos, if_pos qos, Mqtt.deliverMessage_eq]
    cases onMessageArrived platform.sok platform.sign m.receiver message with
    | ok callback => rfl
    | error fault => exact ⟨m, rfl, rfl⟩
  · rw [if_neg qos, if_neg qos]
    simp only [run_get_bind]
    by_cases free : isQoS2msgidFree m.receiver.incomingQoS2messages message.id = true
    · have free' : isQoS2msgidFree m.mqtt.incomingQoS2messages message.id = true := free
      rw [if_pos free, if_pos free']
      cases used : useQoS2msgid message.id m.receiver.incomingQoS2messages with
      | none =>
          have used' : useQoS2msgid message.id m.mqtt.incomingQoS2messages = none := used
          simp only [used']
          rfl
      | some incoming =>
          have used' : useQoS2msgid message.id m.mqtt.incomingQoS2messages = some incoming := used
          have updated : Mqtt.update (fun mqtt => { mqtt with incomingQoS2messages := incoming }) m =
            .ok () (m.handed incoming []) := rfl
          simp only [used', run_bind_ok updated, Mqtt.deliverMessage_eq]
          -- the handler does not look at the identifiers
          have same : onMessageArrived platform.sok platform.sign (m.handed incoming []).receiver message =
              onMessageArrived platform.sok platform.sign m.receiver message := rfl
          rw [same]
          cases onMessageArrived platform.sok platform.sign m.receiver message with
          | ok callback => rfl
          | error fault => exact ⟨_, rfl, rfl⟩
    · have free' : ¬isQoS2msgidFree m.mqtt.incomingQoS2messages message.id = true := free
      rw [if_neg free, if_neg free']
      rfl

theorem cyclePublish_processes (platform : Platform) (timer : Timer) (m : Machine) :
    ProcessesPublish platform timer m := by
  unfold ProcessesPublish
  cases read : deserializePublish m.mqtt.readbuf with
  | error fault =>
      have processed : processPublish platform.sok platform.sign m.receiver m.mqtt.readbuf = .error fault := by
        rw [processPublish, read]
        rfl
      rw [processed]
      refine ⟨m, ?_, rfl⟩
      simp only [Mqtt.cyclePublish, run_get_bind, read]
      rfl
  | ok message =>
      cases message with
      | none =>
          have processed : processPublish platform.sok platform.sign m.receiver m.mqtt.readbuf =
              .ok (m.mqtt.incomingQoS2messages, []) := by
            rw [processPublish, read]
            rfl
          have read' : deserializePublish (m.handed m.mqtt.incomingQoS2messages []).mqtt.readbuf = .ok none := read
          rw [processed]
          simp only [Mqtt.cyclePublish, Mqtt.answerPublish, run_get_bind, read, read']
          rfl
      | some message =>
          have processed : processPublish platform.sok platform.sign m.receiver m.mqtt.readbuf =
              handlePublish platform.sok platform.sign m.receiver message := by
            rw [processPublish, read]
            rfl
          have handled := Mqtt.arrive_handles platform message m
          rw [processed]
          simp only [Mqtt.cyclePublish, run_get_bind, read]
          cases result : handlePublish platform.sok platform.sign m.receiver message with
          | ok pair =>
              rw [result] at handled
              have read' : deserializePublish (m.handed pair.1 pair.2).mqtt.readbuf = .ok (some message) := read
              simp only [Mqtt.answerPublish, run_get_bind, read']
              exact run_bind_ok handled
          | error fault =>
              rw [result] at handled
              obtain ⟨after, run, log⟩ := handled
              exact ⟨after, run_bind_eq_error.mpr (.inr ⟨some message, m, rfl, run_bind_eq_error.mpr (.inl run)⟩), log⟩

end IotClient
