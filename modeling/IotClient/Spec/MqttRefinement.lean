import IotClient.Model.Framing
import IotClient.Model.Mqtt

namespace IotClient

/-! ## The packets of a stream -/

def Reading.result : Reading → ReadResult
  | .failure => .failure
  | .bufferOverflow => .bufferOverflow
  | .packet frame => .packet frame.header frame.body

def Event.content : Event → Option (UInt8 × Bytes)
  | .received frame => some (frame.header, frame.body)
  | _ => none

def Mqtt.readPackets : Nat → M (List Reading)
  | 0 => return []
  | calls + 1 => do
      let reading ← readPacket
      return reading :: (← readPackets calls)

def Machine.receiver (m : Machine) : Receiver :=
  ⟨m.impl.privateMessagesTopic, m.impl.conf.identity.sokRecvKey, m.mqtt.incomingQoS2messages⟩

def Machine.handed (m : Machine) (incoming : List Nat) (callbacks : List Callback) : Machine :=
  { m with
    mqtt := { m.mqtt with incomingQoS2messages := incoming }
    log := (callbacks.map Event.callback).reverse ++ m.log }

def Mqtt.answerPublish (timer : Timer) : M (CycleResult × Timer) := do
  match ← M.ofExcept (deserializePublish (← get).mqtt.readbuf) with
  | none => return (.packet .publish, timer)
  | some message =>
      match message.qos with
      | .qos0 => finish .publish timer
      | .qos3 => return (.failure, timer)
      | qos => do
          let type := if qos = .qos1 then PacketType.puback else PacketType.pubrec
          let (sent, timer) ← sendPacket (.sent (.ack type message.id)) timer
          if sent then finish .publish timer else return (.failure, timer)

/-- The PUBLISH case of `cycle` makes the callbacks of `processPublish` and then answers; it ends with its exception
before any callback is made. -/
def ProcessesPublish (platform : Platform) (timer : Timer) (m : Machine) : Prop :=
  match processPublish platform.sok platform.sign m.receiver m.mqtt.readbuf with
  | .ok (incoming, callbacks) =>
      Mqtt.cyclePublish platform timer m = Mqtt.answerPublish timer (m.handed incoming callbacks)
  | .error fault => ∃ after, Mqtt.cyclePublish platform timer m = .error fault after ∧ after.log = m.log

end IotClient
