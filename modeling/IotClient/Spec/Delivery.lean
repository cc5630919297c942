import IotClient.Model.Packet
import IotClient.Spec.PrivateMessage

namespace IotClient

def Frame.topic (frame : Frame) : Option (Bytes × Bytes) :=
  match frame.body with
  | high :: low :: rest =>
      if 256 * high.toNat + low.toNat ≤ rest.length then
        some (rest.take (256 * high.toNat + low.toNat), rest.drop (256 * high.toNat + low.toNat))
      else none
  | _ => none

def Frame.publication (frame : Frame) : Option (Bytes × Nat × Bytes) :=
  match frame.topic with
  | none => none
  | some (topic, rest) =>
      if qosOf frame.header = .qos0 then some (topic, 0, rest)
      else match rest with
        | high :: low :: payload => some (topic, 256 * high.toNat + low.toNat, payload)
        | _ => none

def Receiver.accepts (receiver : Receiver) (qos : QoS) (id : Nat) : Prop :=
  qos = .qos2 → id ∉ receiver.incomingQoS2messages ∧ 0 ∈ receiver.incomingQoS2messages

inductive Owed (sok : Sok) (sign : CharSign) (receiver : Receiver) (topic payload : Bytes) : Callback → Prop where
  | message : topic ≠ receiver.privateMessagesTopic →
      Owed sok sign receiver topic payload (.onMessageArrived topic payload)
  | privateMessage {userIdFrom text : Bytes} : topic = receiver.privateMessagesTopic →
      DescribesPrivateMessage sok sign receiver.sokRecvKey payload userIdFrom text →
      Owed sok sign receiver topic payload (.onPrivateMessageArrived userIdFrom text)
  | error {error : Bytes} : topic = receiver.privateMessagesTopic →
      (∀ userIdFrom text, ¬ DescribesPrivateMessage sok sign receiver.sokRecvKey payload userIdFrom text) →
      Owed sok sign receiver topic payload (.onError error)

/-- The packet is processed to the end, and if it is a well-formed PUBLISH that is delivered, the
listener gets the one callback it is owed. -/
def HandlesPublish (sok : Sok) (sign : CharSign) (receiver : Receiver) (readbuf : Bytes) (frame : Frame) :
    Prop :=
  ∃ incoming callbacks, processPublish sok sign receiver (frame.load readbuf) = .ok (incoming, callbacks) ∧
    ∀ topic id payload, frame.publication = some (topic, id, payload) →
      receiver.accepts (qosOf frame.header) id →
      ∃ callback, callbacks = [callback] ∧ Owed sok sign receiver topic payload callback

/-- `json::Parse` gets through the text or fails with a `json::Exception`: the text is not all white
space, and no string of it has code units that are no UTF-16. -/
def Readable (sign : CharSign) (text : Bytes) : Prop :=
  ¬ text.all isSpace ∧ ∀ word, scan sign text ≠ .error (.utf8 word)

/-- What a PUBLISH must not be: one for the private topic with a payload that cannot be read, or one
with a QoS but too short for a packet identifier. Of the latter only a QoS 2 message is harmless whose
identifier, taken from what `readbuf` holds behind the packet, is refused. -/
def Harmless (sign : CharSign) (receiver : Receiver) (readbuf : Bytes) (frame : Frame) : Prop :=
  match frame.publication with
  | some (topic, id, payload) =>
      receiver.accepts (qosOf frame.header) id → topic = receiver.privateMessagesTopic → Readable sign payload
  | none =>
      ∀ topic rest, frame.topic = some (topic, rest) →
        ∃ id past, readInt (rest ++ readbuf.drop (frameBytes frame.header frame.body).length) = .ok (id, past) ∧
          ¬ receiver.accepts (qosOf frame.header) id

end IotClient
