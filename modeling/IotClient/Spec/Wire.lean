import IotClient.Model.Wire

namespace IotClient

/-! ## Strings -/

namespace MqttString

def text (string : MqttString) : Bytes :=
  match string.lenstring with
  | some (first :: more) => first :: more
  | _ => string.cstring.getD []

structure Sound (string : MqttString) : Prop where
  single : string.cstring = none ∨ string.lenstring.getD [] = []
  short : string.text.length < 65536

end MqttString

/-! ## CONNECT -/

namespace ConnectData

structure Sound (options : ConnectData) : Prop where
  version : options.mqttVersion = 3 ∨ options.mqttVersion = 4
  clientID : options.clientID.Sound
  will : options.willFlag ≠ 0 → options.will.topicName.Sound ∧ options.will.message.Sound
  username : options.username.isSet → options.username.Sound
  password : options.password.isSet → options.password.Sound

def Acceptable (options : ConnectData) : Prop :=
  if options.password.isSet then options.username.isSet ∧ options.password.text ≠ []
  else options.username.isSet → options.username.text ≠ []

instance (options : ConnectData) : Decidable options.Acceptable := by
  unfold Acceptable
  infer_instance

/-- What is left of the options on the other side: no version, and of each flag the bits that are sent. -/
def received (options : ConnectData) : ConnectData where
  clientID := .read options.clientID.text
  keepAliveInterval := options.keepAliveInterval
  cleansession := options.cleansession &&& 1
  willFlag := if options.willFlag ≠ 0 then 1 else 0
  will :=
    if options.willFlag ≠ 0 then
      ⟨.read options.will.topicName.text, .read options.will.message.text, options.will.retained &&& 1,
        options.will.qos &&& 3⟩
    else {}
  username := if options.username.isSet then .read options.username.text else {}
  password := if options.password.isSet then .read options.password.text else {}

end ConnectData

/-! ## The packets of the client -/

/-- The packets that the client can send: identifiers and the keep-alive interval have two bytes, and a message without
acknowledgement has no identifier. -/
def Packet.Proper : Packet → Prop
  | .connect _ _ keepAliveInterval => keepAliveInterval < 65536
  | .publish message => message.id < 65536 ∧ (message.qos = .qos0 → message.id = 0)
  | .ack type id => id < 65536 ∧ (type = .puback ∨ type = .pubrec ∨ type = .pubrel ∨ type = .pubcomp)
  | .subscribe id _ _ => id < 65536
  | .unsubscribe id _ => id < 65536
  | .pingreq => True
  | .disconnect => True

def QoS.ofByte (c : UInt8) : Option QoS :=
  match c.toNat with
  | 0 => some .qos0
  | 1 => some .qos1
  | 2 => some .qos2
  | 3 => some .qos3
  | _ => none

/-- How a broker that uses the same library, with arrays for one topic, reads a packet. -/
def Packet.deserialize (buf : Bytes) : Except Fault (Option Packet) := do
  let (header, _, _) ← openPacket buf
  match packetType header with
  | .connect => do
      let some data ← deserializeConnect buf | return none
      return some (.connect data.clientID.text (data.cleansession == 1) data.keepAliveInterval.toNat)
  | .publish => do
      let some message ← deserializePublish buf | return none
      return some (.publish ⟨message.qos, message.id, message.topicName, message.payload⟩)
  | .puback | .pubrec | .pubrel | .pubcomp => do
      let (rc, id) ← deserializeAck buf
      return if rc = 1 then id.map (.ack (packetType header)) else none
  | .subscribe => do
      let (rc, _, id, topics) ← deserializeSubscribe 1 buf
      match rc, topics with
      | 1, [(topic, requestedQoS)] => return (QoS.ofByte requestedQoS).map (.subscribe id topic)
      | _, _ => return none
  | .unsubscribe => do
      let (rc, _, id, topics) ← deserializeUnsubscribe 1 buf
      match rc, topics with
      | 1, [(topic, ())] => return some (.unsubscribe id topic)
      | _, _ => return none
  | .pingreq => return some .pingreq
  | .disconnect => return some .disconnect
  | _ => return none

def readStream : Nat → Bytes → List (Except Fault (Option Packet))
  | 0, _ => []
  | turns + 1, stream =>
      match packetRead maxPacketSize stream with
      | none => []
      | some (buf, rest) => Packet.deserialize buf :: readStream turns rest

def brokerReads (stream : Bytes) : List (Except Fault (Option Packet)) := readStream stream.length stream

def Event.packet : Event → Option Packet
  | .sent packet => some packet
  | .resent message => some (.publish message)
  | _ => none

def Event.isOpened : Event → Bool
  | .opened => true
  | _ => false

def sentPackets (log : List Event) : List Packet :=
  ((log.takeWhile fun event => !event.isOpened).filterMap Event.packet).reverse

def wire (packets : List Packet) : Bytes :=
  packets.flatMap fun packet => (packet.serialize maxPacketSize).getD []

end IotClient
