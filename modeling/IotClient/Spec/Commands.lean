import IotClient.Model.Client

namespace IotClient

def Fault.foreign : Fault → Prop
  | .json _ => False
  | .iot _ => False
  | _ => True

def Machine.since (before after : Machine) : List Event :=
  after.log.take (after.log.length - before.log.length)

def Event.frameOf (type : PacketType) : Event → Option Frame
  | .received frame => if packetType frame.header = type then some frame else none
  | _ => none

def firstReceived (type : PacketType) (events : List Event) : Option Frame :=
  events.reverse.findSome? (Event.frameOf type)

def Frame.packetId (frame : Frame) : Option Nat :=
  match frame.body with
  | high :: low :: _ => some (256 * high.toNat + low.toNat)
  | _ => none

def SendReply.goesOut : SendReply → Bool
  | .sent _ => true
  | _ => false

def Machine.canSend (m : Machine) (timer : Timer) : Bool :=
  timer ≠ 0 && m.tls.connected && (m.replies.sends.headD .expired).goesOut

/-! ## Publishing -/

def Mqtt.publishId (mqtt : Mqtt) (qos : QoS) : Nat :=
  if qos = .qos1 ∨ qos = .qos2 then Mqtt.nextId mqtt.packetid else 0

def Machine.nextPublish (m : Machine) (topic payload : Bytes) : Publish :=
  ⟨m.mqttTls.qos, m.mqtt.publishId m.mqttTls.qos, cString topic, payload⟩

def Machine.transmits (m : Machine) (message : Publish) : Bool :=
  m.mqtt.isconnected && (Packet.publish message).fits && m.canSend (m.replies.ticks.headD 0)

def QoS.lastAck : QoS → PacketType
  | .qos2 => .pubcomp
  | _ => .puback

def Acknowledged (message : Publish) (events : List Event) : Prop :=
  ∃ later frame between earlier,
    events = later ++ .received frame :: (between ++ .sent (.publish message) :: earlier) ∧
    .opened ∉ between ∧ packetType frame.header = message.qos.lastAck ∧ frame.packetId = some message.id

def PublishAcknowledged (platform : Platform) (topic payload : Bytes) (before after : Machine) (result : Bool) :
    Prop :=
  result = true → ∃ checked, Client.checkState platform before = .ok true checked ∧
    Acknowledged (checked.nextPublish topic payload) (checked.since after)

/-- If the state check lets the call through and the message can go out, the QoS is 1, and the first PUBACK
received after that, if any, is the one for the message. -/
def PubackMatches (platform : Platform) (topic payload : Bytes) (before after : Machine) : Prop :=
  ∀ checked, Client.checkState platform before = .ok true checked →
    checked.transmits (checked.nextPublish topic payload) → checked.mqttTls.qos = .qos1 ∧
      ∀ frame, firstReceived .puback (checked.since after) = some frame →
        frame.packetId = some (checked.nextPublish topic payload).id

/-! ## Subscribing -/

def Frame.suback (frame : Frame) : Option (Nat × UInt8) :=
  match frame.body with
  | [high, low, code] => some (256 * high.toNat + low.toNat, code)
  | _ => none

/-- The result of `Subscribe` is what the SUBACK says: `true` stands for a SUBSCRIBE for exactly this topic
that was granted, and a SUBACK with the failure code or without any code gives `false`. -/
def GrantedExactly (topic : Bytes) (events : List Event) (result : Bool) : Prop :=
  (result = true → ∃ id qos frame code, .sent (.subscribe id topic qos) ∈ events ∧
    firstReceived .suback events = some frame ∧ frame.suback = some (id, code) ∧ code ≤ 2) ∧
  ∀ frame, firstReceived .suback events = some frame →
    frame.body.length < 3 ∨ (∃ id, frame.suback = some (id, 0x80)) → result = false

def Understood (sign : CharSign) (id : Nat) (topic : Bytes) (frame : Frame) : Prop :=
  ∃ answered code, frame.suback = some (answered, code) ∧
    ((code ≤ 2 ∧ answered = id ∧ 0 ∉ topic) ∨ (code = 0x80 ∧ sign = .unsigned))

def SubscribesExactly (platform : Platform) (topic : Bytes) (before after : Machine) (result : Bool) : Prop :=
  ∀ checked, Client.checkState platform before = .ok true checked →
    GrantedExactly topic (checked.since after) result

def SubackUnderstood (platform : Platform) (topic : Bytes) (before after : Machine) : Prop :=
  ∀ checked, Client.checkState platform before = .ok true checked →
    ∀ frame, firstReceived .suback (checked.since after) = some frame →
      Understood platform.sign (Mqtt.nextId checked.mqtt.packetid) topic frame

/-! ## Connecting -/

def Accepted (events : List Event) : Prop :=
  ∃ later frame flags rest between clientId cleansession keepAlive earlier,
    events = later ++ .received frame ::
      (between ++ .sent (.connect clientId cleansession keepAlive) :: earlier) ∧
    .opened ∉ later ∧ .opened ∉ between ∧ packetType frame.header = .connack ∧
    frame.body = flags :: 0 :: rest

/-- A new connection over which `Connect` returns `true` is accepted by the broker, whatever the world answers. -/
def ConnectsAccepted (platform : Platform) (cleanSession : Bool) (m : Machine) : Prop :=
  ∀ replies after, MqttTls.connectSession platform cleanSession { m with replies := replies } = .ok true after →
    .opened ∈ m.since after → Accepted (m.since after)

def NothingInFlight (cleanSession : Bool) (m : Machine) : Prop :=
  m.mqtt.inflight = none ∨ (m.mqtt.isconnected ∧ (m.tls.connected ∨ m.mqtt.cleansession)) ∨
    ¬ (Packet.connect m.mqttTls.clientId cleanSession Mqtt.defaultKeepAlive).fits

instance (cleanSession : Bool) (m : Machine) : Decidable (NothingInFlight cleanSession m) :=
  inferInstanceAs (Decidable (_ ∨ _ ∨ _))

end IotClient
