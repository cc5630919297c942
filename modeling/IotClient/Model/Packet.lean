import IotClient.Model.PrivateMessage

namespace IotClient

/-! ## Frames -/

def maxPacketSize : Nat := 1024

def encodeDigits : Nat → Nat → Bytes
  | 0, _ => []
  | digits + 1, length =>
      if length / 128 > 0 then UInt8.ofNat (length % 128 ||| 0x80) :: encodeDigits digits (length / 128)
      else [UInt8.ofNat (length % 128)]

def encodeLength (length : Nat) : Bytes := encodeDigits 5 length

/-- The loop of `MQTTPacket_decode` over a buffer: the bytes it counts and the value. A fifth byte is
counted without being read. -/
def decodeDigits : (digits multiplier len value : Nat) → Bytes → Nat × Nat
  | 0, _, len, value, _ => (len + 1, value)
  | _, _, len, value, [] => (len + 1, value)
  | digits + 1, multiplier, len, value, c :: rest =>
      if c &&& 128 ≠ 0 then
        decodeDigits digits (multiplier * 128) (len + 1) (value + (c &&& 127).toNat * multiplier) rest
      else (len + 1, value + (c &&& 127).toNat * multiplier)

def decodeLength (buffer : Bytes) : Nat × Nat := decodeDigits 4 1 0 0 buffer

inductive PacketType where
  | reserved
  | connect
  | connack
  | publish
  | puback
  | pubrec
  | pubrel
  | pubcomp
  | subscribe
  | suback
  | unsubscribe
  | unsuback
  | pingreq
  | pingresp
  | disconnect
  | auth
  deriving DecidableEq, Repr

def packetType (header : UInt8) : PacketType :=
  match header.toNat / 16 with
  | 1 => .connect
  | 2 => .connack
  | 3 => .publish
  | 4 => .puback
  | 5 => .pubrec
  | 6 => .pubrel
  | 7 => .pubcomp
  | 8 => .subscribe
  | 9 => .suback
  | 10 => .unsubscribe
  | 11 => .unsuback
  | 12 => .pingreq
  | 13 => .pingresp
  | 14 => .disconnect
  | 15 => .auth
  | _ => .reserved

inductive QoS where
  | qos0
  | qos1
  | qos2
  | qos3
  deriving DecidableEq, Repr

def qosOf (header : UInt8) : QoS :=
  match header.toNat / 2 % 4 with
  | 0 => .qos0
  | 1 => .qos1
  | 2 => .qos2
  | _ => .qos3

def frameBytes (header : UInt8) (body : Bytes) : Bytes :=
  header :: encodeLength body.length ++ body

structure Frame where
  header : UInt8
  body : Bytes
  fits : (frameBytes header body).length ≤ maxPacketSize

/-- `readbuf` after the frame has been read into it: what was there before stays behind it. -/
def Frame.load (frame : Frame) (readbuf : Bytes) : Bytes :=
  frameBytes frame.header frame.body ++ readbuf.drop (frameBytes frame.header frame.body).length

/-! ## Deserialisation -/

def readInt : Bytes → Except Fault (Nat × Bytes)
  | high :: low :: rest => .ok (256 * high.toNat + low.toNat, rest)
  | _ => .error .outOfRange

structure Message where
  qos : QoS
  id : Nat
  topicName : Bytes
  payload : Bytes
  payloadlen : Int
  deriving DecidableEq, Repr

/-- `MQTTDeserialize_publish`; `none` when it does not return 1. The packet identifier is read without
asking whether the packet still has two bytes. -/
def deserializePublish (readbuf : Bytes) : Except Fault (Option Message) :=
  match readbuf with
  | [] => .error .outOfRange
  | header :: rest =>
      if packetType header ≠ .publish then .ok none
      else
        let (count, mylen) := decodeLength rest
        if mylen ≤ 1 then .ok none
        else do
          let (len, curdata) ← readInt (rest.drop count)
          if mylen < 2 + len then return none
          let topicName := curdata.take len
          let left : Int := mylen - 2 - len
          if qosOf header = .qos0 then
            return some ⟨.qos0, 0, topicName, (curdata.drop len).take left.toNat, left⟩
          let (id, payload) ← readInt (curdata.drop len)
          return some ⟨qosOf header, id, topicName, payload.take (left - 2).toNat, left - 2⟩

/-! ## Incoming messages -/

def maxIncomingQoS2Messages : Nat := 10

def isQoS2msgidFree (incomingQoS2messages : List Nat) (id : Nat) : Bool :=
  !incomingQoS2messages.contains id

def useQoS2msgid (id : Nat) : List Nat → Option (List Nat)
  | [] => none
  | slot :: rest => if slot = 0 then some (id :: rest) else (slot :: ·) <$> useQoS2msgid id rest

def freeQoS2msgid (id : Nat) : List Nat → List Nat
  | [] => []
  | slot :: rest => if slot = id then 0 :: rest else slot :: freeQoS2msgid id rest

structure Receiver where
  privateMessagesTopic : Bytes
  sokRecvKey : Bytes
  incomingQoS2messages : List Nat
  deriving DecidableEq, Repr

/-- `Client::Impl::OnMessageArrived`, which builds a `std::string` of `payloadlen` characters first. -/
def onMessageArrived (sok : Sok) (sign : CharSign) (receiver : Receiver) (message : Message) :
    Except Fault Callback :=
  if message.payloadlen < 0 then .error .lengthError
  else classifyMessage sok sign receiver.privateMessagesTopic receiver.sokRecvKey message.topicName
    message.payload

def handlePublish (sok : Sok) (sign : CharSign) (receiver : Receiver) (message : Message) :
    Except Fault (List Nat × List Callback) :=
  if message.qos ≠ .qos2 then do
    return (receiver.incomingQoS2messages, [← onMessageArrived sok sign receiver message])
  else if isQoS2msgidFree receiver.incomingQoS2messages message.id then
    match useQoS2msgid message.id receiver.incomingQoS2messages with
    | some incoming => do return (incoming, [← onMessageArrived sok sign receiver message])
    | none => .ok (receiver.incomingQoS2messages, [])
  else .ok (receiver.incomingQoS2messages, [])

def processPublish (sok : Sok) (sign : CharSign) (receiver : Receiver) (readbuf : Bytes) :
    Except Fault (List Nat × List Callback) := do
  match ← deserializePublish readbuf with
  | none => return (receiver.incomingQoS2messages, [])
  | some message => handlePublish sok sign receiver message

end IotClient
