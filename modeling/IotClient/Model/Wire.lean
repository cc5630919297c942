import IotClient.Model.Mqtt

namespace IotClient

/-! ## Writing -/

/-- `MQTTString`: a C string without its NUL, and the bytes of an `MQTTLenString`. A null pointer is `none`. -/
structure MqttString where
  cstring : Option Bytes := none
  lenstring : Option Bytes := none
  deriving DecidableEq, Repr

namespace MqttString

def strlen (string : MqttString) : Nat :=
  match string.cstring with
  | some text => text.length
  | none => (string.lenstring.getD []).length

def isSet (string : MqttString) : Bool := string.cstring.isSome || string.lenstring.isSome

end MqttString

def writeInt (anInt : Nat) : Bytes := [UInt8.ofNat (anInt / 256), UInt8.ofNat (anInt % 256)]

def writeCString (text : Bytes) : Bytes := writeInt text.length ++ text

/-- `writeMQTTString`, which prefers the string with a length where `MQTTstrlen` prefers the C string. -/
def writeMqttString (string : MqttString) : Bytes :=
  match string.lenstring with
  | some (first :: more) => writeCString (first :: more)
  | _ =>
      match string.cstring with
      | some text => writeCString text
      | none => writeInt 0

def PacketType.code : PacketType → Nat
  | .reserved => 0
  | .connect => 1
  | .connack => 2
  | .publish => 3
  | .puback => 4
  | .pubrec => 5
  | .pubrel => 6
  | .pubcomp => 7
  | .subscribe => 8
  | .suback => 9
  | .unsubscribe => 10
  | .unsuback => 11
  | .pingreq => 12
  | .pingresp => 13
  | .disconnect => 14
  | .auth => 15

def QoS.value : QoS → Nat
  | .qos0 => 0
  | .qos1 => 1
  | .qos2 => 2
  | .qos3 => 3

/-- An `MQTTHeader`; an assignment to a bit-field keeps the low bits. -/
def headerByte (type : PacketType) (dup : UInt8) (qos : QoS) (retain : UInt8) : UInt8 :=
  UInt8.ofNat (type.code * 16 + dup.toNat % 2 * 8 + qos.value * 2 + retain.toNat % 2)

/-- What the serialisers share: nothing is written when `MQTTPacket_len` does not fit the buffer, otherwise the header,
the remaining length as it was computed and what belongs behind it. -/
def serialize (buflen : Nat) (header : UInt8) (remLen : Nat) (body : Bytes) : Option Bytes :=
  if packetLen remLen > buflen then none else some (header :: encodeLength remLen ++ body)

structure WillOptions where
  topicName : MqttString := {}
  message : MqttString := {}
  retained : UInt8 := 0
  qos : UInt8 := 0
  deriving DecidableEq, Repr

structure ConnectData where
  mqttVersion : UInt8 := 4
  clientID : MqttString := {}
  keepAliveInterval : UInt16 := 60
  cleansession : UInt8 := 1
  willFlag : UInt8 := 0
  will : WillOptions := {}
  username : MqttString := {}
  password : MqttString := {}
  deriving DecidableEq, Repr

namespace ConnectData

def length (options : ConnectData) : Nat :=
  (if options.mqttVersion = 3 then 12 else if options.mqttVersion = 4 then 10 else 0) +
    (options.clientID.strlen + 2) +
    (if options.willFlag ≠ 0 then options.will.topicName.strlen + 2 + options.will.message.strlen + 2 else 0) +
    (if options.username.isSet then options.username.strlen + 2 else 0) +
    (if options.password.isSet then options.password.strlen + 2 else 0)

def flags (options : ConnectData) : UInt8 :=
  UInt8.ofNat (options.cleansession.toNat % 2 * 2 +
    (if options.willFlag ≠ 0 then 4 + options.will.qos.toNat % 4 * 8 + options.will.retained.toNat % 2 * 32 else 0) +
    (if options.password.isSet then 64 else 0) + if options.username.isSet then 128 else 0)

def body (options : ConnectData) : Bytes :=
  (if options.mqttVersion = 4 then writeCString (bytes "MQTT") ++ [4] else writeCString (bytes "MQIsdp") ++ [3]) ++
    options.flags :: writeInt options.keepAliveInterval.toNat ++ writeMqttString options.clientID ++
    (if options.willFlag ≠ 0 then writeMqttString options.will.topicName ++ writeMqttString options.will.message
      else []) ++
    (if options.username.isSet then writeMqttString options.username else []) ++
    if options.password.isSet then writeMqttString options.password else []

end ConnectData

def serializeConnect (buflen : Nat) (options : ConnectData) : Option Bytes :=
  serialize buflen (headerByte .connect 0 .qos0 0) options.length options.body

def serializePublishLength (qos : QoS) (topicName : MqttString) (payload : Bytes) : Nat :=
  2 + topicName.strlen + payload.length + if qos = .qos0 then 0 else 2

def serializePublish (buflen : Nat) (dup : UInt8) (qos : QoS) (retained : UInt8) (packetid : UInt16)
    (topicName : MqttString) (payload : Bytes) : Option Bytes :=
  serialize buflen (headerByte .publish dup qos retained) (serializePublishLength qos topicName payload)
    (writeMqttString topicName ++ (if qos = .qos0 then [] else writeInt packetid.toNat) ++ payload)

/-- `MQTTSerialize_ack`, which asks for four bytes without `MQTTPacket_len`. -/
def serializeAck (buflen : Nat) (packettype : PacketType) (dup : UInt8) (packetid : UInt16) : Option Bytes :=
  if buflen < 4 then none
  else some (headerByte packettype dup (if packettype = .pubrel then .qos1 else .qos0) 0 :: encodeLength 2 ++
    writeInt packetid.toNat)

def serializeSubscribeLength (topics : List (MqttString × QoS)) : Nat :=
  2 + (topics.map fun topic => 2 + topic.1.strlen + 1).sum

def serializeSubscribe (buflen : Nat) (dup : UInt8) (packetid : UInt16) (topics : List (MqttString × QoS)) :
    Option Bytes :=
  serialize buflen (headerByte .subscribe dup .qos1 0) (serializeSubscribeLength topics)
    (writeInt packetid.toNat ++
      topics.flatMap fun topic => writeMqttString topic.1 ++ [UInt8.ofNat topic.2.value])

def serializeUnsubscribeLength (topicFilters : List MqttString) : Nat :=
  2 + (topicFilters.map fun topicFilter => 2 + topicFilter.strlen).sum

def serializeUnsubscribe (buflen : Nat) (dup : UInt8) (packetid : UInt16) (topicFilters : List MqttString) :
    Option Bytes :=
  serialize buflen (headerByte .unsubscribe dup .qos1 0) (serializeUnsubscribeLength topicFilters)
    (writeInt packetid.toNat ++ topicFilters.flatMap writeMqttString)

def serializeZero (buflen : Nat) (packettype : PacketType) : Option Bytes :=
  if buflen < 2 then none else some (headerByte packettype 0 .qos0 0 :: encodeLength 0)

def Packet.serialize (buflen : Nat) : Packet → Option Bytes
  | .connect clientId cleansession keepAliveInterval =>
      serializeConnect buflen
        { clientID := { lenstring := some clientId }
          cleansession := if cleansession then 1 else 0
          keepAliveInterval := UInt16.ofNat keepAliveInterval }
  | .publish message =>
      serializePublish buflen 0 message.qos 0 (UInt16.ofNat message.id) { cstring := some message.topicName }
        message.payload
  | .ack type id => serializeAck buflen type 0 (UInt16.ofNat id)
  | .subscribe id topic qos => serializeSubscribe buflen 0 (UInt16.ofNat id) [({ cstring := some topic }, qos)]
  | .unsubscribe id topic => serializeUnsubscribe buflen 0 (UInt16.ofNat id) [{ cstring := some topic }]
  | .pingreq => serializeZero buflen .pingreq
  | .disconnect => serializeZero buflen .disconnect

/-! ## Reading -/

/-- `MQTTPacket_read` from a stream of which the bytes are at hand: the buffer and the rest of the stream. The digits of the
remaining length are written anew; a fifth one is not read. -/
def packetRead (buflen : Nat) : Bytes → Option (Bytes × Bytes)
  | [] => none
  | header :: rest =>
      let (count, remLen) := decodeLength rest
      let rest := rest.drop (min count 4)
      if remLen + (1 + (encodeLength remLen).length) > buflen then none
      else if rest.length < remLen then none
      else some (header :: encodeLength remLen ++ rest.take remLen, rest.drop remLen)

structure Cursor where
  data : Bytes
  left : Int
  deriving DecidableEq, Repr

namespace Cursor

def readChar (curdata : Cursor) : Except Fault (UInt8 × Cursor) :=
  match curdata.data with
  | [] => .error .outOfRange
  | c :: rest => .ok (c, ⟨rest, curdata.left - 1⟩)

def readInt (curdata : Cursor) : Except Fault (Nat × Cursor) := do
  let (value, rest) ← IotClient.readInt curdata.data
  return (value, ⟨rest, curdata.left - 2⟩)

def readLenString (curdata : Cursor) : Except Fault (Option (Bytes × Cursor)) :=
  if curdata.left > 1 then do
    let (len, curdata) ← curdata.readInt
    if len ≤ curdata.left then
      return some (curdata.data.take len, ⟨curdata.data.drop len, curdata.left - len⟩)
    else return none
  else return none

end Cursor

/-- What the deserialisers do first: the header and the cursor behind the remaining length, with the number of bytes of
that. `enddata` is where the packet ends. -/
def openPacket (buf : Bytes) : Except Fault (UInt8 × Nat × Cursor) :=
  match buf with
  | [] => .error .outOfRange
  | header :: rest =>
      let (count, mylen) := decodeLength rest
      .ok (header, count, ⟨rest.drop count, mylen⟩)

/-- `MQTTPacket_checkVersion`: a protocol name that is too short is compared as far as it goes. -/
def checkVersion (protocol : Bytes) (version : UInt8) : Bool :=
  (version == 3 && protocol.take 6 == (bytes "MQIsdp").take (min 6 protocol.length)) ||
    (version == 4 && protocol.take 4 == (bytes "MQTT").take (min 4 protocol.length))

def MqttString.read (text : Bytes) : MqttString := { lenstring := some text }

def readWill (flags : UInt8) (curdata : Cursor) (data : ConnectData) : Except Fault (Option (ConnectData × Cursor)) :=
  let data := { data with willFlag := flags >>> 2 &&& 1 }
  if flags &&& 4 = 0 then return some (data, curdata)
  else do
    let some (topicName, curdata) ← curdata.readLenString | return none
    let some (message, curdata) ← curdata.readLenString | return none
    return some ({ data with
      will := ⟨.read topicName, .read message, flags >>> 5 &&& 1, flags >>> 3 &&& 3⟩ }, curdata)

def readCredentials (flags : UInt8) (curdata : Cursor) (data : ConnectData) : Except Fault (Option ConnectData) :=
  if flags &&& 128 ≠ 0 then do
    if curdata.left < 3 then return none
    let some (username, curdata) ← curdata.readLenString | return none
    let data := { data with username := .read username }
    if flags &&& 64 = 0 then return some data
    if curdata.left < 3 then return none
    let some (password, _) ← curdata.readLenString | return none
    return some { data with password := .read password }
  else if flags &&& 64 ≠ 0 then return none
  else return some data

/-- `MQTTDeserialize_connect`, which fills in what the initializer has left; its `enddata` is the end of the buffer. The
version is not stored. -/
def deserializeConnect (buf : Bytes) : Except Fault (Option ConnectData) := do
  let (header, _, curdata) ← openPacket buf
  if packetType header ≠ .connect then return none
  let some (protocol, curdata) ← ({ curdata with left := curdata.data.length } : Cursor).readLenString | return none
  let (version, curdata) ← curdata.readChar
  if !checkVersion protocol version then return none
  let (flags, curdata) ← curdata.readChar
  let (keepAliveInterval, curdata) ← curdata.readInt
  let some (clientID, curdata) ← curdata.readLenString | return none
  let data : ConnectData := {
    clientID := .read clientID
    keepAliveInterval := UInt16.ofNat keepAliveInterval
    cleansession := flags >>> 1 &&& 1 }
  let some (data, curdata) ← readWill flags curdata data | return none
  readCredentials flags curdata data

/-- The loop over the topic filters of a packet, with what is read behind each; the flag says whether it has come to the
end of the packet. Every turn stores into the caller's arrays, which have `room` elements. -/
def readTopics {α : Type} (room : Nat) (behind : Cursor → Except Fault (Option (α × Cursor))) :
    Nat → Cursor → List (Bytes × α) → Except Fault (Bool × List (Bytes × α))
  | 0, _, topics => return (true, topics)
  | turns + 1, curdata, topics =>
      if curdata.left ≤ 0 then return (true, topics)
      -- `readMQTTLenString` sets `cstring` even where it reads nothing
      else if room ≤ topics.length then .error .outOfRange
      else do
        let some (topicFilter, curdata) ← curdata.readLenString | return (false, topics)
        let some (value, curdata) ← behind curdata | return (false, topics)
        readTopics room behind turns curdata (topics ++ [(topicFilter, value)])

def readRequestedQoS (curdata : Cursor) : Except Fault (Option (UInt8 × Cursor)) :=
  if curdata.left ≤ 0 then return none
  else return some (← curdata.readChar)

/-- What `MQTTDeserialize_subscribe` and `MQTTDeserialize_unsubscribe` share: the result, `dup`, the packet identifier and
the topics. Where the topics end early, the result is the number of length bytes. The parameter `maxcount`, which is to say
how many elements the arrays have, is not looked at. -/
def deserializeTopics {α : Type} (room : Nat) (type : PacketType) (failure : Int)
    (behind : Cursor → Except Fault (Option (α × Cursor))) (buf : Bytes) :
    Except Fault (Int × UInt8 × Nat × List (Bytes × α)) := do
  let (header, count, curdata) ← openPacket buf
  if packetType header ≠ type then return (failure, 0, 0, [])
  let (packetid, curdata) ← curdata.readInt
  let (whole, topics) ← readTopics room behind curdata.left.toNat curdata []
  return (if whole then 1 else count, header >>> 3 &&& 1, packetid, topics)

def deserializeSubscribe (room : Nat) (buf : Bytes) : Except Fault (Int × UInt8 × Nat × List (Bytes × UInt8)) :=
  deserializeTopics room .subscribe (-1) readRequestedQoS buf

def deserializeUnsubscribe (room : Nat) (buf : Bytes) : Except Fault (Int × UInt8 × Nat × List (Bytes × Unit)) :=
  deserializeTopics room .unsubscribe 0 (fun curdata => return some ((), curdata)) buf

end IotClient
