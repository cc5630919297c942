import IotClient.Model.Machine

namespace IotClient

/-! ## Acknowledgements

The deserialisers work on `readbuf`. Where a packet is too short they return the number of length bytes,
which is 1 and so means success. -/

def deserializeAck (readbuf : Bytes) : Except Fault (Nat × Option Nat) :=
  match readbuf with
  | [] => .error .outOfRange
  | _ :: rest =>
      let (count, mylen) := decodeLength rest
      if mylen < 2 then .ok (count, none)
      else do
        let (id, _) ← readInt (rest.drop count)
        return (1, some id)

/-- `MQTTDeserialize_connack`: its result, the session-present flag and the return code, as `connect`
has initialised them when they are not set. `MQTTConnackFlags` has the flag in the highest bit. -/
def deserializeConnack (readbuf : Bytes) : Except Fault (Nat × Bool × Nat) :=
  match readbuf with
  | [] => .error .outOfRange
  | header :: rest =>
      if packetType header ≠ .connack then .ok (0, false, 255)
      else
        let (count, mylen) := decodeLength rest
        if mylen < 2 then .ok (count, false, 255)
        else match rest.drop count with
          | flags :: code :: _ => .ok (1, flags &&& 0x80 ≠ 0, code.toNat)
          | _ => .error .outOfRange

def charValue (sign : CharSign) (c : UInt8) : Int :=
  if sign = .signed ∧ 128 ≤ c then c.toNat - 256 else c.toNat

/-- `MQTTDeserialize_suback` for one topic: its result and `grantedQoS`, which `subscribe` has set to -1.
The check against `maxcount` lets a second code be written behind the one variable. -/
def deserializeSuback (sign : CharSign) (readbuf : Bytes) : Except Fault (Nat × Int) :=
  match readbuf with
  | [] => .error .outOfRange
  | header :: rest =>
      if packetType header ≠ .suback then .ok (0, -1)
      else
        let (count, mylen) := decodeLength rest
        if mylen < 2 then .ok (count, -1)
        else match mylen, rest.drop (count + 2) with
          | 2, _ => .ok (1, -1)
          | 3, code :: _ => .ok (1, charValue sign code)
          | _, _ => .error .outOfRange

/-! ## `MQTT::Client` -/

abbrev Timer := Nat

def startTimer (milliseconds : Nat) : M Timer := do
  emit (.deadline milliseconds)
  nextTicks

inductive CycleResult where
  | failure
  | bufferOverflow
  | packet (type : PacketType)
  deriving DecidableEq, Repr

namespace Mqtt

def update (change : Mqtt → Mqtt) : M Unit :=
  modify fun m => { m with mqtt := change m.mqtt }

def clean (mqtt : Mqtt) : Mqtt :=
  { mqtt with
    pingOutstanding := false
    isconnected := false
    inflight := none
    pubrel := false
    incomingQoS2messages := List.replicate maxIncomingQoS2Messages 0 }

def cleanSession : M Unit := update clean

def nextId (packetid : Nat) : Nat :=
  if packetid = 65535 then 1 else packetid + 1

def getNext : M Nat := do
  update fun mqtt => { mqtt with packetid := nextId mqtt.packetid }
  return (← get).mqtt.packetid

/-- Sends what `event` says is in `sendbuf`. The write of a packet that fits `sendbuf` is not split. -/
def sendPacket (event : Event) (timer : Timer) : M (Bool × Timer) := do
  if timer = 0 then return (false, 0)
  else if !(← get).tls.connected then do
    TlsConnection.fail TlsConnection.writeDisconnected
    return (false, timer)
  else match ← nextSend with
    | .sent expires => do
        emit event
        return (true, if expires then 0 else timer)
    | .expired => return (false, 0)
    | .failed error => do
        TlsConnection.lose error
        return (false, timer)

def receive : Reading → M Unit
  | .packet frame => do
      emit (.received frame)
      update fun mqtt => { mqtt with readbuf := frame.load mqtt.readbuf }
  | _ => pure ()

def readPacket : M Reading := do
  if !(← get).tls.connected then do
    TlsConnection.fail TlsConnection.readDisconnected
    return .failure
  else do
    let reply ← nextRead
    reply.closed.forM TlsConnection.lose
    receive reply.reading
    return reply.reading

/-- Whether `last_sent` or `last_received` has expired is left to the world outside. -/
def keepalive : M Unit := do
  let m ← get
  if m.mqtt.keepAliveInterval = 0 then return ()
  else
    let due ← nextPing
    if due && !m.mqtt.pingOutstanding then do
      let timer ← startTimer 1000
      let (sent, _) ← sendPacket (.sent .pingreq) timer
      onlyIf sent (update fun mqtt => { mqtt with pingOutstanding := true })
    else pure ()

variable (platform : Platform)

def deliverMessage (message : Message) : M Unit := do
  let m ← get
  let receiver : Receiver :=
    ⟨m.impl.privateMessagesTopic, m.impl.conf.identity.sokRecvKey, m.mqtt.incomingQoS2messages⟩
  notify (← M.ofExcept (onMessageArrived platform.sok platform.sign receiver message))

def arrive (message : Message) : M Unit := do
  if message.qos ≠ .qos2 then deliverMessage platform message
  else
    let incoming := (← get).mqtt.incomingQoS2messages
    if isQoS2msgidFree incoming message.id then
      match useQoS2msgid message.id incoming with
      | some incoming => do
          update fun mqtt => { mqtt with incomingQoS2messages := incoming }
          deliverMessage platform message
      | none => pure ()
    else pure ()

def finish (type : PacketType) (timer : Timer) : M (CycleResult × Timer) := do
  keepalive
  return (.packet type, timer)

/-- The PUBLISH case of `cycle`. No acknowledgement is serialised for QoS 3. -/
def cyclePublish (timer : Timer) : M (CycleResult × Timer) := do
  match ← M.ofExcept (deserializePublish (← get).mqtt.readbuf) with
  | none => return (.packet .publish, timer)
  | some message => do
      arrive platform message
      match message.qos with
      | .qos0 => finish .publish timer
      | .qos3 => return (.failure, timer)
      | qos => do
          let type := if qos = .qos1 then PacketType.puback else PacketType.pubrec
          let (sent, timer) ← sendPacket (.sent (.ack type message.id)) timer
          if sent then finish .publish timer else return (.failure, timer)

def idOr : Option Nat → M Nat
  | some id => pure id
  | none => return (← nextUnset).toNat

def cycleAck (type : PacketType) (timer : Timer) : M (CycleResult × Timer) := do
  let (rc, set) ← M.ofExcept (deserializeAck (← get).mqtt.readbuf)
  if rc ≠ 1 then return (.failure, timer)
  else
    let id ← idOr set
    let answer := if type = .pubrec then PacketType.pubrel else PacketType.pubcomp
    let (sent, timer) ← sendPacket (.sent (.ack answer id)) timer
    if !sent then return (.failure, timer)
    else do
      onlyIf (type = .pubrel) (update fun mqtt =>
        { mqtt with incomingQoS2messages := freeQoS2msgid id mqtt.incomingQoS2messages })
      finish type timer

def dispatch (timer : Timer) : PacketType → M (CycleResult × Timer)
  | .publish => cyclePublish platform timer
  | .pubrec => cycleAck .pubrec timer
  | .pubrel => cycleAck .pubrel timer
  | .pingresp => do
      update fun mqtt => { mqtt with pingOutstanding := false }
      finish .pingresp timer
  | type => finish type timer

def process (timer : Timer) : Reading → M (CycleResult × Timer)
  | .failure => do
      keepalive
      return (.failure, timer)
  | .bufferOverflow => do
      keepalive
      return (.bufferOverflow, timer)
  | .packet frame => dispatch platform timer (packetType frame.header)

def cycle (timer : Timer) : M (CycleResult × Timer) := do
  process platform timer (← readPacket)

def waitfor (type : PacketType) : Timer → M (Bool × Timer)
  | 0 => return (false, 0)
  | ticks + 1 => do
      let (result, left) ← cycle platform (ticks + 1)
      if result = .packet type then return (true, if left = 0 then 0 else ticks)
      else if left = 0 then return (false, 0)
      else waitfor type ticks

def yieldLoop : Timer → M Bool
  | 0 => return true
  | ticks + 1 => do
      let (result, left) ← cycle platform (ticks + 1)
      match result with
      | .packet _ => if left = 0 then return true else yieldLoop ticks
      | _ => return false

def yield (timeout : Nat) : M Bool := do
  yieldLoop platform (← startTimer timeout)

def acknowledge : M Bool := do
  let (rc, set) ← M.ofExcept (deserializeAck (← get).mqtt.readbuf)
  if rc ≠ 1 then return false
  else
    let id ← idOr set
    update fun mqtt =>
      { mqtt with inflight := mqtt.inflight.filter fun message => message.id != id }
    return true

/-- `publish(len, timer, qos)`. The wait for PUBCOMP stands in an `#elif` after `#if MQTTCLIENT_QOS1` and
is not compiled. -/
def transmit (event : Event) (timer : Timer) (qos : QoS) : M Bool := do
  let (sent, timer) ← sendPacket event timer
  let rc ← (
    if !sent then pure false
    else if qos = .qos1 then do
      let (arrived, _) ← waitfor platform .puback timer
      if arrived then acknowledge else pure false
    else pure true)
  onlyIf (!rc) cleanSession
  return rc

def publish (topicName payload : Bytes) (qos : QoS) : M Bool := do
  let timer ← startTimer (← get).mqtt.commandTimeout
  if !(← get).mqtt.isconnected then return false
  else
    let id ← (if qos = .qos1 ∨ qos = .qos2 then getNext else pure 0)
    let message : Publish := ⟨qos, id, topicName, payload⟩
    if !(Packet.publish message).fits then return false
    else do
      onlyIf (!(← get).mqtt.cleansession) (update fun mqtt =>
        { mqtt with inflight := if id = 0 then none else some message, pubrel := false })
      transmit platform (.sent (.publish message)) timer qos

/-- What `connect` reads in the CONNACK. `rc` is the return code, and 0 is success. -/
def readConnack : M Bool := do
  let (rc, sessionPresent, connackRc) ← M.ofExcept (deserializeConnack (← get).mqtt.readbuf)
  modify fun m => { m with mqttTls := { m.mqttTls with sessionPresent := sessionPresent } }
  return rc = 1 && connackRc = 0

/-- The second half of `connect`: the publish in flight, if any, is sent again whatever became of the
CONNACK, and decides the result. -/
def resend (accepted : Bool) (timer : Timer) : M Bool := do
  let m ← get
  match m.mqtt.inflight with
  | none => return accepted
  | some message =>
      if message.qos = .qos2 && m.mqtt.pubrel then
        transmit platform (.sent (.ack .pubrel message.id)) timer message.qos
      else transmit platform (.resent message) timer message.qos

def defaultKeepAlive : Nat := 60

def connect (clientId : Bytes) (cleansession : Bool) : M Bool := do
  let timer ← startTimer (← get).mqtt.commandTimeout
  if (← get).mqtt.isconnected then return false
  else
    update fun mqtt => { mqtt with keepAliveInterval := defaultKeepAlive, cleansession := cleansession }
    let packet := Packet.connect clientId cleansession defaultKeepAlive
    if !packet.fits then return false
    else
      let (sent, timer) ← sendPacket (.sent packet) timer
      if !sent then return false
      else
        let (arrived, timer) ← waitfor platform .connack timer
        let accepted ← (if arrived then readConnack else pure false)
        let rc ← resend platform accepted timer
        onlyIf rc (update fun mqtt => { mqtt with isconnected := true })
        return rc

/-- What `subscribe` makes of the SUBACK. `rc` is still 0 from `sendPacket` when the deserialiser fails,
and every code but 0x80 becomes 0 since there are no message handlers. -/
def readSuback : M Bool := do
  let (rc, grantedQoS) ← M.ofExcept (deserializeSuback platform.sign (← get).mqtt.readbuf)
  return (if rc = 1 then grantedQoS else 0) ≠ 0x80

def request (packet : Nat → Packet) (type : PacketType) (answer : M Bool) : M Bool := do
  let timer ← startTimer (← get).mqtt.commandTimeout
  let isconnected := (← get).mqtt.isconnected
  let rc ← (
    if !isconnected then pure false
    else do
      let id ← getNext
      if !(packet id).fits then pure false
      else
        let (sent, timer) ← sendPacket (.sent (packet id)) timer
        if !sent then pure false
        else
          let (arrived, _) ← waitfor platform type timer
          if arrived then answer else pure false)
  onlyIf (!rc) cleanSession
  return rc

def subscribe (topicFilter : Bytes) (qos : QoS) : M Bool :=
  request platform (Packet.subscribe · topicFilter qos) .suback (readSuback platform)

/-- `rc` is 0 once the UNSUBACK is there, whatever `MQTTDeserialize_unsuback` returns. -/
def unsubscribe (topicFilter : Bytes) : M Bool :=
  request platform (Packet.unsubscribe · topicFilter) .unsuback (pure true)

def ended (mqtt : Mqtt) : Mqtt :=
  if mqtt.cleansession then mqtt.clean
  else { mqtt with isconnected := false, pingOutstanding := false }

def disconnect : M Unit := do
  let timer ← startTimer (← get).mqtt.commandTimeout
  let _ ← sendPacket (.sent .disconnect) timer
  update ended

end Mqtt

end IotClient
