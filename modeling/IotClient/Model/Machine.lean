import IotClient.Model.Platform

namespace IotClient

/-! ## Packets the client sends -/

structure Publish where
  qos : QoS
  id : Nat
  topicName : Bytes
  payload : Bytes
  deriving DecidableEq, Repr

inductive Packet where
  | connect (clientId : Bytes) (cleansession : Bool) (keepAliveInterval : Nat)
  | publish (message : Publish)
  | ack (type : PacketType) (id : Nat)
  | subscribe (id : Nat) (topic : Bytes) (qos : QoS)
  | unsubscribe (id : Nat) (topic : Bytes)
  | pingreq
  | disconnect
  deriving DecidableEq, Repr

def Packet.remLen : Packet → Nat
  | .connect clientId _ _ => 10 + (clientId.length + 2)
  | .publish message =>
      2 + message.topicName.length + message.payload.length + if message.qos = .qos0 then 0 else 2
  | .ack _ _ => 2
  | .subscribe _ topic _ => 2 + (2 + topic.length + 1)
  | .unsubscribe _ topic => 2 + (2 + topic.length)
  | .pingreq => 0
  | .disconnect => 0

/-- `MQTTPacket_len`, which counts the header byte before it counts the length bytes. -/
def packetLen (remLen : Nat) : Nat :=
  let len := remLen + 1
  if len < 128 then len + 1
  else if len < 16384 then len + 2
  else if len < 2097151 then len + 3
  else len + 4

def Packet.fits (packet : Packet) : Bool :=
  packetLen packet.remLen ≤ maxPacketSize

/-! ## State -/

abbrev Status := Option Bytes

/-- `Status::Set` does nothing when there is an error already. -/
def Status.set (status : Status) (error : Bytes) : Status :=
  some (status.getD error)

def Status.text (status : Status) : Bytes :=
  status.getD (bytes "OK")

structure Connection where
  host : Bytes
  port : Bytes
  connected : Bool
  lastError : Status
  deriving DecidableEq, Repr

def Connection.fail (connection : Connection) (error : Bytes) : Connection :=
  { connection with lastError := connection.lastError.set error }

/-- The fields of `MQTT::Client`. `inflight` stands for `pubbuf`, `inflightLen`, `inflightMsgid` and
`inflightQoS`, which are written together and not read when `inflightMsgid` is 0. -/
structure Mqtt where
  commandTimeout : Nat
  readbuf : Bytes
  keepAliveInterval : Nat
  pingOutstanding : Bool
  cleansession : Bool
  packetid : Nat
  isconnected : Bool
  inflight : Option Publish
  pubrel : Bool
  incomingQoS2messages : List Nat
  deriving DecidableEq, Repr

structure MqttTls where
  psk : Bytes
  pskId : Bytes
  clientId : Bytes
  qos : QoS
  usePersistentSession : Bool
  lastError : Bytes
  sessionPresent : Bool
  deriving DecidableEq, Repr

structure Config where
  authServerUrl : Bytes
  identity : Identity
  mqttTlsBrokerAddr : Bytes
  mqttCommandTimeoutMillisec : Nat
  useMqttQoS2 : Bool
  useMqttPersistentSession : Bool
  deriving DecidableEq, Repr

inductive State where
  | noSession
  | initial
  | connected
  | disconnected
  deriving DecidableEq, Repr

structure Impl where
  conf : Config
  authenticated : Bool
  state : State
  subscriptions : List Bytes
  userId : Bytes
  privateMessagesTopic : Bytes
  lastError : Bytes
  deriving DecidableEq, Repr

inductive Transport where
  | tcp
  | tls
  deriving DecidableEq, Repr

structure Http where
  error : Status
  networkError : Status
  tcp : Connection
  tls : Connection
  connection : Option Transport
  deriving DecidableEq, Repr

/-! ## The world outside -/

/-- How the write of a packet ends; `failed` closes the connection. The timer may run out before the
write or during it. -/
inductive SendReply where
  | sent (expires : Bool)
  | expired
  | failed (error : Bytes)
  deriving DecidableEq, Repr

inductive Reading where
  | failure
  | bufferOverflow
  | packet (frame : Frame)

structure ReadReply where
  reading : Reading
  closed : Status

/-- One connection to the HTTP server: whether it is made, whether the request is written, what is
read, and the error that ends the reading, none for a timeout. A write that fails closes the connection with
an error, or it has nothing to write and leaves the connection as it is. -/
structure Exchange where
  connect : Status
  write : Option Status
  reads : List Bytes
  stop : Status
  deriving DecidableEq, Repr

/-- The answers that the client is still to get, one list for each kind of question. When a list is
used up the world is dead: timers have expired, nothing arrives and nothing is sent. `unset` holds what
variables that are read without being set happen to contain. -/
structure Replies where
  ticks : List Nat
  connects : List Status
  sends : List SendReply
  reads : List ReadReply
  pings : List Bool
  unset : List UInt16
  ivs : List (Option Iv)
  randoms : List (Option Bytes)
  exchanges : List Exchange

inductive Method where
  | get
  | post
  deriving DecidableEq, Repr

/-- What can be seen of the client from outside. `resent` is a packet copied from `pubbuf`. -/
inductive Event where
  | deadline (milliseconds : Nat)
  | opened
  | closed
  | sent (packet : Packet)
  | resent (message : Publish)
  | received (frame : Frame)
  | requested (method : Method) (url : Url) (data : Bytes)
  | callback (callback : Callback)

structure Machine where
  tls : Connection
  mqtt : Mqtt
  mqttTls : MqttTls
  impl : Impl
  http : Http
  replies : Replies
  log : List Event

abbrev M := EStateM Fault Machine

def M.ofExcept {α : Type} : Except Fault α → M α
  | .ok value => pure value
  | .error fault => throw fault

def onlyIf (condition : Bool) (action : M Unit) : M Unit :=
  if condition then action else pure ()

/-- The newest event stands first in the log. -/
def emit (event : Event) : M Unit :=
  modify fun m => { m with log := event :: m.log }

def notify (callback : Callback) : M Unit :=
  emit (.callback callback)

/-! ## Questions -/

def nextTicks : M Nat :=
  modifyGet fun m =>
    (m.replies.ticks.headD 0, { m with replies := { m.replies with ticks := m.replies.ticks.tail } })

def nextConnect : M Status :=
  modifyGet fun m =>
    (m.replies.connects.headD (some []),
      { m with replies := { m.replies with connects := m.replies.connects.tail } })

def nextSend : M SendReply :=
  modifyGet fun m =>
    (m.replies.sends.headD .expired,
      { m with replies := { m.replies with sends := m.replies.sends.tail } })

def nextRead : M ReadReply :=
  modifyGet fun m =>
    (m.replies.reads.headD ⟨.failure, none⟩,
      { m with replies := { m.replies with reads := m.replies.reads.tail } })

def nextPing : M Bool :=
  modifyGet fun m =>
    (m.replies.pings.headD false, { m with replies := { m.replies with pings := m.replies.pings.tail } })

def nextUnset : M UInt16 :=
  modifyGet fun m =>
    (m.replies.unset.headD 0, { m with replies := { m.replies with unset := m.replies.unset.tail } })

def nextIv : M (Option Iv) :=
  modifyGet fun m =>
    (m.replies.ivs.headD none, { m with replies := { m.replies with ivs := m.replies.ivs.tail } })

def nextRandom : M (Option Bytes) :=
  modifyGet fun m =>
    (m.replies.randoms.headD none,
      { m with replies := { m.replies with randoms := m.replies.randoms.tail } })

def nextExchange : M Exchange :=
  modifyGet fun m =>
    (m.replies.exchanges.headD ⟨some [], none, [], none⟩,
      { m with replies := { m.replies with exchanges := m.replies.exchanges.tail } })

/-! ## The TLS connection to the broker -/

namespace TlsConnection

def fail (error : Bytes) : M Unit :=
  modify fun m => { m with tls := m.tls.fail error }

def connect : M Bool := do
  if (← get).tls.connected then return true
  else match ← nextConnect with
    | some error => do
        fail error
        return false
    | none => do
        modify fun m => { m with tls := { m.tls with connected := true, lastError := none } }
        emit .opened
        return true

def close : M Unit := do
  if (← get).tls.connected then do
    modify fun m => { m with tls := { m.tls with connected := false } }
    emit .closed
  else pure ()

def lose (error : Bytes) : M Unit := do
  fail error
  close

def readDisconnected : Bytes :=
  bytes "TlsConnection::read() failed (code=-1): Network disconnected"

def writeDisconnected : Bytes :=
  bytes "TlsConnection::write() failed (code=-1): Network disconnected"

end TlsConnection

end IotClient
