import IotClient.Model.Client
import IotClient.Spec.Delivery

namespace IotClient

/-! ## Packets that say all that is read of them -/

/-- A PUBLISH that is to have a packet identifier does not end before it. -/
def Frame.Complete (frame : Frame) : Prop :=
  packetType frame.header = .publish → frame.topic.isSome → frame.publication.isSome

def ReadReply.Complete (reply : ReadReply) : Prop :=
  match reply.reading with
  | .packet frame => frame.Complete
  | _ => True

instance (frame : Frame) : Decidable frame.Complete := inferInstanceAs (Decidable (_ → _ → _))

instance (reply : ReadReply) : Decidable reply.Complete := by
  unfold ReadReply.Complete
  cases reply.reading <;> infer_instance

/-! ## Two clients that behave alike -/

/-- What two clients have in common besides that on which everything they do depends. -/
structure Known where
  ownError : Prop
  clientError : Prop
  session : Prop
  exact : Prop
  buffer : Prop
  line : Prop
  settings : Prop
  secret : Prop

structure Legible (readbuf other : Bytes) : Prop where
  publish : deserializePublish other = deserializePublish readbuf
  ack : deserializeAck other = deserializeAck readbuf
  connack : deserializeConnack other = deserializeConnack readbuf
  suback : ∀ sign, deserializeSuback sign other = deserializeSuback sign readbuf

structure Mqtt.Twin (session exact buffer : Prop) (mqtt other : Mqtt) : Prop where
  commandTimeout : other.commandTimeout = mqtt.commandTimeout
  readbuf : exact → other.readbuf = mqtt.readbuf
  legible : buffer → Legible mqtt.readbuf other.readbuf
  keepAliveInterval : session → other.keepAliveInterval = mqtt.keepAliveInterval
  pingOutstanding : other.pingOutstanding = mqtt.pingOutstanding
  cleansession : session → other.cleansession = mqtt.cleansession
  packetid : other.packetid = mqtt.packetid
  isconnected : other.isconnected = mqtt.isconnected
  inflight : other.inflight = mqtt.inflight
  pubrel : mqtt.inflight.isSome → other.pubrel = mqtt.pubrel
  incomingQoS2messages : other.incomingQoS2messages = mqtt.incomingQoS2messages

structure MqttTls.Twin (clientError secret : Prop) (client other : MqttTls) : Prop where
  psk : secret → other.psk = client.psk ∧ other.pskId = client.pskId
  clientId : other.clientId = client.clientId
  qos : other.qos = client.qos
  usePersistentSession : other.usePersistentSession = client.usePersistentSession
  lastError : clientError → other.lastError = client.lastError
  sessionPresent : other.sessionPresent = client.sessionPresent

structure Impl.Twin (ownError settings : Prop) (impl other : Impl) : Prop where
  conf : settings → other.conf = impl.conf
  authServerUrl : other.conf.authServerUrl = impl.conf.authServerUrl
  identity : other.conf.identity = impl.conf.identity
  authenticated : other.authenticated = impl.authenticated
  state : other.state = impl.state
  subscriptions : other.subscriptions = impl.subscriptions
  userId : other.userId = impl.userId
  privateMessagesTopic : other.privateMessagesTopic = impl.privateMessagesTopic
  lastError : ownError → other.lastError = impl.lastError

structure Http.Twin (line : Prop) (http other : Http) : Prop where
  error : other.error = http.error
  networkError : other.networkError = http.networkError
  tcp : other.tcp.lastError = http.tcp.lastError
  tls : other.tls.lastError = http.tls.lastError
  connection : line → other.connection = http.connection

structure Machine.Twin (known : Known) (m other : Machine) : Prop where
  tls : other.tls = m.tls
  mqtt : m.mqtt.Twin known.session known.exact known.buffer other.mqtt
  mqttTls : m.mqttTls.Twin known.clientError known.secret other.mqttTls
  impl : m.impl.Twin known.ownError known.settings other.impl
  http : m.http.Twin known.line other.http
  replies : other.replies = m.replies
  log : other.log = m.log
  complete : known.exact ∨ ∀ reply ∈ m.replies.reads, reply.Complete

end IotClient
