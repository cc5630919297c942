import IotClient.Logic.Run
import IotClient.Spec.Commands
import IotClient.Spec.Delivery

namespace IotClient

/-! ## Packets that can be processed -/

/-- A PUBLISH is well-formed, with a payload that can be read if it is a private message, or does not even hold
a topic; a SUBACK has one return code at most. -/
def Frame.Digestible (sign : CharSign) (privateMessagesTopic : Bytes) (frame : Frame) : Prop :=
  match packetType frame.header with
  | .publish =>
      match frame.publication with
      | some (topic, _, payload) => topic = privateMessagesTopic → Readable sign payload
      | none => frame.topic = none
  | .suback => frame.body.length ≤ 3
  | _ => True

def Machine.ownTopic (sign : CharSign) (m : Machine) : Bytes :=
  match m.impl.state, m.impl.conf.identity.getUserId sign with
  | .noSession, .ok userId => getPrivateMessageTopic userId
  | _, _ => m.impl.privateMessagesTopic

def Machine.Digests (sign : CharSign) (m : Machine) : Prop :=
  ∀ reply ∈ m.replies.reads, ∀ frame, reply.reading = .packet frame → frame.Digestible sign (m.ownTopic sign)

/-! ## Runs by sessions -/

namespace Client

def Call.session (m after : Machine) (session : List Event) : Call → List Event
  | .startSession => if m.impl.state = .noSession then m.since after else m.since after ++ session
  | .endSession => []
  | _ => m.since after ++ session

def follow (platform : Platform) (followed : Machine × List Event) (call : Call) : Machine × List Event :=
  (step platform followed.1 call, call.session followed.1 (step platform followed.1 call) followed.2)

/-- The states between calls, however each call ended. Every call was made in a state that meets the condition. -/
def Reached (platform : Platform) (condition : Machine → Prop) (m : Machine) (session : List Event) : Prop :=
  Logic.Reachable (fun followed => ∃ readbuf replies, followed = (fresh readbuf replies, []))
    (fun followed _ => condition followed.1) (follow platform) (m, session)

def Call.command : Call → Bool
  | .subscribe _ => true
  | .unsubscribe _ => true
  | .publish _ _ => true
  | .listenForPrivateMessages => true
  | .sendPrivateMessage _ _ _ => true
  | .runMessageLoop _ => true
  | _ => false

end Client

/-! ## Failures are reported -/

def ReportsFailures (platform : Platform) (m : Machine) : Prop :=
  ∀ (call : Client.Call) (after : Machine), call.command → Client.perform platform call m = .ok false after →
    ∃ error, .callback (.onError error) ∈ m.since after

/-- The session counts as disconnected while `MqttTlsClient::IsConnected` would return `true`. -/
def Machine.Stuck (m : Machine) : Prop :=
  m.impl.state = .disconnected ∧ m.tls.connected ∧ m.mqtt.isconnected

instance (m : Machine) : Decidable m.Stuck := inferInstanceAs (Decidable (_ ∧ _ ∧ _))

/-! ## Connection events -/

def Event.connection : Event → Option Bool
  | .callback .onConnected => some true
  | .callback (.onConnectionLost _) => some false
  | _ => none

def Alternates : List Bool → Prop
  | [] => True
  | [oldest] => oldest = true
  | newer :: older :: rest => newer ≠ older ∧ Alternates (older :: rest)

def AuthenticatedLast : List Event → Prop
  | [] => False
  | .callback .onAuthenticated :: _ => True
  | .callback (.onConnectionLost _) :: _ => False
  | _ :: older => AuthenticatedLast older

def AuthenticatedFirst : List Event → Prop
  | [] => True
  | .callback .onConnected :: older => AuthenticatedLast older ∧ AuthenticatedFirst older
  | _ :: older => AuthenticatedFirst older

structure Orderly (m : Machine) (session : List Event) : Prop where
  alternates : Alternates (session.filterMap Event.connection)
  connected : m.impl.state = .connected ↔ (session.filterMap Event.connection).head? = some true
  authenticated : AuthenticatedFirst session
  idle : m.impl.state = .noSession ∨ m.impl.state = .initial → m.impl.subscriptions = [] ∧ m.tls.connected = false

end IotClient
