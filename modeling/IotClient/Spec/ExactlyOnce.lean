import IotClient.Spec.Commands
import IotClient.Spec.Session

namespace IotClient

/-! ## Incoming QoS 2 messages

The log is read with the newest event first. A message begins with the first PUBLISH of its packet identifier and
ends with the PUBCOMP, which the broker waits for before it uses the identifier again, or with a clean session. -/

def Frame.qos2Id (frame : Frame) : Option Nat :=
  if packetType frame.header = .publish ∧ qosOf frame.header = .qos2 then frame.publication.map (·.2.1) else none

def Frame.pubrelId (frame : Frame) : Option Nat :=
  if packetType frame.header = .pubrel then frame.packetId else none

def openIds : List Event → List Nat
  | [] => []
  | .received frame :: older =>
      match frame.qos2Id with
      | some id => if id ∈ openIds older then openIds older else id :: openIds older
      | none => openIds older
  | .sent (.ack .pubcomp id) :: older => (openIds older).filter (· != id)
  | .sent (.connect _ true _) :: _ => []
  | _ :: older => openIds older

def releasedIds : List Event → List Nat
  | [] => []
  | .received frame :: older =>
      match frame.pubrelId with
      | some id => if id ∈ openIds older then id :: releasedIds older else releasedIds older
      | none => releasedIds older
  | .sent (.ack .pubcomp id) :: older => (releasedIds older).filter (· != id)
  | .sent (.connect _ true _) :: _ => []
  | _ :: older => releasedIds older

def Frame.begins (id : Nat) (frame : Frame) (older : List Event) : Prop :=
  frame.qos2Id = some id ∧ id ∉ openIds older

instance (id : Nat) (frame : Frame) (older : List Event) : Decidable (frame.begins id older) :=
  inferInstanceAs (Decidable (_ ∧ _))

def Callback.passes (frame : Frame) : Callback → Bool
  | .onMessageArrived topic payload => frame.publication.any fun (topic', _, payload') => topic' = topic && payload' = payload
  | .onPrivateMessageArrived _ _ => true
  | .onError error => (bytes "Failed to deserialize private message: ").isPrefixOf error
  | _ => false

def passedOn (id : Nat) (made : Callback) : List Event → Bool
  | .received frame :: _ => frame.qos2Id = some id && made.passes frame
  | _ => false

def deliveries (id : Nat) : List Event → Nat
  | [] => 0
  | .received frame :: older => if frame.begins id older then 0 else deliveries id older
  | .callback made :: older => deliveries id older + (if passedOn id made older then 1 else 0)
  | _ :: older => deliveries id older

def acknowledged (id : Nat) : List Event → Bool
  | [] => false
  | .received frame :: older => !decide (frame.begins id older) && acknowledged id older
  | .sent (.ack .pubrec other) :: older => other = id || acknowledged id older
  | _ :: older => acknowledged id older

def ExactlyOnce : List Event → Prop
  | [] => True
  | event :: older =>
      ExactlyOnce older ∧ ∀ id, acknowledged id (event :: older) → deliveries id (event :: older) = 1

/-- What a sender of QoS 2 messages may do: no PUBLISH without an identifier, none once the message is released, and
no release before the PUBREC. -/
def SenderRules : List Event → Prop
  | [] => True
  | .received frame :: older =>
      SenderRules older ∧ (∀ id, frame.qos2Id = some id → id ≠ 0 ∧ id ∉ releasedIds older) ∧
        ∀ id, frame.pubrelId = some id → id ∈ openIds older → acknowledged id older
  | _ :: older => SenderRules older

def Uncrowded : List Event → Prop
  | [] => True
  | .received frame :: older =>
      Uncrowded older ∧ ∀ id, frame.begins id older → (openIds older).length < maxIncomingQoS2Messages
  | _ :: older => Uncrowded older

def followsRules : List Event → Bool
  | [] => true
  | .received frame :: older =>
      followsRules older && frame.qos2Id.all (fun id => id != 0 && !(releasedIds older).contains id) &&
        frame.pubrelId.all fun id => !(openIds older).contains id || acknowledged id older
  | _ :: older => followsRules older

theorem followsRules_iff (log : List Event) : followsRules log ↔ SenderRules log := by
  induction log with
  | nil => exact iff_of_true rfl trivial
  | cons event older ih =>
      cases event with
      | received frame =>
          simp only [followsRules, SenderRules, Bool.and_eq_true, Option.all_eq_true, bne_iff_ne, Bool.or_eq_true,
            Bool.not_eq_true', List.contains_eq_mem, decide_eq_false_iff_not, ih, and_assoc, ← Decidable.imp_iff_not_or]
      | _ => exact ih

instance (log : List Event) : Decidable (SenderRules log) :=
  decidable_of_iff _ (followsRules_iff log)

instance decidableUncrowded : DecidablePred Uncrowded
  | [] => .isTrue trivial
  | event :: older =>
      have := decidableUncrowded older
      match event with
      | .received frame => decidable_of_iff (Uncrowded older ∧ ∀ id ∈ frame.qos2Id, id ∉ openIds older →
          (openIds older).length < maxIncomingQoS2Messages) (and_congr Iff.rfl (forall_congr' fun _ => and_imp.symm))
      | .deadline _ | .opened | .closed | .sent _ | .resent _ | .requested _ _ _ | .callback _ => this

/-! ## Runs -/

def Client.visit (platform : Platform) (m : Machine) (visit : Replies × Call) : Machine :=
  step platform { m with replies := visit.1 } visit.2

def Client.Visited (platform : Platform) (condition : Machine → Call → Prop) : Machine → Prop :=
  Logic.Reachable (fun m => ∃ readbuf replies, m = fresh readbuf replies)
    (fun m visit => condition { m with replies := visit.1 } visit.2) (Client.visit platform)

def Machine.Unused (m : Machine) : Prop :=
  (∀ id ∈ m.mqtt.incomingQoS2messages, id = 0) ∧
    ∀ reply ∈ m.replies.reads, ∀ frame, reply.reading = .packet frame → frame.qos2Id = none

def Machine.live (m : Machine) : Bool :=
  m.impl.state = .connected && m.tls.connected && m.mqtt.isconnected

def Frame.grants (type : PacketType) (frame : Frame) : Prop :=
  packetType frame.header = type ∧
    match type with
    | .connack => frame.body.head?.all (· &&& 0x80 = 0)
    | .suback => ∃ high low code, frame.body = [high, low, code] ∧ code < 0x80
    | _ => True

def firstGrant : List PacketType → List ReadReply → Prop
  | [], _ => True
  | type :: rest, reads => ∃ frame later, reads = ⟨.packet frame, none⟩ :: later ∧ frame.grants type ∧ firstGrant rest later

structure Replies.Prompt (deadlines writes : Nat) (answers : List PacketType) (replies : Replies) : Prop where
  ticks : deadlines ≤ (replies.ticks.takeWhile (1 < ·)).length
  sends : writes ≤ (replies.sends.takeWhile (· = .sent false)).length
  pings : ∀ due ∈ replies.pings.take answers.length, due = false
  reads : firstGrant answers replies.reads

namespace Client.Call

def checksState : Call → Bool
  | .subscribe _ => true
  | .unsubscribe _ => true
  | .publish _ _ => true
  | .listenForPrivateMessages => true
  | .sendPrivateMessage _ _ _ => true
  | .runMessageLoop _ => true
  | _ => false

def reconnects (m : Machine) (call : Call) : Bool :=
  call.checksState && !m.live

def writes (m : Machine) (call : Call) : Nat :=
  (if call.reconnects m then m.impl.subscriptions.length + 2 else 0) +
    match call with
    | .runMessageLoop _ => 0
    | _ => if call.checksState then 1 else 0

def answers (m : Machine) (call : Call) : List PacketType :=
  (if call.reconnects m then .connack :: m.impl.subscriptions.map fun _ => .suback else []) ++
    match call with
    | .subscribe _ => [.suback]
    | .listenForPrivateMessages => [.suback]
    | .unsubscribe _ => [.unsuback]
    | _ => []

def fits (m : Machine) (call : Call) : Bool :=
  (m.impl.subscriptions.all fun topic => (Packet.subscribe 0 (cString topic) .qos2).fits) &&
    match call with
    | .subscribe topic => (Packet.subscribe 0 (cString topic) .qos2).fits
    | .listenForPrivateMessages => (Packet.subscribe 0 (cString m.impl.privateMessagesTopic) .qos2).fits
    | .unsubscribe topic => (Packet.unsubscribe 0 (cString topic)).fits
    | _ => true

end Client.Call

/-- In a persistent session at QoS 2 that has been connected, what the call sends of its own is written and answered at
once. -/
structure Client.Smooth (m : Machine) (call : Call) : Prop where
  state : m.impl.state = .connected ∨ m.impl.state = .disconnected
  persistent : m.mqttTls.usePersistentSession = true
  cleansession : m.mqtt.cleansession = false
  qos : m.mqttTls.qos = .qos2
  inflight : ∀ message, m.mqtt.inflight = some message → message.qos = .qos2
  fits : call.fits m
  prompt : m.replies.Prompt (call.writes m) (call.writes m) (call.answers m)

/-- Every packet to come can be processed, and if a message is open or may begin, the call does not fail. -/
def Client.Spared (platform : Platform) (m : Machine) (call : Client.Call) : Prop :=
  m.Digests platform.sign ∧ (m.Unused ∨ Client.Smooth m call)

end IotClient
