import IotClient.Logic.Run
import IotClient.Model.Client

namespace IotClient

/-! ## The broker's session and the network

Connections are numbered as they are opened. A packet that is sent stays in `pending` until the broker
processes it, which may be never; the packets of one connection are processed in order. -/

structure World where
  connections : Nat
  pending : List (Nat × Packet)
  attached : Option Nat
  clean : Bool
  session : List Bytes
  subacks : Nat
  dropped : Bool
  deriving DecidableEq, Repr

namespace World

def initial (stored : List Bytes) : World := ⟨0, [], none, false, stored, 0, false⟩

def detach (world : World) : World :=
  if world.clean then { world with attached := none, session := [], dropped := true }
  else { world with attached := none }

def process (world : World) (connection : Nat) : Packet → World
  | .connect _ cleansession _ =>
      { world with
        attached := some connection
        clean := cleansession
        session := if cleansession || world.clean then [] else world.session
        dropped := connection ≠ world.connections }
  | .subscribe _ topic _ =>
      if world.attached = some connection then
        { world with
          session := topic :: world.session
          subacks := if connection = world.connections then world.subacks + 1 else world.subacks }
      else world
  | .unsubscribe _ topic =>
      if world.attached = some connection then
        { world with session := world.session.filter (· ≠ topic) }
      else world
  | .disconnect => if world.attached = some connection then world.detach else world
  | _ => world

inductive Step : World → World → Prop where
  | process {world : World} {earlier later : List (Nat × Packet)} {connection : Nat} {packet : Packet}
      (pending : world.pending = earlier ++ (connection, packet) :: later)
      (first : ∀ other ∈ earlier, other.1 ≠ connection) :
      Step world ({ world with pending := earlier ++ later }.process connection packet)
  | detach {world : World} : Step world world.detach
  | forget {world : World} (offline : world.attached = none) :
      Step world { world with session := [], dropped := true }

def connackFlags (frame : Frame) : Bool :=
  match frame.body with
  | flags :: _ => flags ≤ 1
  | [] => true

/-- What an event of the client is for the world, if the world allows it: a SUBACK answers a SUBSCRIBE
that was processed on this connection. -/
def sees (world : World) : Event → Option World
  | .opened => some { world with connections := world.connections + 1, subacks := 0 }
  | .sent packet => some { world with pending := world.pending ++ [(world.connections, packet)] }
  | .received frame =>
      match packetType frame.header with
      | .suback => if 0 < world.subacks then some { world with subacks := world.subacks - 1 } else none
      | .connack => if connackFlags frame then some world else none
      | _ => some world
  | _ => some world

end World

inductive Behaves : List Event → World → Prop where
  | start (stored : List Bytes) : Behaves [] (World.initial stored)
  | step {log : List Event} {world next : World} (behaves : Behaves log world) (step : world.Step next) :
      Behaves log next
  | event {log : List Event} {world next : World} {event : Event} (behaves : Behaves log world)
      (seen : world.sees event = some next) : Behaves (event :: log) next

/-! ## Subscriptions to be kept -/

namespace Client

/-- The topics that must be in the session after a call: those that `Subscribe` returned `true` for and that
`Unsubscribe` has not been called for since. -/
def Call.keep (m : Machine) (result : Bool) (topics : List Bytes) : Call → List Bytes
  | .subscribe topic => if result then topic :: topics else topics
  | .listenForPrivateMessages => if result then m.impl.privateMessagesTopic :: topics else topics
  | .unsubscribe topic => topics.filter (· ≠ topic)
  | .endSession => []
  | _ => topics

def Call.plain : Call → Prop
  | .subscribe topic => 0 ∉ topic
  | .unsubscribe topic => 0 ∉ topic
  | _ => True

instance (call : Call) : Decidable call.plain :=
  match call with
  | .subscribe topic | .unsubscribe topic => inferInstanceAs (Decidable (0 ∉ topic))
  | .configure _ | .startSession | .endSession | .isConnected | .publish _ _ | .listenForPrivateMessages
  | .sendPrivateMessage _ _ _ | .runMessageLoop _ => .isTrue trivial

def play (platform : Platform) (played : Machine × List Bytes) (call : Call) : Machine × List Bytes :=
  match perform platform call played.1 with
  | .ok result after => (after, call.keep played.1 result played.2)
  | .error _ after => (after, played.2)

def History (platform : Platform) (m : Machine) (topics : List Bytes) : Prop :=
  Logic.Reachable (fun played => ∃ readbuf replies, played = (fresh readbuf replies, []))
    (fun played call => call.plain ∧ ∃ result after, perform platform call played.1 = .ok result after)
    (play platform) (m, topics)

end Client

def Durable (topics : List Bytes) (world : World) : Prop :=
  ∀ topic ∈ topics, topic ∈ world.session

end IotClient
