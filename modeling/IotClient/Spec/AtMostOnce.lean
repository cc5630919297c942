import IotClient.Model.Client

namespace IotClient

/-! ## What is sent to the broker -/

inductive Arrival where
  | connect (cleansession : Bool)
  | publish (origin : Nat) (message : Publish)
  | pubrel (id : Nat)
  deriving DecidableEq, Repr

def published : List Event → Nat
  | [] => 0
  | .sent (.publish _) :: older => published older + 1
  | _ :: older => published older

def lastPublished : List Event → Option Publish
  | [] => none
  | .sent (.publish message) :: _ => some message
  | _ :: older => lastPublished older

/-- Newest first. A packet from `pubbuf` counts as a copy of the message published last. -/
def arrivals : List Event → List Arrival
  | [] => []
  | .sent (.connect _ cleansession _) :: older => .connect cleansession :: arrivals older
  | .sent (.publish message) :: older => .publish (published older + 1) message :: arrivals older
  | .resent message :: older => .publish (published older) message :: arrivals older
  | .sent (.ack .pubrel id) :: older => .pubrel id :: arrivals older
  | _ :: older => arrivals older

/-! ## The broker -/

structure Broker where
  awaiting : List Nat
  accepted : List Nat
  deriving DecidableEq, Repr

namespace Broker

def arrive (broker : Broker) : Arrival → Broker
  | .connect cleansession => if cleansession then { broker with awaiting := [] } else broker
  | .publish origin message =>
      if message.qos ≠ .qos2 then { broker with accepted := origin :: broker.accepted }
      else if message.id ∈ broker.awaiting then broker
      else ⟨message.id :: broker.awaiting, origin :: broker.accepted⟩
  | .pubrel id => { broker with awaiting := broker.awaiting.filter (· ≠ id) }

def afterAll : List Arrival → Broker
  | [] => ⟨[], []⟩
  | arrival :: older => (afterAll older).arrive arrival

end Broker

/-- Whichever of the packets get through, no message is accepted twice. -/
def AtMostOnce (log : List Event) : Prop :=
  ∀ arrived, arrived.Sublist (arrivals log) → (Broker.afterAll arrived).accepted.Nodup

/-! ## Harmless resends -/

/-- Since the last message was published, neither a PUBREL with the identifier nor a CONNECT for a clean
session has been sent. -/
def unreleased (id : Nat) : List Event → Bool
  | [] => true
  | .sent (.publish _) :: _ => true
  | .sent (.ack .pubrel other) :: older => other ≠ id && unreleased id older
  | .sent (.connect _ cleansession _) :: older => !cleansession && unreleased id older
  | _ :: older => unreleased id older

def resendsUnreleased : List Event → Bool
  | [] => true
  | .resent message :: older => unreleased message.id older && resendsUnreleased older
  | _ :: older => resendsUnreleased older

end IotClient
