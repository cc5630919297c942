import IotClient.Logic.Run
import IotClient.Model.Client
import IotClient.Spec.Commands

namespace IotClient

/-! ## The session-present flag -/

def connacks : List Event → List Frame
  | [] => []
  | .opened :: _ => []
  | event :: older => (event.frameOf .connack).toList ++ connacks older

def Frame.sessionPresent (frame : Frame) : Bool :=
  match frame.body with
  | flags :: _ => flags &&& 1 ≠ 0
  | [] => false

/-- The highest bit of the first byte, which is the one that is read, is the same as the lowest. -/
def Frame.flagsAgree (frame : Frame) : Bool :=
  match frame.body with
  | flags :: _ => decide (flags &&& 0x80 ≠ 0) = decide (flags &&& 1 ≠ 0)
  | [] => true

namespace MqttTls

def Call.connects : Call → Bool
  | .connect => true
  | .reconnect => true
  | _ => false

def Reached (platform : Platform) (condition : Machine → Call → Prop) : Machine → Prop :=
  Logic.Reachable (fun m => ∃ impl readbuf replies, m = { Client.fresh readbuf replies with impl := impl }) condition
    fun m call => Logic.last (perform platform call m)

def Call.Announces (platform : Platform) (m : Machine) (call : Call) : Prop :=
  ∀ after, call.connects → perform platform call m = .ok true after → .opened ∈ m.since after →
    ∃ frame, connacks after.log = [frame] ∧ after.mqttTls.sessionPresent = frame.sessionPresent

def Current (platform : Platform) (condition : Machine → Call → Prop) (m : Machine) : Prop :=
  (m.mqttTls.sessionPresent → m.mqtt.isconnected) ∧ ∀ call : Call, condition m call → call.Announces platform m

/-- When a connection may be opened, no publish is in flight and no CONNACK to come tells the two bits apart. -/
def Unambiguous (m : Machine) (call : Call) : Prop :=
  call.connects → m.mqtt.inflight = none ∧ ∀ reply ∈ m.replies.reads, ∀ frame, reply.reading = .packet frame →
    packetType frame.header = .connack → frame.flagsAgree

end MqttTls

end IotClient
