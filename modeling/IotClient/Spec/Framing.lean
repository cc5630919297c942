import IotClient.Model.Framing

namespace IotClient

def digitsValue : Bytes → Option Nat
  | [] => none
  | c :: rest =>
      if c &&& 128 = 0 then if rest = [] then some (c &&& 127).toNat else none
      else (fun value => (c &&& 127).toNat + 128 * value) <$> digitsValue rest

structure SentPacket where
  header : UInt8
  digits : Bytes
  body : Bytes
  digits_length : digits.length ≤ 4
  digits_value : digitsValue digits = some body.length
  fits : 1 + digits.length + body.length ≤ maxPacketSize

def SentPacket.bytes (packet : SentPacket) : Bytes :=
  packet.header :: packet.digits ++ packet.body

def SentPacket.content (packet : SentPacket) : UInt8 × Bytes :=
  (packet.header, packet.body)

def stream (packets : List SentPacket) : Bytes :=
  packets.flatMap SentPacket.bytes

def delivered : List Delivery → Bytes
  | [] => []
  | .segment data :: rest => data ++ delivered rest
  | .timeout :: rest => delivered rest

def silences : List Delivery → List Nat
  | [] => [0]
  | .segment data :: rest => (silences rest).map (data.length + ·)
  | .timeout :: rest => 0 :: silences rest

/-- The packets handed on are the first of those sent, and exactly their bytes have been taken. -/
def InStep (packets : List SentPacket) (deliveries : List Delivery) (calls : Nat) : Prop :=
  ∃ count, (readPackets calls deliveries).1 = (packets.take count).map SentPacket.content ∧
    delivered deliveries = stream (packets.take count) ++ delivered (readPackets calls deliveries).2

def AtBoundary (packets : List SentPacket) (offset : Nat) : Prop :=
  ∃ count, offset = (stream (packets.take count)).length

end IotClient
