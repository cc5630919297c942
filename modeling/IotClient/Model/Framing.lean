import IotClient.Model.Packet

namespace IotClient

inductive Delivery where
  | segment (data : Bytes)
  | timeout
  deriving DecidableEq, Repr

/-- `TlsConnection::ReadAll`, with the bytes received so far: a timeout returns its code in their
place. When nothing more is delivered, the read times out as well. -/
def readAll : List Delivery → Nat → Bytes → Option Bytes × List Delivery
  | deliveries, 0, received => (some received, deliveries)
  | [], _ + 1, _ => (none, [])
  | .timeout :: rest, _ + 1, _ => (none, rest)
  | .segment data :: rest, len + 1, received =>
      if data.length ≤ len + 1 then readAll rest (len + 1 - data.length) (received ++ data)
      else (some (received ++ data.take (len + 1)), .segment (data.drop (len + 1)) :: rest)

/-- `decodePacket`, whose result `readPacket` ignores: a digit that does not come ends the loop. -/
def decodePacket : (digits multiplier value : Nat) → List Delivery → Nat × List Delivery
  | 0, _, value, deliveries => (value, deliveries)
  | digits + 1, multiplier, value, deliveries =>
      match readAll deliveries 1 [] with
      | (some [c], rest) =>
          if c &&& 128 ≠ 0 then
            decodePacket digits (multiplier * 128) (value + (c &&& 127).toNat * multiplier) rest
          else (value + (c &&& 127).toNat * multiplier, rest)
      | (_, rest) => (value, rest)

inductive ReadResult where
  | failure
  | bufferOverflow
  | packet (header : UInt8) (body : Bytes)
  deriving DecidableEq, Repr

def readBody (header : UInt8) (remLen : Nat) (deliveries : List Delivery) : ReadResult × List Delivery :=
  if remLen > maxPacketSize - (1 + (encodeLength remLen).length) then (.bufferOverflow, deliveries)
  else if remLen > 0 then
    match readAll deliveries remLen [] with
    | (some body, rest) => (.packet header body, rest)
    | (none, rest) => (.failure, rest)
  else (.packet header [], deliveries)

def readPacket (deliveries : List Delivery) : ReadResult × List Delivery :=
  match readAll deliveries 1 [] with
  | (some [header], rest) =>
      let (remLen, rest) := decodePacket 4 1 0 rest
      readBody header remLen rest
  | (_, rest) => (.failure, rest)

def readPackets : Nat → List Delivery → List (UInt8 × Bytes) × List Delivery
  | 0, deliveries => ([], deliveries)
  | calls + 1, deliveries =>
      match readPacket deliveries with
      | (.packet header body, rest) =>
          let (packets, rest) := readPackets calls rest
          ((header, body) :: packets, rest)
      | (_, rest) => readPackets calls rest

end IotClient
