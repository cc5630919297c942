import IotClient.Model.Packet

namespace IotClient

/-! ## The M-Pin routines of the crypto library -/

structure Pass1Data where
  x : Bytes
  sec : Bytes
  u : Bytes
  ut : Bytes
  deriving DecidableEq, Repr

structure PrecomputeData where
  g1 : Bytes
  g2 : Bytes
  deriving DecidableEq, Repr

/-- A routine that fails gives the code it returns. -/
structure Mpin where
  hashId : (id : Bytes) → Bytes
  client1 : (random mpinId clientSecret : Bytes) → Except Int Pass1Data
  client2 : (x y sec : Bytes) → Except Int Bytes
  getG1Multiple : (random hashId : Bytes) → Except Int (Bytes × Bytes)
  hashAll : (hashId u y v z t : Bytes) → Bytes
  precompute : (token hashId : Bytes) → Except Int PrecomputeData
  clientKey : (precomputed : PrecomputeData) → (r x hm t : Bytes) → Except Int Bytes
  recombineG1 : (share1 share2 : Bytes) → Except Int Bytes

/-! ## The HTTP parser -/

inductive Scheme where
  | http
  | https
  | other (name : Bytes)
  deriving DecidableEq, Repr

structure Url where
  scheme : Scheme
  host : Bytes
  port : Bytes
  path : Bytes
  deriving DecidableEq, Repr

inductive ParserEvent where
  | messageBegin
  | status (code : Nat)
  | headerField (text : Bytes)
  | headerValue (text : Bytes)
  | headersComplete (contentLength : Nat)
  | body (text : Bytes)
  | messageComplete
  | chunkHeader (contentLength : Nat)
  | chunkComplete
  deriving DecidableEq, Repr

/-- `http_parser_execute` on a parser that has been given `fed` before: the callbacks it makes as long
as they return 0, and the error when it does not take all of `data`. No data is the end of the stream. -/
structure HttpParser where
  parseUrl : (url : Bytes) → Option Url
  execute : (fed : List Bytes) → (data : Bytes) → List ParserEvent × Option Bytes

structure Platform where
  sign : CharSign
  sok : Sok
  mpin : Mpin
  http : HttpParser
  printDouble : Bytes → Bytes
  maxStringSize : Nat

end IotClient
