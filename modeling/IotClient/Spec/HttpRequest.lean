import IotClient.Model.HttpClient

namespace IotClient.Net

/-! ## The parts of a URL, by the generic syntax -/

def endsAuthority (c : UInt8) : Bool := c == 47 || c == 63 || c == 35

def endsPath (c : UInt8) : Bool := c == 63 || c == 35

def afterAuthority (text : Bytes) : Bytes :=
  ((text.dropWhile (· != 58)).drop 3).dropWhile fun c => !endsAuthority c

def pathPart (text : Bytes) : Bytes :=
  text.takeWhile fun c => !endsPath c

def queryPart (text : Bytes) : Bytes :=
  match text.dropWhile fun c => !endsPath c with
  | 63 :: rest => rest.takeWhile (· != 35)
  | _ => []

def urlPath (text : Bytes) : Bytes := pathPart (afterAuthority text)

def urlQuery (text : Bytes) : Bytes := queryPart (afterAuthority text)

def pathStart (text : Bytes) : Nat := text.length - (afterAuthority text).length

def queryStart (text : Bytes) : Nat := pathStart text + (urlPath text).length + 1

def clipped (text : Bytes) (start : Nat) (part : Bytes) : Bytes :=
  (text.drop (start % 2 ^ 16)).take (part.length % 2 ^ 16)

def requestTarget (text : Bytes) : Bytes :=
  (if urlPath text = [] then bytes "/" else urlPath text) ++
    if urlQuery text = [] then [] else bytes "?" ++ urlQuery text

def decimalValue (text : Bytes) : Option Nat :=
  if text ≠ [] ∧ text.all isNum then some (digitsValue text) else none

def standardPort : Scheme → Option Nat
  | .http => some 80
  | .https => some 443
  | .other _ => none

def authority (url : Url) : Bytes :=
  let host := if url.host.contains 58 then bytes "[" ++ url.host ++ bytes "]" else url.host
  if decimalValue url.port = standardPort url.scheme then host else host ++ bytes ":" ++ url.port

/-! ## Requests as a server reads them -/

structure Message where
  method : Bytes
  target : Bytes
  fields : List (Bytes × Bytes)
  body : Bytes
  deriving DecidableEq, Repr

def takeLine : Bytes → Option (Bytes × Bytes)
  | [] => none
  | 13 :: 10 :: rest => some ([], rest)
  | c :: rest => (takeLine rest).map fun found => (c :: found.1, found.2)

def cut (separator : UInt8) : Bytes → Option (Bytes × Bytes)
  | [] => none
  | c :: rest =>
      if c = separator then some ([], rest)
      else (cut separator rest).map fun found => (c :: found.1, found.2)

def isBlank (c : UInt8) : Bool := c == 32 || c == 9

def trim (text : Bytes) : Bytes :=
  ((text.dropWhile isBlank).reverse.dropWhile isBlank).reverse

def readFields : Nat → Bytes → Option (List (Bytes × Bytes) × Bytes)
  | 0, _ => none
  | lines + 1, text =>
      match takeLine text with
      | none => none
      | some ([], rest) => some ([], rest)
      | some (line, rest) =>
          match cut 58 line, readFields lines rest with
          | some (name, value), some (fields, rest) => some ((name, trim value) :: fields, rest)
          | _, _ => none

def sameName (name : Bytes) (other : String) : Bool := name.map toLower == (bytes other).map toLower

def fieldValues (name : String) (fields : List (Bytes × Bytes)) : List Bytes :=
  (fields.filter fun field => sameName field.1 name).map Prod.snd

/-- A body has the length that its one Content-Length tells, and is empty without that; what has a Transfer-Encoding is
not framed by a length. -/
def bodyLength (fields : List (Bytes × Bytes)) : Option Nat :=
  match fieldValues "Transfer-Encoding" fields, fieldValues "Content-Length" fields with
  | [], [] => some 0
  | [], [value] => decimalValue value
  | _, _ => none

def readMessage (text : Bytes) : Option (Message × Bytes) := do
  let (line, rest) ← takeLine text
  let (method, line) ← cut 32 line
  let (target, version) ← cut 32 line
  if version = bytes "HTTP/1.1" then do
    let (fields, rest) ← readFields rest.length rest
    let length ← bodyLength fields
    if rest.length < length then none
    else some (⟨method, target, fields, rest.take length⟩, rest.drop length)
  else none

/-! ## What is to be written -/

def reserved (name : Bytes) : Bool :=
  sameName name "Host" || sameName name "Content-Length" || sameName name "Connection"

def ownFields (method : Method) (url : Url) (data : Bytes) : List (Bytes × Bytes) :=
  [(bytes "Host", authority url), (bytes "Connection", bytes "close")] ++
    if method.sendsBody then [(bytes "Content-Length", bytes (toString data.length))] else []

def callersFields (headers : StringMap) : List (Bytes × Bytes) :=
  (headers.entries.filter fun header => !reserved header.1).map fun header => (header.1, trim header.2)

def Serialises (text : Bytes) (method : Method) (url : Url) (headers : StringMap) (data written : Bytes) : Prop :=
  ∃ message, readMessage written = some (message, []) ∧
    message.method = bytes (methodToString method) ∧
    message.target.head? = some 47 ∧ message.target = requestTarget text ∧
    message.fields.Perm (ownFields method url data ++ callersFields headers) ∧
    message.body = if method.sendsBody then data else []

def written : List Op → Bytes
  | [] => []
  | .sslWrite data ret :: older => written older ++ data.take ret.toNat
  | .netSend data ret :: older => written older ++ data.take ret.toNat
  | _ :: older => written older

def NetworkImpl.sent (network : NetworkImpl) : Transport → Bytes
  | .tcp => Net.written network.tcp.trace
  | .tls => Net.written network.tls.trace

def Delivers (before after : NetworkImpl) (data : Bytes) : Prop :=
  ∀ transport, after.sent transport = before.sent transport ++
    if before.connection = some transport then data else []

/-- A `SendRequest` that returns true, whatever the network does, has written the request. -/
def SendsRequest (text : Bytes) (method : Method) (url : Url) (headers : StringMap) (data : Bytes) : Prop :=
  ∀ (strerror : Int → Bytes) (before after : HttpWorld),
    HttpClient.sendRequest strerror method url headers data before = .ok true after →
      ∃ output, Delivers before.client.network after.client.network output ∧
        Serialises text method url headers data output

/-! ## Where that holds -/

def Clean (headers : StringMap) : Prop :=
  ∀ header ∈ headers.entries,
    (13 ∉ header.1 ∧ 10 ∉ header.1 ∧ 58 ∉ header.1) ∧ (13 ∉ header.2 ∧ 10 ∉ header.2)

def Writable (method : Method) (url : Url) (headers : StringMap) (data : Bytes) : Prop :=
  (∀ header ∈ (HttpClient.requestHeaders method url headers data).entries,
    (HttpClient.headerLine header.1 header.2).length < 2 ^ 31) ∧
  (method.sendsBody → data.length < 2 ^ 31)

structure Expressible (text : Bytes) (method : Method) (url : Url) (headers : StringMap) : Prop where
  rooted : urlPath text ≠ [] ∨ urlQuery text = []
  path : clipped text (pathStart text) (urlPath text) = urlPath text
  query : clipped text (queryStart text) (urlQuery text) = urlQuery text
  port : decimalValue url.port = standardPort url.scheme
  host : 58 ∉ url.host
  own : ∀ header ∈ headers.entries, reserved header.1 →
    header.1 = bytes "Host" ∨ header.1 = bytes "Connection" ∨
      method.sendsBody ∧ header.1 = bytes "Content-Length"
  framed : ∀ header ∈ headers.entries, ¬sameName header.1 "Transfer-Encoding"

end IotClient.Net
