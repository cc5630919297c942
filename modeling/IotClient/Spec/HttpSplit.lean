import IotClient.Spec.HttpResponse

namespace IotClient.Net

/-! ## A stream byte by byte -/

def Parser.bytewise : Bytes → Parser → Parser × List ParserEvent
  | [], parser => (parser, [])
  | b :: rest, parser =>
      let (next, events, _) := parser.execute [b]
      let (last, later) := bytewise rest next
      (last, events ++ later)

/-- The parser has not stopped, or with an error that it meets however its data is split: not because of the size of the
headers, which is counted in another way when they come in other pieces, and not because of a character that the search for
the end of a value passes over. -/
def Parser.Noticed (parser : Parser) : Prop :=
  parser.errno ≠ .headerOverflow ∧
    (parser.errno = .invalidHeaderToken → parser.state = .headerValue → parser.headerState ≠ .general)

instance (parser : Parser) : Decidable parser.Noticed := inferInstanceAs (Decidable (_ ∧ _))

/-- Given the stream byte by byte, the `http_parser` finds nothing wrong, and the message is not over before the last
byte. -/
def Regular (stream : Bytes) : Prop :=
  (Parser.bytewise stream {}).1.errno = .ok ∧
    ∀ shorter, shorter <+: stream → shorter ≠ stream → .messageComplete ∉ (Parser.bytewise shorter {}).2

/-! ## The byte that decides -/

def parseNoted (result : Parser × List ParserEvent × Nat) (len : Nat) (parser : ResponseParser) : ResponseParser :=
  if result.2.2 = len then parser
  else match result.1.parseError result.2.2 len with
    | none => parser
    | some text => { parser with error := parser.error.set text }

def Pending (maxStringSize : Nat) (before : Bytes) : Prop :=
  (Parser.bytewise before {}).1.errno = .ok ∧ .messageComplete ∉ (Parser.bytewise before {}).2 ∧
    ∃ response, ResponseParser.handleAll maxStringSize {} (Parser.bytewise before {}).2 = .ok response

def visible (response : ResponseParser) : Bool × Int × List (Bytes × Bytes) × Bytes :=
  (response.error.isNone, response.httpStatus, response.headers, response.data)

/-- What a caller learns once the data has come in one read, behind bytes that have come one by one. -/
def learned (maxStringSize : Nat) (before data : Bytes) :
    Except Fault (Bool × Int × List (Bytes × Bytes) × Bytes) := do
  let response ← ResponseParser.handleAll maxStringSize {} (Parser.bytewise before {}).2
  let result := (Parser.bytewise before {}).1.execute data
  let later ← ResponseParser.handleAll maxStringSize response result.2.1
  return visible (parseNoted result data.length later)

/-- When the `http_parser` refuses a byte of the stream, the read may bring bytes before it as well, and when the message
ends with a byte, the read may bring bytes behind it as well, without a difference for the caller. -/
def Seamless (maxStringSize : Nat) (stream : Bytes) : Prop :=
  ∀ before b rest, stream = before ++ b :: rest → Pending maxStringSize before →
    (((Parser.bytewise before {}).1.execute [b]).1.errno ≠ .ok →
      ∀ front back, before = front ++ back → back.length < 10 * 1024 →
        learned maxStringSize front (back ++ [b]) = learned maxStringSize before [b]) ∧
    (.messageComplete ∈ ((Parser.bytewise before {}).1.execute [b]).2.1 →
      ∀ more, more <+: rest → more.length < 10 * 1024 →
        learned maxStringSize before (b :: more) = learned maxStringSize before [b])

/-! ## The reads that bring a stream -/

def Reading.text : Reading → Bytes
  | .data first rest => first :: rest
  | .failed _ _ => []

def Brings (readings : List Reading) (stream : Bytes) : Prop :=
  (∀ reading ∈ readings, reading.text ≠ [] ∧ reading.text.length ≤ 10 * 1024) ∧ readings.flatMap Reading.text = stream

instance (readings : List Reading) (stream : Bytes) : Decidable (Brings readings stream) :=
  inferInstanceAs (Decidable (_ ∧ _))

namespace HttpClient

def answer (platform : Platform) (strerror : Int → Bytes) (world : HttpWorld) (readings : List Reading) :
    Except Fault (Bool × Response) :=
  match readResponse platform strerror { world with peer := { world.peer with readings := readings } } with
  | .ok returned after => .ok (returned, after.client.response)
  | .error fault _ => .error fault

def SplitIndependent (platform : Platform) (strerror : Int → Bytes) (world : HttpWorld) (stream : Bytes) : Prop :=
  ∀ one other ending, Brings one stream → Brings other stream → ending.text = [] →
    answer platform strerror world (one ++ [ending]) = answer platform strerror world (other ++ [ending])

end HttpClient

end IotClient.Net
