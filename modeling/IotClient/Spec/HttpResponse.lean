import IotClient.Model.HttpParser
import IotClient.Spec.HttpClient

namespace IotClient.Net

/-! ## The end of a response -/

/-- The data that has been fed when a read brings none, and the result of that read; nothing when the response is over
before. -/
def endOfReading (platform : Platform) : List Reading → ResponseParser → Option (List Bytes × Int)
  | [], parser => if HttpClient.complete parser then none else some (parser.fed, timeoutCode)
  | reading :: rest, parser =>
      if HttpClient.complete parser then none
      else
        let (len, data) := reading.taken (10 * 1024)
        if len ≤ 0 then some (parser.fed, len)
        else match parser.feed platform data with
          | .error _ => none
          | .ok parser => endOfReading platform rest parser

/-- `MBEDTLS_ERR_SSL_PEER_CLOSE_NOTIFY`. -/
def closeNotifyCode : Int := -0x7880

def Orderly (code : Int) : Prop := code = 0 ∨ code = closeNotifyCode

instance (code : Int) : Decidable (Orderly code) := inferInstanceAs (Decidable (_ ∨ _))

def isBreak (b : UInt8) : Bool := b == 13 || b == 10

namespace HttpClient

def Sends (strerror : Int → Bytes) (client : HttpClient) (request : Request) (peer : Peer) : Prop :=
  hindrance strerror client request peer = none ∧ ∀ url, request.url = some url →
    acceptedAll peer.writings (requestPieces request.method url request.headers request.data) = true

def Completes (platform : Platform) (strerror : Int → Bytes) (client : HttpClient) (request : Request) (peer : Peer) :
    Prop :=
  ∀ after, execute platform strerror request ⟨client, peer⟩ = .ok () after →
    after.client.response.executeStatus = .success →
      ∃ parser, received platform peer.readings {} = .ok parser ∧ parser.isComplete = true ∧
        ∀ fed code, endOfReading platform peer.readings {} = some (fed, code) → Orderly code

/-- A read brings no data where the parser does not mind: behind nothing but line breaks, behind a header that is too
long just at the end of what was read, or in a body that lasts until the end of the stream, which has not come. -/
def CutShort (platform : Platform) (readings : List Reading) : Prop :=
  ∃ fed code, endOfReading platform readings {} = some (fed, code) ∧ fed ≠ [] ∧
    (fed.flatten.all isBreak = true ∨ (Parser.fedWith fed).errno ≠ .ok ∨
      (Parser.fedWith fed).state = .bodyIdentityEof ∧ ¬Orderly code)

end HttpClient

end IotClient.Net
