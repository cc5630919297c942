import IotClient.Model.PrivateMessage

namespace IotClient

structure MatchingKeys (sok : Sok) (sokSendKey sokRecvKey userIdFrom userIdTo : Bytes) : Prop where
  sendSize : sokSendKey.length = g1s
  recvSize : sokRecvKey.length = g2s
  shared : ∃ key, sok.pair1 sokSendKey userIdTo = .ok key ∧ sok.pair2 sokRecvKey userIdFrom = .ok key

/-- Decryption gives back the plaintext together with the tag of its encryption. -/
def Sok.Inverts (sok : Sok) : Prop :=
  ∀ key iv header plaintext,
    sok.decrypt key iv header (sok.encrypt key iv header plaintext).1 =
      (plaintext, (sok.encrypt key iv header plaintext).2)

/-- A private message gets from one user to another: writing it reads nothing outside its inputs, and
whatever text comes of it, on the topic of the addressee, is announced there with the sender and the
payload it was made from, while nobody else listens on that topic. -/
def RoundTrips (sok : Sok) (sign : CharSign) (random : Option Iv)
    (sokSendKey sokRecvKey userIdFrom userIdTo payload : Bytes) (encrypt : Bool) : Prop :=
  serializePrivateMessage sok random userIdFrom sokSendKey userIdTo payload encrypt ≠ .error .outOfRange ∧
    (∀ text, serializePrivateMessage sok random userIdFrom sokSendKey userIdTo payload encrypt = .ok text →
      classifyMessage sok sign (getPrivateMessageTopic userIdTo) sokRecvKey
        (getPrivateMessageTopic userIdTo) text = .ok (.onPrivateMessageArrived userIdFrom payload)) ∧
    ∀ other, other ≠ userIdTo → getPrivateMessageTopic other ≠ getPrivateMessageTopic userIdTo

inductive DescribesPrivateMessage (sok : Sok) (sign : CharSign) (sokRecvKey payload userIdFrom text : Bytes) :
    Prop where
  | plain {members : List (Bytes × Json)} :
      jsonParse sign payload = .ok (.object members) →
      Json.find members (bytes "from") = some (.string userIdFrom) →
      Json.find members (bytes "encrypted") = some (.boolean false) →
      Json.find members (bytes "data") = some (.string text) →
      DescribesPrivateMessage sok sign sokRecvKey payload userIdFrom text
  | encrypted {members : List (Bytes × Json)} {iv ciphertext tag key : Bytes} :
      jsonParse sign payload = .ok (.object members) →
      Json.find members (bytes "from") = some (.string userIdFrom) →
      Json.find members (bytes "encrypted") = some (.boolean true) →
      Json.find members (bytes "iv") = some (.string iv) →
      Json.find members (bytes "ciphertext") = some (.string ciphertext) →
      Json.find members (bytes "tag") = some (.string tag) →
      hexDecode iv ≠ [] → hexDecode ciphertext ≠ [] → hexDecode tag ≠ [] →
      sokRecvKey.length = g2s → sok.pair2 sokRecvKey userIdFrom = .ok key →
      sok.decrypt key (hexDecode iv) userIdFrom (hexDecode ciphertext) = (text, hexDecode tag) →
      DescribesPrivateMessage sok sign sokRecvKey payload userIdFrom text

end IotClient
