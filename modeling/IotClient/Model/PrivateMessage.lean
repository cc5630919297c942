import IotClient.Model.Json

namespace IotClient

structure Identity where
  mpinId : Bytes
  clientSecret : Bytes
  dtaList : List Bytes
  sokSendKey : Bytes
  sokRecvKey : Bytes
  deriving DecidableEq, Repr

inductive Callback where
  | onAuthenticated
  | onIdentityChanged (newIdentity : Identity)
  | onConnected
  | onConnectionLost (error : Bytes)
  | onError (error : Bytes)
  | onMessageArrived (topic payload : Bytes)
  | onPrivateMessageArrived (userIdFrom payload : Bytes)
  deriving DecidableEq, Repr

def cryptoError (error : Bytes) : Fault := .iot (bytes "Crypto error: " ++ error)

def cryptoErrorCode (function : String) (code : Int) : Fault :=
  .iot (bytes ("Crypto error: " ++ function ++ "() returned " ++ toString code))

def jsonError (error : Bytes) : Fault := .iot (bytes "JSON parse error: " ++ error)

/-! ## Sakai-Ohgishi-Kasahara encryption -/

def pfs : Nat := 32
def pgs : Nat := 32
def g1s : Nat := 2 * pfs + 1
def g2s : Nat := 4 * pfs
def piv : Nat := 12
def ptag : Nat := 16
def pas : Nat := 16

/-- The routines of the crypto library behind `SokEncrypt` and `SokDecrypt`, with the lengths that
`SOK_AES_GCM_ENCRYPT` and `SOK_AES_GCM_DECRYPT` set on their outputs. -/
structure Sok where
  pair1 : (key idTo : Bytes) → Except Int Bytes
  pair2 : (key idFrom : Bytes) → Except Int Bytes
  encrypt : (key iv header plaintext : Bytes) → Bytes × Bytes
  decrypt : (key iv header ciphertext : Bytes) → Bytes × Bytes
  encrypt_length : ∀ key iv header plaintext,
    (encrypt key iv header plaintext).1.length = plaintext.length
  encrypt_tag : ∀ key iv header plaintext, (encrypt key iv header plaintext).2.length = ptag
  decrypt_length : ∀ key iv header ciphertext,
    (decrypt key iv header ciphertext).1.length = ciphertext.length
  decrypt_tag : ∀ key iv header ciphertext, (decrypt key iv header ciphertext).2.length = ptag

structure Iv where
  val : Bytes
  length_eq : val.length = piv

structure SokData where
  iv : Bytes
  ciphertext : Bytes
  tag : Bytes
  deriving DecidableEq, Repr

def invalidKeySize (name function : String) (size expected : Nat) : Fault :=
  cryptoError (bytes ("Invalid " ++ name ++ " size(" ++ toString size ++ ") passed to " ++ function ++
    "(). Must be " ++ toString expected))

/-- `random` is `none` when the generator cannot be seeded. -/
def sokEncrypt (sok : Sok) (random : Option Iv) (message sokSendKey userIdFrom userIdTo : Bytes) :
    Except Fault SokData :=
  match random with
  | none => .error (cryptoError (bytes "GenerateRandomSeed() failed"))
  | some iv =>
      if sokSendKey.length ≠ g1s then
        .error (invalidKeySize "sokSendKey" "SokEncrypt" sokSendKey.length g1s)
      else match sok.pair1 sokSendKey userIdTo with
        | .error code => .error (cryptoErrorCode "SOK_PAIR1" code)
        | .ok key =>
            let (ciphertext, tag) := sok.encrypt key iv.val userIdFrom message
            .ok ⟨iv.val, ciphertext, tag⟩

def sokDecrypt (sok : Sok) (data : SokData) (sokRecvKey userIdFrom : Bytes) : Except Fault Bytes :=
  if sokRecvKey.length ≠ g2s then
    .error (invalidKeySize "sokRecvKey" "SokDecrypt" sokRecvKey.length g2s)
  else match sok.pair2 sokRecvKey userIdFrom with
    | .error code => .error (cryptoErrorCode "SOK_PAIR2" code)
    | .ok key =>
        let (plaintext, tag) := sok.decrypt key data.iv userIdFrom data.ciphertext
        if data.tag ≠ tag then .error (cryptoError (bytes "SokDecrypt() failed: tag mismatch"))
        else .ok plaintext

/-! ## Private messages -/

def getPrivateMessageTopic (userId : Bytes) : Bytes :=
  hexEncode userId ++ bytes "/pm"

def privateMessageObject (sok : Sok) (random : Option Iv) (userId sokSendKey userIdTo payload : Bytes)
    (encrypt : Bool) : Except Fault (List (Bytes × Json)) :=
  if encrypt then do
    let data ← sokEncrypt sok random payload sokSendKey userId userIdTo
    return [(bytes "from", .string userId), (bytes "encrypted", .boolean true),
      (bytes "iv", .string (hexEncode data.iv)),
      (bytes "ciphertext", .string (hexEncode data.ciphertext)),
      (bytes "tag", .string (hexEncode data.tag))]
  else
    return [(bytes "from", .string userId), (bytes "encrypted", .boolean false),
      (bytes "data", .string payload)]

def serializePrivateMessage (sok : Sok) (random : Option Iv)
    (userId sokSendKey userIdTo payload : Bytes) (encrypt : Bool) : Except Fault Bytes := do
  jsonToString id (.object (← privateMessageObject sok random userId sokSendKey userIdTo payload encrypt))

/-- The body of the `try` in the constructor of `PrivateMessage`. The parameters are checked for
emptiness only after `SokDecrypt` has used them. -/
def readPrivateMessage (sok : Sok) (sign : CharSign) (sokRecvKey serializedData : Bytes) :
    Except Fault (Bytes × Bytes) := do
  let json ← jsonParse sign serializedData
  let userIdFrom ← (← json.index (bytes "from")).toBytes
  let encrypted ← (← json.index (bytes "encrypted")).toBoolean
  if encrypted then
    let iv := hexDecode (← (← json.index (bytes "iv")).toBytes)
    let ciphertext := hexDecode (← (← json.index (bytes "ciphertext")).toBytes)
    let tag := hexDecode (← (← json.index (bytes "tag")).toBytes)
    let payload ← sokDecrypt sok ⟨iv, ciphertext, tag⟩ sokRecvKey userIdFrom
    if iv.isEmpty || ciphertext.isEmpty || tag.isEmpty then
      throw (jsonError (bytes "Invalid private message parameters in message " ++ serializedData))
    return (userIdFrom, payload)
  else
    return (userIdFrom, ← (← json.index (bytes "data")).toBytes)

/-- `catch (const json::Exception& e) { throw JsonError(e.what()); }`; `what()` is a C string. -/
def catchJson {α : Type} : Except Fault α → Except Fault α
  | .error (.json what) => .error (jsonError (cString what))
  | result => result

def privateMessage (sok : Sok) (sign : CharSign) (sokRecvKey serializedData : Bytes) :
    Except Fault (Bytes × Bytes) :=
  catchJson (readPrivateMessage sok sign sokRecvKey serializedData)

def classifyMessage (sok : Sok) (sign : CharSign) (privateMessagesTopic sokRecvKey topic payload : Bytes) :
    Except Fault Callback :=
  if topic = privateMessagesTopic then
    match privateMessage sok sign sokRecvKey payload with
    | .ok (userIdFrom, text) => .ok (.onPrivateMessageArrived userIdFrom text)
    | .error (.iot what) =>
        .ok (.onError (bytes "Failed to deserialize private message: " ++ cString what ++
          bytes ". Received payload: " ++ payload))
    | .error fault => .error fault
  else .ok (.onMessageArrived topic payload)

end IotClient
