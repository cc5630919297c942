import IotClient.Model.Http

namespace IotClient

structure AuthResult where
  clientId : Bytes
  sharedSecret : Bytes
  newIdentity : Option Identity
  deriving DecidableEq, Repr

namespace MpinFull

def random : M Bytes := do
  match ← nextRandom with
  | some bytes => return bytes
  | none => throw (cryptoError (bytes "GenerateRandomSeed() failed"))

def check {α : Type} (function : String) : Except Int α → M α
  | .ok value => pure value
  | .error code => throw (cryptoErrorCode function code)

def stringMember (element : Json) (name : String) : Except Fault Bytes := do
  (← element.index (bytes name)).toBytes

variable (platform : Platform)

def makePostRequest (url : Bytes) (data : List (Bytes × Json)) : M Json := do
  let text ← M.ofExcept (jsonToString platform.printDouble (.object data))
  Http.makeRequest platform .post url text

def makeGetRequest (url : Bytes) : M Json :=
  Http.makeRequest platform .get url []

def renewExpiredIdentity (renewSecret : Json) (expiredId : Identity) : M Identity := do
  let mpinId ← M.ofExcept (stringMember renewSecret "mpin_id")
  let dtaList ← M.ofExcept (do (← (← renewSecret.index (bytes "dta")).toArray).mapM Json.toBytes)
  let cs1 ← M.ofExcept (stringMember renewSecret "clientSecretShare")
  let cs2Url ← M.ofExcept (stringMember renewSecret "cs2url")
  let response ← makeGetRequest platform cs2Url
  let cs2 ← M.ofExcept (stringMember response "clientSecret")
  let clientSecret ← check "MPIN_RECOMBINE_G1" (platform.mpin.recombineG1 (hexDecode cs1) (hexDecode cs2))
  return { expiredId with mpinId := hexDecode mpinId, clientSecret := clientSecret, dtaList := dtaList }

def doAuth (server : Bytes) (id : Identity) : M AuthResult := do
  let mpinIdHex := hexEncode id.mpinId
  let clientId := platform.mpin.hashId id.mpinId
  let pass1 ← check "MPIN_CLIENT_1" (platform.mpin.client1 (← random) id.mpinId id.clientSecret)
  let response ← makePostRequest platform (server ++ bytes "/auth/pass1")
    [(bytes "dta", .array (id.dtaList.map .string)), (bytes "mpin_id", .string mpinIdHex),
      (bytes "U", .string (hexEncode pass1.u)), (bytes "UT", .string (hexEncode pass1.ut))]
  let y := hexDecode (← M.ofExcept (stringMember response "y"))
  let v ← check "MPIN_CLIENT_2" (platform.mpin.client2 pass1.x y pass1.sec)
  let (z, r) ← check "MPIN_GET_G1_MULTIPLE" (platform.mpin.getG1Multiple (← random) clientId)
  let response ← makePostRequest platform (server ++ bytes "/auth/pass2")
    [(bytes "mpin_id", .string mpinIdHex), (bytes "WID", .string []), (bytes "OTP", .boolean false),
      (bytes "V", .string (hexEncode v)), (bytes "Z", .string (hexEncode z))]
  let authOTT ← M.ofExcept (response.index (bytes "authOTT"))
  let response ← makePostRequest platform (server ++ bytes "/auth/authenticate")
    [(bytes "mpinResponse", .object [(bytes "authOTT", authOTT)])]
  let t := hexDecode (← M.ofExcept (stringMember response "T"))
  let hm := platform.mpin.hashAll clientId pass1.u y v z t
  let precomp ← check "MPIN_PRECOMPUTE" (platform.mpin.precompute id.clientSecret clientId)
  let sharedSecret ← check "MPIN_CLIENT_KEY" (platform.mpin.clientKey precomp r pass1.x hm t)
  match Json.find (← M.ofExcept response.toObject) (bytes "renewSecret") with
  | none => return ⟨clientId, sharedSecret, none⟩
  | some renewSecret => do
      let newIdentity ← renewExpiredIdentity platform renewSecret id
      return ⟨clientId, sharedSecret, some newIdentity⟩

/-- A `json::Exception` becomes a `JsonError`. -/
def authenticate (server : Bytes) (id : Identity) : M AuthResult :=
  tryCatch (doAuth platform server id) fun
    | .json what => throw (jsonError (cString what))
    | fault => throw fault

end MpinFull

end IotClient
