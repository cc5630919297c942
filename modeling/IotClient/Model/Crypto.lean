import IotClient.Model.Authentication

namespace IotClient

/-! ## Octets -/

def gts : Nat := 12 * pfs

inductive Routine where
  | mpinClient1 (clientId token : Bytes)
  | mpinClient2 (x y sec : Bytes)
  | mpinGetG1Multiple (g : Bytes)
  | mpinPrecompute (token hcid : Bytes)
  | mpinClientKey (g1 g2 r x h wCid : Bytes)
  | mpinRecombineG1 (r1 r2 : Bytes)
  deriving DecidableEq, Repr

/-- The octets of which a fixed number of bytes is read, whatever their length: `BIG_fromBytes` reads `PGS` or `PFS`,
`ECP_fromOctet` and `FP12_fromOctet` read a point and a pairing value. -/
def Routine.reads : Routine → List (Bytes × Nat)
  | .mpinClient1 _ token => [(token, g1s)]
  | .mpinClient2 x y sec => [(sec, g1s), (x, pgs), (y, pgs)]
  | .mpinGetG1Multiple g => [(g, pfs)]
  | .mpinPrecompute token hcid => [(token, g1s), (hcid, pfs)]
  | .mpinClientKey g1 g2 r x h wCid => [(g1, gts), (g2, gts), (r, pgs), (x, pgs), (h, pfs), (wCid, g1s)]
  | .mpinRecombineG1 r1 r2 => [(r1, g1s), (r2, g1s)]

/-! ## `Crypto` -/

abbrev CryptoM := EStateM Fault (List Routine)

namespace Crypto

def ofExcept {α : Type} : Except Fault α → CryptoM α
  | .ok value => pure value
  | .error fault => throw fault

def createRngOnce : Option Bytes → CryptoM Bytes
  | some bytes => pure bytes
  | none => throw (cryptoError (bytes "GenerateRandomSeed() failed"))

def call {α : Type} (function : String) (routine : Routine) (result : Except Int α) : CryptoM α := do
  modify (routine :: ·)
  match result with
  | .ok value => pure value
  | .error code => throw (cryptoErrorCode function code)

variable (mpin : Mpin)

def client1 (random : Option Bytes) (mpinId clientSecret : Bytes) : CryptoM Pass1Data := do
  let random ← createRngOnce random
  call "MPIN_CLIENT_1" (.mpinClient1 mpinId clientSecret) (mpin.client1 random mpinId clientSecret)

def client2 (x y sec : Bytes) : CryptoM Bytes :=
  call "MPIN_CLIENT_2" (.mpinClient2 x y sec) (mpin.client2 x y sec)

def getG1Multiple (random : Option Bytes) (hashId : Bytes) : CryptoM (Bytes × Bytes) := do
  let random ← createRngOnce random
  call "MPIN_GET_G1_MULTIPLE" (.mpinGetG1Multiple hashId) (mpin.getG1Multiple random hashId)

def precompute (token hashId : Bytes) : CryptoM PrecomputeData :=
  call "MPIN_PRECOMPUTE" (.mpinPrecompute token hashId) (mpin.precompute token hashId)

def sharedKey (precomp : PrecomputeData) (r x hm t : Bytes) : CryptoM Bytes :=
  call "MPIN_CLIENT_KEY" (.mpinClientKey precomp.g1 precomp.g2 r x hm t) (mpin.clientKey precomp r x hm t)

def recombineClientSecret (share1 share2 : Bytes) : CryptoM Bytes :=
  call "MPIN_RECOMBINE_G1" (.mpinRecombineG1 share1 share2) (mpin.recombineG1 share1 share2)

end Crypto

/-! ## One exchange

`DoAuth` by what its requests give and by the random bytes, with the calls of `Crypto` in its order. -/

namespace MpinFull

structure Answers where
  pass1 : Except Fault Json
  pass2 : Except Fault Json
  authenticate : Except Fault Json
  clientSecret : Except Fault Json

structure Randoms where
  client1 : Option Bytes
  getG1Multiple : Option Bytes

variable (mpin : Mpin)

def renew (answers : Answers) (renewSecret : Json) (expiredId : Identity) : CryptoM Identity := do
  let mpinId ← Crypto.ofExcept (stringMember renewSecret "mpin_id")
  let dtaList ← Crypto.ofExcept (do (← (← renewSecret.index (bytes "dta")).toArray).mapM Json.toBytes)
  let cs1 ← Crypto.ofExcept (stringMember renewSecret "clientSecretShare")
  let _ ← Crypto.ofExcept (stringMember renewSecret "cs2url")
  let response ← Crypto.ofExcept answers.clientSecret
  let cs2 ← Crypto.ofExcept (stringMember response "clientSecret")
  let clientSecret ← Crypto.recombineClientSecret mpin (hexDecode cs1) (hexDecode cs2)
  return { expiredId with mpinId := hexDecode mpinId, clientSecret := clientSecret, dtaList := dtaList }

def exchange (randoms : Randoms) (answers : Answers) (id : Identity) : CryptoM AuthResult := do
  let clientId := mpin.hashId id.mpinId
  let pass1 ← Crypto.client1 mpin randoms.client1 id.mpinId id.clientSecret
  let response ← Crypto.ofExcept answers.pass1
  let y := hexDecode (← Crypto.ofExcept (stringMember response "y"))
  let v ← Crypto.client2 mpin pass1.x y pass1.sec
  let (z, r) ← Crypto.getG1Multiple mpin randoms.getG1Multiple clientId
  let response ← Crypto.ofExcept answers.pass2
  let _ ← Crypto.ofExcept (response.index (bytes "authOTT"))
  let response ← Crypto.ofExcept answers.authenticate
  let t := hexDecode (← Crypto.ofExcept (stringMember response "T"))
  let hm := mpin.hashAll clientId pass1.u y v z t
  let precomp ← Crypto.precompute mpin id.clientSecret clientId
  let sharedSecret ← Crypto.sharedKey mpin precomp r pass1.x hm t
  match Json.find (← Crypto.ofExcept response.toObject) (bytes "renewSecret") with
  | none => return ⟨clientId, sharedSecret, none⟩
  | some renewSecret => do
      let newIdentity ← renew mpin answers renewSecret id
      return ⟨clientId, sharedSecret, some newIdentity⟩

end MpinFull

end IotClient
