import IotClient.Logic.Program
import IotClient.Model.Crypto

namespace IotClient

open Logic

/-! ## Atomicity -/

structure Untouched (before after : Machine) : Prop where
  conf : after.impl.conf = before.impl.conf
  psk : after.mqttTls.psk = before.mqttTls.psk
  pskId : after.mqttTls.pskId = before.mqttTls.pskId
  state : after.impl.state = before.impl.state
  subscriptions : after.impl.subscriptions = before.impl.subscriptions
  log : ∃ events, after.log = events ++ before.log ∧ ∀ made, .callback made ∉ events

def Machine.cleared (m : Machine) : Machine := { m with impl := { m.impl with lastError := [] } }

def ResponseParser.fedAll (platform : Platform) : List Bytes → ResponseParser → Except Fault ResponseParser
  | [], parser => if parser.isComplete || parser.error.isSome then .ok parser else parser.feed platform []
  | data :: rest, parser =>
      if parser.isComplete || parser.error.isSome then .ok parser
      else (parser.feed platform data).bind (fedAll platform rest)

def ResponseParser.json (platform : Platform) (response : ResponseParser) : Option Json :=
  if response.httpStatus ≠ 200 then none
  else if response.data = [] then some (.object [])
  else match jsonParse platform.sign response.data with
    | .ok (.object members) => some (.object members)
    | .ok _ => some (.object [])
    | .error _ => none

def Exchange.json (platform : Platform) (exchange : Exchange) : Option Json :=
  match ResponseParser.fedAll platform exchange.reads {} with
  | .error _ => none
  | .ok response =>
      if exchange.connect.isSome || exchange.write.isSome || response.error.isSome then none
      else response.json platform

namespace MpinFull

def Randoms.of (replies : Replies) : Randoms := ⟨replies.randoms.headD none, replies.randoms.tail.headD none⟩

def Answers.of (platform : Platform) (replies : Replies) : Answers :=
  let answer (request : Nat) : Except Fault Json :=
    match (replies.exchanges[request]?).bind (Exchange.json platform) with
    | some json => .ok json
    | none => .error (.iot [])
  ⟨answer 0, answer 1, answer 2, answer 3⟩

end MpinFull

def Renewed (mpin : Mpin) (answers : MpinFull.Answers) (old new : Identity) : Prop :=
  (∃ response members renewSecret calls calls', answers.authenticate = .ok response ∧ response.toObject = .ok members ∧
      Json.find members (bytes "renewSecret") = some renewSecret ∧
        MpinFull.renew mpin answers renewSecret old calls = .ok new calls') ∧
    new.sokSendKey = old.sokSendKey ∧ new.sokRecvKey = old.sokRecvKey

/-- The keys are those of this call's exchange, with the random bytes and the answers that it gets, and the identity is
the old one or the one that the exchange renews. -/
structure AuthenticatedBy (platform : Platform) (before after : Machine) (result : AuthResult) : Prop where
  run : ∃ between,
    MpinFull.doAuth platform before.impl.conf.authServerUrl before.impl.conf.identity before.cleared = .ok result between
  exchange : outcome (MpinFull.exchange platform.mpin (.of before.replies) (.of platform before.replies)
    before.impl.conf.identity []) = .ok result
  psk : after.mqttTls.psk = result.sharedSecret
  pskId : after.mqttTls.pskId = hexEncode result.clientId
  conf : after.impl.conf = { before.impl.conf with identity := result.newIdentity.getD before.impl.conf.identity }
  renewed : ∀ new, result.newIdentity = some new →
    Renewed platform.mpin (.of platform before.replies) before.impl.conf.identity new

def Fault.caught : Fault → Bool
  | .iot _ => true
  | .json _ => true
  | _ => false

/-! ## Octets of a fixed width -/

def Routine.Wide (routine : Routine) : Prop := ∀ octet ∈ routine.reads, octet.2 ≤ octet.1.length

instance (routine : Routine) : Decidable routine.Wide := inferInstanceAs (Decidable (∀ _ ∈ _, _))

/-- The lengths that the routines set on their outputs. -/
structure Mpin.Widths (mpin : Mpin) : Prop where
  hashId : ∀ id, (mpin.hashId id).length = pfs
  client1 : ∀ {random mpinId clientSecret pass1}, mpin.client1 random mpinId clientSecret = .ok pass1 →
    pass1.x.length = pgs ∧ pass1.sec.length = g1s
  getG1Multiple : ∀ {random hashId multiple}, mpin.getG1Multiple random hashId = .ok multiple → multiple.2.length = pgs
  hashAll : ∀ hashId u y v z t, (mpin.hashAll hashId u y v z t).length = pfs
  precompute : ∀ {token hashId precomp}, mpin.precompute token hashId = .ok precomp →
    precomp.g1.length = gts ∧ precomp.g2.length = gts

namespace MpinFull

namespace Answers

def y (answers : Answers) : Except Fault Bytes := do
  return hexDecode (← stringMember (← answers.pass1) "y")

def t (answers : Answers) : Except Fault Bytes := do
  let _ ← (← answers.pass2).index (bytes "authOTT")
  return hexDecode (← stringMember (← answers.authenticate) "T")

def sharesOf (answers : Answers) (renewSecret : Json) : Except Fault (Bytes × Bytes) := do
  let _ ← stringMember renewSecret "mpin_id"
  let _ ← (do (← (← renewSecret.index (bytes "dta")).toArray).mapM Json.toBytes : Except Fault (List Bytes))
  let cs1 ← stringMember renewSecret "clientSecretShare"
  let _ ← stringMember renewSecret "cs2url"
  let cs2 ← stringMember (← answers.clientSecret) "clientSecret"
  return (hexDecode cs1, hexDecode cs2)

def shares (answers : Answers) : Except Fault (Option (Bytes × Bytes)) := do
  (Json.find (← (← answers.authenticate).toObject) (bytes "renewSecret")).mapM answers.sharesOf

end Answers

/-- The secret of the identity, `y`, `T` and the shares of a new secret are long enough, each of them where the
generator is seeded and the routines before have succeeded. -/
def Sufficient (mpin : Mpin) (randoms : Randoms) (answers : Answers) (id : Identity) : Prop :=
  let clientId := mpin.hashId id.mpinId
  ∀ random, randoms.client1 = some random → g1s ≤ id.clientSecret.length ∧
    ∀ pass1, mpin.client1 random id.mpinId id.clientSecret = .ok pass1 →
      ∀ y, answers.y = .ok y → pgs ≤ y.length ∧
        ∀ v, mpin.client2 pass1.x y pass1.sec = .ok v → ∀ random, randoms.getG1Multiple = some random →
          ∀ multiple, mpin.getG1Multiple random clientId = .ok multiple → ∀ t, answers.t = .ok t →
            ∀ precomp, mpin.precompute id.clientSecret clientId = .ok precomp → g1s ≤ t.length ∧
              ∀ key, mpin.clientKey precomp multiple.2 pass1.x (mpin.hashAll clientId pass1.u y v multiple.1 t) t = .ok key →
                ∀ renewed, answers.shares = .ok renewed →
                  ∀ shares ∈ renewed, g1s ≤ shares.1.length ∧ g1s ≤ shares.2.length

def ReadsWide (mpin : Mpin) (randoms : Randoms) (answers : Answers) (id : Identity) : Prop :=
  ∀ routine ∈ last (exchange mpin randoms answers id []), routine.Wide

end MpinFull

end IotClient
