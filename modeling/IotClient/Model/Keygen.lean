import Mathlib.Algebra.Group.Hom.Instances
import IotClient.Model.PrivateMessage

namespace IotClient

/-! ## What `sok.c` is built on -/

/-- The routines of the library on curve points, pairing values and octets. The point at infinity has no octets: what
`ECP_toOctet` and `ECP2_toOctet` give for it is not determined. -/
structure Amcl (G1 G2 GT : Type) [AddCommGroup G1] [AddCommGroup G2] [AddCommGroup GT] where
  hash256 : Bytes → Bytes
  ecpMapit : Bytes → G1
  ecp2Mapit : Bytes → G2
  ecpToOctet : G1 → Bytes
  ecpFromOctet : Bytes → Option G1
  ecp2ToOctet : G2 → Bytes
  ecp2FromOctet : Bytes → Option G2
  /-- `PAIR_ate` and `PAIR_fexp`; the group of pairing values is written additively. -/
  pairing : G2 →+ G1 →+ GT
  /-- The four coordinates of `FP12_trace`. -/
  traceOctet : GT → Bytes
  gcmEncrypt : (key iv header plaintext : Bytes) → Bytes × Bytes
  gcmDecrypt : (key iv header ciphertext : Bytes) → Bytes × Bytes
  gcmEncrypt_length : ∀ key iv header plaintext, (gcmEncrypt key iv header plaintext).1.length = plaintext.length
  gcmEncrypt_tag : ∀ key iv header plaintext, (gcmEncrypt key iv header plaintext).2.length = ptag
  gcmDecrypt_length : ∀ key iv header ciphertext, (gcmDecrypt key iv header ciphertext).1.length = ciphertext.length
  gcmDecrypt_tag : ∀ key iv header ciphertext, (gcmDecrypt key iv header ciphertext).2.length = ptag

def bigFromBytes (octet : Bytes) : Nat :=
  octet.foldl (fun big byte => big * 256 + byte.toNat) 0

def sokInvalidPoint : Int := -14

namespace Amcl

variable {G1 G2 GT : Type} [AddCommGroup G1] [AddCommGroup G2] [AddCommGroup GT] (amcl : Amcl G1 G2 GT)

/-! ## The routines of `sok.c`, without time permits -/

def sokHashId (id : Bytes) : Bytes := amcl.hash256 id

def sokGetG1Secret (secret hcid : Bytes) : Bytes :=
  amcl.ecpToOctet (bigFromBytes secret • amcl.ecpMapit hcid)

def sokGetG2Secret (secret hcid : Bytes) : Bytes :=
  amcl.ecp2ToOctet (bigFromBytes secret • amcl.ecp2Mapit hcid)

def sokRecombineG1 (r1 r2 : Bytes) : Except Int Bytes :=
  match amcl.ecpFromOctet r1, amcl.ecpFromOctet r2 with
  | some p, some t => .ok (amcl.ecpToOctet (p + t))
  | _, _ => .error sokInvalidPoint

def sokRecombineG2 (w1 w2 : Bytes) : Except Int Bytes :=
  match amcl.ecp2FromOctet w1, amcl.ecp2FromOctet w2 with
  | some q, some t => .ok (amcl.ecp2ToOctet (q + t))
  | _, _ => .error sokInvalidPoint

def aesKey (g : GT) : Bytes :=
  (amcl.hash256 (amcl.traceOctet g)).take pas

def sokPair1 (aKeyG1 bId : Bytes) : Except Int Bytes :=
  let bG2 := amcl.ecp2Mapit (amcl.sokHashId bId)
  match amcl.ecpFromOctet aKeyG1 with
  | some sAG1 => .ok (amcl.aesKey (amcl.pairing bG2 sAG1))
  | none => .error sokInvalidPoint

def sokPair2 (bKeyG2 aId : Bytes) : Except Int Bytes :=
  let aG1 := amcl.ecpMapit (amcl.sokHashId aId)
  match amcl.ecp2FromOctet bKeyG2 with
  | some sBG2 => .ok (amcl.aesKey (amcl.pairing sBG2 aG1))
  | none => .error sokInvalidPoint

def sok : Sok where
  pair1 := amcl.sokPair1
  pair2 := amcl.sokPair2
  encrypt := amcl.gcmEncrypt
  decrypt := amcl.gcmDecrypt
  encrypt_length := amcl.gcmEncrypt_length
  encrypt_tag := amcl.gcmEncrypt_tag
  decrypt_length := amcl.gcmDecrypt_length
  decrypt_tag := amcl.gcmDecrypt_tag

end Amcl

/-! ## `sok_keygen` -/

structure MasterSecret where
  miracl : Bytes
  customer : Bytes
  deriving DecidableEq, Repr

structure Keys where
  sokSendKey : Bytes
  sokRecvKey : Bytes
  deriving DecidableEq, Repr

/-- `main` for a user id, without the printing. After an error it prints the octet as it is, which is empty. -/
def sokKeygen {G1 G2 GT : Type} [AddCommGroup G1] [AddCommGroup G2] [AddCommGroup GT] (amcl : Amcl G1 G2 GT)
    (masterSecret : MasterSecret) (userId : Bytes) : Keys :=
  let hcid := amcl.sokHashId userId
  let g1Secret1 := amcl.sokGetG1Secret masterSecret.miracl hcid
  let g1Secret2 := amcl.sokGetG1Secret masterSecret.customer hcid
  let resKeyG1 := (amcl.sokRecombineG1 g1Secret1 g1Secret2).toOption.getD []
  let g2Secret1 := amcl.sokGetG2Secret masterSecret.miracl hcid
  let g2Secret2 := amcl.sokGetG2Secret masterSecret.customer hcid
  let resKeyG2 := (amcl.sokRecombineG2 g2Secret1 g2Secret2).toOption.getD []
  ⟨resKeyG1, resKeyG2⟩

end IotClient
