import Mathlib.Algebra.Field.ZMod
import Mathlib.GroupTheory.OrderOfElement
import IotClient.Model.Keygen

namespace IotClient

/-! ## The laws that are assumed of the library -/

variable {G1 G2 GT : Type} [AddCommGroup G1] [AddCommGroup G2] [AddCommGroup GT]

/-- The groups have the prime order `order`, hashing gives no identity, octets stand for the points other than the
identity, and decryption inverts encryption. -/
structure Amcl.Lawful (amcl : Amcl G1 G2 GT) (order : Nat) : Prop where
  prime : order.Prime
  order_g1 : ∀ point : G1, order • point = 0
  order_g2 : ∀ point : G2, order • point = 0
  ecpMapit_ne_zero : ∀ hash, amcl.ecpMapit hash ≠ 0
  ecp2Mapit_ne_zero : ∀ hash, amcl.ecp2Mapit hash ≠ 0
  ecpFromOctet : ∀ point, point ≠ 0 → amcl.ecpFromOctet (amcl.ecpToOctet point) = some point
  ecp2FromOctet : ∀ point, point ≠ 0 → amcl.ecp2FromOctet (amcl.ecp2ToOctet point) = some point
  ecpToOctet_length : ∀ point, (amcl.ecpToOctet point).length = g1s
  ecp2ToOctet_length : ∀ point, (amcl.ecp2ToOctet point).length = g2s
  gcm : ∀ key iv header plaintext,
    amcl.gcmDecrypt key iv header (amcl.gcmEncrypt key iv header plaintext).1 =
      (plaintext, (amcl.gcmEncrypt key iv header plaintext).2)

structure MasterSecret.Proper (masterSecret : MasterSecret) (order : Nat) : Prop where
  miracl_length : masterSecret.miracl.length = pgs
  customer_length : masterSecret.customer.length = pgs
  miracl : ¬order ∣ bigFromBytes masterSecret.miracl
  customer : ¬order ∣ bigFromBytes masterSecret.customer
  sum : ¬order ∣ bigFromBytes masterSecret.miracl + bigFromBytes masterSecret.customer

theorem nsmul_ne_zero_of_not_dvd {G : Type} [AddCommGroup G] {order scalar : Nat} (prime : order.Prime) {point : G}
    (annihilates : order • point = 0) (nonzero : point ≠ 0) (coprime : ¬order ∣ scalar) : scalar • point ≠ 0 := by
  have : Fact order.Prime := ⟨prime⟩
  rw [Ne, ← addOrderOf_dvd_iff_nsmul_eq_zero, addOrderOf_eq_prime annihilates nonzero]
  exact coprime

def MasterSecret.total (masterSecret : MasterSecret) : Nat :=
  bigFromBytes masterSecret.miracl + bigFromBytes masterSecret.customer

def Amcl.sharedKey (amcl : Amcl G1 G2 GT) (masterSecret : MasterSecret) (userIdFrom userIdTo : Bytes) : Bytes :=
  amcl.aesKey (masterSecret.total •
    amcl.pairing (amcl.ecp2Mapit (amcl.sokHashId userIdTo)) (amcl.ecpMapit (amcl.sokHashId userIdFrom)))

namespace Amcl.Lawful

variable {amcl : Amcl G1 G2 GT} {order : Nat} (lawful : amcl.Lawful order)
include lawful

theorem nsmul_ecpMapit_ne_zero {scalar : Nat} (coprime : ¬order ∣ scalar) (hash : Bytes) :
    scalar • amcl.ecpMapit hash ≠ 0 :=
  nsmul_ne_zero_of_not_dvd lawful.prime (lawful.order_g1 _) (lawful.ecpMapit_ne_zero hash) coprime

theorem nsmul_ecp2Mapit_ne_zero {scalar : Nat} (coprime : ¬order ∣ scalar) (hash : Bytes) :
    scalar • amcl.ecp2Mapit hash ≠ 0 :=
  nsmul_ne_zero_of_not_dvd lawful.prime (lawful.order_g2 _) (lawful.ecp2Mapit_ne_zero hash) coprime

variable {masterSecret : MasterSecret} (proper : masterSecret.Proper order)
include proper

theorem sokSendKey_eq (userId : Bytes) : (sokKeygen amcl masterSecret userId).sokSendKey =
    amcl.ecpToOctet (masterSecret.total • amcl.ecpMapit (amcl.sokHashId userId)) := by
  simp [sokKeygen, sokGetG1Secret, sokRecombineG1, lawful.ecpFromOctet _ (lawful.nsmul_ecpMapit_ne_zero proper.miracl _),
    lawful.ecpFromOctet _ (lawful.nsmul_ecpMapit_ne_zero proper.customer _), MasterSecret.total, add_nsmul, Except.toOption]

theorem sokRecvKey_eq (userId : Bytes) : (sokKeygen amcl masterSecret userId).sokRecvKey =
    amcl.ecp2ToOctet (masterSecret.total • amcl.ecp2Mapit (amcl.sokHashId userId)) := by
  simp [sokKeygen, sokGetG2Secret, sokRecombineG2, lawful.ecp2FromOctet _ (lawful.nsmul_ecp2Mapit_ne_zero proper.miracl _),
    lawful.ecp2FromOctet _ (lawful.nsmul_ecp2Mapit_ne_zero proper.customer _), MasterSecret.total, add_nsmul, Except.toOption]

theorem sokPair1_eq (userIdFrom userIdTo : Bytes) :
    amcl.sokPair1 (sokKeygen amcl masterSecret userIdFrom).sokSendKey userIdTo =
      .ok (amcl.sharedKey masterSecret userIdFrom userIdTo) := by
  have point := lawful.ecpFromOctet _ (lawful.nsmul_ecpMapit_ne_zero proper.sum (amcl.sokHashId userIdFrom))
  rw [lawful.sokSendKey_eq proper, MasterSecret.total]
  simp only [sokPair1, point, map_nsmul]
  rfl

theorem sokPair2_eq (userIdFrom userIdTo : Bytes) :
    amcl.sokPair2 (sokKeygen amcl masterSecret userIdTo).sokRecvKey userIdFrom =
      .ok (amcl.sharedKey masterSecret userIdFrom userIdTo) := by
  have point := lawful.ecp2FromOctet _ (lawful.nsmul_ecp2Mapit_ne_zero proper.sum (amcl.sokHashId userIdTo))
  rw [lawful.sokRecvKey_eq proper, MasterSecret.total]
  simp only [sokPair2, point, map_nsmul, AddMonoidHom.nsmul_apply]
  rfl

end Amcl.Lawful

def TagDiffers (sok : Sok) (data : SokData) (sokRecvKey userIdFrom : Bytes) : Prop :=
  ∀ key, sok.pair2 sokRecvKey userIdFrom = .ok key → (sok.decrypt key data.iv userIdFrom data.ciphertext).2 ≠ data.tag

theorem sokDecrypt_tagDiffers {sok : Sok} {data : SokData} {sokRecvKey userIdFrom : Bytes}
    (differs : TagDiffers sok data sokRecvKey userIdFrom) : ∃ what, sokDecrypt sok data sokRecvKey userIdFrom = .error (.iot what) := by
  unfold sokDecrypt
  split
  · exact ⟨_, rfl⟩
  · cases paired : sok.pair2 sokRecvKey userIdFrom with
    | error code => exact ⟨_, rfl⟩
    | ok key =>
        have mismatch := (differs key paired).symm
        simp only [ne_eq, mismatch, not_false_eq_true, if_true]
        exact ⟨_, rfl⟩

/-- Any two users with keys from the same master secret can talk, and what has been tampered with is refused. -/
theorem sokKeygen_talk {amcl : Amcl G1 G2 GT} {order : Nat} (lawful : amcl.Lawful order) (masterSecret : MasterSecret)
    (proper : masterSecret.Proper order) (userIdFrom userIdTo message : Bytes) (iv : Iv) :
    (∃ data, sokEncrypt amcl.sok (some iv) message (sokKeygen amcl masterSecret userIdFrom).sokSendKey userIdFrom userIdTo =
        .ok data ∧
      sokDecrypt amcl.sok data (sokKeygen amcl masterSecret userIdTo).sokRecvKey userIdFrom = .ok message) ∧
    ∀ data sender, TagDiffers amcl.sok data (sokKeygen amcl masterSecret userIdTo).sokRecvKey sender →
      ∃ what, sokDecrypt amcl.sok data (sokKeygen amcl masterSecret userIdTo).sokRecvKey sender = .error (.iot what) := by
  have send : (sokKeygen amcl masterSecret userIdFrom).sokSendKey.length = g1s := by
    rw [lawful.sokSendKey_eq proper, lawful.ecpToOctet_length]
  have recv : (sokKeygen amcl masterSecret userIdTo).sokRecvKey.length = g2s := by
    rw [lawful.sokRecvKey_eq proper, lawful.ecp2ToOctet_length]
  have pair1 : amcl.sok.pair1 _ _ = _ := lawful.sokPair1_eq proper userIdFrom userIdTo
  have pair2 : amcl.sok.pair2 _ _ = _ := lawful.sokPair2_eq proper userIdFrom userIdTo
  let sealed := amcl.gcmEncrypt (amcl.sharedKey masterSecret userIdFrom userIdTo) iv.val userIdFrom message
  refine ⟨⟨⟨iv.val, sealed.1, sealed.2⟩, ?_, ?_⟩, fun data sender differs => sokDecrypt_tagDiffers differs⟩
  · rw [sokEncrypt, if_neg (not_not_intro send), pair1]
    rfl
  · rw [sokDecrypt, if_neg (not_not_intro recv), pair2]
    simp [Amcl.sok, sealed, lawful.gcm]

def plainAmcl : Amcl (ZMod 3) (ZMod 3) (ZMod 3) where
  hash256 text := text
  ecpMapit hash := if hash.headD 0 % 2 = 0 then 1 else 2
  ecp2Mapit hash := if hash.headD 0 % 2 = 0 then 2 else 1
  ecpToOctet point := List.replicate g1s (UInt8.ofNat point.val)
  ecpFromOctet octet := octet.head?.map fun byte => byte.toNat
  ecp2ToOctet point := List.replicate g2s (UInt8.ofNat point.val)
  ecp2FromOctet octet := octet.head?.map fun byte => byte.toNat
  pairing := AddMonoidHom.mul
  traceOctet value := [UInt8.ofNat value.val]
  gcmEncrypt key _ _ plaintext := (plaintext.map (· + key.headD 0), List.replicate ptag (key.headD 0))
  gcmDecrypt key _ _ ciphertext := (ciphertext.map (· - key.headD 0), List.replicate ptag (key.headD 0))
  gcmEncrypt_length _ _ _ _ := List.length_map _
  gcmEncrypt_tag _ _ _ _ := List.length_replicate
  gcmDecrypt_length _ _ _ _ := List.length_map _
  gcmDecrypt_tag _ _ _ _ := List.length_replicate

theorem plainAmcl_lawful : plainAmcl.Lawful 3 where
  prime := by decide
  order_g1 := by decide
  order_g2 := by decide
  ecpMapit_ne_zero hash := by
    simp only [plainAmcl]
    split <;> decide
  ecp2Mapit_ne_zero hash := by
    simp only [plainAmcl]
    split <;> decide
  ecpFromOctet := by decide
  ecp2FromOctet := by decide
  ecpToOctet_length _ := List.length_replicate
  ecp2ToOctet_length _ := List.length_replicate
  gcm key _ _ _ := by
    have undone : ((· - key.headD 0) ∘ (· + key.headD 0) : UInt8 → UInt8) = id :=
      funext fun byte => UInt8.add_sub_cancel byte _
    simp only [plainAmcl, List.map_map, undone, List.map_id]

def plainSecret : MasterSecret := ⟨List.replicate 31 0 ++ [1], List.replicate 31 0 ++ [1]⟩

theorem sokKeygen_talk_plain :
    (sokKeygen plainAmcl plainSecret (bytes "alice")).sokSendKey ≠
        (sokKeygen plainAmcl plainSecret (bytes "bob")).sokSendKey ∧
      plainAmcl.sharedKey plainSecret (bytes "alice") (bytes "bob") ≠
        plainAmcl.sharedKey plainSecret (bytes "bob") (bytes "bob") ∧
      ∃ data, sokEncrypt plainAmcl.sok (some ⟨List.replicate piv 0, List.length_replicate⟩) (bytes "hi")
          (sokKeygen plainAmcl plainSecret (bytes "alice")).sokSendKey (bytes "alice") (bytes "bob") = .ok data ∧
        sokDecrypt plainAmcl.sok data (sokKeygen plainAmcl plainSecret (bytes "bob")).sokRecvKey (bytes "alice") =
          .ok (bytes "hi") :=
  ⟨by decide +kernel, by decide +kernel,
    (sokKeygen_talk plainAmcl_lawful plainSecret ⟨by decide, by decide, by decide, by decide, by decide⟩ _ _ _ _).1⟩

end IotClient
