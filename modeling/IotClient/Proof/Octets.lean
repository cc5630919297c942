import IotClient.Logic.Result
import IotClient.Spec.Authentication

namespace IotClient

open Logic

namespace MpinFull

/-! ## What programs ask of the octets -/

def AllWide (calls : List Routine) : Prop := ∀ routine ∈ calls, routine.Wide

def Demands {α : Type} (program : CryptoM α) (condition : Prop) : Prop :=
  ∀ calls, AllWide (last (program calls)) ↔ AllWide calls ∧ condition

namespace Demands

variable {α β : Type} {condition : α → Prop} {rest : α → CryptoM β}

protected theorem pure (value : α) : Demands (pure value : CryptoM α) True :=
  fun _ => (and_iff_left trivial).symm

theorem congr {program : CryptoM α} {first second : Prop} (demands : Demands program first) (same : first ↔ second) :
    Demands program second :=
  fun calls => (demands calls).trans (and_congr_right' same)

protected theorem ofExcept {result : Except Fault α}
    (next : ∀ value, result = .ok value → Demands (rest value) (condition value)) :
    Demands (Crypto.ofExcept result >>= rest) (∀ value, result = .ok value → condition value) := by
  intro calls
  cases result with
  | error fault => exact (and_iff_left (by simp)).symm
  | ok value => exact (next value rfl calls).trans (and_congr_right' (by simp))

protected theorem createRngOnce {random : Option Bytes} {condition : Bytes → Prop} {rest : Bytes → CryptoM β}
    (next : ∀ bytes, random = some bytes → Demands (rest bytes) (condition bytes)) :
    Demands (Crypto.createRngOnce random >>= rest) (∀ bytes, random = some bytes → condition bytes) := by
  intro calls
  cases random with
  | none => exact (and_iff_left (by simp)).symm
  | some bytes => exact (next bytes rfl calls).trans (and_congr_right' (by simp))

protected theorem call {function : String} {routine : Routine} {result : Except Int α}
    (next : ∀ value, result = .ok value → Demands (rest value) (condition value)) :
    Demands (Crypto.call function routine result >>= rest)
      (routine.Wide ∧ ∀ value, result = .ok value → condition value) := by
  intro calls
  have noted : AllWide (routine :: calls) ↔ AllWide calls ∧ routine.Wide :=
    List.forall_mem_cons.trans and_comm
  cases result with
  | error code => exact noted.trans (and_congr_right' (and_iff_left (by simp)).symm)
  | ok value =>
      have later := next value rfl (routine :: calls)
      rw [noted, and_assoc] at later
      exact later.trans (and_congr_right' (and_congr_right' (by simp)))

end Demands

variable {mpin : Mpin} {randoms : Randoms} {answers : Answers} {id : Identity}

theorem renew_demands (renewSecret : Json) : Demands (renew mpin answers renewSecret id)
    (∀ shares, answers.sharesOf renewSecret = .ok shares → g1s ≤ shares.1.length ∧ g1s ≤ shares.2.length) := by
  refine (Demands.ofExcept fun mpinId _ => Demands.ofExcept fun dta _ => Demands.ofExcept fun cs1 _ =>
    Demands.ofExcept fun cs2url _ => Demands.ofExcept fun response _ => Demands.ofExcept fun cs2 _ =>
      Demands.call fun clientSecret _ => Demands.pure _).congr ?_
  simp only [Answers.sharesOf, forall_bind_ok, forall_pure_ok]
  simp [Routine.Wide, Routine.reads]

theorem makeIdentity_demands {condition : Prop} {program : CryptoM Identity} (demands : Demands program condition)
    (make : Identity → AuthResult) : Demands (do return make (← program)) condition := by
  intro calls
  rw [← demands calls]
  show AllWide (last (EStateM.bind program (fun new => pure (make new)) calls)) ↔ _
  unfold EStateM.bind
  cases program calls <;> rfl

theorem renewal_demands {response : Json} (authenticated : answers.authenticate = .ok response)
    (make : Option Identity → AuthResult) :
    Demands (do
      match Json.find (← Crypto.ofExcept response.toObject) (bytes "renewSecret") with
      | none => pure (make none)
      | some renewSecret => do return make (some (← renew mpin answers renewSecret id)))
      (∀ renewed, answers.shares = .ok renewed → ∀ shares ∈ renewed, g1s ≤ shares.1.length ∧ g1s ≤ shares.2.length) := by
  rw [Answers.shares, authenticated, ok_bind, forall_bind_ok]
  refine Demands.ofExcept fun members _ => ?_
  cases Json.find members (bytes "renewSecret") with
  | none => exact (Demands.pure _).congr (by simp [pure, Except.pure])
  | some renewSecret =>
      refine (makeIdentity_demands (renew_demands renewSecret) _).congr ?_
      rw [Option.mapM_some, ← bind_pure_comp, forall_bind_ok]
      simp only [forall_pure_ok, Option.mem_some_iff, forall_eq']

section Widths

theorem client1_wide (mpinId token : Bytes) : (Routine.mpinClient1 mpinId token).Wide ↔ g1s ≤ token.length := by
  simp [Routine.Wide, Routine.reads]

variable (widths : mpin.Widths)
include widths

theorem client2_wide {random mpinId token y : Bytes} {pass1 : Pass1Data}
    (passed : mpin.client1 random mpinId token = .ok pass1) :
    (Routine.mpinClient2 pass1.x y pass1.sec).Wide ↔ pgs ≤ y.length := by
  obtain ⟨x, sec⟩ := widths.client1 passed
  simp [Routine.Wide, Routine.reads, x, sec]

theorem getG1Multiple_wide (mpinId : Bytes) : (Routine.mpinGetG1Multiple (mpin.hashId mpinId)).Wide := by
  simp [Routine.Wide, Routine.reads, widths.hashId]

theorem precompute_wide {token : Bytes} (long : g1s ≤ token.length) (mpinId : Bytes) :
    (Routine.mpinPrecompute token (mpin.hashId mpinId)).Wide := by
  simp [Routine.Wide, Routine.reads, widths.hashId, long]

theorem clientKey_wide {random mpinId token hashId hashId' random' u y v z t : Bytes} {pass1 : Pass1Data}
    {precomp : PrecomputeData} {multiple : Bytes × Bytes} (passed : mpin.client1 random mpinId token = .ok pass1)
    (precomputed : mpin.precompute token hashId = .ok precomp)
    (multiplied : mpin.getG1Multiple random' hashId = .ok multiple) :
    (Routine.mpinClientKey precomp.g1 precomp.g2 multiple.2 pass1.x (mpin.hashAll hashId' u y v z t) t).Wide ↔
      g1s ≤ t.length := by
  obtain ⟨g1, g2⟩ := widths.precompute precomputed
  simp [Routine.Wide, Routine.reads, g1, g2, widths.getG1Multiple multiplied, (widths.client1 passed).1, widths.hashAll]

theorem exchange_demands : Demands (exchange mpin randoms answers id) (Sufficient mpin randoms answers id) := by
  unfold exchange
  simp only [Crypto.client1, Crypto.getG1Multiple, bind_assoc]
  refine (Demands.createRngOnce fun random _ => Demands.call fun pass1 _ => Demands.ofExcept fun response _ =>
    Demands.ofExcept fun y _ => Demands.call fun v _ => Demands.createRngOnce fun random _ => Demands.call fun multiple _ =>
    Demands.ofExcept fun response _ => Demands.ofExcept fun authOTT _ => Demands.ofExcept fun response authenticated =>
    Demands.ofExcept fun t _ => Demands.call fun precomp _ => Demands.call fun key _ =>
      renewal_demands authenticated (AuthResult.mk _ key)).congr ?_
  simp only [Sufficient, Answers.y, Answers.t, forall_bind_ok, forall_pure_ok]
  -- both sides ask the same questions; they differ in what the lengths of the library's own octets answer
  refine forall₂_congr fun random _ => ?_
  rw [client1_wide]
  refine and_congr_right fun token => forall₂_congr fun pass1 passed => forall₄_congr fun response _ text _ => ?_
  rw [client2_wide widths passed]
  refine and_congr_right' (forall₄_congr fun v _ random _ => ?_)
  rw [and_iff_right (getG1Multiple_wide widths _)]
  refine forall₂_congr fun multiple multiplied => forall₄_congr fun response _ authOTT _ =>
    forall₄_congr fun response _ text _ => ?_
  rw [and_iff_right (precompute_wide widths token _)]
  exact forall₂_congr fun precomp precomputed => and_congr_left' (clientKey_wide widths passed precomputed multiplied)

end Widths

/-- With any library, an exchange reads no octet over just when the secret of the identity, `y`, `T` and the shares of a
new secret, as far as it comes to them, have the lengths that are read. -/
theorem readsWide_iff {mpin : Mpin} (widths : mpin.Widths) (randoms : Randoms) (answers : Answers) (id : Identity) :
    ReadsWide mpin randoms answers id ↔ Sufficient mpin randoms answers id := by
  have nothing : AllWide [] := fun _ impossible => absurd impossible List.not_mem_nil
  exact (exchange_demands widths []).trans (and_iff_right nothing)

def obligingMpin : Mpin where
  hashId _ := List.replicate pfs 0
  client1 _ _ clientSecret :=
    if clientSecret.length = g1s then .ok ⟨List.replicate pgs 1, clientSecret, clientSecret, []⟩ else .error (-14)
  client2 _ _ sec := .ok sec
  getG1Multiple _ hashId := .ok (hashId, List.replicate pgs 1)
  hashAll _ _ _ _ _ _ := List.replicate pfs 0
  precompute _ _ := .ok ⟨List.replicate gts 0, List.replicate gts 0⟩
  clientKey _ _ _ hm _ := .ok hm
  recombineG1 share1 _ := .ok share1

theorem obligingMpin_widths : obligingMpin.Widths where
  hashId _ := List.length_replicate
  client1 {random mpinId clientSecret pass1} passed := by
    simp only [obligingMpin] at passed
    split at passed
    · rename_i long
      cases passed
      exact ⟨List.length_replicate, long⟩
    · cases passed
  getG1Multiple multiplied := by
    cases multiplied
    exact List.length_replicate
  hashAll _ _ _ _ _ _ := List.length_replicate
  precompute precomputed := by
    cases precomputed
    exact ⟨List.length_replicate, List.length_replicate⟩

def deviceSecret : Bytes :=
  hexDecode (bytes "0411148b7955545b40300718a6e30da01313f2eaced62528aa25a44eb7b387c56e0d994386d152f0385e43b34c815e89796bca7facb75288beb0e9839435deeecd")

def pass1Answers (y : String) : Answers :=
  ⟨.ok (.object [(bytes "y", .string (bytes y))]), .error (cryptoError []), .error (cryptoError []), .error (cryptoError [])⟩

theorem readsWide_iff_device :
    obligingMpin.Widths ∧ ReadsWide obligingMpin ⟨some [], none⟩
      (pass1Answers "000102030405060708090a0b0c0d0e0f101112131415161718191a1b1c1d1e1f") ⟨[], deviceSecret, [], [], []⟩ := by
  refine ⟨obligingMpin_widths, (readsWide_iff obligingMpin_widths _ _ _).2 fun random _ => ⟨by decide +kernel, ?_⟩⟩
  intro pass1 _ y read
  refine ⟨?_, fun v _ random seeded => absurd seeded (by simp)⟩
  cases read
  decide +kernel

/-- The `y` that the server gives is not hexadecimal, and `MPIN_CLIENT_2` reads 32 bytes of an empty octet. -/
theorem not_readsWide_badHex :
    ¬ReadsWide obligingMpin ⟨some [], some []⟩ (pass1Answers "zz") ⟨[], deviceSecret, [], [], []⟩ := by
  unfold ReadsWide
  decide +kernel

end MpinFull

end IotClient
