import Mathlib.Data.ZMod.Basic
import SauronID.Lib.Encoding
import SauronID.Model.Ring

/-!
# Pseudonyms of an agent in its rings

An agent with the master secret `a` acts in a ring under a key of its own for that ring,
`ring_pseudonym.rs`. The agent and the operator share the point `a·T = t·A`; from it and the
id of the ring both derive an offset, the agent adds it to its secret and the operator to the
public key. `subscribe` stores the point of the operator, and the agent signs for it with its
own secret: `pseudonym_signs`. What the offset is derived from, and what not, decides which
of the stored points can be told to be of one agent.
-/

namespace SauronID.Ring

open Conc Text

/-- A key pair that signs. -/
structure Identity (S P : Type) where
  secret : S
  publicKey : P

namespace Ristretto

variable {S P : Type} [CommRing S] [AddCommGroup P] [Module S P] (K : Ristretto S P)

/-- `Identity::from_scalar` -/
def identityOf (secret : S) : Identity S P := ⟨secret, K.publicKey secret⟩

/-! ## Derivation -/

def sharedSecretAgent (agentMasterSecret : S) (operatorPubT : P) : P :=
  agentMasterSecret • operatorPubT

def sharedSecretOperator (operatorTrapdoorT : S) (agentMasterPubA : P) : P :=
  operatorTrapdoorT • agentMasterPubA

/-- What `ring_offset` hashes. -/
def offsetInput (shared : P) (ringId : String) : Bytes :=
  utf8 "SAURON_RING_PSEUDONYM:" ++ K.compress shared ++ utf8 "|" ++ utf8 ringId

def ringOffset (shared : P) (ringId : String) : S := K.scalarFromHash (K.offsetInput shared ringId)

def agentPerRingSecret (agentMasterSecret : S) (shared : P) (ringId : String) : S :=
  agentMasterSecret + K.ringOffset shared ringId

def perRingPublic (agentMasterPubA shared : P) (ringId : String) : P :=
  agentMasterPubA + K.ringOffset shared ringId • K.basepoint

def perRingKeyImage (perRingSecret : S) (perRingPublic : P) : P :=
  perRingSecret • K.hashToPoint perRingPublic

def agentRingIdentity (agentMasterSecret : S) (shared : P) (ringId : String) : Identity S P :=
  K.identityOf (K.agentPerRingSecret agentMasterSecret shared ringId)

/-! ## Membership -/

/-- `parse_point_hex` -/
def parsePointHex (s : String) : Except String P :=
  match hexDecode (trim s) with
  | none => .error ("point hex: " ++ hexError (trim s))
  | some bytes =>
    if bytes.length ≠ 32 then .error "point must be 32 bytes"
    else
      match K.decompress bytes with
      | none => .error "not a valid ristretto point"
      | some p => .ok p

/-- `derive_member_point_hex` -/
def deriveMemberPointHex (trapdoor : S) (agentMasterPub : P) (ringId : String) : String :=
  let shared := sharedSecretOperator trapdoor agentMasterPub
  hexEncode (K.compress (K.perRingPublic agentMasterPub shared ringId))

section Server

variable {F : Type} [Float64 F]

/-- `insert_member`: whether a row was added. -/
def insertMember (tenantId ringId memberPointHex : String) : Srv F String Bool := do
  let n ← (Srv.execute (.insertMember ⟨tenantId, ringId, memberPointHex⟩)).mapErr
    fun e => "insert member: " ++ e
  return decide (n > 0)

/-- `delete_member`: whether a row was removed. -/
def deleteMember (tenantId ringId memberPointHex : String) : Srv F String Bool := do
  let n ← (Srv.execute (.deleteMember ⟨tenantId, ringId, memberPointHex⟩)).mapErr
    fun e => "delete member: " ++ e
  return decide (n > 0)

/-- `subscribe`: the stored point. -/
def subscribe (tenantId : String) (trapdoor : S) (agentMasterPubHex ringId : String) :
    Srv F String String := do
  let a ← .ofExcept (K.parsePointHex agentMasterPubHex)
  let pointHex := K.deriveMemberPointHex trapdoor a ringId
  let _ ← insertMember tenantId ringId pointHex
  return pointHex

/-- `revoke`: whether the agent was a member. -/
def revoke (tenantId : String) (trapdoor : S) (agentMasterPubHex ringId : String) :
    Srv F String Bool := do
  let a ← .ofExcept (K.parsePointHex agentMasterPubHex)
  deleteMember tenantId ringId (K.deriveMemberPointHex trapdoor a ringId)

variable {K} {tenantId ringId : String} {s : World F}

theorem insertMember_brings {memberPointHex : String} :
    (insertMember tenantId ringId memberPointHex : Srv F String Bool).Brings s fun _ s' =>
      ⟨tenantId, ringId, memberPointHex⟩ ∈ s'.db.ringMembers := by
  refine Srv.brings_execute.mapErr.andThen fun n s' h => Prog.brings_pure ?_
  obtain ⟨hn, rfl⟩ := h
  rcases World.afterWrite_cases s (.insertMember ⟨tenantId, ringId, memberPointHex⟩) with
    ⟨e, herr, -⟩ | ⟨db, m, -, happly, -, hdb⟩
  · cases herr.symm.trans hn
  rw [hdb]
  simp only [Write.apply] at happly
  split at happly
  · next hmem =>
    cases happly
    exact hmem
  · cases happly
    simp

/-- **Subscription.** It returns the point derived from the master key, and leaves it among the
members of the ring. -/
theorem subscribe_brings {trapdoor : S} {agentMasterPubHex : String} :
    (K.subscribe tenantId trapdoor agentMasterPubHex ringId).Brings s fun pointHex s' =>
      (∃ a, K.parsePointHex agentMasterPubHex = .ok a ∧
        pointHex = K.deriveMemberPointHex trapdoor a ringId) ∧
      ⟨tenantId, ringId, pointHex⟩ ∈ s'.db.ringMembers := by
  refine .ofExcept fun a ha => ?_
  refine insertMember_brings.andThen fun _ s' hmem => ?_
  exact Prog.brings_pure ⟨⟨a, ha, rfl⟩, hmem⟩

end Server

/-! ## Both sides derive one key -/

variable {K}

/-- The compressed form of a point is read back. -/
theorem parsePointHex_hexEncode (hlen : ∀ p, (K.compress p).length = 32) (p : P) :
    K.parsePointHex (hexEncode (K.compress p)) = .ok p := by
  simp [parsePointHex, trim_hexEncode, hexDecode_hexEncode, hlen, K.decompress_compress]

theorem sharedSecretAgent_eq (a t : S) :
    sharedSecretAgent a (K.publicKey t) = sharedSecretOperator t (K.publicKey a) :=
  smul_comm a t K.basepoint

/-- The public key of the derived secret is derived from the public key. -/
theorem publicKey_agentPerRingSecret (a : S) (shared : P) (ringId : String) :
    K.publicKey (K.agentPerRingSecret a shared ringId) =
      K.perRingPublic (K.publicKey a) shared ringId :=
  add_smul _ _ _

/-- What the operator stores for an agent is the public key of what the agent signs with. -/
theorem deriveMemberPointHex_eq (t a : S) (ringId : String) :
    K.deriveMemberPointHex t (K.publicKey a) ringId = hexEncode (K.compress
      (K.agentRingIdentity a (sharedSecretAgent a (K.publicKey t)) ringId).publicKey) := by
  rw [deriveMemberPointHex, ← sharedSecretAgent_eq, ← publicKey_agentPerRingSecret]
  rfl

/-! ## Which points can be told apart -/

variable {ringId₁ ringId₂ : String}

/-- The input of the offset tells rings apart. -/
theorem offsetInput_inj {shared : P} :
    K.offsetInput shared ringId₁ = K.offsetInput shared ringId₂ ↔ ringId₁ = ringId₂ := by
  constructor
  · intro h
    exact utf8_injective (List.append_cancel_left h)
  · rintro rfl
    rfl

/-- Points of one agent differ as far as their offsets do. -/
theorem deriveMemberPointHex_inj (hbase : ∀ c d : S, c • K.basepoint = d • K.basepoint → c = d)
    {t : S} {A : P} : K.deriveMemberPointHex t A ringId₁ = K.deriveMemberPointHex t A ringId₂ ↔
      K.ringOffset (sharedSecretOperator t A) ringId₁ =
        K.ringOffset (sharedSecretOperator t A) ringId₂ := by
  constructor
  · intro h
    have hcompress : K.compress _ = K.compress _ := hexEncode_injective h
    have hpoint := congrArg K.decompress hcompress
    rw [K.decompress_compress, K.decompress_compress] at hpoint
    exact hbase _ _ (add_left_cancel (Option.some.inj hpoint))
  · intro h
    simp only [deriveMemberPointHex, perRingPublic, h]

end Ristretto

/-- **Pseudonyms in two rings.** The points that two subscriptions of an agent store, and the
inputs of the hash that they come from, differ exactly when the ids of the rings do: neither
depends on the tenant. The hash is assumed to tell the two inputs apart if they differ, and
the multiples of the base point to be distinct. -/
theorem subscriptions_apart_iff {F : Type} [Float64 F] {S P : Type} [CommRing S] [AddCommGroup P]
    [Module S P] (K : Ristretto S P)
    (hbase : ∀ c d : S, c • K.basepoint = d • K.basepoint → c = d) (trapdoor : S)
    {agentMasterPubHex : String} {A : P} (hpub : K.parsePointHex agentMasterPubHex = .ok A)
    (tenant₁ ringId₁ tenant₂ ringId₂ : String)
    (hhash : let input := K.offsetInput (Ristretto.sharedSecretOperator trapdoor A)
      K.scalarFromHash (input ringId₁) = K.scalarFromHash (input ringId₂) →
        input ringId₁ = input ringId₂)
    {s₁ s₁' s₂ s₂' : World F} {point₁ point₂ : String}
    (h₁ : (K.subscribe tenant₁ trapdoor agentMasterPubHex ringId₁).exec s₁ = (.ok point₁, s₁'))
    (h₂ : (K.subscribe tenant₂ trapdoor agentMasterPubHex ringId₂).exec s₂ = (.ok point₂, s₂')) :
    (⟨tenant₁, ringId₁, point₁⟩ ∈ s₁'.db.ringMembers ∧
      ⟨tenant₂, ringId₂, point₂⟩ ∈ s₂'.db.ringMembers) ∧
    ((K.offsetInput (Ristretto.sharedSecretOperator trapdoor A) ringId₁ ≠
        K.offsetInput (Ristretto.sharedSecretOperator trapdoor A) ringId₂ ∧ point₁ ≠ point₂) ↔
      ringId₁ ≠ ringId₂) := by
  obtain ⟨⟨A₁, hA₁, rfl⟩, hmem₁⟩ := Ristretto.subscribe_brings _ _ h₁
  obtain ⟨⟨A₂, hA₂, rfl⟩, hmem₂⟩ := Ristretto.subscribe_brings _ _ h₂
  cases hpub.symm.trans hA₁
  cases hpub.symm.trans hA₂
  refine ⟨⟨hmem₁, hmem₂⟩, ?_⟩
  rw [Ne, Ne, Ristretto.offsetInput_inj, Ristretto.deriveMemberPointHex_inj hbase]
  constructor
  · intro h
    exact h.1
  · intro hne
    refine ⟨hne, fun hoffset => hne ?_⟩
    exact Ristretto.offsetInput_inj.1 (hhash hoffset)

/-! ## A small group -/

/-- The sum of the bytes, in one byte. -/
def byteSum (bytes : Bytes) : UInt8 := bytes.foldl (· + ·) 0

/-- A group of 13 elements, hashed into by sums of bytes. -/
def sampleCurve : Ristretto (ZMod 13) (ZMod 13) where
  basepoint := 1
  compress p := List.replicate 32 (UInt8.ofNat p.val)
  decompress bytes := (List.finRange 13).find? fun p =>
    List.replicate 32 (UInt8.ofNat p.val) == bytes
  hashFromBytes bytes := (byteSum bytes).toNat
  scalarFromHash bytes := (byteSum bytes).toNat
  scalarBytes c := leBytes 32 c.val
  scalarOf bytes := (List.finRange 13).find? fun c => leBytes 32 c.val == bytes
  decompress_compress := by decide
  compress_decompress h := by
    have hfound := List.find?_some h
    exact beq_iff_eq.1 hfound
  scalarOf_scalarBytes := by decide

/-- The public key of an agent with the secret 3. -/
def samplePubHex : String := hexEncode (sampleCurve.compress (sampleCurve.publicKey 3))

/-- One ring id in two tenants: an agent is a member of both under one point. -/
theorem tenants_share_point :
    ("acme", "payments") ≠ ("globex", "payments") ∧
      ∃ (point : String) (s₁ s₂ : World ℚ),
        (sampleCurve.subscribe "acme" 2 samplePubHex "payments").exec (sampleWorld 0) =
          (.ok point, s₁) ∧
        (sampleCurve.subscribe "globex" 2 samplePubHex "payments").exec s₁ = (.ok point, s₂) ∧
        s₂.db.ringMembers = [⟨"acme", "payments", point⟩, ⟨"globex", "payments", point⟩] := by
  refine ⟨by decide, _, _, _, rfl, rfl, ?_⟩
  decide +kernel

/-- Two rings of one tenant: the points differ. -/
theorem rings_have_own_points :
    ∃ (point₁ point₂ : String) (s₁ s₂ : World ℚ),
      (sampleCurve.subscribe "acme" 2 samplePubHex "payments").exec (sampleWorld 0) =
        (.ok point₁, s₁) ∧
      (sampleCurve.subscribe "acme" 2 samplePubHex "refunds").exec (sampleWorld 0) =
        (.ok point₂, s₂) ∧
      point₁ ≠ point₂ := by
  have hpub : sampleCurve.parsePointHex samplePubHex = .ok 3 :=
    Ristretto.parsePointHex_hexEncode (fun _ => List.length_replicate) 3
  have hbase : ∀ c d : ZMod 13, c • sampleCurve.basepoint = d • sampleCurve.basepoint → c = d := by
    decide
  have hruns : ∀ ringId, ∃ (point : String) (s : World ℚ),
      (sampleCurve.subscribe "acme" 2 samplePubHex ringId).exec (sampleWorld 0) =
        (.ok point, s) := fun ringId => ⟨_, _, rfl⟩
  obtain ⟨point₁, s₁, h₁⟩ := hruns "payments"
  obtain ⟨point₂, s₂, h₂⟩ := hruns "refunds"
  have h := subscriptions_apart_iff sampleCurve hbase 2 hpub "acme" "payments" "acme" "refunds"
    (fun h => absurd h (by decide +kernel)) h₁ h₂
  exact ⟨point₁, point₂, s₁, s₂, h₁, h₂, (h.2.2 (by decide)).2⟩

end SauronID.Ring
