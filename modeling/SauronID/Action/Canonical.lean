import SauronID.Lib.Encoding
import SauronID.Lib.Order
import SauronID.Model.Env

/-!
# Canonical forms of actions and receipts

The byte strings that are signed and hashed on the action path: the envelope of an
action, the expected policy hash and the chain hash of a receipt.
-/

namespace SauronID.Action

open Text

variable {F : Type} (env : Env F)

/-! ## The canonical encoding -/

/-- The texts of the fields fit the length in front of them; encoding panics otherwise. -/
def FieldsFit (fields : List (String × String)) : Prop :=
  ∀ p ∈ fields, Fits (utf8 p.1) ∧ Fits (utf8 p.2)

instance (fields : List (String × String)) : Decidable (FieldsFit fields) :=
  inferInstanceAs (Decidable (∀ p ∈ fields, _))

/-- The canonical bytes determine the domain and the fields. -/
theorem canonicalFields_inj {d d' : String} {fs fs' : List (String × String)}
    (hd : Fits (utf8 d)) (hd' : Fits (utf8 d')) (hfs : FieldsFit fs) (hfs' : FieldsFit fs')
    (h : canonicalFields d fs = canonicalFields d' fs') : d = d' ∧ fs = fs' := by
  have hencode : ∀ gs : List (String × String),
      (gs.flatMap fun p => lengthPrefixed (utf8 p.1) ++ lengthPrefixed (utf8 p.2)) =
        encodeFields (gs.map (Prod.map utf8 utf8)) := by
    intro gs
    simp [encodeFields, List.flatMap_map]
  obtain ⟨hdomain, hfields⟩ := lengthPrefixed_append_inj hd hd' h
  rw [hencode, hencode] at hfields
  have hfit : ∀ {gs}, FieldsFit gs → ∀ p ∈ gs.map (Prod.map utf8 utf8), Fits p.1 ∧ Fits p.2 :=
    fun hgs => List.forall_mem_map.2 fun q hq => hgs q hq
  have hmap := encodeFields_inj (hfit hfs) (hfit hfs') hfields
  refine ⟨utf8_injective hdomain, List.map_injective_iff.2 ?_ hmap⟩
  exact utf8_injective.prodMap utf8_injective

/-! ## Envelopes -/

/-- The envelope an agent signs on the identity path. -/
structure AgentActionEnvelope where
  agentId : String
  humanKeyImage : String
  action : String
  resource : String
  merchantId : String
  amountMinor : ℤ
  currency : String
  nonce : String
  expiresAt : ℤ
  policyHash : String
  ajwtJti : String
  deriving DecidableEq, Repr

structure AgentActionProof where
  envelope : AgentActionEnvelope
  ringSignature : RingSignature
  deriving DecidableEq, Repr

/-- `KYA_POLICY_MATRIX_VERSION` -/
def kyaPolicyMatrixVersion : String := "kya_matrix_v2"

/-- Fixed-field canonical JSON for action signatures. -/
def canonicalEnvelopeJson (e : AgentActionEnvelope) : String :=
  "\x7b\"agent_id\":" ++ env.jsonStr e.agentId ++
    ",\"human_key_image\":" ++ env.jsonStr e.humanKeyImage ++
    ",\"action\":" ++ env.jsonStr e.action ++
    ",\"resource\":" ++ env.jsonStr e.resource ++
    ",\"merchant_id\":" ++ env.jsonStr e.merchantId ++
    ",\"amount_minor\":" ++ toString e.amountMinor ++
    ",\"currency\":" ++ env.jsonStr e.currency ++
    ",\"nonce\":" ++ env.jsonStr e.nonce ++
    ",\"expires_at\":" ++ toString e.expiresAt ++
    ",\"policy_hash\":" ++ env.jsonStr e.policyHash ++
    ",\"ajwt_jti\":" ++ env.jsonStr e.ajwtJti ++ "\x7d"

def canonicalEnvelopeBytes (e : AgentActionEnvelope) : Bytes := utf8 (canonicalEnvelopeJson env e)

def actionHash (e : AgentActionEnvelope) : String := env.sha256Hex (canonicalEnvelopeBytes env e)

def expectedPolicyHash (action : String) : String :=
  env.sha256Hex (utf8 "SAURON_AGENT_ACTION_POLICY|" ++ utf8 kyaPolicyMatrixVersion ++ utf8 "|" ++
    utf8 (trim action))

/-- The envelope an agent signs on the anonymous ring path. -/
structure AnonActionEnvelope where
  tenantId : String
  ringId : String
  alsoRingIds : List String
  action : String
  resource : String
  merchantId : String
  amountMinor : ℤ
  currency : String
  configDigest : String
  nonce : String
  expiresAt : ℤ
  deriving DecidableEq, Repr

structure AnonActionProof where
  envelope : AnonActionEnvelope
  ringSignature : RingSignature
  alsoRingSignatures : List RingSignature
  deriving DecidableEq, Repr

/-- Fixed-field canonical JSON for anonymous action signatures. -/
def canonicalAnonEnvelopeJson (e : AnonActionEnvelope) : String :=
  "\x7b\"tenant_id\":" ++ env.jsonStr e.tenantId ++
    ",\"ring_id\":" ++ env.jsonStr e.ringId ++
    ",\"also_ring_ids\":[" ++ ",".intercalate (e.alsoRingIds.map env.jsonStr) ++
    "],\"action\":" ++ env.jsonStr e.action ++
    ",\"resource\":" ++ env.jsonStr e.resource ++
    ",\"merchant_id\":" ++ env.jsonStr e.merchantId ++
    ",\"amount_minor\":" ++ toString e.amountMinor ++
    ",\"currency\":" ++ env.jsonStr e.currency ++
    ",\"config_digest\":" ++ env.jsonStr e.configDigest ++
    ",\"nonce\":" ++ env.jsonStr e.nonce ++
    ",\"expires_at\":" ++ toString e.expiresAt ++ "\x7d"

def canonicalAnonEnvelopeBytes (e : AnonActionEnvelope) : Bytes :=
  utf8 (canonicalAnonEnvelopeJson env e)

def anonActionHash (e : AnonActionEnvelope) : String :=
  env.sha256Hex (canonicalAnonEnvelopeBytes env e)

/-! ## Receipts -/

/-- The receipt fields the chain hash commits to. -/
def chainFields (r : ActionReceipt) : List (String × String) :=
  [("seq", toString r.seq), ("prev_hash", r.prevHash), ("tenant_id", r.tenantId),
    ("receipt_id", r.receiptId), ("action_hash", r.actionHash), ("agent_id", r.agentId),
    ("ring_key_image_hex", r.ringKeyImageHex), ("policy_version", r.policyVersion),
    ("ajwt_jti", r.ajwtJti), ("pop_jkt", r.popJkt), ("timestamp", toString r.timestamp),
    ("status", r.status)]

/-- Chain hash of a receipt: what the next receipt stores as `prev_hash`. -/
def receiptChainHash (r : ActionReceipt) : String :=
  env.sha256Hex <|
    if r.ownerMandateHash.isEmpty then
      canonicalFields "sauron.agent-action-receipt-chain.v1" (chainFields r)
    else
      canonicalFields "sauron.agent-action-receipt-chain.v2"
        (chainFields r ++ [("owner_mandate_hash", r.ownerMandateHash)])

/-- The fields every version of the signing payload starts with. -/
def signedFields (r : ActionReceipt) : List (String × String) :=
  [("tenant_id", r.tenantId), ("receipt_id", r.receiptId), ("action_hash", r.actionHash),
    ("agent_id", r.agentId), ("ring_key_image_hex", r.ringKeyImageHex),
    ("policy_version", r.policyVersion), ("ajwt_jti", r.ajwtJti), ("pop_jkt", r.popJkt),
    ("timestamp", toString r.timestamp), ("status", r.status)]

def receiptSigningPayload (r : ActionReceipt) : Bytes :=
  if 0 < r.seq ∧ !r.ownerMandateHash.isEmpty then
    canonicalFields "sauron.agent-action-receipt.v4"
      (signedFields r ++ [("seq", toString r.seq), ("prev_hash", r.prevHash),
        ("owner_mandate_hash", r.ownerMandateHash)])
  else if 0 < r.seq then
    canonicalFields "sauron.agent-action-receipt.v3"
      (signedFields r ++ [("seq", toString r.seq), ("prev_hash", r.prevHash)])
  else canonicalFields "sauron.agent-action-receipt.v2" (signedFields r)

def signReceipt (r : ActionReceipt) : String :=
  "v2." ++ hexEncode (env.hmacSha256 (env.deriveSubkey env.jwtSecret "action-receipt-hmac-v2")
    (receiptSigningPayload r))

end SauronID.Action
