import SauronID.Action.Receipts
import SauronID.Agent.Intent

/-!
# Validation of a signed agent action

`validateAgentAction` is the identity path: the envelope is compared with what the
endpoint expects, the agent's row and the tenant's ring are read, the ring signature
is verified, the nonce is spent and a receipt is written. The clock is read twice:
once for the expiry of the envelope, once for everything that touches the database.
-/

namespace SauronID.Action

open Conc Text Agent

variable {F : Type} [Float64 F] (env : Env F)

/-- What the calling endpoint expects of the envelope. -/
structure ValidateAgentActionOptions where
  tenantId : String
  agentId : String
  humanKeyImage : String
  ajwtJti : String
  intent : Option Json
  expectedAction : String
  expectedResource : Option String
  expectedMerchantId : Option String
  expectedAmountMinor : Option ℤ
  expectedCurrency : Option String
  popJkt : Option String
  status : String

structure AgentActionValidation where
  actionHash : String
  ringKeyImageHex : String
  receipt : ActionReceipt

def requireEqStr (label got expected : String) : Except AppError Unit :=
  if got ≠ expected then
    .error (.ofStatus 401 ("agent_action envelope " ++ label ++ " mismatch"))
  else .ok ()

/-- A comparison that is made only when the endpoint names a value. -/
def requireEqStrIf (label got : String) : Option String → Except AppError Unit
  | some expected => requireEqStr label got expected
  | none => .ok ()

/-- The comparisons of the envelope with the options. -/
def checkEnvelope (e : AgentActionEnvelope) (opts : ValidateAgentActionOptions) :
    Except AppError Unit := do
  requireEqStr "agent_id" e.agentId opts.agentId
  requireEqStr "human_key_image" e.humanKeyImage opts.humanKeyImage
  requireEqStr "action" e.action opts.expectedAction
  requireEqStr "ajwt_jti" e.ajwtJti opts.ajwtJti
  requireEqStrIf "resource" e.resource opts.expectedResource
  requireEqStrIf "merchant_id" e.merchantId opts.expectedMerchantId
  match opts.expectedAmountMinor with
  | some amountMinor =>
    if e.amountMinor ≠ amountMinor then
      throw (.ofStatus 401 "agent_action envelope amount_minor mismatch")
  | none => pure ()
  requireEqStrIf "currency" e.currency opts.expectedCurrency
  if e.policyHash ≠ expectedPolicyHash env opts.expectedAction then
    throw (.ofStatus 401 "agent_action policy_hash mismatch")

/-- The nonce is 16 to 128 bytes long. -/
def nonceWellFormed (nonce : String) : Bool :=
  !(decide ((trim nonce).utf8ByteSize < 16) || decide (128 < nonce.utf8ByteSize))

/-- The row of an agent. -/
def findAgent (tenant agentId : String) (db : Db F) : Option AgentRow :=
  db.agents.find? fun r => r.agentId == agentId && r.tenantId == tenant

/-- The checks on the agent's row; the result is the agent's ring key. -/
def checkAgentRow (agent : AgentRow) (opts : ValidateAgentActionOptions)
    (ringKeyImageHex : String) (now : ℤ) : Except AppError Bytes := do
  if agent.humanKeyImage ≠ opts.humanKeyImage ∨ agent.revoked ≠ 0 ∨ agent.expiresAt < now then
    throw (.ofStatus 401 "Agent revoked, expired, or owner mismatch")
  if agent.publicKeyHex.isEmpty then
    throw (.ofStatus 401 "Agent missing ring public key")
  if agent.ringKeyImageHex.isEmpty then
    throw (.ofStatus 401 "Agent missing registered ring key image")
  if agent.ringKeyImageHex ≠ ringKeyImageHex then
    throw (.ofStatus 401 "agent_action ring key image does not match registered agent")
  match opts.popJkt with
  | some expectedPop =>
    if ¬expectedPop.isEmpty ∧ ¬agent.popJkt.isEmpty ∧ expectedPop ≠ agent.popJkt then
      throw (.ofStatus 401 "agent_action PoP thumbprint mismatch")
  | none => pure ()
  match hexDecode agent.publicKeyHex with
  | none => throw (.ofStatus 401 "Agent public key encoding invalid")
  | some bytes =>
    if bytes.length ≠ 32 then throw (.ofStatus 401 "Agent public key length invalid")
    if !env.validPoint bytes then throw (.ofStatus 401 "Agent public key point invalid")
    return bytes

/-- `active_tenant_ring`: the keys of the tenant's unrevoked, unexpired agents in the
order of their ids, with the point each decodes to. -/
def activeTenantRing (tenant : String) (now : ℤ) (db : Db F) : List (String × Bytes) :=
  let rows := db.agents.filter fun r =>
    r.tenantId == tenant && r.revoked == 0 && decide (r.expiresAt > now) && r.publicKeyHex != ""
  (orderBy (fun r : AgentRow => r.agentId) rows).filterMap fun r =>
    (env.decodePoint r.publicKeyHex).map fun p => (r.publicKeyHex, p)

/-- Spend the nonce: prune the expired ones, then insert this one. -/
def spendNonce (row : NonceRow) (now : ℤ) (replay : String) : Srv F AppError Unit := do
  let _ ← (Srv.execute (.pruneNonces now)).mapErr (AppError.ofStatus 500)
  let _ ← (Srv.execute (.insertNonce row)).mapErr fun e =>
    if isUniqueViolation e then .ofStatus 401 replay else .ofStatus 500 e

/-- The ring signature of the action is verified against the tenant's ring. -/
def ringOk (proof : AgentActionProof) (ring : List (String × Bytes)) : Bool :=
  env.ringVerify (canonicalEnvelopeBytes env proof.envelope) (ring.map Prod.snd)
    proof.ringSignature

/-- The receipt of a validated action, signed. -/
def buildReceipt (opts : ValidateAgentActionOptions) (actionHash ringKeyImageHex receiptId : String)
    (now seq : ℤ) (prevHash ownerMandateHash : String) : ActionReceipt :=
  let unsigned : ActionReceipt :=
    { tenantId := opts.tenantId, receiptId := receiptId, actionHash := actionHash,
      agentId := opts.agentId, ringKeyImageHex := ringKeyImageHex,
      policyVersion := kyaPolicyMatrixVersion, ajwtJti := opts.ajwtJti,
      popJkt := opts.popJkt.getD "", timestamp := now, status := opts.status, signature := "",
      seq := seq, prevHash := prevHash, ownerMandateHash := ownerMandateHash }
  { unsigned with signature := signReceipt env unsigned }

/-- The part of the identity path that follows a verified membership: spend the
nonce if the signature is good, take a chain position, write the receipt. -/
def recordAction (proof : AgentActionProof) (opts : ValidateAgentActionOptions)
    (ringKeyImageHex : String) (now : ℤ) (ok : Bool) : Srv F AppError ActionReceipt := do
  let e := proof.envelope
  let hash := actionHash env e
  if ok then
    spendNonce ⟨e.nonce, opts.agentId, hash, e.expiresAt, now⟩ now "agent_action nonce replay"
  let position ← (nextChainPosition env opts.tenantId).mapErr (AppError.ofStatus 500)
  -- which grant authorised this action, as of now
  let mandate ← Srv.scalarOr .other
    (fun db => (findAgent opts.tenantId opts.agentId db).map AgentRow.ownerMandateHash) ""
  let rand ← Srv.random env.randomHex32
  let receipt := buildReceipt env opts hash ringKeyImageHex ("ar_" ++ rand) now position.1
    position.2 mandate
  if ok then
    let _ ← (Srv.execute (.upsertReceipt ⟨receipt, none, none⟩ false)).mapErr
      (AppError.ofStatus 500)
  return receipt

/-- `validate_agent_action` -/
def validateAgentAction (proof : AgentActionProof) (opts : ValidateAgentActionOptions) :
    Srv F AppError AgentActionValidation := do
  let e := proof.envelope
  .ofExcept (checkEnvelope env e opts)
  let t ← Srv.nowSecs
  .rejectIf (e.expiresAt < t) (.ofStatus 401 "agent_action envelope expired")
  .rejectIf (nonceWellFormed e.nonce = false)
    (.ofStatus 400 "agent_action nonce must be 16..128 chars")
  .rejectIf (actionAllowedByIntent opts.intent opts.expectedAction = false)
    (.ofStatus 403 "A-JWT intent does not allow agent_action action")
  let ringKeyImageHex := hexEncode proof.ringSignature.keyImage
  let now ← Srv.nowSecs
  let agent ← Srv.require (.agent opts.tenantId opts.agentId)
    (findAgent opts.tenantId opts.agentId) (AppError.ofStatus 404 "Agent not found")
  let pt ← .ofExcept (checkAgentRow env agent opts ringKeyImageHex now)
  let ring ← (Srv.select .other (activeTenantRing env opts.tenantId now)).mapErr
    (AppError.ofStatus 500)
  .rejectIf (pt ∉ ring.map Prod.snd)
    (.ofStatus 401 "Agent public key is not in authenticated tenant ring")
  let ok := ringOk env proof ring
  let receipt ← recordAction env proof opts ringKeyImageHex now ok
  .rejectIf (ok = false) (.ofStatus 401 "agent_action ring signature verification failed")
  return ⟨actionHash env e, ringKeyImageHex, receipt⟩

/-! ## Evaluation -/

/-- The sample agent reads: an envelope that expires at second 100. -/
def sampleProof : AgentActionProof where
  envelope :=
    { agentId := "agt_1", humanKeyImage := "owner", action := "read", resource := "",
      merchantId := "", amountMinor := 0, currency := "", nonce := "nonce-0123456789",
      expiresAt := 100, policyHash := "", ajwtJti := "jti" }
  ringSignature := ⟨[], [], [0]⟩

def sampleOptions : ValidateAgentActionOptions where
  tenantId := "default"
  agentId := "agt_1"
  humanKeyImage := "owner"
  ajwtJti := "jti"
  intent := some (.obj [("scope", .arr [.str "read"])])
  expectedAction := "read"
  expectedResource := none
  expectedMerchantId := none
  expectedAmountMinor := none
  expectedCurrency := none
  popJkt := none
  status := "verified"

end SauronID.Action
