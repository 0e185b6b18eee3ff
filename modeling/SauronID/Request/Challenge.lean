import SauronID.Action.History
import SauronID.Policy.Gate

/-!
# `POST /agent/action/challenge`

The route hands an agent the bytes to sign for an action. The agent must be active for
its owner and in the tenant's ring, and its bound policy must allow the action.
-/

namespace SauronID.Request

open Conc Text SauronID.Action Dsl

variable {F : Type} [Float64 F] (env : Env F)

structure AgentActionChallengeBody where
  agentId : String
  humanKeyImage : String
  action : String
  resource : String
  merchantId : String
  amountMinor : ℤ
  currency : String
  ajwtJti : String
  ttlSecs : ℤ

structure AgentActionChallengeResponse where
  envelope : AgentActionEnvelope
  canonical : String
  actionHash : String
  agentRingPublicKeysHex : List String
  signerIndex : ℕ
  signingPublicKeyHex : String

/-- The row of an agent that is active for its owner. -/
def findActiveAgent (tenant agentId human : String) (now : ℤ) (db : Db F) : Option AgentRow :=
  db.agents.find? fun r => r.tenantId == tenant && r.agentId == agentId &&
    r.humanKeyImage == human && r.revoked == 0 && decide (r.expiresAt > now)

/-- The agent's key must be a point, and it must be in the tenant's ring. -/
def checkSigningKey (publicKeyHex : String) : Except AppError Unit :=
  if publicKeyHex.isEmpty then .error (.ofStatus 401 "Agent missing ring public key")
  else
    match hexDecode publicKeyHex with
    | none => .error (.ofStatus 401 "Agent public key encoding invalid")
    | some bytes =>
      if bytes.length ≠ 32 then .error (.ofStatus 401 "Agent public key length invalid")
      else if !env.validPoint bytes then .error (.ofStatus 401 "Agent public key point invalid")
      else .ok ()

/-- The action the bound policy is asked about. -/
def challengeAction (body : AgentActionChallengeBody) (now : ℤ) : Dsl.Action F where
  actionId := "challenge-" ++ body.ajwtJti
  tool := trim body.action
  amountUsd :=
    if 0 < body.amountMinor then
      some (Float64.div (Float64.ofInt body.amountMinor) (Float64.ofInt 100))
    else none
  timestamp := now
  metadata := [("currency", .str (asciiUpper (trim body.currency))),
    ("merchant_id", .str body.merchantId)]

def actionChallenge (tenant : String) (body : AgentActionChallengeBody) :
    Srv F AppError AgentActionChallengeResponse := do
  .rejectIf (trim body.agentId = "" ∨ trim body.humanKeyImage = "" ∨ trim body.action = "" ∨
      trim body.ajwtJti = "")
    (.ofStatus 400 "agent_id, human_key_image, action and ajwt_jti are required")
  let ttl := max 15 (min body.ttlSecs 300)
  let now ← Srv.nowSecs
  let agent ← Srv.require (.agent tenant body.agentId)
    (findActiveAgent tenant body.agentId body.humanKeyImage now)
    (.ofStatus 401 "Agent not active for requested human")
  .ofExcept (checkSigningKey env agent.publicKeyHex)
  let ring ← (Srv.select .other (activeTenantRing env tenant now)).mapErr (AppError.ofStatus 500)
  let ringKeys := ring.map Prod.fst
  .rejectIf (agent.publicKeyHex ∉ ringKeys)
    (.ofStatus 401 "Agent public key is not in authenticated tenant ring")
  gateActionOnBoundPolicy env tenant body.agentId (challengeAction body now)
  let nonce ← Srv.random env.randomHex32
  let envelope : AgentActionEnvelope :=
    { agentId := body.agentId, humanKeyImage := body.humanKeyImage, action := trim body.action,
      resource := body.resource, merchantId := body.merchantId, amountMinor := body.amountMinor,
      currency := asciiUpper (trim body.currency), nonce := "aan_" ++ nonce,
      expiresAt := now + ttl, policyHash := expectedPolicyHash env (trim body.action),
      ajwtJti := body.ajwtJti }
  return ⟨envelope, canonicalEnvelopeJson env envelope, actionHash env envelope, ringKeys,
    ringKeys.idxOf agent.publicKeyHex, agent.publicKeyHex⟩

variable {env} {may : May F} {t : History F}

omit [Float64 F] in
theorem findActiveAgent_eq_some {tenant agentId human : String} {now : ℤ} {db : Db F}
    {row : AgentRow} (h : findActiveAgent tenant agentId human now db = some row) :
    row ∈ db.agents ∧ row.agentId = agentId ∧ row.tenantId = tenant ∧ row.revoked = 0 := by
  have hkey := List.find?_some h
  simp only [Bool.and_eq_true, beq_iff_eq] at hkey
  exact ⟨List.mem_of_find?_eq_some h, hkey.1.1.1.2, hkey.1.1.1.1, hkey.1.2⟩

/-- A challenge is handed out only to an agent that was not revoked, for an action its
bound policy has judged. -/
theorem actionChallenge_yields {tenant : String} {body : AgentActionChallengeBody} :
    (actionChallenge env tenant body).Yields (srvRules may) t fun t' _ =>
      SawActive tenant body.agentId t' ∧ (env.policyMode = .enforce →
        ∃ now, Mediated env tenant body.agentId (challengeAction body now) t') := by
  refine .rejectIf fun _ => Srv.yields_nowSecs fun sNow => ?_
  refine Srv.yields_require fun s agent _ hagent => .ofExcept fun _ _ => ?_
  refine .bind (.mapErr (Srv.yields_select fun s' _ => .rejectIf fun _ => ?_))
  refine gate_yields.andThen fun t' _ ht hgate => Srv.yields_random fun sDraw => ?_
  refine Prog.yields_pure ⟨?_, fun henf => ⟨_, (hgate henf).mono (List.suffix_cons _ _)⟩⟩
  refine SawActive.mono ?_ (ht.trans (List.suffix_cons _ _))
  exact ⟨s, .tail _ (.head _), agent, findActiveAgent_eq_some hagent⟩

end SauronID.Request
