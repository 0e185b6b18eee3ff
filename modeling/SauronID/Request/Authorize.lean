import SauronID.Action.History
import SauronID.Request.Support

/-!
# `POST /policy/authorize`

The pre-execution decision: the token, the agent's row, the matrix of permitted
actions, and the signed action. The policy bound to the agent is not consulted.
-/

namespace SauronID.Request

open Conc Text SauronID.Action

variable {F : Type} [Float64 F] (env : Env F)

structure PolicyAuthorizeBody where
  agentId : String
  action : String
  ajwt : Option String
  agentAction : Option AgentActionProof

structure PolicyAuthorizeResponse where
  agentId : String
  action : String
  assuranceLevel : String
  allowed : Bool
  reason : String
  policyVersion : String
  actionReceipt : Option ActionReceipt

def policyAuthorize (tenant : String) (body : PolicyAuthorizeBody) :
    Srv F AppError PolicyAuthorizeResponse := do
  .rejectIf (body.agentId = "" ∨ body.action = "")
    (.ofStatus 400 "agent_id and action are required")
  let ajwt ← .okOr (.ofStatus 400 "ajwt is required for policy authorization") body.ajwt
  let claims ← verifyAjwtForTenant env ajwt tenant (.ofStatus 401 "Invalid or expired A-JWT")
  let claimAgentId ← .ofExcept (requireClaim claims "agent_id")
  .rejectIf (claimAgentId ≠ body.agentId) (.ofStatus 401 "A-JWT agent_id mismatch")
  let humanKeyImage ← .ofExcept (requireClaim claims "sub")
  let jti ← .ofExcept (requireClaim claims "jti")
  let exp ← .ofExcept (requireExp claims)
  let intent ← .ofExcept (parseAjwtIntentClaim env claims)
  let agent ← Srv.require (.agent tenant body.agentId) (findAgent tenant body.agentId)
    (.ofStatus 404 "Agent not found")
  let now ← Srv.nowSecs
  .rejectIf (agent.revoked ≠ 0 ∨ agent.expiresAt < now ∨ agent.humanKeyImage ≠ humanKeyImage)
    (.ofStatus 401 "Agent is revoked or expired")
  let decision := authorizeAction (.fromDb agent.assuranceLevel) body.action
  if decision.allowed then
    let proof ← .okOr (.ofStatus 400 "agent_action is required for policy authorization")
      body.agentAction
    let validated ← validateAgentAction env proof
      { tenantId := tenant, agentId := body.agentId, humanKeyImage := humanKeyImage,
        ajwtJti := jti, intent := some intent, expectedAction := body.action,
        expectedResource := some body.action, expectedMerchantId := some "",
        expectedAmountMinor := some 0, expectedCurrency := some "",
        popJkt := some agent.popJkt, status := "accepted" }
    (consumeAjwtJti jti exp).mapErr (AppError.ofStatus 401)
    return ⟨body.agentId, body.action, agent.assuranceLevel, true, decision.reason,
      kyaPolicyMatrixVersion, some validated.receipt⟩
  else
    return ⟨body.agentId, body.action, agent.assuranceLevel, false, decision.reason,
      kyaPolicyMatrixVersion, none⟩

variable {env} {may : May F} {t : History F}

/-- An answer, permissive or not, is given only for an agent that was not revoked; a
permissive one uses up the token. -/
theorem policyAuthorize_yields {tenant : String} {body : PolicyAuthorizeBody}
    (hmay : Unguarded may) (hjti : ∀ token, body.ajwt = some token → MayConsume env may token) :
    (policyAuthorize env tenant body).Yields (srvRules may) t fun t' resp =>
      SawActive tenant body.agentId t' ∧
        (resp.allowed = true → ∃ token, body.ajwt = some token ∧ Consumed env token t') := by
  refine .rejectIf fun _ => .okOr fun ajwt hajwt => ?_
  refine verifyAjwtForTenant_yields.andThen fun t₁ claims _ ⟨header, hdecode⟩ => ?_
  refine .ofExcept fun _ _ => .rejectIf fun _ => .ofExcept fun _ _ => ?_
  refine .ofExcept fun jti hj => .ofExcept fun exp hexp => ?_
  have huse := tokenUse_of_claims hdecode hj hexp
  refine .ofExcept fun intent _ => Srv.yields_require fun s agent _ hagent => ?_
  refine Srv.yields_nowSecs fun sNow => .rejectIf fun hactive => ?_
  have hrev : agent.revoked = 0 := by tauto
  have hsaw : SawActive tenant body.agentId
      ((.clock, sNow) :: (.select (.agent tenant body.agentId), s) :: t₁) :=
    .of_findAgent (.tail _ (.head _)) hagent hrev
  dsimp only
  split
  · refine .okOr fun proof _ => (validateAgentAction_yields (hmay.mayWrite rfl)
      (.of_unguarded hmay)).andThen fun t₂ _ ht₂ _ => ?_
    refine (consumeAjwtJti_yields (hjti _ hajwt) huse).mapErr.andThen fun t₃ _ ht₃ hused => ?_
    exact Prog.yields_pure ⟨hsaw.mono (ht₂.trans ht₃), fun _ => ⟨ajwt, hajwt, hused⟩⟩
  · exact Prog.yields_pure ⟨hsaw, nofun⟩

end SauronID.Request
