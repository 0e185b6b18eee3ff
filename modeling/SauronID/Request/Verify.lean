import SauronID.Action.History
import SauronID.Request.Support

/-!
# `POST /agent/verify`

An outside party asks whether a token is good, and may have its identifier consumed. The
route always answers; a refusal is an answer that says why.
-/

namespace SauronID.Request

open Conc Text SauronID.Action

variable {F : Type} [Float64 F] (env : Env F)

structure VerifyAjwtRequest where
  ajwt : String
  consumeJti : Bool
  popChallengeId : String
  popJws : String

structure VerifyAjwtResponse where
  valid : Bool
  agentId : Option String
  humanKeyImage : Option String
  intentJson : Option String
  assuranceLevel : Option String
  error : Option String

/-- Why a token is refused, with what was known of it by then. -/
structure Refusal where
  claims : Option Json
  level : Option String
  error : String

/-- The intent as text. -/
def intentText (claims : Json) : Option String :=
  match claims.get "intent" with
  | some (.str s) => some s
  | some v => some (env.jsonText v)
  | none => none

def verifyAnswer (claims : Option Json) (level error : Option String) : VerifyAjwtResponse where
  valid := error.isNone
  agentId := claims.bind (·.getStr "agent_id")
  humanKeyImage := claims.bind (·.getStr "sub")
  intentJson := claims.bind (intentText env)
  assuranceLevel := level
  error := error

/-- Whether the agent is revoked, its assurance level and its key; a missing row counts as
revoked. -/
def bearerRow : Except String (Option AgentRow) → ℤ × String × String
  | .ok (some r) => (r.revoked, r.assuranceLevel, r.popPublicKeyB64u)
  | _ => (1, "delegated_nonbank", "")

/-- The agent of the token must be known and not revoked, and prove possession of its key
if it has registered one. The result is its assurance level. -/
def verifyBearer (tenant agentId : String) (claims : Json) (req : VerifyAjwtRequest) :
    Srv F Refusal String := do
  let refused := fun level e => Refusal.mk (some claims) level e
  let now ← Srv.nowSecs
  (checkAndIncrement env (hashBucket env "agent_verify" [tenant, agentId]) now
    env.limitAgentVerify).mapErr fun _ => refused none "Rate limit exceeded for agent verification"
  let row ← (Srv.select (.agent tenant agentId) (findAgent tenant agentId)).attempt
  let level := (bearerRow row).2.1
  let popPk := (bearerRow row).2.2
  .rejectIf ((bearerRow row).1 ≠ 0) (refused (some level) "Agent has been revoked")
  if popPk.isEmpty then return level
  else do
    .rejectIf (req.popChallengeId.isEmpty ∨ req.popJws.isEmpty) (refused (some level)
      ("Agent requires PoP: provide pop_challenge_id and pop_jws " ++
        "(see POST /agent/pop/challenge)"))
    let challenge ← (takePopChallenge req.popChallengeId agentId).mapErr (refused (some level))
    .ofExcept ((verifyEd25519PopJws env challenge req.popJws popPk).mapError (refused (some level)))
    return level

/-- The identifier of the token is consumed if the request says so. -/
def consumeIfAsked (claims : Json) (level : Option String) (req : VerifyAjwtRequest) :
    Srv F Refusal Unit :=
  let refused := Refusal.mk (some claims) level
  if req.consumeJti then do
    let jti ← .okOr (refused "A-JWT missing jti; cannot consume")
      ((claims.getStr "jti").filter (· ≠ ""))
    let exp ← .okOr (refused "A-JWT missing exp") (claims.getI64 "exp")
    (consumeAjwtJti jti exp).mapErr refused
  else pure ()

/-- The checks of `/agent/verify`: the claims and the assurance level of a good token. -/
def verifyToken (tenant : String) (req : VerifyAjwtRequest) :
    Srv F Refusal (Json × Option String) := do
  let claims ← (verifyAjwtForTenant env req.ajwt tenant (.ofStatus 401 "")).mapErr fun _ =>
    Refusal.mk none none "Invalid or expired A-JWT"
  let level ←
    match claims.getStr "agent_id" with
    | some agentId => some <$> verifyBearer env tenant agentId claims req
    | none => pure none
  consumeIfAsked claims level req
  return (claims, level)

def agentVerify (tenant : String) (req : VerifyAjwtRequest) :
    Srv F AppError VerifyAjwtResponse := do
  match ← (verifyToken env tenant req).attempt with
  | .ok (claims, level) => return verifyAnswer env (some claims) level none
  | .error r => return verifyAnswer env r.claims r.level (some r.error)

/-! ## Specifications -/

variable {env} {may : May F} {t : History F} {tenant : String} {claims : Json}
  {req : VerifyAjwtRequest}

theorem verifyBearer_yields (hmay : Unguarded may) {agentId : String} :
    (verifyBearer env tenant agentId claims req).Yields (srvRules may) t fun _ _ => True := by
  refine Srv.yields_nowSecs fun s => (checkAndIncrement_yields (hmay.mayWrite rfl)).mapErr.andThen
    fun t₁ _ _ _ => Srv.yields_trySelect fun s' row => ?_
  dsimp only
  refine .rejectIf fun _ => ?_
  split
  · exact Prog.yields_pure trivial
  · refine .rejectIf fun _ =>
      (takePopChallenge_yields fun t s => hmay.mayWrite rfl t _ s rfl).mapErr.andThen
        fun t₂ _ _ _ => ?_
    exact .ofExcept fun _ _ => Prog.yields_pure trivial

theorem consumeIfAsked_yields {header : Json} {level : Option String}
    (hjti : MayConsume env may req.ajwt)
    (hdecode : env.decodeAjwt req.ajwt = some (header, claims)) :
    (consumeIfAsked claims level req).Yields (srvRules may) t fun t' _ =>
      req.consumeJti = true → Consumed env req.ajwt t' := by
  unfold consumeIfAsked
  dsimp only
  split
  · refine .okOr fun jti hj => .okOr fun exp hexp => ?_
    have huse : tokenUse env req.ajwt = some (jti, exp) := by
      simp [tokenUse, hdecode, (Option.filter_eq_some_iff.1 hj).1, hexp]
    exact (consumeAjwtJti_yields hjti huse).mapErr.mono fun _ _ h _ => h
  · next hask => exact Prog.yields_pure fun h => absurd h hask

/-- A token that is found good was used up, if that was asked for. -/
theorem agentVerify_yields (hmay : Unguarded may) (hjti : MayConsume env may req.ajwt) :
    (agentVerify env tenant req).Yields (srvRules may) t fun t' resp =>
      resp.valid = true → req.consumeJti = true → Consumed env req.ajwt t' := by
  have htoken : (verifyToken env tenant req).Yields (srvRules may) t fun t' _ =>
      req.consumeJti = true → Consumed env req.ajwt t' := by
    refine verifyAjwtForTenant_yields.mapErr.andThen fun t₁ claims _ ⟨header, hdecode⟩ => ?_
    have hlevel : ∀ t' level, (consumeIfAsked claims level req >>= fun _ =>
        (pure (claims, level) : Srv F Refusal _)).Yields (srvRules may) t' fun t' _ =>
          req.consumeJti = true → Consumed env req.ajwt t' := fun t' level =>
      (consumeIfAsked_yields hjti hdecode).andThen fun t₂ _ _ h => Prog.yields_pure h
    split
    · refine .bind (.bind ((verifyBearer_yields hmay).mono fun t₂ level _ => ?_))
      exact Prog.yields_pure (hlevel t₂ (some level))
    · exact hlevel t₁ none
  refine .bind (.attempt (Prog.Follows.mono htoken fun t' r hr => ?_))
  cases r with
  | ok answer => exact Prog.yields_pure fun _ => hr answer rfl
  | error refusal => exact Prog.yields_pure nofun

end SauronID.Request
