import SauronID.Action.History
import SauronID.Policy.Gate
import SauronID.Request.Support

/-!
# `POST /agent/egress/capability`

The route issues a bearer token for one outbound request. It validates the signed
action first and asks the bound policy afterwards, when the destination is known.
-/

namespace SauronID.Request

open Conc Text SauronID.Action Dsl

variable {F : Type} [Float64 F] (env : Env F)

structure EgressCapabilityRequest where
  agentId : String
  ajwt : String
  method : String
  url : String
  bodyHashHex : String
  agentAction : AgentActionProof

structure EgressCapabilityResponse where
  capability : String
  expiresAt : ℤ
  actionReceipt : ActionReceipt

/-- The method and the parsed URL of a request that is well formed. -/
def checkEgressRequest (req : EgressCapabilityRequest) : Except AppError (String × Url) := do
  let method := asciiUpper (trim req.method)
  if !env.validMethod method then throw (.ofStatus 400 "invalid HTTP method")
  let url ← (env.parseUrl req.url).mapError fun e => AppError.ofStatus 400 s!"bad url: {e}"
  if (url.scheme ≠ "http" ∧ url.scheme ≠ "https") ∨ url.username ≠ "" ∨ url.password.isSome ∨
      url.query.isSome ∨ url.fragment.isSome then
    throw (.ofStatus 400 "capability URL must be http(s) without userinfo, query, or fragment")
  if req.bodyHashHex.utf8ByteSize ≠ 64 ∨ !req.bodyHashHex.toList.all isAsciiHexdigit then
    throw (.ofStatus 400 "body_hash_hex must be 32-byte hex")
  return (method, url)

/-- The intent of the token: JSON text, or any value that is not a string. -/
def egressIntent (claims : Json) : Except AppError Json :=
  match claims.get "intent" with
  | some (.str s) =>
    match env.fromStr s with
    | some v => .ok v
    | none => .error (.ofStatus 401 "A-JWT intent is invalid JSON")
  | some v => .ok v
  | none => .error (.ofStatus 401 "A-JWT missing intent")

/-- The action the bound policy is asked about. -/
def egressAction (receiptId method : String) (url : Url) (now : ℤ) : Dsl.Action F where
  actionId := "egress-cap-" ++ receiptId
  tool := "egress"
  timestamp := now
  metadata := [("target_domain", .str (url.host.getD "")), ("method", .str method)]

/-- The bearer value made of two random identifiers. -/
def capabilityText (a b : ℕ) : String := "egc_" ++ env.randomHex32 a ++ env.randomHex32 b

/-- Store a fresh capability; the bearer value itself is not stored. -/
def storeCapability (tenant method : String) (req : EgressCapabilityRequest)
    (receipt : ActionReceipt) (now expiresAt : ℤ) : Srv F AppError String := do
  let a ← Srv.random env.randomHex32
  let b ← Srv.random env.randomHex32
  let capability := "egc_" ++ a ++ b
  let _ ← (Srv.execute (.pruneCapabilities now)).mapErr (AppError.ofStatus 500)
  let _ ← (Srv.execute (.insertCapability
    { tokenHashHex := env.sha256Hex (utf8 capability), tenantId := tenant,
      agentId := req.agentId, method := method, url := req.url,
      bodyHashHex := asciiLower req.bodyHashHex, actionReceiptId := receipt.receiptId,
      expiresAt := expiresAt, usedAt := none })).mapErr (AppError.ofStatus 500)
  return capability

/-- `issue_egress_capability`; `signedAgent` is the `x-sauron-agent-id` header. -/
def issueEgressCapability (tenant signedAgent : String) (req : EgressCapabilityRequest) :
    Srv F AppError EgressCapabilityResponse := do
  .rejectIf (env.egressGateway = false) (.ofStatus 503 "egress gateway disabled")
  .rejectIf (signedAgent = "" ∨ signedAgent ≠ req.agentId)
    (.ofStatus 401 "capability agent_id does not match the signed caller")
  let target ← .ofExcept (checkEgressRequest env req)
  let claims ← verifyAjwtForTenant env req.ajwt tenant
    (.ofStatus 401 "invalid, expired, or wrong-tenant A-JWT")
  .rejectIf ((claims.getStr "agent_id").getD "" ≠ req.agentId)
    (.ofStatus 401 "A-JWT agent_id mismatch")
  let riskNow ← Srv.nowSecs
  (checkAndIncrement env (hashBucket env "egress_capability" [tenant, req.agentId]) riskNow
    env.limitEgressCapability).mapErr
      fun _ => AppError.ofStatus 429 "agent egress capability rate limit exceeded"
  let human ← .ofExcept (requireClaim claims "sub")
  let jti ← .ofExcept (requireClaim claims "jti")
  let exp ← .ofExcept (requireExp claims)
  let popJkt := ((claims.get "cnf").bind (·.getStr "jkt")).getD ""
  let intent ← .ofExcept (egressIntent env claims)
  let validated ← validateAgentAction env req.agentAction
    { tenantId := tenant, agentId := req.agentId, humanKeyImage := human, ajwtJti := jti,
      intent := some intent, expectedAction := "egress", expectedResource := some req.url,
      expectedMerchantId := target.2.host, expectedAmountMinor := some 0,
      expectedCurrency := some "", popJkt := some popJkt, status := "authorized" }
  let gateNow ← Srv.nowSecs
  gateActionOnBoundPolicy env tenant req.agentId
    (egressAction validated.receipt.receiptId target.1 target.2 gateNow)
  let now ← Srv.nowSecs
  let expiresAt := min (min exp req.agentAction.envelope.expiresAt) (now + 120)
  .rejectIf (expiresAt ≤ now) (.ofStatus 401 "capability would already be expired")
  let capability ← storeCapability env tenant target.1 req validated.receipt now expiresAt
  return ⟨capability, expiresAt, validated.receipt⟩

variable {env} {may : May F} {t : History F}

/-- The row is for the request, under a bearer value drawn right before. -/
structure IssuedFor (env : Env F) (tenant : String) (req : EgressCapabilityRequest)
    (t : History F) (row : CapabilityRow) : Prop where
  drawn : ∃ s₁ s₂ s₃ now t', t = (.write (.pruneCapabilities now), s₃) :: (.draw, s₂) ::
      (.draw, s₁) :: t' ∧
    row.tokenHashHex = env.sha256Hex (utf8 (capabilityText env s₁.drawn s₂.drawn))
  tenantId : row.tenantId = tenant
  agentId : row.agentId = req.agentId
  method : row.method = asciiUpper (trim req.method)
  url : row.url = req.url
  bodyHashHex : row.bodyHashHex = asciiLower req.bodyHashHex

variable {tenant : String} {req : EgressCapabilityRequest}

theorem storeCapability_yields {method : String}
    (hmethod : method = asciiUpper (trim req.method)) {receipt : ActionReceipt}
    {now expiresAt : ℤ} (hprune : ∀ t s, may t (.pruneCapabilities now) s)
    (hinsert : ∀ t' row s, t <:+ t' → IssuedFor env tenant req t' row →
      may t' (.insertCapability row) s) :
    (storeCapability env tenant method req receipt now expiresAt).Yields (srvRules may) t
      fun t' capability => ∃ t₁ row s n, t <:+ t₁ ∧
        t' = (.write (.insertCapability row), s) :: t₁ ∧ IssuedFor env tenant req t₁ row ∧
        row.tokenHashHex = env.sha256Hex (utf8 capability) ∧
        s.writeResult (.insertCapability row) = .ok n := by
  refine Srv.yields_random fun s₁ => Srv.yields_random fun s₂ => ?_
  refine .bind (.mapErr (Srv.yields_execute fun s₃ => ⟨hprune _ _, fun _ _ => ?_⟩))
  have ht : t <:+ (.write (.pruneCapabilities now), s₃) :: (.draw, s₂) :: (.draw, s₁) :: t :=
    List.suffix_append [_, _, _] t
  have hissued (receiptId : String) : IssuedFor env tenant req _
      { tokenHashHex := env.sha256Hex (utf8 (capabilityText env s₁.drawn s₂.drawn)),
        tenantId := tenant, agentId := req.agentId, method := method, url := req.url,
        bodyHashHex := asciiLower req.bodyHashHex, actionReceiptId := receiptId,
        expiresAt := expiresAt, usedAt := none } :=
    ⟨⟨s₁, s₂, s₃, now, t, rfl, rfl⟩, rfl, rfl, hmethod, rfl, rfl⟩
  refine .bind (.mapErr (Srv.yields_execute fun s =>
    ⟨hinsert _ _ _ ht (hissued _), fun n hn => ?_⟩))
  exact Prog.yields_pure ⟨_, _, s, n, ht, rfl, hissued _, rfl, hn⟩

omit [Float64 F] in
theorem method_of_checkEgressRequest {target : String × Url}
    (h : checkEgressRequest env req = .ok target) : target.1 = asciiUpper (trim req.method) := by
  simp only [checkEgressRequest] at h
  split at h
  · cases h
  · obtain ⟨url, -, h⟩ := exists_of_bind_eq_ok h
    split at h
    · cases h
    · split at h
      · cases h
      · exact (congrArg Prod.fst (Except.ok.inj h)).symm

/-- The capability is for an action that has its receipt and has passed the gate. -/
def GatedCapability (env : Env F) (t : History F) (row : CapabilityRow) : Prop :=
  (∃ r, r.tenantId = row.tenantId ∧ r.agentId = row.agentId ∧ StoresReceipt t r) ∧
    (env.policyMode = .enforce → ∃ action, Gated env row.tenantId row.agentId action t)

variable {signedAgent : String}

/-- A capability is issued only to an agent that was not revoked, for an egress that has its
receipt and that its bound policy has judged; it is stored only then, and last. -/
theorem issueEgressCapability_gated (hmay : UnguardedElsewhere may)
    (hstore : ∀ t r s, r.status = "authorized" → ReadsNow t r.timestamp →
      may t (.upsertReceipt r false) s) (hprune : ∀ t now s, may t (.pruneCapabilities now) s)
    (hinsert : ∀ t row s, GatedCapability env t row → IssuedFor env tenant req t row →
      may t (.insertCapability row) s) :
    (issueEgressCapability env tenant signedAgent req).Yields (srvRules may) t fun t' resp =>
      (SawActive tenant req.agentId t' ∧ (env.policyMode = .enforce → ∃ receiptId method url now,
          Mediated env tenant req.agentId (egressAction receiptId method url now) t')) ∧
      ∃ r t₁ row s n, r.toActionReceipt = resp.actionReceipt ∧ StoresReceipt t₁ r ∧
        t' = (.write (.insertCapability row), s) :: t₁ ∧ row.tenantId = r.tenantId ∧
        row.agentId = r.agentId ∧ s.writeResult (.insertCapability row) = .ok n ∧
        IssuedFor env tenant req t₁ row ∧
        row.tokenHashHex = env.sha256Hex (utf8 resp.capability) := by
  refine .rejectIf fun _ => .rejectIf fun _ => .ofExcept fun target htarget => ?_
  refine verifyAjwtForTenant_yields.andThen fun t₁ claims _ _ => .rejectIf fun _ => ?_
  refine Srv.yields_nowSecs fun s => (checkAndIncrement_yields
    (hmay.mayWrite rfl nofun nofun)).mapErr.andThen fun t₂ _ _ _ => ?_
  refine .ofExcept fun human _ => .ofExcept fun jti _ => .ofExcept fun exp _ =>
    .ofExcept fun intent _ => ?_
  refine (validateAgentAction_stores (hmay.mayWrite rfl nofun nofun)
    fun t' r s' _ hfor hnow => hstore t' r s' hfor.status hnow.readsNow).andThen
      fun t₃ validated _ hv => ?_
  obtain ⟨hsaw, r, hr, hfor, hstored⟩ := hv
  refine Srv.yields_nowSecs fun s => gate_yields_gated.andThen fun t₄ _ ht₄ hgate => ?_
  refine Srv.yields_nowSecs fun sNow => .rejectIf fun _ => ?_
  have ht₃ : t₃ <:+ (.clock, sNow) :: t₄ :=
    (List.suffix_cons _ _).trans (ht₄.trans (List.suffix_cons _ _))
  refine (storeCapability_yields (method_of_checkEgressRequest htarget)
    (fun _ _ => hprune _ _ _) fun t' row s' ht' hissued =>
    hinsert _ _ _ ⟨⟨r, ?_, ?_, hstored.mono (ht₃.trans ht')⟩, fun henf => ?_⟩ hissued).andThen
      fun t₅ _ ht₅ hcap => ?_
  · exact hfor.tenantId.trans hissued.tenantId.symm
  · exact hfor.agentId.trans hissued.agentId.symm
  · rw [hissued.tenantId, hissued.agentId]
    exact ⟨_, (hgate henf).mono ((List.suffix_cons _ _).trans ht')⟩
  obtain ⟨t₆, row, s', n, ht₆, rfl, hissued, hhash, hok⟩ := hcap
  refine Prog.yields_pure ⟨⟨hsaw.mono (ht₃.trans ht₅), fun henf => ⟨_, _, _, _,
    (hgate henf).mediated.mono ((List.suffix_cons _ _).trans ht₅)⟩⟩, r, t₆, row, s', n, hr,
      hstored.mono (ht₃.trans ht₆), rfl, ?_, ?_, hok, hissued, hhash⟩
  · exact hissued.tenantId.trans hfor.tenantId.symm
  · exact hissued.agentId.trans hfor.agentId.symm

/-- A capability is issued only to an agent that was not revoked, for an egress its
bound policy has judged. -/
theorem issueEgressCapability_yields (hmay : Unguarded may) :
    (issueEgressCapability env tenant signedAgent req).Yields (srvRules may) t fun t' _ =>
      SawActive tenant req.agentId t' ∧ (env.policyMode = .enforce → ∃ receiptId method url now,
          Mediated env tenant req.agentId (egressAction receiptId method url now) t') :=
  (issueEgressCapability_gated hmay.elsewhere
    (fun _ _ _ _ _ => hmay _ _ _ rfl) (fun _ _ _ => hmay _ _ _ rfl)
    (fun _ _ _ _ _ => hmay _ _ _ rfl)).mono fun _ _ h => h.1

/-! ## Statements on the capabilities -/

/-- What a statement can do to the capabilities. -/
inductive CapabilitiesStep : Label F → List CapabilityRow → List CapabilityRow → Prop
  | same {lbl : Label F} {rows : List CapabilityRow} : CapabilitiesStep lbl rows rows
  | prune {now : ℤ} {rows : List CapabilityRow} :
      CapabilitiesStep (.write (.pruneCapabilities now)) rows
        (rows.filter fun r => !(decide (r.expiresAt < now) || r.usedAt.isSome))
  | insert {row : CapabilityRow} {rows : List CapabilityRow} :
      CapabilitiesStep (.write (.insertCapability row)) rows (rows ++ [row])
  | use {now : ℤ} {hash tenant agentId method url body : String} {rows : List CapabilityRow} :
      CapabilitiesStep (.write (.useCapability now hash tenant agentId method url body)) rows
        (rows.map fun r => if r.usable now hash tenant agentId method url body then
          { r with usedAt := some now } else r)

theorem capabilitiesStep_of_effect {lbl : Label F} {s s' : World F} (heff : lbl.Effect s s') :
    CapabilitiesStep lbl s.db.capabilities s'.db.capabilities := by
  obtain ⟨t, ht, hsame⟩ | ⟨w, db, n, rfl, htable, happly, -, hdb⟩ :=
    heff.onTable .capabilities nofun
  · rw [hsame.capabilities ht]
    exact .same
  rw [hdb]
  cases w with
  | pruneCapabilities now =>
    cases happly
    exact .prune
  | insertCapability row =>
    simp only [Write.apply] at happly
    split at happly <;> cases happly
    exact .insert
  | useCapability now hash tenant agentId method url body =>
    cases happly
    exact .use
  | _ => cases htable

end SauronID.Request
