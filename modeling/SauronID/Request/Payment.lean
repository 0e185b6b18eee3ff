import Mathlib.Tactic.Linarith
import SauronID.Action.History
import SauronID.Policy.Gate
import SauronID.Request.Support

/-!
# Payments and spend

`POST /agent/payment/authorize` issues an authorization, `POST /agent/payment/consume`
redeems one, and `POST /v1/agents/:agent_id/spend` adds to the ledger that the budget
check reads. The first two do not touch the ledger.
-/

namespace SauronID.Request

open Conc Text SauronID.Action Dsl

variable {F : Type} [Float64 F] (env : Env F)

/-! ## The intent of a payment -/

/-- The strings of an array, trimmed and in lower case, without the empty ones. -/
def scopeStrings (xs : List Json) : List String :=
  (xs.filterMap fun v => v.asStr.map fun s => asciiLower (trim s)).filter (· ≠ "")

/-- `payment_scopes_from_intent` -/
def paymentScopesFromIntent (intent : Json) : List String :=
  match intent.getArray "scope", (intent.get "constraints").bind (·.getArray "scope") with
  | some xs, _ => scopeStrings xs
  | none, some xs => scopeStrings xs
  | none, none =>
    match intent.getStr "action" with
    | some action => [asciiLower (trim action)].filter (· ≠ "")
    | none => []

/-- A number of a JSON document as `f64`. -/
def asF64 : Json → Option F
  | .int i => some (Float64.ofInt i)
  | .float q => some (Float64.ofRat q)
  | _ => none

/-- The merchant must be on the intent's list, if it has one. -/
def checkMerchant (intent : Json) (merchantId : String) : Except AppError Unit :=
  match (intent.get "constraints").bind (·.getArray "merchant_allowlist") with
  | none => .ok ()
  | some allowlist =>
    if merchantId.isEmpty then
      .error (.ofStatus 403 "merchant_id is required by intent constraints.merchant_allowlist")
    else if allowlist.any fun m => m.asStr.any fun s => trim s ≠ "" && trim s == merchantId then
      .ok ()
    else .error (.ofStatus 403 s!"merchant_id '{merchantId}' is not allowed by intent")

/-- `enforce_strict_payment_intent` -/
def enforceStrictPaymentIntent (intent : Json) (amountMinor : ℤ) (currency merchantId : String) :
    Except AppError Unit := do
  if !(paymentScopesFromIntent intent).contains "payment_initiation" then
    throw (.ofStatus 403 "Intent scope must explicitly include payment_initiation")
  match (intent.get "maxAmount").bind (asF64 (F := F)) with
  | none => throw (.ofStatus 403 "Intent must define numeric maxAmount for payments")
  | some maxMajor =>
    if !(Float64.isFinite maxMajor && Float64.lt (Float64.ofInt 0) maxMajor) then
      throw (.ofStatus 403 "Intent maxAmount must be > 0")
    let maxMinor := Float64.roundI64 (Float64.mul maxMajor (Float64.ofInt 100))
    if maxMinor < amountMinor then
      throw (.ofStatus 403 (s!"Requested amount {amountMinor} exceeds intent maxAmount " ++
        s!"{Float64.display maxMajor} {currency} ({maxMinor} minor units)"))
  match (intent.getStr "currency").map fun s => asciiUpper (trim s) with
  | none => throw (.ofStatus 403 "Intent must define currency for payments")
  | some intentCurrency =>
    if intentCurrency ≠ currency then
      throw (.ofStatus 403
        s!"Requested currency {currency} does not match intent currency {intentCurrency}")
  checkMerchant intent merchantId

/-- A merchant that passes is on the intent's list, if it has one. -/
theorem merchant_mem_of_checkMerchant {intent : Json} {merchantId : String}
    (h : checkMerchant intent merchantId = .ok ()) {allowlist : List Json}
    (hlist : (intent.get "constraints").bind (·.getArray "merchant_allowlist") = some allowlist) :
    ∃ s, .str s ∈ allowlist ∧ trim s ≠ "" ∧ merchantId = trim s := by
  unfold checkMerchant at h
  rw [hlist] at h
  dsimp only at h
  split_ifs at h with hempty hany
  obtain ⟨m, hm, hs⟩ := List.any_eq_true.1 hany
  cases m with
  | str s =>
    simp only [Json.asStr, Option.any_some, Bool.and_eq_true, decide_eq_true_eq, beq_iff_eq] at hs
    exact ⟨s, hm, hs.1, hs.2.symm⟩
  | _ => cases hs

/-- What is no more than an amount rounded to a whole number of cents. -/
theorem le_of_le_roundI64 {amount : ℤ} {q : ℚ} (hq : 0 < q) (h : amount ≤ Float64.roundI64 q) :
    (amount : ℚ) ≤ q + 1 / 2 := by
  have hround : Float64.roundI64 q = satI64 (q + 1 / 2).floor := by
    simp only [Float64.roundI64, not_lt.2 hq.le, if_false]
  have hpos : 0 ≤ (q + 1 / 2).floor := by
    rw [Rat.le_floor_iff]
    push_cast
    linarith
  have hsat : satI64 (q + 1 / 2).floor ≤ (q + 1 / 2).floor := by
    unfold satI64
    omega
  rw [hround] at h
  exact Rat.le_floor_iff.1 (h.trans hsat)

/-- **The ceiling of an intent.** A payment that is let through, for exact amounts, is at most the
ceiling rounded to a whole number of minor units, and so at most the ceiling where that is one;
its currency is the intent's, trimmed and in upper case; and its merchant is one of the list, if
the intent has a list. -/
theorem payment_within_intent {intent : Json} {amountMinor : ℤ} {currency merchantId : String}
    (h : enforceStrictPaymentIntent (F := ℚ) intent amountMinor currency merchantId = .ok ()) :
    (∃ maxAmount : ℚ, (intent.get "maxAmount").bind asF64 = some maxAmount ∧
      (amountMinor : ℚ) ≤ 100 * maxAmount + 1 / 2 ∧
      ∀ n : ℤ, 100 * maxAmount = n → amountMinor ≤ n) ∧
    (∃ s, intent.getStr "currency" = some s ∧ currency = asciiUpper (trim s)) ∧
    ∀ allowlist, (intent.get "constraints").bind (·.getArray "merchant_allowlist") =
      some allowlist → ∃ s, .str s ∈ allowlist ∧ trim s ≠ "" ∧ merchantId = trim s := by
  unfold enforceStrictPaymentIntent at h
  dsimp only at h
  -- what was refused is not `ok`
  split_ifs at h with hscope
  · cases h
  split at h
  · cases h
  rename_i maxAmount hmax
  split at h
  · cases h
  rename_i hpos
  split at h
  · cases h
  rename_i hover
  split at h
  · cases h
  rename_i intentCurrency hcurrency
  split_ifs at h with hother
  · cases h
  have hpos : 0 < maxAmount := by simpa [Float64.isFinite, Float64.lt, Float64.ofInt] using hpos
  have hceiling : (amountMinor : ℚ) ≤ 100 * maxAmount + 1 / 2 := by
    have hhundred : (0 : ℚ) < Float64.ofInt 100 := by norm_num [Float64.ofInt]
    have hround := le_of_le_roundI64 (mul_pos hpos hhundred) (not_lt.1 hover)
    simpa [Float64.mul, Float64.ofInt, mul_comm] using hround
  refine ⟨⟨maxAmount, hmax, hceiling, fun n hn => ?_⟩, ?_, fun allowlist =>
    merchant_mem_of_checkMerchant h⟩
  · rw [hn] at hceiling
    have hlt : (amountMinor : ℚ) < (n + 1 : ℤ) := by
      push_cast
      linarith
    exact Int.lt_add_one_iff.1 (Int.cast_lt.1 hlt)
  · obtain ⟨s, hs, rfl⟩ := Option.map_eq_some_iff.1 hcurrency
    exact ⟨s, hs, (not_not.1 hother).symm⟩

/-- A payment intent in euros. -/
def euroIntent (maxAmount : Json) : Json :=
  .obj [("scope", .arr [.str "payment_initiation"]), ("maxAmount", maxAmount),
    ("currency", .str "eur"), ("constraints", .obj [("merchant_allowlist", .arr [.str " m1 "])])]

/-- Half a cent admits a payment of one. -/
theorem half_cent_rounded_up :
    enforceStrictPaymentIntent (F := ℚ) (euroIntent (.float (1 / 200))) 1 "EUR" "m1" = .ok () ∧
      ¬((1 : ℤ) : ℚ) ≤ 100 * (1 / 200) := by
  decide +kernel

/-- Five euros of a cap of five. -/
theorem five_euros_within_intent :
    enforceStrictPaymentIntent (F := ℚ) (euroIntent (.int 5)) 500 "EUR" "m1" = .ok () ∧
      ∃ maxAmount : ℚ, ((euroIntent (.int 5)).get "maxAmount").bind asF64 = some maxAmount ∧
        ∀ n : ℤ, 100 * maxAmount = n → 500 ≤ n := by
  have hok : enforceStrictPaymentIntent (F := ℚ) (euroIntent (.int 5)) 500 "EUR" "m1" = .ok () := by
    decide +kernel
  obtain ⟨⟨maxAmount, hmax, -, hwhole⟩, -, -⟩ := payment_within_intent hok
  exact ⟨hok, maxAmount, hmax, hwhole⟩

/-! ## Authorizing a payment -/

structure AgentPaymentAuthorizeBody where
  ajwt : String
  amountMinor : ℤ
  currency : String
  paymentRef : String
  merchantId : String
  popChallengeId : String
  popJws : String
  agentAction : AgentActionProof

structure AgentPaymentAuthorizeResponse where
  authorizationId : String
  agentId : String
  amountMinor : ℤ
  currency : String
  merchantId : String
  paymentRef : String
  assuranceLevel : String
  policyVersion : String
  actionReceipt : ActionReceipt
  expiresAt : ℤ
  riskWindowSecs : ℤ

/-- Minor units as US dollars. -/
def amountUsd (amountMinor : ℤ) : F :=
  Float64.div (Float64.ofInt amountMinor) (Float64.ofInt 100)

def checkPaymentBody (body : AgentPaymentAuthorizeBody) : Except AppError Unit := do
  let currency := asciiUpper (trim body.currency)
  refuseIf body.ajwt.isEmpty (.ofStatus 400 "ajwt is required")
  refuseIf (body.amountMinor ≤ 0) (.ofStatus 400 "amount_minor must be > 0")
  refuseIf ((trim body.paymentRef).isEmpty ∨ 128 < body.paymentRef.utf8ByteSize)
    (.ofStatus 400 "payment_ref is required (1..128 chars)")
  refuseIf (currency.utf8ByteSize ≠ 3 ∨ !currency.toList.all fun c => 'A' ≤ c && c ≤ 'Z')
    (.ofStatus 400 "currency must be a 3-letter ISO uppercase code")

/-- No action may be larger than the global ceiling, whatever the policy says. -/
def checkCeiling (amountMinor : ℤ) : Except AppError Unit :=
  match env.globalMaxActionUsd with
  | none => .ok ()
  | some maxUsd =>
    let amount := amountUsd (F := F) amountMinor
    if Float64.lt maxUsd amount then
      .error (.ofStatus 403 (s!"payment {Float64.fixed 2 amount} exceeds the global per-action " ++
        s!"ceiling {Float64.fixed 2 maxUsd} (SAURON_MAX_ACTION_USD)"))
    else .ok ()

def checkPaymentAgent (agent : AgentRow) (human : String) (now : ℤ)
    (body : AgentPaymentAuthorizeBody) : Except AppError Unit := do
  refuseIf (agent.revoked ≠ 0) (.ofStatus 401 "Agent has been revoked")
  refuseIf (agent.expiresAt < now) (.ofStatus 401 "Agent has expired")
  refuseIf (agent.humanKeyImage ≠ human) (.ofStatus 401 "Agent owner mismatch")
  refuseIf (agent.popJkt.isEmpty ∨ agent.popPublicKeyB64u.isEmpty)
    (.ofStatus 401 "Payment authorization requires PoP-enabled agent registration")
  refuseIf (body.popChallengeId.isEmpty ∨ body.popJws.isEmpty)
    (.ofStatus 401 ("Payment authorization requires pop_challenge_id and pop_jws from " ++
      "/agent/pop/challenge"))

/-- The action the bound policy is asked about. -/
def paymentAction (intent : Json) (jti currency merchantId : String) (amountMinor now : ℤ) :
    Dsl.Action F where
  actionId := "payauth-" ++ jti
  tool := ((intent.getStr "tool").or (intent.getStr "action")).getD "payment_initiation"
  amountUsd := some (amountUsd amountMinor)
  timestamp := now
  metadata := [("currency", .str currency), ("merchant_id", .str merchantId)]

/-- Store the authorization under a fresh id. -/
def insertPaymentAuthorization (row : String → PaymentAuthRow) : Srv F AppError PaymentAuthRow := do
  let rand ← Srv.random env.randomHex32
  let _ ← (Srv.execute (.insertPaymentAuth (row ("payauth_" ++ rand)))).mapErr fun e =>
    if isUniqueViolation e then AppError.ofStatus 409 "payment authorization already exists"
    else AppError.ofStatus 500 s!"DB error: {e}"
  return row ("payauth_" ++ rand)

/-- `agent_payment_authorize` -/
def agentPaymentAuthorize (tenant : String) (body : AgentPaymentAuthorizeBody) :
    Srv F AppError AgentPaymentAuthorizeResponse := do
  .ofExcept (checkPaymentBody body)
  let paymentRef := trim body.paymentRef
  let merchantId := trim body.merchantId
  let currency := asciiUpper (trim body.currency)
  let claims ← verifyAjwtForTenant env body.ajwt tenant (.ofStatus 401 "Invalid or expired A-JWT")
  let human ← .ofExcept (requireClaim claims "sub")
  let agentId ← .ofExcept (requireClaim claims "agent_id")
  .ofExcept (checkCeiling env body.amountMinor)
  let jti ← .ofExcept (requireClaim claims "jti")
  let exp ← .ofExcept (requireExp claims)
  let intent ← .ofExcept (parseAjwtIntentClaim env claims)
  let now ← Srv.nowSecs
  (checkAndIncrement env (hashBucket env "payment_authorize" [tenant, agentId]) now
    env.limitPaymentAuthorize).mapErr (AppError.ofStatus 429)
  let agent ← Srv.require (.agent tenant agentId) (findAgent tenant agentId)
    (.ofStatus 404 "Agent not found")
  .ofExcept (checkPaymentAgent agent human now body)
  let challenge ← (takePopChallenge body.popChallengeId agentId).mapErr (AppError.ofStatus 401)
  .ofExcept ((verifyEd25519PopJws env challenge body.popJws agent.popPublicKeyB64u).mapError
    (AppError.ofStatus 401))
  let decision := authorizeAction (.fromDb agent.assuranceLevel) "payment_initiation"
  .rejectIf (decision.allowed = false)
    (.ofStatus 403 s!"Policy denied payment_initiation: {decision.reason}")
  gateActionOnBoundPolicy env tenant agentId
    (paymentAction intent jti currency merchantId body.amountMinor now)
  .ofExcept (enforceStrictPaymentIntent (F := F) intent body.amountMinor currency merchantId)
  let validated ← validateAgentAction env body.agentAction
    { tenantId := tenant, agentId := agentId, humanKeyImage := human, ajwtJti := jti,
      intent := some intent, expectedAction := "payment_initiation",
      expectedResource := some paymentRef, expectedMerchantId := some merchantId,
      expectedAmountMinor := some body.amountMinor, expectedCurrency := some currency,
      popJkt := some agent.popJkt, status := "accepted" }
  (consumeAjwtJti jti exp).mapErr (AppError.ofStatus 401)
  let expiresAt := min exp (now + 300)
  let row ← insertPaymentAuthorization env fun authId =>
    { authId := authId, tenantId := tenant, agentId := agentId, jti := jti,
      amountMinor := body.amountMinor, currency := currency, merchantId := merchantId,
      paymentRef := paymentRef, createdAt := now, expiresAt := expiresAt, consumed := 0 }
  return { authorizationId := row.authId, agentId := agentId, amountMinor := body.amountMinor,
           currency := currency, merchantId := merchantId, paymentRef := paymentRef,
           assuranceLevel := agent.assuranceLevel, policyVersion := kyaPolicyMatrixVersion,
           actionReceipt := validated.receipt, expiresAt := expiresAt,
           riskWindowSecs := env.riskWindowSecs }

/-! ## Redeeming an authorization -/

/-- `agent_payment_consume`; `signer` is the `x-sauron-agent-id` header. The result is the
id of the redeemed authorization. -/
def agentPaymentConsume (tenant signer authorizationId : String) : Srv F AppError String := do
  let authId := trim authorizationId
  .rejectIf (authId.isEmpty ∨ 128 < authId.utf8ByteSize)
    (.detailed 400 "authorization_id_invalid" "authorization_id is required (1..128 chars)")
  let owner ← (Srv.select .other fun db =>
    (db.paymentAuths.find? fun r => r.tenantId == tenant && r.authId == authId).map
      (·.agentId)).mapErr AppError.internal
  match owner with
  | none => .fail (.detailed 404 "authorization_not_found"
      "no such payment authorization in this tenant")
  | some agentId =>
    .rejectIf (agentId ≠ signer) (.detailed 403 "authorization_not_yours"
      "payment authorization belongs to a different agent")
    let now ← Srv.nowSecs
    let rows ← (Srv.execute (.consumePaymentAuth tenant authId now)).mapErr AppError.internal
    .rejectIf (rows = 0) (.detailed 409 "authorization_already_consumed"
      "Authorization already consumed or expired")
    return authId

/-! ## Recording spend -/

structure RecordSpendBody (F : Type) where
  policyId : String
  amountUsd : F

structure RecordSpendResponse (F : Type) where
  logId : String
  newTotalUsd : F

def checkSpend (agentId : String) (body : RecordSpendBody F) : Except AppError Unit := do
  refuseIf agentId.isEmpty (.badRequest "agent_id required")
  refuseIf body.policyId.isEmpty (.badRequest "policy_id required")
  refuseIf (!Float64.isFinite body.amountUsd) (.badRequest "amount_usd must be a finite number")
  refuseIf (Float64.lt body.amountUsd (Float64.ofInt 0))
    (.badRequest "amount_usd must be non-negative")
  refuseIf (Float64.lt (Float64.ofInt 1000000) body.amountUsd)
    (.badRequest "amount_usd exceeds sanity cap of 1000000")

/-- `record_spend_inner_tenant` -/
def recordSpend (tenant agentId : String) (body : RecordSpendBody F) :
    Srv F AppError (RecordSpendResponse F) := do
  .ofExcept (checkSpend agentId body)
  let now ← Srv.nowSecs
  let rand ← Srv.random env.randomHex32
  let logId := "splog_" ++ rand
  let _ ← (Srv.execute (.recordSpend
    { logId := logId, tenantId := tenant, policyId := body.policyId, agentId := agentId,
      amountUsd := body.amountUsd, recordedAt := now, source := "sdk_flush" } 0)).mapErr
        fun e => AppError.internal s!"ledger backend: spend_log insert: {e}"
  let total ← (Srv.select (.spendTotal tenant body.policyId agentId)
    (spendTotal tenant agentId · body.policyId)).mapErr
      fun e => AppError.internal s!"ledger backend: {e}"
  return ⟨logId, total⟩

/-! ## Specifications -/

variable {env} {may : May F} {t : History F}

/-- What the history of a request must say before it stores an authorization: the bound
policy of the agent has judged a payment of this amount. -/
def PaymentJudged (env : Env F) (t : History F) (row : PaymentAuthRow) : Prop :=
  0 < row.amountMinor ∧ (env.policyMode = .enforce →
    ∃ action, action.amountUsd = some (amountUsd row.amountMinor) ∧
      Mediated env row.tenantId row.agentId action t)

variable {body : AgentPaymentAuthorizeBody}

omit [Float64 F] in
theorem checkPaymentBody_ok (h : checkPaymentBody body = .ok ()) : 0 < body.amountMinor := by
  simp only [checkPaymentBody, refuseIf_bind_eq_ok, not_le] at h
  exact h.2.1

omit [Float64 F] in
theorem checkPaymentAgent_ok {agent : AgentRow} {human : String} {now : ℤ}
    (h : checkPaymentAgent agent human now body = .ok ()) : agent.revoked = 0 := by
  simp only [checkPaymentAgent, refuseIf_bind_eq_ok, not_not] at h
  exact h.1

theorem insertPaymentAuthorization_yields {row : String → PaymentAuthRow}
    (hrow : ∀ t' s authId, t <:+ t' → may t' (.insertPaymentAuth (row authId)) s) :
    (insertPaymentAuthorization env row).Yields (srvRules may) t fun _ r =>
      ∃ authId, r = row authId := by
  refine Srv.yields_random fun s => .bind (.mapErr (Srv.yields_execute fun s' =>
    ⟨hrow _ _ _ (List.suffix_cons _ _), fun n _ => ?_⟩))
  exact Prog.yields_pure ⟨_, rfl⟩

/-- The action is the one the bound policy is asked about for a payment request. -/
def AsksForPayment (env : Env F) (body : AgentPaymentAuthorizeBody) (action : Dsl.Action F) :
    Prop :=
  ∃ intent jti now, tokenIntent env body.ajwt = some intent ∧
    action = paymentAction intent jti (asciiUpper (trim body.currency)) (trim body.merchantId)
      body.amountMinor now

/-- The receipt is of an action that had passed the gate when its time was read. -/
def GatedReceipt (env : Env F) (t : History F) (r : ReceiptRow) : Prop :=
  ∃ action t₁, (env.policyMode = .enforce → Gated env r.tenantId r.agentId action t₁) ∧
    ReadsNowAfter t₁ t r.timestamp

variable {tenant : String}

/-- An authorization is issued only to an agent that was not revoked, for a payment its
bound policy has judged and that has its receipt, and uses up the token; the receipt and
the authorization are stored only then. -/
theorem agentPaymentAuthorize_gated (hmay : UnguardedElsewhere may)
    (hjti : MayConsume env may body.ajwt)
    (hstore : ∀ t r s, GatedReceipt env t r → may t (.upsertReceipt r false) s)
    (hpay : ∀ t row s, PaymentJudged env t row → may t (.insertPaymentAuth row) s) :
    (agentPaymentAuthorize env tenant body).Yields (srvRules may) t fun t' resp =>
      (SawActive tenant resp.agentId t' ∧ Consumed env body.ajwt t' ∧
        (env.policyMode = .enforce → ∃ action,
          AsksForPayment env body action ∧ Mediated env tenant resp.agentId action t')) ∧
      ∃ r, r.toActionReceipt = resp.actionReceipt ∧ r.status = "accepted" ∧ StoresReceipt t' r := by
  refine .ofExcept fun _ hbody => ?_
  refine verifyAjwtForTenant_yields.andThen fun t₁ claims _ ⟨header, hdecode⟩ => ?_
  refine .ofExcept fun human _ => .ofExcept fun agentId _ => .ofExcept fun _ _ => ?_
  refine .ofExcept fun jti hj => .ofExcept fun exp hexp => ?_
  have huse := tokenUse_of_claims hdecode hj hexp
  refine .ofExcept fun intent hintent => Srv.yields_nowSecs fun sNow => ?_
  refine (checkAndIncrement_yields (hmay.mayWrite rfl nofun nofun)).mapErr.andThen
    fun t₂ _ _ _ => ?_
  refine Srv.yields_require fun s agent _ hagent => .ofExcept fun _ hactive => ?_
  have hsaw : SawActive tenant agentId ((.select (.agent tenant agentId), s) :: t₂) :=
    .of_findAgent (.head _) hagent (checkPaymentAgent_ok hactive)
  have hdelete : MayWrite .popChallenges may := hmay.mayWrite rfl nofun nofun
  refine (takePopChallenge_yields fun t s => hdelete t _ s rfl).mapErr.andThen
    fun t₃ challenge ht₃ _ => ?_
  refine .ofExcept fun _ _ => .rejectIf fun _ =>
    gate_yields_gated.andThen fun t₄ _ ht₄ hgate => ?_
  refine .ofExcept fun _ _ => (validateAgentAction_stores (hmay.mayWrite rfl nofun nofun)
    fun t' r s' _ hfor hnow => hstore t' r s' ?_).andThen fun t₅ v ht₅ hv => ?_
  · have htenant : r.tenantId = tenant := hfor.tenantId
    have hagent : r.agentId = agentId := hfor.agentId
    rw [← htenant, ← hagent] at hgate
    exact ⟨_, t₄, hgate, hnow⟩
  obtain ⟨-, r, hr, hfor, hstored⟩ := hv
  refine (consumeAjwtJti_yields hjti huse).mapErr.andThen fun t₆ _ ht₆ hused => ?_
  refine (insertPaymentAuthorization_yields fun t' s authId ht' => hpay _ _ _ ?_).andThen
    fun t₇ row ht₇ _ => Prog.yields_pure ⟨⟨?_, hused.mono ht₇, fun henf => ?_⟩, r, hr,
      hfor.status, hstored.mono (ht₆.trans ht₇)⟩
  · refine ⟨checkPaymentBody_ok hbody, fun henf => ⟨_, rfl, (hgate henf).mediated.mono ?_⟩⟩
    exact ht₅.trans (ht₆.trans ht')
  · exact hsaw.mono (ht₃.trans (ht₄.trans (ht₅.trans (ht₆.trans ht₇))))
  · exact ⟨_, ⟨intent, jti, _, tokenIntent_of_claims hdecode hintent, rfl⟩,
      (hgate henf).mediated.mono (ht₅.trans (ht₆.trans ht₇))⟩

/-- An authorization is issued only to an agent that was not revoked, for a payment its
bound policy has judged, and uses up the token; it is stored only then. -/
theorem agentPaymentAuthorize_yields (hmay : Unguarded may) (hjti : MayConsume env may body.ajwt)
    (hpay : ∀ t row s, PaymentJudged env t row → may t (.insertPaymentAuth row) s) :
    (agentPaymentAuthorize env tenant body).Yields (srvRules may) t fun t' resp =>
      SawActive tenant resp.agentId t' ∧ Consumed env body.ajwt t' ∧
        (env.policyMode = .enforce → ∃ action,
          AsksForPayment env body action ∧ Mediated env tenant resp.agentId action t') :=
  (agentPaymentAuthorize_gated hmay.elsewhere hjti (fun _ _ _ _ => hmay _ _ _ rfl) hpay).mono
    fun _ _ h => h.1

theorem agentPaymentConsume_yields
    (hconsume : ∀ t tenant authId now s, may t (.consumePaymentAuth tenant authId now) s)
    {signer authorizationId : String} :
    (agentPaymentConsume tenant signer authorizationId).Yields (srvRules may) t
      fun _ _ => True := by
  refine .rejectIf fun _ => .bind (.mapErr (Srv.yields_select fun s _ => ?_))
  split
  · exact Prog.yields_fail
  · refine .rejectIf fun _ => Srv.yields_nowSecs fun sNow => ?_
    refine .bind (.mapErr (Srv.yields_execute fun s' => ⟨hconsume _ _ _ _ _, fun n _ => ?_⟩))
    exact .rejectIf fun _ => Prog.yields_pure trivial

theorem recordSpend_yields (hmay : Unguarded may) {agentId : String} {body : RecordSpendBody F} :
    (recordSpend env tenant agentId body).Yields (srvRules may) t fun _ _ => True := by
  refine .ofExcept fun _ _ => Srv.yields_nowSecs fun sNow => Srv.yields_random fun s => ?_
  refine .bind (.mapErr (Srv.yields_execute fun s' => ⟨hmay _ _ _ rfl, fun n _ => ?_⟩))
  exact .bind (.mapErr (Srv.yields_select fun s'' _ => Prog.yields_pure trivial))

end SauronID.Request
