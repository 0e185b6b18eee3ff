import SauronID.Request.Mediation

/-!
# Which tool a payment is judged as

A policy can forbid tools by name. Of a payment the gate is told a tool that the agent's
intent document names, `payment_initiation` only if it names none, while the action that
is authorized is `payment_initiation` in every case. `tool_restrictions_bind_payments`
says that the restrictions of the bound policy bind exactly the tool that is named.
-/

namespace SauronID.Request

open Conc Text SauronID.Action Dsl

variable {F : Type}

/-- The limits keep an agent from using the tool. -/
def RefusesTool (limits : Binding F) (tool : String) : Prop :=
  (∃ tools, limits.toolDenylist = some tools ∧ tool ∈ tools) ∨
    ∃ tools, limits.allowedTools = some tools ∧ tool ∉ tools

/-- The tool an intent document names. -/
def intentTool (intent : Json) : String :=
  ((intent.getStr "tool").or (intent.getStr "action")).getD "payment_initiation"

/-- A check of the tool by its name. -/
def readsTool : RuntimeCheck F → Bool
  | .allowlist _ | .toolDenylist _ => true
  | _ => false

variable [Float64 F] {env : Env F}

theorem AsksForPayment.tool_eq {body : AgentPaymentAuthorizeBody} {action : Dsl.Action F}
    {intent : Json} (h : AsksForPayment env body action)
    (hintent : tokenIntent env body.ajwt = some intent) : action.tool = intentTool intent := by
  obtain ⟨intent', jti, now, hintent', rfl⟩ := h
  rw [hintent, Option.some.injEq] at hintent'
  rw [hintent']
  rfl

variable {engine : Engine F}

/-- The checks of the tool deny exactly what the limits refuse. -/
theorem exists_denies_iff (p : CompiledPolicy engine) (ctx : EvaluationContext F) :
    (∃ c ∈ p.checks, readsTool c = true ∧ c.evaluate engine ctx ≠ .allow) ↔
      RefusesTool p.raw.binding ctx.action.tool := by
  constructor
  · rintro ⟨c, hc, hreads, hdenies⟩
    cases c with
    | allowlist tools =>
      refine .inr ⟨tools, p.allowlist_mem.1 hc, fun hmem => hdenies ?_⟩
      simp [RuntimeCheck.evaluate, denyIf, hmem]
    | toolDenylist tools =>
      refine .inl ⟨tools, p.toolDenylist_mem.1 hc, by_contra fun hmem => hdenies ?_⟩
      simp [RuntimeCheck.evaluate, denyIf, hmem]
    | _ => cases hreads
  · rintro (⟨tools, htools, hmem⟩ | ⟨tools, htools, hmem⟩)
    · refine ⟨.toolDenylist tools, p.toolDenylist_mem.2 htools, rfl, ?_⟩
      simp [RuntimeCheck.evaluate, denyIf, hmem]
    · refine ⟨.allowlist tools, p.allowlist_mem.2 htools, rfl, ?_⟩
      simp [RuntimeCheck.evaluate, denyIf, hmem]

theorem evaluate_ne_allow {p : CompiledPolicy engine} {ctx : EvaluationContext F}
    (h : RefusesTool p.raw.binding ctx.action.tool) : evaluate p ctx ≠ .allow := by
  obtain ⟨c, hc, -, hdenies⟩ := (exists_denies_iff p ctx).2 h
  exact fun hallow => hdenies (evaluateChecks_eq_allow.1 hallow c hc)

/-- **Tool restrictions and payments.** In `Enforce` mode no payment request succeeds for
an agent whose bound policy refuses the tool that the request's intent names, in any run of
the authorizing routes; and the tool checks of the policy have nothing against any other
payment, whether or not the policy refuses `payment_initiation`. -/
theorem tool_restrictions_bind_payments (henf : env.policyMode = .enforce) (start : World F)
    (calls : List GatedCall) (sched : List Event) {i : ℕ} {tenant : String}
    {body : AgentPaymentAuthorizeBody} (hcall : calls[i]? = some (.payment tenant body))
    {agentId policyId : String} (hbound : boundPolicyId tenant agentId start.db = some policyId)
    {p : CompiledPolicy env.engine} (hstore : env.policyStore tenant policyId = some p)
    {intent : Json} (hintent : tokenIntent env body.ajwt = some intent) :
    (RefusesTool p.raw.binding (intentTool intent) → ∀ ans : Answer, ans.agentId = agentId →
      ((Config.init start (calls.map (GatedCall.prog env))).run sched).result i ≠
        some (.ok ans)) ∧
    ∀ action ctx, AsksForPayment env body action → ctx.action = action →
      ((∃ c ∈ p.checks, readsTool c = true ∧ c.evaluate env.engine ctx ≠ .allow) ↔
        RefusesTool p.raw.binding (intentTool intent)) := by
  constructor
  · rintro hrefuses ans rfl hres
    have hinit : BindingsKept start.db.bindings start [] := ⟨rfl, List.forall_mem_nil _⟩
    obtain ⟨hkept, hpost⟩ := (bindingsKept (C := fun _ _ => True) (fun _ _ _ _ => True) _).run_calls
      (fun _ call _ => GatedCall.prog_yields henf call) hinit sched (.of_true _)
    rcases hpost i _ ans hcall hres with ⟨tenant, body, hother, -⟩ | ⟨action, hasks, s, hs, hjudged⟩
    · cases hother
    · have hs₀ : boundPolicyId tenant ans.agentId s.db = some policyId := by
        rwa [boundPolicyId, hkept.2 _ (mem_threadTrace.1 hs)]
      obtain ⟨p', -, -, ctx, hstore', -, -, hctx, -, hallow⟩ := hjudged _ hs₀
      cases hstore.symm.trans hstore'
      refine evaluate_ne_allow ?_ hallow
      rwa [hctx, AsksForPayment.tool_eq hasks hintent]
  · rintro action ctx hasks rfl
    rw [exists_denies_iff, AsksForPayment.tool_eq hasks hintent]

/-! ## A policy without payments -/

/-- A policy that forbids the tool `payment_initiation`. -/
def noPayments : CompiledPolicy (sampleEngine ℚ) where
  policyId := "pol_1"
  agent := "agt_1"
  checks := [.toolDenylist ["payment_initiation"]]
  raw := { version := "1", agent := "agt_1",
           binding := { toolDenylist := some ["payment_initiation"] }, invariants := [] }
  compiled := rfl

/-- An intent to pay up to 1000 USD, with further fields. -/
def paymentIntent (fields : List (String × Json)) : Json :=
  .obj (fields ++ [("scope", .arr [.str "payment_initiation"]), ("maxAmount", .int 1000),
    ("currency", .str "USD")])

/-- Every token is the sample agent's, with the given intent. -/
def intentEnv (intent : Json) : Env ℚ :=
  { tokenEnv with
    policyStore := fun _ _ => some noPayments
    decodeAjwt := fun token => some (sampleHeader,
      match sampleClaims token with
      | .obj fields => .obj (("intent", intent) :: fields.filter fun p => p.1 != "intent")
      | claims => claims) }

/-- The bank's agent is bound to the policy and has a proof-of-possession challenge. -/
def noPaymentsWorld : World ℚ :=
  World.steady { Db.empty ℚ with
    agents := [bankAgent], bindings := [⟨"default", "agt_1", "pol_1"⟩],
    popChallenges := [⟨"pop_1", "agt_1", "c1", 100⟩] } 1000

/-- A payment of 60 USD. -/
def sixtyUsd : AgentPaymentAuthorizeBody :=
  { ajwt := "t1", amountMinor := 6000, currency := "USD", paymentRef := "ref", merchantId := "",
    popChallengeId := "pop_1", popJws := samplePopJws "c1",
    agentAction := { sampleProof with
      envelope := { sampleProof.envelope with
        action := "payment_initiation", resource := "ref", amountMinor := 6000,
        currency := "USD", ajwtJti := "t1" } } }

def noPaymentsRun (intent : Json) : SrvConfig ℚ AppError Answer :=
  (Config.init noPaymentsWorld
    ([.payment "default" sixtyUsd].map (GatedCall.prog (intentEnv intent)))).run
    (List.replicate 40 (.step 0))

/-- An intent that names no tool is refused. -/
theorem payment_refused_without_tool :
    (noPaymentsRun (paymentIntent [])).result 0 ≠ some (.ok ⟨"agt_1", true⟩) := by
  have henf : (intentEnv (paymentIntent [])).policyMode = .enforce := rfl
  have hstore : (intentEnv (paymentIntent [])).policyStore "default" "pol_1" =
      some noPayments := rfl
  have hintent : tokenIntent (intentEnv (paymentIntent [])) sixtyUsd.ajwt =
      some (paymentIntent []) := rfl
  refine (tool_restrictions_bind_payments henf noPaymentsWorld [.payment "default" sixtyUsd]
    (List.replicate 40 (.step 0)) (i := 0) rfl (by decide +kernel) hstore hintent).1 ?_
    ⟨"agt_1", true⟩ rfl
  exact .inl ⟨["payment_initiation"], rfl, by decide +kernel⟩

/-- An intent that names another tool is paid for. -/
theorem payment_named_otherwise :
    (noPaymentsRun (paymentIntent [("tool", .str "web_search")])).result 0 =
      some (.ok ⟨"agt_1", true⟩) ∧
    (intentEnv (paymentIntent [("tool", .str "web_search")])).policyMode = .enforce ∧
    boundPolicyId "default" "agt_1" noPaymentsWorld.db = some "pol_1" ∧
    (intentEnv (paymentIntent [("tool", .str "web_search")])).policyStore "default" "pol_1" =
      some noPayments ∧
    RefusesTool noPayments.raw.binding "payment_initiation" :=
  ⟨by decide +kernel, rfl, by decide +kernel, rfl, .inl ⟨_, rfl, by decide⟩⟩

end SauronID.Request
