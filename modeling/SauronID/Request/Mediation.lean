import SauronID.Request.Authorize
import SauronID.Request.Capability
import SauronID.Request.Challenge
import SauronID.Request.Payment

/-!
# Which authorizations the bound policy has judged

A run of the four routes that authorize an agent: `/policy/authorize`,
`/agent/payment/authorize`, `/agent/action/challenge` and `/agent/egress/capability`.
The last three pass the gate, the first does not. `bound_policy_mediates` says that in
every run in which `/policy/authorize` is asked only about agents without a bound
policy, every authorization of an agent with one was judged by it, in the same request.
-/

namespace SauronID.Request

open Conc Text SauronID.Action Dsl

variable {F : Type} [Float64 F] (env : Env F)

/-- A request to one of the authorizing routes. -/
inductive GatedCall where
  | authorize (tenant : String) (body : PolicyAuthorizeBody)
  | payment (tenant : String) (body : AgentPaymentAuthorizeBody)
  | challenge (tenant : String) (body : AgentActionChallengeBody)
  | capability (tenant signedAgent : String) (req : EgressCapabilityRequest)

/-- The agent a route has answered for, and whether the answer authorizes it. -/
structure Answer where
  agentId : String
  granted : Bool
  deriving DecidableEq, Repr

def GatedCall.tenant : GatedCall → String
  | authorize tenant _ | payment tenant _ | challenge tenant _ | capability tenant _ _ => tenant

def GatedCall.prog : GatedCall → Srv F AppError Answer
  | authorize tenant body => do
    let resp ← policyAuthorize env tenant body
    return ⟨body.agentId, resp.allowed⟩
  | payment tenant body => do
    let resp ← agentPaymentAuthorize env tenant body
    return ⟨resp.agentId, true⟩
  | challenge tenant body => do
    let _ ← actionChallenge env tenant body
    return ⟨body.agentId, true⟩
  | capability tenant signedAgent req => do
    let _ ← issueEgressCapability env tenant signedAgent req
    return ⟨req.agentId, true⟩

/-- `/policy/authorize` is asked only about an agent without a bound policy. -/
def GatedCall.AsksUnbound (db : Db F) : GatedCall → Prop
  | authorize tenant body => boundPolicyId tenant body.agentId db = none
  | _ => True

/-- What a route asks the bound policy about. -/
def GatedCall.Asks : GatedCall → Dsl.Action F → Prop
  | authorize _ _ => fun _ => False
  | payment _ body => AsksForPayment env body
  | challenge _ body => fun action => ∃ now, action = challengeAction body now
  | capability _ _ _ => fun action =>
      ∃ receiptId method url now, action = egressAction receiptId method url now

variable {env}

/-- Every route but `/policy/authorize` has the bound policy judge what it authorizes. -/
theorem GatedCall.prog_yields (henf : env.policyMode = .enforce) (call : GatedCall) :
    (call.prog env).Yields (srvRules fun _ _ _ => True) [] fun t ans =>
      (∃ tenant body, call = .authorize tenant body ∧ ans.agentId = body.agentId) ∨
        ∃ action, call.Asks env action ∧ Mediated env call.tenant ans.agentId action t := by
  cases call with
  | authorize tenant body =>
    refine (policyAuthorize_yields (fun _ _ _ _ => trivial) fun _ _ _ _ _ _ _ _ _ =>
      trivial).andThen fun t' resp _ _ => ?_
    exact Prog.yields_pure (.inl ⟨tenant, body, rfl, rfl⟩)
  | payment tenant body =>
    refine (agentPaymentAuthorize_yields (fun _ _ _ _ => trivial) (fun _ _ _ _ _ _ _ => trivial)
      fun _ _ _ _ => trivial).andThen fun t' resp _ h => ?_
    exact Prog.yields_pure (.inr (h.2.2 henf))
  | challenge tenant body =>
    refine actionChallenge_yields.andThen fun t' resp _ h => ?_
    obtain ⟨now, hmed⟩ := h.2 henf
    exact Prog.yields_pure (.inr ⟨_, ⟨now, rfl⟩, hmed⟩)
  | capability tenant signedAgent req =>
    refine (issueEgressCapability_yields fun _ _ _ _ => trivial).andThen fun t' resp _ h => ?_
    obtain ⟨receiptId, method, url, now, hmed⟩ := h.2 henf
    exact Prog.yields_pure (.inr ⟨_, ⟨receiptId, method, url, now, rfl⟩, hmed⟩)

/-! ## Runs -/

/-- **Mediation.** In `Enforce` mode, whenever a request has succeeded for an agent that
has a bound policy, whatever it has answered, the request has had that policy judge the action
it asks for on the agent's spend, and the verdict was to allow. -/
theorem bound_policy_mediates (henf : env.policyMode = .enforce) (start : World F)
    (calls : List GatedCall) (hask : ∀ call ∈ calls, call.AsksUnbound start.db)
    (sched : List Event) {i : ℕ} {call : GatedCall} (hcall : calls[i]? = some call)
    {ans : Answer}
    (hres : ((Config.init start (calls.map (GatedCall.prog env))).run sched).result i =
      some (.ok ans))
    {policyId : String}
    (hbound : boundPolicyId call.tenant ans.agentId
      ((Config.init start (calls.map (GatedCall.prog env))).run sched).world.db =
        some policyId) :
    ∃ p ctx sSpend s, env.policyStore call.tenant policyId = some p ∧ call.Asks env ctx.action ∧
      ⟨i, .select (.spendTotal call.tenant policyId ans.agentId), sSpend⟩ ∈
        ((Config.init start (calls.map (GatedCall.prog env))).run sched).log ∧
      ctx.spendTotalUsd = spendTotal call.tenant ans.agentId sSpend.db policyId ∧
      evaluate p ctx = .allow ∧
      ⟨i, .judged call.tenant ans.agentId policyId true, s⟩ ∈
        ((Config.init start (calls.map (GatedCall.prog env))).run sched).log := by
  have hinit : BindingsKept start.db.bindings start [] := ⟨rfl, List.forall_mem_nil _⟩
  obtain ⟨hkept, hpost⟩ := (bindingsKept (C := fun _ _ => True) (fun _ _ _ _ => True) _).run_calls
    (fun _ call _ => GatedCall.prog_yields henf call) hinit sched (.of_true _)
  have hbound₀ : boundPolicyId call.tenant ans.agentId start.db = some policyId := by
    rwa [boundPolicyId, hkept.1] at hbound
  rcases hpost i call ans hcall hres with
    ⟨tenant, body, rfl, hagent⟩ | ⟨action, hasks, s, hs, hjudged⟩
  · -- The gate is not asked, but then the agent has no bound policy.
    have hnone := hask _ (List.mem_of_getElem? hcall)
    rw [hagent] at hbound₀
    cases hnone.symm.trans hbound₀
  · have hread := mem_threadTrace.1 hs
    have hs₀ : boundPolicyId call.tenant ans.agentId s.db = some policyId := by
      rwa [boundPolicyId, hkept.2 _ hread]
    obtain ⟨p, sSpend, sJudged, ctx, hstore, hspend, hj, rfl, htotal, hallow⟩ := hjudged _ hs₀
    exact ⟨p, ctx, sSpend, sJudged, hstore, hasks, mem_threadTrace.1 hspend, htotal, hallow,
      mem_threadTrace.1 hj⟩

/-! ## An agent that may only pay -/

/-- A policy that allows the tool `payment_initiation` and no other. -/
def payOnly : CompiledPolicy (sampleEngine ℚ) where
  policyId := "pol_1"
  agent := "agt_1"
  checks := [.allowlist ["payment_initiation"]]
  raw := { version := "1", agent := "agt_1",
           binding := { allowedTools := some ["payment_initiation"] }, invariants := [] }
  compiled := rfl

def payOnlyEnv : Env ℚ := { tokenEnv with policyStore := fun _ _ => some payOnly }

/-- The bank's agent is bound to the policy. -/
def payOnlyWorld : World ℚ :=
  World.steady { Db.empty ℚ with
    agents := [bankAgent], bindings := [⟨"default", "agt_1", "pol_1"⟩] } 1000

def proveAge : GatedCall :=
  .authorize "default" ⟨"agt_1", "prove_age", some "t1", some { sampleProof with
    envelope := { sampleProof.envelope with
      action := "prove_age", resource := "prove_age", ajwtJti := "t1" } }⟩

def initiatePayment : GatedCall :=
  .challenge "default" ⟨"agt_1", "owner", "payment_initiation", "", "", 100, "USD", "t1", 60⟩

/-- The run of one request, to its end. -/
def payOnlyRun (call : GatedCall) : SrvConfig ℚ AppError Answer :=
  (Config.init payOnlyWorld ([call].map (GatedCall.prog payOnlyEnv))).run
    (List.replicate 20 (.step 0))

/-- `/policy/authorize` allows an action that the bound policy forbids: no policy is
evaluated in the request. -/
theorem authorize_passes_no_gate :
    (payOnlyRun proveAge).result 0 = some (.ok ⟨"agt_1", true⟩) ∧
      boundPolicyId "default" "agt_1" (payOnlyRun proveAge).world.db = some "pol_1" ∧
      ¬ ∃ s, ⟨0, .judged "default" "agt_1" "pol_1" true, s⟩ ∈ (payOnlyRun proveAge).log := by
  refine ⟨by decide +kernel, by decide +kernel, ?_⟩
  rintro ⟨s, hs⟩
  have hnone : (payOnlyRun proveAge).log.all (fun e => !e.label.isJudged) = true := by
    decide +kernel
  simpa [Label.isJudged] using List.all_eq_true.1 hnone _ hs

theorem challenge_mediated :
    ∃ p ctx sSpend s, payOnlyEnv.policyStore "default" "pol_1" = some p ∧
      initiatePayment.Asks payOnlyEnv ctx.action ∧
      ⟨0, .select (.spendTotal "default" "pol_1" "agt_1"), sSpend⟩ ∈
        (payOnlyRun initiatePayment).log ∧
      ctx.spendTotalUsd = spendTotal "default" "agt_1" sSpend.db "pol_1" ∧
      evaluate p ctx = .allow ∧
      ⟨0, .judged "default" "agt_1" "pol_1" true, s⟩ ∈ (payOnlyRun initiatePayment).log := by
  have hask : ∀ call ∈ [initiatePayment], call.AsksUnbound payOnlyWorld.db := by
    simp [initiatePayment, GatedCall.AsksUnbound]
  have hres : (payOnlyRun initiatePayment).result 0 = some (.ok ⟨"agt_1", true⟩) := by
    decide +kernel
  have hbound : boundPolicyId "default" "agt_1" (payOnlyRun initiatePayment).world.db =
      some "pol_1" := by
    decide +kernel
  have henf : payOnlyEnv.policyMode = .enforce := rfl
  have hcall : [initiatePayment][0]? = some initiatePayment := rfl
  unfold payOnlyRun at hres hbound ⊢
  exact bound_policy_mediates henf payOnlyWorld [initiatePayment] hask _ hcall hres hbound

end SauronID.Request
