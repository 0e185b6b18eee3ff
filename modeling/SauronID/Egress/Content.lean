import SauronID.Egress.Proxy
import SauronID.Policy.FailClosed
import SauronID.Request.Capability
import SauronID.Request.Challenge

/-!
# Rules on the destination and the content of a call

An agent asks its bound policy three times before a call goes out: for a challenge, for
a capability and at the proxy. Only the proxy describes the call completely. The other
two leave entries of the metadata out, and an allowlist denies an action without the
entry it looks for. `egress_gates_pass_iff` says which policies let a call through all
three gates that they allow when it is fully described.
-/

namespace SauronID.Egress

open Conc Text Dsl Request

variable {F : Type} [Float64 F]

/-! ## What the rules read -/

/-- The policy has rules on the destination and the content of a call, and no others. -/
def ContentRulesOnly (policy : Policy F) : Prop :=
  policy.invariants = [] ∧
  policy.binding =
    { domainAllowlist := policy.binding.domainAllowlist
      domainDenylist := policy.binding.domainDenylist
      contentTypeAllowlist := policy.binding.contentTypeAllowlist
      maxPayloadBytes := policy.binding.maxPayloadBytes
      piiBlock := policy.binding.piiBlock }

/-- The entries of the metadata these rules read. -/
def contentKeys : List String :=
  ["target_domain", "content_type", "payload_bytes", "pii_detected", "payload"]

/-- `a` says of a call what `full` says of it, or nothing. -/
def SaysPartOf (a full : Action F) : Prop :=
  ∀ key ∈ contentKeys, a.meta? key = none ∨ a.meta? key = full.meta? key

omit [Float64 F]

theorem SaysPartOf.read {a full : Action F} (h : SaysPartOf a full) (key : String)
    (hkey : key ∈ contentKeys) {α : Type} (f : Json → Option α) :
    (a.meta? key).bind f = none ∨ (a.meta? key).bind f = (full.meta? key).bind f := by
  rcases h key hkey with hk | hk <;> simp [hk]

theorem metaAllowlist_eq_allow {check key noun : String} {normal : String → String}
    {allowed : List String} {a : Action F} :
    metaAllowlist check key noun normal allowed a = .allow ↔
      ∃ raw, a.metaStr key = some raw ∧ normal raw ∈ allowed := by
  unfold metaAllowlist
  cases a.metaStr key <;> simp [denyIf]

section Rules

variable [Float64 F] {engine : Engine F} {p : CompiledPolicy engine}
  {ctx ctx' : EvaluationContext F}

/-- What is not said is on no deny list and over no cap. -/
theorem evaluate_of_saysPart (hpart : SaysPartOf ctx'.action ctx.action) {c : RuntimeCheck F}
    (hc : (∃ ds, c = .domainDenylist ds) ∨ (∃ n, c = .payloadSize n) ∨ c = .piiDetection)
    (h : c.evaluate engine ctx = .allow) : c.evaluate engine ctx' = .allow := by
  rcases hc with ⟨ds, rfl⟩ | ⟨n, rfl⟩ | rfl <;> simp only [RuntimeCheck.evaluate] at h ⊢
  · rcases hpart.read "target_domain" (by decide) Json.asStr with hk | hk <;>
      simp only [Action.metaStr, hk]
    exact h
  · rcases hpart.read "payload_bytes" (by decide) Json.asU64 with hk | hk <;>
      simp only [Action.metaU64, hk]
    exact h
  · have hno : ctx.action.metaBool "pii_detected" ≠ some true := fun hyes => by simp [hyes] at h
    have hno' : ctx'.action.metaBool "pii_detected" ≠ some true := by
      rcases hpart.read "pii_detected" (by decide) Json.asBool with hk | hk <;>
        rw [Action.metaBool, hk]
      · simp
      · exact hno
    rw [if_neg hno] at h
    rw [if_neg hno']
    rcases hpart.read "payload" (by decide) Json.asStr with hk | hk <;>
      simp only [Action.metaStr, hk]
    exact h

omit [Float64 F] in
/-- An allowlist lets through what says the listed value, and what leaves it out not. -/
theorem metaAllowlist_of_saysPart (hpart : SaysPartOf ctx'.action ctx.action)
    {check key noun : String} {normal : String → String} {allowed : List String}
    (hkey : key ∈ contentKeys)
    (h : metaAllowlist check key noun normal allowed ctx.action = .allow) :
    metaAllowlist check key noun normal allowed ctx'.action = .allow ↔
      ctx'.action.meta? key ≠ none := by
  rw [metaAllowlist_eq_allow] at h ⊢
  rcases hpart key hkey with hk | hk
  · simp [Action.metaStr, hk]
  · obtain ⟨raw, hraw, hmem⟩ := h
    rw [Action.metaStr, ← hk] at hraw
    refine iff_of_true ⟨raw, hraw, hmem⟩ fun hnone => ?_
    simp [hnone] at hraw

theorem ContentRulesOnly.evaluate_eq_allow (hp : ContentRulesOnly p.raw) : evaluate p ctx = .allow ↔
      (∀ ds, p.raw.binding.domainDenylist = some ds →
        (RuntimeCheck.domainDenylist (ds.map asciiLower)).evaluate engine ctx = .allow) ∧
      (∀ ds, p.raw.binding.domainAllowlist = some ds →
        (RuntimeCheck.domainAllowlist (ds.map asciiLower)).evaluate engine ctx = .allow) ∧
      (∀ n, p.raw.binding.maxPayloadBytes = some n →
        (RuntimeCheck.payloadSize n).evaluate engine ctx = .allow) ∧
      (∀ cts, p.raw.binding.contentTypeAllowlist = some cts →
        (RuntimeCheck.contentType (cts.map asciiLower)).evaluate engine ctx = .allow) ∧
      (p.raw.binding.piiBlock = some true →
        RuntimeCheck.piiDetection.evaluate engine ctx = .allow) := by
  obtain ⟨hinv, hbinding⟩ := hp
  rw [evaluate, evaluateChecks_eq_allow, p.checks_eq (by rw [hbinding]) (by rw [hbinding]) hinv]
  generalize p.raw.binding = b at hbinding ⊢
  rw [hbinding]
  simp [orderedChecks, or_imp, forall_and, forall_mem_optional]

/-- Of an action that says part of what an allowed action says, the rules allow exactly
those that say what the allowlists look for. -/
theorem ContentRulesOnly.evaluate_part_iff (hp : ContentRulesOnly p.raw)
    (hallow : evaluate p ctx = .allow) (hpart : SaysPartOf ctx'.action ctx.action) :
    evaluate p ctx' = .allow ↔
      (p.raw.binding.domainAllowlist ≠ none → ctx'.action.meta? "target_domain" ≠ none) ∧
      (p.raw.binding.contentTypeAllowlist ≠ none → ctx'.action.meta? "content_type" ≠ none) := by
  obtain ⟨hdeny, hdomain, hsize, htype, hpii⟩ := hp.evaluate_eq_allow.1 hallow
  have hsame (c : RuntimeCheck F) : _ → c.evaluate engine ctx = .allow →
      c.evaluate engine ctx' = .allow := evaluate_of_saysPart hpart
  rw [hp.evaluate_eq_allow]
  constructor
  · rintro ⟨-, hdomain', -, htype', -⟩
    refine ⟨fun hne => ?_, fun hne => ?_⟩
    · obtain ⟨ds, hds⟩ := Option.ne_none_iff_exists'.1 hne
      exact (metaAllowlist_of_saysPart hpart (by decide) (hdomain ds hds)).1 (hdomain' ds hds)
    · obtain ⟨cts, hcts⟩ := Option.ne_none_iff_exists'.1 hne
      exact (metaAllowlist_of_saysPart hpart (by decide) (htype cts hcts)).1 (htype' cts hcts)
  · rintro ⟨hhasDomain, hhasType⟩
    refine ⟨fun ds hds => hsame _ (.inl ⟨_, rfl⟩) (hdeny ds hds), fun ds hds => ?_,
      fun n hn => hsame _ (.inr (.inl ⟨_, rfl⟩)) (hsize n hn), fun cts hcts => ?_,
      fun hblock => hsame _ (.inr (.inr rfl)) (hpii hblock)⟩
    · exact (metaAllowlist_of_saysPart hpart (by decide) (hdomain ds hds)).2
        (hhasDomain (by simp [hds]))
    · exact (metaAllowlist_of_saysPart hpart (by decide) (htype cts hcts)).2
        (hhasType (by simp [hcts]))

end Rules

/-! ## The three gates -/

variable {env : Env F} {tenant agentId policyId : String}

/-- The agent is bound to the policy, and no read fails. -/
def ReadsBinding (tenant agentId policyId : String) (s : World F) : Prop :=
  s.Reliable ∧ boundPolicyId tenant agentId s.db = some policyId

theorem host_of_checkProxyUrl {text : String} {url : Url} {host : String} {port : ℕ}
    (h : checkProxyUrl env text = .ok (url, host, port)) : url.host = some host := by
  obtain ⟨url', -, h⟩ := exists_of_bind_eq_ok h
  obtain ⟨-, h⟩ := refuseIf_bind_eq_ok.1 h
  split at h <;> cases h
  assumption

/-- **The three gates of a call.** A call that the policy allows when it is fully described
passes the gates of the challenge, of the capability and of the proxy exactly when the
policy has neither a `domain_allowlist` nor a `content_type_allowlist`. -/
theorem egress_gates_pass_iff [Float64 F] (henf : env.policyMode = .enforce) (hid : agentId ≠ "")
    {p : CompiledPolicy env.engine} (hstore : env.policyStore tenant policyId = some p)
    (hrules : ContentRulesOnly p.raw) (req : EgressProxyRequest) (dest : Destination)
    (hdest : checkProxyUrl env req.url = .ok (dest.url, dest.host, dest.port))
    {ctx : EvaluationContext F} (hctx : ctx.action = proxyAction env agentId req dest)
    (hallow : evaluate p ctx = .allow)
    (challenge : AgentActionChallengeBody) (receiptId : String) (now₁ now₂ : ℤ)
    {s₁ s₂ s₃ : World F} (h₁ : ReadsBinding tenant agentId policyId s₁)
    (h₂ : ReadsBinding tenant agentId policyId s₂)
    (h₃ : ReadsBinding tenant agentId policyId s₃) :
    (((gateActionOnBoundPolicy env tenant agentId (challengeAction challenge now₁)).exec s₁).1 =
        .ok () ∧
      ((gateActionOnBoundPolicy env tenant agentId
        (egressAction receiptId dest.method dest.url now₂)).exec s₂).1 = .ok () ∧
      ((gateActionOnBoundPolicy env tenant agentId (proxyAction env agentId req dest)).exec s₃).1 =
        .ok ()) ↔
    p.raw.binding.domainAllowlist = none ∧ p.raw.binding.contentTypeAllowlist = none := by
  rw [gate_ok_iff_of_reliable _ _ _ henf hid h₁.1 h₁.2 hstore,
    gate_ok_iff_of_reliable _ _ _ henf hid h₂.1 h₂.2 hstore,
    gate_ok_iff_of_reliable _ _ _ henf hid h₃.1 h₃.2 hstore]
  have hpart₁ : SaysPartOf (challengeAction challenge now₁) ctx.action := by
    simp [SaysPartOf, contentKeys, challengeAction, Action.meta?]
  have hpart₂ : SaysPartOf (egressAction receiptId dest.method dest.url now₂) ctx.action := by
    simp [SaysPartOf, contentKeys, hctx, egressAction, proxyAction, Action.meta?,
      host_of_checkProxyUrl hdest]
  have hpart₃ : SaysPartOf (proxyAction env agentId req dest) ctx.action :=
    fun _ _ => .inr (by rw [hctx])
  rw [hrules.evaluate_part_iff hallow hpart₁, hrules.evaluate_part_iff hallow hpart₂,
    hrules.evaluate_part_iff hallow hpart₃]
  -- the challenge names neither entry, the capability no type, the proxy both
  simp [trueContext, contextOf, challengeAction, egressAction, proxyAction, Action.meta?]

/-! ## A list of hosts -/

/-- A policy that names the host to call. -/
def oneHost : CompiledPolicy (sampleEngine ℚ) where
  policyId := "pol_1"
  agent := "agt_1"
  checks := [.domainAllowlist ["api.example"]]
  raw := { version := "1", agent := "agt_1",
           binding := { domainAllowlist := some ["api.example"] }, invariants := [] }
  compiled := rfl

/-- A policy that names a host not to call and bounds what is sent. -/
def notThatHost : CompiledPolicy (sampleEngine ℚ) where
  policyId := "pol_1"
  agent := "agt_1"
  checks := [.domainDenylist ["other.example"], .payloadSize 1000]
  raw := { version := "1", agent := "agt_1",
           binding := { domainDenylist := some ["other.example"], maxPayloadBytes := some 1000 },
           invariants := [] }
  compiled := rfl

def hostEnv (p : CompiledPolicy (sampleEngine ℚ)) : Env ℚ :=
  { sampleEnv ℚ with policyStore := fun _ _ => some p }

/-- The agent is bound to the policy. -/
def boundWorld : World ℚ :=
  World.steady { Db.empty ℚ with bindings := [⟨"default", "agt_1", "pol_1"⟩] } 1000

/-- A call to `https://api.example/`. -/
def exampleCall : EgressProxyRequest := ⟨"egc_", "POST", "https://api.example/", [], some "hi"⟩

def exampleDest : Destination :=
  ⟨⟨"https", "", none, some "api.example", none, none, "/", some 443⟩, "api.example", 443,
    "POST", 1⟩

def egressChallenge : AgentActionChallengeBody :=
  { agentId := "agt_1", humanKeyImage := "human", action := "egress",
    resource := "https://api.example/", merchantId := "api.example", amountMinor := 0,
    currency := "", ajwtJti := "t1", ttlSecs := 60 }

theorem readsBinding_boundWorld : ReadsBinding "default" "agt_1" "pol_1" boundWorld :=
  ⟨.of_nil rfl, by decide +kernel⟩

/-- A call to a host that is not on the list of those to avoid passes all three gates. -/
theorem call_passes_denylist :
    ((gateActionOnBoundPolicy (hostEnv notThatHost) "default" "agt_1"
      (challengeAction egressChallenge 1)).exec boundWorld).1 = .ok () ∧
    ((gateActionOnBoundPolicy (hostEnv notThatHost) "default" "agt_1"
      (egressAction "aar_" "POST" exampleDest.url 1)).exec boundWorld).1 = .ok () ∧
    ((gateActionOnBoundPolicy (hostEnv notThatHost) "default" "agt_1"
      (proxyAction (hostEnv notThatHost) "agt_1" exampleCall exampleDest)).exec boundWorld).1 =
        .ok () := by
  have henf : (hostEnv notThatHost).policyMode = .enforce := rfl
  have hstore : (hostEnv notThatHost).policyStore "default" "pol_1" = some notThatHost := rfl
  have hallow : evaluate notThatHost (trueContext (hostEnv notThatHost) "default" "agt_1"
      (proxyAction (hostEnv notThatHost) "agt_1" exampleCall exampleDest) boundWorld "pol_1"
      notThatHost) = .allow := by decide +kernel
  exact (egress_gates_pass_iff henf (by decide) hstore ⟨rfl, rfl⟩ exampleCall exampleDest rfl rfl
    hallow egressChallenge "aar_" 1 1 readsBinding_boundWorld readsBinding_boundWorld
    readsBinding_boundWorld).2 ⟨rfl, rfl⟩

/-- A call to the one host of the list, which the policy allows, gets no challenge. -/
theorem listed_host_gets_no_challenge :
    (hostEnv oneHost).policyMode = .enforce ∧
    (hostEnv oneHost).policyStore "default" "pol_1" = some oneHost ∧
    ReadsBinding "default" "agt_1" "pol_1" boundWorld ∧ ContentRulesOnly oneHost.raw ∧
    evaluate oneHost (trueContext (hostEnv oneHost) "default" "agt_1"
      (proxyAction (hostEnv oneHost) "agt_1" exampleCall exampleDest) boundWorld "pol_1" oneHost) =
        .allow ∧
    ((gateActionOnBoundPolicy (hostEnv oneHost) "default" "agt_1"
      (challengeAction egressChallenge 1)).exec boundWorld).1 =
        .error (.ofStatus 403
          "policy pol_1 denied domain_allowlist: action.metadata.target_domain missing") :=
  ⟨rfl, rfl, readsBinding_boundWorld, ⟨rfl, rfl⟩, by decide +kernel, by decide +kernel⟩

end SauronID.Egress
