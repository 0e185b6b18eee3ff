import Mathlib.Data.List.ReduceOption
import Mathlib.Logic.Equiv.List
import SauronID.Action.Validate
import SauronID.Agent.Issuance
import SauronID.Agent.Register

/-!
# Tokens verify until they expire

An agent is handed a token when it is registered, when it is issued a credential, and each
time its owner asks for one. Each route chooses the lifetime by its own rule; one verifier
reads them all. This module has the third route, the form of a token as text, and what the
verifier accepts of what the routes mint.
-/

namespace SauronID.Agent

open Conc Text SauronID.Action Request

variable {F : Type} (env : Env F)

/-! ## A token for an agent -/

structure IssueAgentTokenRequest where
  agentId : String
  ttlSecs : ℤ

structure IssueAgentTokenResponse where
  agentId : String
  ajwt : String
  expiresAt : ℤ

/-- `issue_agent_token`: the owner's agent gets a token of an hour at most, and not beyond
its own lease. -/
def issueAgentToken (tenantId : String) (session : Option String) (req : IssueAgentTokenRequest) :
    Srv F AppError IssueAgentTokenResponse := do
  .rejectIf ((trim req.agentId).isEmpty) (.ofStatus 400 "agent_id required")
  let sessionHuman ← requireSession env tenantId session
  let now ← Srv.nowSecs
  let agent ← Srv.require .other (findAgent tenantId req.agentId)
    (.ofStatus 404 "Agent not found")
  .rejectIf (agent.humanKeyImage ≠ sessionHuman)
    (.ofStatus 403 "agent not owned by authenticated session")
  .rejectIf (agent.revoked ≠ 0 ∨ agent.expiresAt ≤ now)
    (.ofStatus 401 "Agent revoked or expired")
  let ttl := min (max 15 (min req.ttlSecs 3600)) (max (agent.expiresAt - now) 1)
  let cnfJkt := if agent.popJkt.isEmpty then none else some agent.popJkt
  let ajwt ← forgeAjwt env agent.humanKeyImage req.agentId agent.agentChecksum agent.intentJson
    tenantId ttl ⟨cnfJkt, none, none⟩
  return ⟨req.agentId, ajwt, now + ttl⟩

/-! ## Tokens as text -/

/-- The texts before and after the first `.`. -/
def splitDot (s : String) : Option (String × String) :=
  match s.toList.dropWhile (· != '.') with
  | [] => none
  | _ :: rest => some (String.ofList (s.toList.takeWhile (· != '.')), String.ofList rest)

/-- `token.splitn(3, '.')`, when there are three parts. -/
def splitAjwt (token : String) : Option (String × String × String) := do
  let (header, rest) ← splitDot token
  let (payload, sig) ← splitDot rest
  return (header, payload, sig)

/-- The first two parts of a token, as JSON. -/
def parseAjwt (token : String) : Option (Json × Json) := do
  let (header, payload, _) ← splitAjwt token
  let header ← env.fromSlice (← (env.b64Decode header).toOption)
  let payload ← env.fromSlice (← (env.b64Decode payload).toOption)
  return (header, payload)

/-- The third part of a token is a signature of the first two. -/
def checkAjwtSig (token agentId humanKeyImage agentChecksum : String) : Bool :=
  match splitAjwt token with
  | none => false
  | some (header, payload, sig) =>
    match env.b64Decode sig with
    | .error _ => false
    | .ok bytes => bytes.length == 64 &&
        env.ajwtVerify agentId humanKeyImage agentChecksum (utf8 (header ++ "." ++ payload)) bytes

/-- The nesting `serde_json` reads. -/
def maxJsonDepth : ℕ := 127

/-- What the libraries a token goes through promise: the encodings are undone by the
decodings, a signature verifies under its key, and documents are read back up to the
nesting the parser allows. -/
structure TokenLaws : Prop where
  decodeAjwt_eq : env.decodeAjwt = parseAjwt env
  ajwtSigOk_eq : env.ajwtSigOk = checkAjwtSig env
  b64Decode_b64Encode : ∀ bytes, env.b64Decode (env.b64Encode bytes) = .ok bytes
  dot_notMem_b64Encode : ∀ bytes, '.' ∉ (env.b64Encode bytes).toList
  length_ajwtSign : ∀ agentId human checksum message,
    (env.ajwtSign agentId human checksum message).length = 64
  ajwtVerify_ajwtSign : ∀ agentId human checksum message, env.ajwtVerify agentId human checksum
    message (env.ajwtSign agentId human checksum message) = true
  fromSlice_jsonText : ∀ fields : List (String × Json), (fields.map Prod.fst).Nodup →
    (Json.obj fields).depth ≤ maxJsonDepth →
    ∃ v, env.fromSlice (utf8 (env.jsonText (.obj fields))) = some v ∧
      ∀ key, v.getStr key = (Json.obj fields).getStr key ∧
        v.getI64 key = (Json.obj fields).getI64 key
  fromSlice_deep : ∀ v : Json, maxJsonDepth < v.depth →
    env.fromSlice (utf8 (env.jsonText v)) = none

theorem splitDot_append {front : String} (rest : String) (hfront : '.' ∉ front.toList) :
    splitDot (front ++ "." ++ rest) = some (front, rest) := by
  have hchars : (front ++ "." ++ rest).toList = front.toList ++ '.' :: rest.toList := by
    simp
  have hall : ∀ c ∈ front.toList, (c != '.') = true := by
    intro c hc
    exact bne_iff_ne.2 fun h => hfront (h ▸ hc)
  simp only [splitDot, hchars]
  rw [List.dropWhile_append_of_pos hall, List.takeWhile_append_of_pos hall]
  simp

theorem AjwtExtraClaims.keys_sublist (extra : AjwtExtraClaims) :
    (extra.fields.map Prod.fst).Sublist ["cnf", "workflow_id", "delegation_chain"] := by
  unfold AjwtExtraClaims.fields
  cases extra.cnfJkt.filter (· ≠ "") <;> cases extra.workflowId.filter (· ≠ "") <;>
    cases extra.delegationChain <;> simp [List.reduceOption]

/-- The members every payload has. -/
def AjwtClaims.fixedFields (claims : AjwtClaims) : List (String × Json) :=
  [("iss", .str "did:sauron:idp"), ("aud", .str env.ajwtAudience),
    ("tenant_id", .str claims.tenantId), ("sub", .str claims.humanKeyImage),
    ("agent_id", .str claims.agentId), ("agent_checksum", .str claims.agentChecksum),
    ("intent", .str claims.intentJson), ("iat", .int claims.iat), ("exp", .int claims.exp),
    ("jti", .str claims.jti)]

theorem AjwtClaims.payload_eq (claims : AjwtClaims) :
    claims.payload env = .obj (claims.fixedFields env ++ claims.extra.fields) :=
  rfl

theorem AjwtClaims.keys_sublist (claims : AjwtClaims) :
    ((claims.fixedFields env ++ claims.extra.fields).map Prod.fst).Sublist
      ["iss", "aud", "tenant_id", "sub", "agent_id", "agent_checksum", "intent", "iat", "exp",
        "jti", "cnf", "workflow_id", "delegation_chain"] := by
  rw [List.map_append]
  exact (List.Sublist.refl _).append claims.extra.keys_sublist

theorem AjwtClaims.depth_payload (claims : AjwtClaims) :
    (claims.payload env).depth = Json.depthFields claims.extra.fields + 1 := by
  rw [claims.payload_eq, Json.depth, Json.depthFields_append]
  simp [fixedFields, Json.depthFields, Json.depth]

section Laws

variable {env} (laws : TokenLaws env) (claims : AjwtClaims)

include laws

theorem TokenLaws.splitAjwt_token : splitAjwt (claims.token env) =
    some (env.b64Encode (utf8 (env.jsonText (ajwtHeader claims.agentId))),
      env.b64Encode (utf8 (env.jsonText (claims.payload env))),
      env.b64Encode (env.ajwtSign claims.agentId claims.humanKeyImage claims.agentChecksum
        (utf8 (claims.signingInput env)))) := by
  have htoken : claims.token env = env.b64Encode (utf8 (env.jsonText (ajwtHeader claims.agentId)))
      ++ "." ++ (env.b64Encode (utf8 (env.jsonText (claims.payload env))) ++ "." ++
        env.b64Encode (env.ajwtSign claims.agentId claims.humanKeyImage claims.agentChecksum
          (utf8 (claims.signingInput env)))) := by
    simp only [AjwtClaims.token, AjwtClaims.signingInput, String.append_assoc]
  rw [splitAjwt, htoken, splitDot_append _ (laws.dot_notMem_b64Encode _)]
  simp [splitDot_append _ (laws.dot_notMem_b64Encode _)]

theorem TokenLaws.checkAjwtSig_token : checkAjwtSig env (claims.token env) claims.agentId
    claims.humanKeyImage claims.agentChecksum = true := by
  simp only [checkAjwtSig, laws.splitAjwt_token, laws.b64Decode_b64Encode]
  rw [laws.length_ajwtSign, ← AjwtClaims.signingInput, laws.ajwtVerify_ajwtSign]
  rfl

/-- The header is read back. -/
theorem TokenLaws.fromSlice_header (agentId : String) : ∃ header : Json,
    env.fromSlice (utf8 (env.jsonText (ajwtHeader agentId))) = some header ∧
      header.getStr "alg" = some "EdDSA" ∧ header.getStr "typ" = some "ajwt+jwt" ∧
      header.getStr "kid" = some agentId := by
  have hkeys : ([("alg", Json.str "EdDSA"), ("typ", .str "ajwt+jwt"), ("kid", .str agentId)].map
      Prod.fst).Nodup := by
    simp
  have hdepth : (ajwtHeader agentId).depth ≤ maxJsonDepth := by
    simp [ajwtHeader, Json.depth, Json.depthFields, maxJsonDepth]
  obtain ⟨header, hread, hagree⟩ := laws.fromSlice_jsonText _ hkeys hdepth
  exact ⟨header, hread, (hagree "alg").1, (hagree "typ").1, (hagree "kid").1⟩

/-- A token whose payload is not nested too deep verifies in its lifetime, of a day at most. -/
theorem TokenLaws.verifyAjwt_token (hdepth : Json.depthFields claims.extra.fields < maxJsonDepth) :
    ∃ v : Json,
    v.getStr "tenant_id" = some claims.tenantId ∧ ∀ now w,
      verifyAjwt env (claims.token env) now = some w ↔ claims.tenantId ≠ "" ∧ now ≤ claims.exp ∧
        claims.iat ≤ now + 300 ∧ satI64 (claims.exp - claims.iat) ≤ 86400 ∧ v = w := by
  obtain ⟨header, hheader, halg, htyp, hkid⟩ := laws.fromSlice_header claims.agentId
  have hflat : (Json.obj (claims.fixedFields env ++ claims.extra.fields)).depth ≤ maxJsonDepth := by
    rw [← claims.payload_eq, claims.depth_payload]
    exact hdepth
  obtain ⟨v, hread, hagree⟩ :=
    laws.fromSlice_jsonText _ ((claims.keys_sublist env).nodup (by decide)) hflat
  rw [← claims.payload_eq] at hread
  have hparse : env.decodeAjwt (claims.token env) = some (header, v) := by
    simp [laws.decodeAjwt_eq, parseAjwt, laws.splitAjwt_token, laws.b64Decode_b64Encode,
      Except.toOption, hheader, hread]
  have hsig : env.ajwtSigOk (claims.token env) claims.agentId claims.humanKeyImage
      claims.agentChecksum = true := by
    rw [laws.ajwtSigOk_eq]
    exact laws.checkAjwtSig_token claims
  have hnbf : v.getI64 "nbf" = none := by
    rw [(hagree "nbf").2, Json.getI64, Json.get_eq_none, Option.bind_none]
    exact fun h => absurd ((claims.keys_sublist env).subset h) (by decide)
  have htenant : v.getStr "tenant_id" = some claims.tenantId := (hagree "tenant_id").1
  have hagent : v.getStr "agent_id" = some claims.agentId := (hagree "agent_id").1
  have hsub : v.getStr "sub" = some claims.humanKeyImage := (hagree "sub").1
  have hchecksum : v.getStr "agent_checksum" = some claims.agentChecksum :=
    (hagree "agent_checksum").1
  have hiss : v.getStr "iss" = some "did:sauron:idp" := (hagree "iss").1
  have haud : v.getStr "aud" = some env.ajwtAudience := (hagree "aud").1
  have hexp : v.getI64 "exp" = some claims.exp := (hagree "exp").2
  have hiat : v.getI64 "iat" = some claims.iat := (hagree "iat").2
  refine ⟨v, htenant, fun now w => ?_⟩
  simp only [verifyAjwt, hparse, halg, htyp, hkid, hagent, hsub, hchecksum, hiss, haud, htenant,
    hsig, hexp, hnbf, hiat, Option.bind_eq_bind, Option.bind_some, Option.any_some,
    Option.all_some, Option.all_none, guard_true]
  simp [guard, Option.bind_eq_some_iff, and_assoc]

/-- A token with a payload nested too deep never verifies. -/
theorem TokenLaws.verifyAjwt_deep (hdeep : maxJsonDepth ≤ Json.depthFields claims.extra.fields)
    (now : ℤ) : verifyAjwt env (claims.token env) now = none := by
  have hread : env.fromSlice (utf8 (env.jsonText (claims.payload env))) = none := by
    refine laws.fromSlice_deep _ ?_
    rw [claims.depth_payload]
    omega
  have hparse : env.decodeAjwt (claims.token env) = none := by
    simp [laws.decodeAjwt_eq, parseAjwt, laws.splitAjwt_token, laws.b64Decode_b64Encode,
      Except.toOption, hread]
  simp [verifyAjwt, hparse]

variable (env) in
omit laws in
/-- `verify_ajwt_for_tenant` accepts the token in this world. -/
def Accepts (token tenant : String) (s : World F) : Prop :=
  ∃ v, ((verifyAjwtForTenant env token tenant (.ofStatus 401 "")).exec s).1 = .ok v

variable {tenant : String} {s : World F}

omit laws in
theorem accepts_iff {token : String} : Accepts env token tenant s ↔
    ∃ v, verifyAjwt env token s.nowSecs = some v ∧ v.getStr "tenant_id" = some tenant := by
  change (∃ v, ((Prog.okOr (.ofStatus 401 "") (do
    let claims ← verifyAjwt env token s.nowSecs
    guard (claims.getStr "tenant_id" = some tenant)
    return claims) : Srv F AppError Json).exec s).1 = .ok v) ↔ _
  cases verifyAjwt env token s.nowSecs with
  | none => simp [Prog.okOr, Prog.fail]
  | some v => by_cases h : v.getStr "tenant_id" = some tenant <;> simp [h, Prog.okOr, Prog.fail]

/-- The tokens the verifier accepts, of those that have the form of a token. -/
theorem TokenLaws.accepts_token_iff : Accepts env (claims.token env) tenant s ↔
      Json.depthFields claims.extra.fields < maxJsonDepth ∧ tenant ≠ "" ∧
        claims.tenantId = tenant ∧ s.nowSecs ≤ claims.exp ∧ claims.iat ≤ s.nowSecs + 300 ∧
        claims.exp - claims.iat ≤ 86400 := by
  rw [accepts_iff]
  by_cases hdepth : Json.depthFields claims.extra.fields < maxJsonDepth
  · obtain ⟨v, htenant, hverify⟩ := laws.verifyAjwt_token claims hdepth
    have hsat : satI64 (claims.exp - claims.iat) ≤ 86400 ↔ claims.exp - claims.iat ≤ 86400 := by
      unfold satI64
      omega
    simp only [hverify, hsat]
    constructor
    · rintro ⟨w, ⟨hne, hexp, hiat, hday, rfl⟩, hw⟩
      obtain rfl := Option.some.inj (htenant.symm.trans hw)
      exact ⟨hdepth, hne, rfl, hexp, hiat, hday⟩
    · rintro ⟨-, hne, rfl, hexp, hiat, hday⟩
      exact ⟨v, ⟨hne, hexp, hiat, hday, rfl⟩, htenant⟩
  · simp [laws.verifyAjwt_deep claims (not_lt.1 hdepth), hdepth]

end Laws

/-! ## Minting -/

/-- The routes that mint tokens. -/
inductive MintCall where
  | register (tenantId : String) (session : Option String) (req : RegisterAgentRequest)
  | issueToken (tenantId : String) (session : Option String) (req : IssueAgentTokenRequest)
  | vcIssue (tenantId : String) (session : Option String) (body : AgentVcIssueBody)

def MintCall.tenantId : MintCall → String
  | register tenantId _ _ | issueToken tenantId _ _ | vcIssue tenantId _ _ => tenantId

variable [Float64 F]

/-- The token the route returns. -/
def MintCall.prog : MintCall → Srv F AppError String
  | register tenantId session req => do
    let resp ← registerAgent env tenantId session req
    return resp.ajwt
  | issueToken tenantId session req => do
    let resp ← issueAgentToken env tenantId session req
    return resp.ajwt
  | vcIssue tenantId session body => do
    let resp ← agentVcIssue env tenantId session body
    return resp.ajwt

/-- The verifier reads what the route mints: a chain of delegations leaves room for the
payload around it, and a credential is of a day at most. -/
def MintCall.TokenFits : MintCall → Prop
  | register _ _ req => ∀ chain, trim req.delegationChainJson ≠ "" →
      env.fromStr req.delegationChainJson = some chain → chain.depth + 1 ≤ maxJsonDepth
  | issueToken _ _ _ => True
  | vcIssue _ _ body => body.ttlHours ≤ 24

/-- The calls `calls` run together from `start`. -/
def mintRun (start : World F) (calls : List MintCall) (sched : List Event) :
    SrvConfig F AppError String :=
  (Config.init start (calls.map (MintCall.prog env))).run sched

/-! ## What a route mints -/

variable {env} {t : History F} {may : May F}

omit [Float64 F] in
/-- Only the chain of delegations can be nested deep. -/
theorem AjwtExtraClaims.depth_lt_iff (extra : AjwtExtraClaims) :
    Json.depthFields extra.fields < maxJsonDepth ↔
      ∀ chain ∈ extra.delegationChain, chain.depth + 1 ≤ maxJsonDepth := by
  unfold AjwtExtraClaims.fields
  cases extra.cnfJkt.filter (· ≠ "") <;> cases extra.workflowId.filter (· ≠ "") <;>
    cases extra.delegationChain <;>
      simp only [Option.map_none, Option.map_some, List.reduceOption_cons_of_none,
        List.reduceOption_cons_of_some, List.reduceOption_nil, Json.depthFields, Json.depth,
        maxJsonDepth, Option.mem_def, Option.some.injEq, forall_eq', reduceCtorEq,
        IsEmpty.forall_iff, implies_true, iff_true] <;> omega

omit [Float64 F] in
theorem mem_of_delegationChain {req : RegisterAgentRequest} {chain : Option Json}
    (h : delegationChain env req = .ok chain) (v : Json) : v ∈ chain ↔
      trim req.delegationChainJson ≠ "" ∧ env.fromStr req.delegationChainJson = some v := by
  unfold delegationChain at h
  split at h
  · next hblank =>
    cases h
    simp [String.isEmpty_iff.1 hblank]
  · next hchain =>
    split at h
    · next v' hv' =>
      cases h
      have hne : trim req.delegationChainJson ≠ "" := fun h => hchain (by rw [h]; rfl)
      simp [hv', hne, eq_comm]
    · cases h

theorem issueAgentToken_yields {tenantId : String} {session : Option String}
    {req : IssueAgentTokenRequest} :
    (issueAgentToken env tenantId session req).Yields (srvRules may) t fun t' resp =>
      ∃ ttl cnfJkt, 0 < ttl ∧ ttl ≤ 3600 ∧
        Mints env tenantId ttl ⟨cnfJkt, none, none⟩ t' resp.ajwt := by
  refine .rejectIf fun _ => requireSession_yields.andThen fun t₁ human _ _ => ?_
  refine Srv.yields_nowSecs fun s => Srv.yields_require fun s' agent _ _ => ?_
  refine .rejectIf fun _ => .rejectIf fun _ => forgeAjwt_yields.andThen fun t₂ ajwt _ hmint => ?_
  exact Prog.yields_pure ⟨_, _, by omega, by omega, hmint⟩

/-- A token that was minted is positive, and short and flat enough if it fits. -/
theorem MintCall.prog_yields (call : MintCall) :
    (call.prog env).Yields (srvRules fun _ _ _ => True) [] fun t token =>
      ∃ ttl extra, Mints env call.tenantId ttl extra t token ∧ 0 < ttl ∧ (call.TokenFits env ↔
          Json.depthFields extra.fields < maxJsonDepth ∧ ttl ≤ 86400) := by
  have hmay : Unguarded fun (_ : History F) _ _ => True := fun _ _ _ _ => trivial
  cases call with
  | register tenantId session req =>
    refine (registerAgent_yields (hmay.mayWrite rfl) hmay.mayClaim (fun _ _ _ _ => trivial)
      fun _ _ _ _ => trivial).andThen ?_
    rintro t resp - ⟨⟨chain, hchain, hmint⟩, -⟩
    refine Prog.yields_pure ⟨_, _, hmint, by omega, ?_⟩
    simp only [TokenFits, AjwtExtraClaims.depth_lt_iff, mem_of_delegationChain hchain, and_imp]
    refine (and_iff_left ?_).symm
    omega
  | issueToken tenantId session req =>
    refine issueAgentToken_yields.andThen ?_
    rintro t resp - ⟨ttl, cnfJkt, hpos, hle, hmint⟩
    refine Prog.yields_pure ⟨ttl, _, hmint, hpos, iff_of_true trivial ⟨?_, by omega⟩⟩
    simp [AjwtExtraClaims.depth_lt_iff]
  | vcIssue tenantId session body =>
    refine (agentVcIssue_yields hmay fun _ _ _ _ _ => trivial).andThen ?_
    rintro t resp - ⟨-, hmint⟩
    refine Prog.yields_pure ⟨_, _, hmint, by omega, ?_⟩
    simp only [TokenFits, AjwtExtraClaims.depth_lt_iff]
    simp
    omega

/-- What a call that returned a token has minted. -/
theorem mintRun_post {start : World F} {calls : List MintCall} (sched : List Event) {i : ℕ}
    {call : MintCall} {token : String} (hcall : calls[i]? = some call)
    (htoken : (mintRun env start calls sched).result i = some (.ok token)) :
    ∃ (claims : AjwtClaims) (minted : World F), token = claims.token env ∧
      ⟨i, .clock, minted⟩ ∈ (mintRun env start calls sched).log ∧
      claims.tenantId = call.tenantId ∧ claims.iat = minted.nowSecs ∧ claims.iat < claims.exp ∧
      (call.TokenFits env ↔ Json.depthFields claims.extra.fields < maxJsonDepth ∧
        claims.exp - claims.iat ≤ 86400) := by
  obtain ⟨ttl, extra, ⟨minted, claims, hminted, rfl, htenant, hiat, hexp, rfl⟩, hpos, hfits⟩ :=
    run_post (fun _ call _ => MintCall.prog_yields call) hcall htoken
  have hlife : claims.exp - claims.iat = ttl := by omega
  exact ⟨claims, minted, rfl, mem_threadTrace.1 hminted, htenant, hiat, by omega, hlife ▸ hfits⟩

/-- A token that a route returns is accepted from its minting to its `exp` by its tenant,
and by no other tenant, exactly when it fits. -/
theorem minted_token_verifies_iff (laws : TokenLaws env) (start : World F) (calls : List MintCall)
    (sched : List Event) {i : ℕ} {call : MintCall} {token : String}
    (hcall : calls[i]? = some call) (htenant : call.tenantId ≠ "")
    (htoken : (mintRun env start calls sched).result i = some (.ok token)) :
    ∃ (claims : AjwtClaims) (minted : World F), token = claims.token env ∧
      ⟨i, .clock, minted⟩ ∈ (mintRun env start calls sched).log ∧
      claims.iat = minted.nowSecs ∧ claims.iat < claims.exp ∧
      (((∀ s : World F, claims.iat ≤ s.nowSecs → s.nowSecs ≤ claims.exp →
            Accepts env token call.tenantId s) ∧
          ∀ (s : World F) tenant, tenant ≠ call.tenantId → ¬Accepts env token tenant s) ↔
        call.TokenFits env) := by
  obtain ⟨claims, minted, rfl, hminted, hten, hiat, hexp, hfits⟩ := mintRun_post sched hcall htoken
  refine ⟨claims, minted, rfl, hminted, hiat, hexp, ?_⟩
  simp only [laws.accepts_token_iff, hten, hfits]
  constructor
  · intro h
    obtain ⟨hdepth, -, -, -, -, hday⟩ := h.1 minted hiat.le (by omega)
    exact ⟨hdepth, hday⟩
  · rintro ⟨hdepth, hday⟩
    exact ⟨fun s h₀ h₁ => ⟨hdepth, htenant, trivial, h₁, by omega, hday⟩,
      fun s tenant hne h => hne h.2.2.1.symm⟩

/-! ## Credentials of a day and of two -/

def charCodes (s : String) : List ℕ := s.toList.map Char.toNat

def ofCharCodes (codes : List ℕ) : String := String.ofList (codes.map Char.ofNat)

/-- A member of a document that is a text or an integer. -/
def flatValue : Json → Option (List ℕ ⊕ ℤ)
  | .str s => some (.inl (charCodes s))
  | .int i => some (.inr i)
  | _ => none

def ofFlatValue : Option (List ℕ ⊕ ℤ) → Json
  | some (.inl codes) => .str (ofCharCodes codes)
  | some (.inr i) => .int i
  | none => .null

def flatFields : Json → List (List ℕ × Option (List ℕ ⊕ ℤ))
  | .obj fields => fields.map fun p => (charCodes p.1, flatValue p.2)
  | _ => []

/-- A text for documents that keeps their texts and integers: its length is their code. -/
def flatText (v : Json) : String :=
  String.ofList (List.replicate
    (Encodable.encode (decide (v.depth ≤ maxJsonDepth), flatFields v)) '1')

def readFlat (bytes : Bytes) : Option Json :=
  match (Encodable.decode bytes.length : Option (Bool × List (List ℕ × Option (List ℕ ⊕ ℤ)))) with
  | some (true, fields) => some (.obj (fields.map fun p => (ofCharCodes p.1, ofFlatValue p.2)))
  | _ => none

theorem ofCharCodes_charCodes (s : String) : ofCharCodes (charCodes s) = s := by
  simp [ofCharCodes, charCodes, Function.comp_def]

theorem length_utf8_replicate (n : ℕ) :
    (utf8 (String.ofList (List.replicate n '1'))).length = n := by
  change (String.ofList (List.replicate n '1')).utf8ByteSize = n
  induction n with
  | zero => rfl
  | succ n ih =>
    rw [List.replicate_succ', String.ofList_append, String.utf8ByteSize_append, ih]
    rfl

theorem readFlat_flatText (v : Json) : readFlat (utf8 (flatText v)) = if v.depth ≤ maxJsonDepth then
      some (.obj ((flatFields v).map fun p => (ofCharCodes p.1, ofFlatValue p.2))) else none := by
  unfold readFlat flatText
  rw [length_utf8_replicate, Encodable.encodek]
  by_cases h : v.depth ≤ maxJsonDepth <;> simp [h]

/-- What is kept of a document is what its members say. -/
theorem flatFields_agree (fields : List (String × Json)) (key : String) :
    let v := Json.obj ((flatFields (.obj fields)).map fun p => (ofCharCodes p.1, ofFlatValue p.2))
    v.getStr key = (Json.obj fields).getStr key ∧ v.getI64 key = (Json.obj fields).getI64 key := by
  have hget : (Json.obj ((flatFields (.obj fields)).map fun p =>
      (ofCharCodes p.1, ofFlatValue p.2))).get key =
      ((Json.obj fields).get key).map fun w => ofFlatValue (flatValue w) := by
    simp only [Json.get, flatFields, List.map_map, List.find?_map, Option.map_map,
      Function.comp_def, ofCharCodes_charCodes]
  simp only [Json.getStr, Json.getI64, hget]
  cases (Json.obj fields).get key with
  | none => exact ⟨rfl, rfl⟩
  | some w =>
    cases w <;> simp [flatValue, ofFlatValue, ofCharCodes_charCodes, Json.asStr, Json.asI64]

/-- Tokens in hexadecimal, with flat documents. -/
def flatEnv : Env ℚ :=
  { sampleEnv ℚ with
    jsonText := flatText
    fromSlice := readFlat
    b64Decode := fun s => (hexDecode s).elim (.error "") .ok
    ajwtSign := fun _ _ _ _ => List.replicate 64 0 }

/-- The verifier reads those tokens. -/
def mintEnv : Env ℚ :=
  { flatEnv with decodeAjwt := parseAjwt flatEnv, ajwtSigOk := checkAjwtSig flatEnv }

theorem mintEnv_read (v : Json) : mintEnv.fromSlice (utf8 (mintEnv.jsonText v)) =
    if v.depth ≤ maxJsonDepth then
      some (.obj ((flatFields v).map fun p => (ofCharCodes p.1, ofFlatValue p.2))) else none := by
  have hfrom : mintEnv.fromSlice = readFlat := rfl
  have htext : mintEnv.jsonText = flatText := rfl
  rw [hfrom, htext, readFlat_flatText]

theorem mintEnv_laws : TokenLaws mintEnv where
  decodeAjwt_eq := rfl
  ajwtSigOk_eq := rfl
  b64Decode_b64Encode bytes := by
    change (hexDecode (hexEncode bytes)).elim _ _ = _
    rw [hexDecode_hexEncode]
    rfl
  dot_notMem_b64Encode := notMem_hexEncode (by decide)
  length_ajwtSign _ _ _ _ := List.length_replicate
  ajwtVerify_ajwtSign _ _ _ _ := rfl
  fromSlice_jsonText fields _ hdepth :=
    ⟨_, (mintEnv_read _).trans (if_pos hdepth), flatFields_agree fields⟩
  fromSlice_deep v hdeep := (mintEnv_read v).trans (if_neg (not_le.2 hdeep))

/-- A credential for so many hours. -/
def mintFor (hours : ℤ) : MintCall :=
  .vcIssue "default" (some ownerSession)
    { (issueWith '1' '2' "pop2").body with ttlHours := hours }

theorem mintFor_ok (hours : ℤ)
    (hok : ((mintRun mintEnv issueWorld [mintFor hours] (List.replicate 20 (.step 0))).result 0).any
      Except.isOk = true) : ∃ token,
    (mintRun mintEnv issueWorld [mintFor hours] (List.replicate 20 (.step 0))).result 0 =
      some (.ok token) := by
  obtain ⟨r, hr, hr'⟩ := (Option.any_eq_true _ _).1 hok
  cases r with
  | error e => cases hr'
  | ok token => exact ⟨token, hr⟩

theorem day_credential_verifies : ∃ (token : String) (claims : AjwtClaims),
    (mintRun mintEnv issueWorld [mintFor 24] (List.replicate 20 (.step 0))).result 0 =
      some (.ok token) ∧ claims.iat < claims.exp ∧
    ∀ s : World ℚ, claims.iat ≤ s.nowSecs → s.nowSecs ≤ claims.exp →
      Accepts mintEnv token "default" s := by
  obtain ⟨token, htoken⟩ := mintFor_ok 24 (by decide +kernel)
  obtain ⟨claims, -, -, -, -, hexp, hiff⟩ := minted_token_verifies_iff mintEnv_laws issueWorld
    [mintFor 24] (List.replicate 20 (.step 0)) rfl (by decide) htoken
  exact ⟨token, claims, htoken, hexp, (hiff.2 (le_refl (24 : ℤ))).1⟩

/-- A credential for two days comes with a token that no tenant accepts at any time. -/
theorem two_day_credential_refused : ∃ token : String,
    (mintRun mintEnv issueWorld [mintFor 48] (List.replicate 20 (.step 0))).result 0 =
      some (.ok token) ∧
    ∀ (s : World ℚ) tenant, ¬Accepts mintEnv token tenant s := by
  obtain ⟨token, htoken⟩ := mintFor_ok 48 (by decide +kernel)
  obtain ⟨claims, -, rfl, -, -, -, -, hfits⟩ := mintRun_post _ rfl htoken
  refine ⟨_, htoken, fun s tenant h => ?_⟩
  obtain ⟨hdepth, -, -, -, -, hday⟩ := (mintEnv_laws.accepts_token_iff claims).1 h
  exact absurd (hfits.2 ⟨hdepth, hday⟩) (by decide : ¬(48 : ℤ) ≤ 24)

end SauronID.Agent
