import SauronID.Agent.Checksum
import SauronID.Agent.Intent
import SauronID.Agent.Issue
import SauronID.Agent.Licence

/-!
# Registering and revoking an agent

`POST /agent/register` mints an agent for the owner of a session, with an identifier out
of the random source and a plain insert. `DELETE /agent/:agent_id` revokes one. The
validators of the registration that only look at the request (the egress policy, the
attestation) are fields of `Env`.
-/

namespace SauronID.Agent

open Conc Text Request

variable {F : Type} [Float64 F] (env : Env F)

/-! ## The owner's mandate -/

structure OwnerMandateInput where
  tenantId : String
  humanKeyImage : String
  agentPublicKeyHex : String
  popPublicKeyB64u : String
  intentJson : String
  ttlSecs : String

def ownerMandatePayload (input : OwnerMandateInput) : Bytes :=
  canonicalFields "sauron.owner-mandate.v1"
    [("tenant_id", input.tenantId), ("human_key_image", input.humanKeyImage),
      ("agent_public_key_hex", input.agentPublicKeyHex),
      ("pop_public_key_b64u", input.popPublicKeyB64u), ("intent_json", input.intentJson),
      ("ttl_secs", input.ttlSecs)]

def ownerMandateHash (input : OwnerMandateInput) : String :=
  env.sha256Hex (ownerMandatePayload input)

/-- The signature of the owner whose key is stored for the tenant. -/
def checkMandateSig (input : OwnerMandateInput) (ownerPkB64u signatureB64u : String) :
    Except AppError String := do
  let some ownerPk := b64Exactly env 32 ownerPkB64u
    | throw (.ofStatus 500 "stored owner public key is not 32-byte base64url")
  if !env.edKeyOk ownerPk then
    throw (.ofStatus 500 "stored owner public key is not a valid Ed25519 key")
  let some sig := b64Exactly env 64 signatureB64u
    | throw (.ofStatus 400 "owner_mandate_sig_b64u must be 64-byte base64url")
  if !env.edVerify ownerPk (ownerMandatePayload input) sig then
    throw (.ofStatus 401 ("owner mandate signature does not verify against the owner key bound " ++
      "to human_key_image"))
  return ownerMandateHash env input

def verifyOwnerMandate (input : OwnerMandateInput) (signatureB64u : String) :
    Srv F AppError String := do
  let ownerPkB64u ← Srv.require .other (fun db =>
      (db.credentials.find? fun c => c.keyImageHex == input.humanKeyImage &&
        db.credentialTenants.contains (input.tenantId, c.keyImageHex)).map
          (·.ed25519PublicKeyB64u))
    (.ofStatus 400 ("owner mandate requires an owner key bound to human_key_image; register the " ++
      "owner with a client-generated Ed25519 key first"))
  .ofExcept (checkMandateSig env input ownerPkB64u signatureB64u)

/-! ## Registration -/

structure RegisterAgentRequest where
  humanKeyImage : String
  ownerMandateSigB64u : String
  agentChecksum : String
  agentType : String
  checksumInputs : Option Json
  attestationBlob : String
  attestationKind : String
  attestationChallengeId : String
  attestationPubkeyB64u : Option String
  expectedMeasurementHex : Option String
  intentJson : String
  publicKeyHex : String
  ringKeyImageHex : String
  ttlSecs : ℤ
  parentAgentId : String
  popJkt : String
  popPublicKeyB64u : String
  workflowId : String
  delegationChainJson : String

structure RegisterAgentResponse where
  agentId : String
  ajwt : String
  expiresAt : ℤ
  assuranceLevel : String

/-- `ed25519_jwk_thumbprint`. -/
def ed25519JwkThumbprint (publicKeyB64u : String) : Except String String :=
  match env.b64Decode (trim publicKeyB64u) with
  | .error e => .error s!"PoP public key is not base64url: {e}"
  | .ok raw =>
    if raw.length ≠ 32 then
      .error s!"PoP public key must decode to 32 bytes, got {raw.length}"
    else
      .ok (env.b64Encode (env.sha256 (utf8 ("\x7b\"crv\":\"Ed25519\",\"kty\":\"OKP\",\"x\":\"" ++
        trim publicKeyB64u ++ "\"\x7d"))))

/-- The proof-of-possession key must be a good key with the thumbprint of the request. -/
def checkPopKey (req : RegisterAgentRequest) : Except AppError Unit := do
  refuseIf ((trim req.popJkt).isEmpty ∨ (trim req.popPublicKeyB64u).isEmpty)
    (.ofStatus 400 "PoP is mandatory: pop_jkt and pop_public_key_b64u are required")
  let jkt ← (ed25519JwkThumbprint env req.popPublicKeyB64u).mapError (AppError.ofStatus 400)
  refuseIf (jkt ≠ trim req.popJkt)
    (.ofStatus 400 "pop_jkt must be the RFC 7638 thumbprint of pop_public_key_b64u")
  let raw ← (env.b64Decode (trim req.popPublicKeyB64u)).mapError fun e =>
    AppError.ofStatus 400 s!"PoP public key base64url: {e}"
  refuseIf (raw.length ≠ 32) (.ofStatus 400 "PoP public key must be exactly 32 bytes")
  refuseIf (!env.edKeyOk raw) (.ofStatus 400 "PoP public key is invalid")
  refuseIf (env.edKeyWeak raw) (.ofStatus 400 "PoP public key is a weak/small-order Ed25519 key")

/-- The intent must be JSON and, in production, pass the egress policy. -/
def checkIntent (req : RegisterAgentRequest) : Except AppError Unit :=
  match env.fromStr req.intentJson with
  | none => .error (.ofStatus 400 s!"intent_json is invalid JSON: {env.jsonError req.intentJson}")
  | some intent =>
    if env.development then .ok ()
    else (env.egressPolicy intent).mapError (AppError.ofStatus 400)

/-- `AttestationKind::parse`. -/
def parseAttestationKind (s : String) : Except AppError AttestationKind :=
  match trim s with
  | "" => .ok .none
  | "ed25519_self" => .ok .ed25519Self
  | "server_derived" | "server" => .ok .serverDerived
  | _ => .error (.ofStatus 400
      ("unknown attestation_kind; this build verifies only: ed25519_self, " ++
        "server_derived, server (omit the field for no attestation)"))

/-- A challenge for the attestation, when the kind needs one: its nonce. -/
def attestationNonce (tenantId human : String) (kind : AttestationKind)
    (req : RegisterAgentRequest) : Srv F AppError String :=
  if kind ≠ .ed25519Self then return ""
  else do
    .rejectIf (trim req.attestationChallengeId).isEmpty
      (.ofStatus 400 ("attestation_challenge_id is required for attested registration; request " ++
        "one from POST /agent/attestation/challenge"))
    let now ← Srv.nowSecs
    let row ← Srv.require .other (fun db => db.attestations.find? fun r =>
        r.id == req.attestationChallengeId && r.popPublicKeyB64u == req.popPublicKeyB64u)
      (.ofStatus 401 "attestation challenge not found or not bound to this PoP key")
    .rejectIf (row.tenantId ≠ tenantId ∨ row.humanKeyImage ≠ human)
      (.ofStatus 403 "attestation challenge belongs to a different tenant or session")
    .rejectIf (row.usedAt.isSome ∨ row.expiresAt < now)
      (.ofStatus 401 "attestation challenge is expired or already used")
    return row.nonce

/-- The checksum the agent is bound to, and the inputs to store with it. -/
def agentChecksum (req : RegisterAgentRequest) :
    Except AppError (String × Option (String × String)) := do
  refuseIf (req.agentType = "custom" ∧ !env.allowCustomChecksum)
    (.ofStatus 400 ("agent_type='custom' has no required-field contract and binds nothing the " ++
      "runtime can drift from; refused in production. Use a typed agent_type " ++
      "(llm/mcp_server/rule_bot/browser/openai_assistant/framework) or set " ++
      "SAURON_ALLOW_CUSTOM_CHECKSUM=1 to opt in."))
  if req.agentType ≠ "" then
    let some inputs := req.checksumInputs
      | throw (.ofStatus 400 "checksum_inputs required when agent_type is set")
    let (canonical, computed) ← (computeChecksum env req.agentType inputs).mapError fun e =>
      AppError.ofStatus 400 e.display
    refuseIf (req.agentChecksum ≠ "" ∧ req.agentChecksum ≠ computed)
      (.ofStatus 400 ("operator-supplied agent_checksum does not match server-computed value " ++
        s!"(expected {computed}, got {req.agentChecksum})"))
    return (computed, some (req.agentType, canonical))
  else
    refuseIf env.requireAgentType
      (.ofStatus 400 ("agent_type + checksum_inputs are required (set " ++
        "SAURON_REQUIRE_AGENT_TYPE=0 to allow legacy operator-supplied agent_checksum, but be " ++
        "aware this disables runtime drift detection)"))
    return (req.agentChecksum, none)

/-- What is checked of the keys before the attestation. -/
def checkRegisterKeys (req : RegisterAgentRequest) (checksum : String) : Except AppError Unit := do
  refuseIf checksum.isEmpty (.ofStatus 400 "agent_checksum required")
  refuseIf req.publicKeyHex.isEmpty
    (.ofStatus 400 "public_key_hex is required for delegated-agent ring binding")
  refuseIf (!req.ringKeyImageHex.toList.all isAsciiHexdigit ∨
      req.ringKeyImageHex.utf8ByteSize ≠ 64)
    (.ofStatus 400 "ring_key_image_hex is required and must be 32-byte hex")

/-- A point that is not the identity. -/
def decodeNonIdentity (field lengthError hex : String) : Except AppError Bytes := do
  let bytes ← decodeRistretto env field lengthError hex
  refuseIf (env.isIdentity bytes) (.ofStatus 400 s!"{field} must not be the identity point")
  return bytes

/-- Verify the attestation and, for a challenged one, claim the challenge. -/
def attestRegistration (kind : AttestationKind) (nonce : String) (req : RegisterAgentRequest) :
    Srv F AppError Unit := do
  .ofExcept (if kind = .serverDerived then
      env.serverDerivedAllowed.mapError (AppError.ofStatus 403)
    else .ok ())
  let attestNow ← Srv.nowSecs
  let _ ← .ofExcept ((env.attest
    { kind := kind, blob := req.attestationBlob,
      trustedPubkeyB64u := req.attestationPubkeyB64u.getD "",
      expectedMeasurementHex := req.expectedMeasurementHex.getD "", nonce := nonce,
      popPublicKeyB64u := req.popPublicKeyB64u } attestNow).mapError fun e =>
        AppError.ofStatus 400 s!"attestation rejected: {e}")
  if kind = .ed25519Self then
    let now ← Srv.nowSecs
    let changed ← (Srv.execute (.claimAttestation req.attestationChallengeId now)).mapErr
      (AppError.ofStatus 500)
    .rejectIf (changed ≠ 1)
      (.ofStatus 401 "attestation challenge was consumed concurrently or expired")

/-- Unrevoked agents of the tenant with the value in a key column. -/
def unrevokedHolders (key : AgentRow → String) (tenantId value : String) (db : Db F) : ℕ :=
  db.agents.countP fun r => key r == value && r.revoked == 0 && r.tenantId == tenantId

/-- Unrevoked agents of the tenant. -/
def activeAgents (tenantId : String) (db : Db F) : ℕ :=
  db.agents.countP fun r => r.revoked == 0 && r.tenantId == tenantId

/-- No unrevoked agent of the tenant has one of the keys, and the licence has room. -/
def checkUnused (tenantId : String) (req : RegisterAgentRequest) : Srv F AppError Unit := do
  let inUse ← Srv.scalarOr .other (fun db =>
    some (unrevokedHolders AgentRow.publicKeyHex tenantId req.publicKeyHex db)) 0
  .rejectIf (0 < inUse) (.ofStatus 409 "public_key_hex already registered to an active agent")
  let entitlement ← entitlementFor env tenantId
  let registered ← Srv.scalarOr (.activeAgents tenantId) (fun db =>
    some (activeAgents tenantId db)) 0
  .rejectIf (entitlement.maxAgents ≤ registered)
    (.detailed 402 "agent_licence_ceiling_reached"
      (s!"tenant '{tenantId}' has {registered} active agents and the deployment licence allows " ++
        s!"{entitlement.maxAgents}"))
  let keyImageInUse ← Srv.scalarOr .other (fun db =>
    some (unrevokedHolders AgentRow.ringKeyImageHex tenantId req.ringKeyImageHex db)) 0
  .rejectIf (0 < keyImageInUse)
    (.ofStatus 409 "ring_key_image_hex already registered to an active agent")
  let popKeyInUse ← Srv.scalarOr .other (fun db =>
    some (unrevokedHolders AgentRow.popPublicKeyB64u tenantId req.popPublicKeyB64u db)) 0
  .rejectIf (0 < popKeyInUse)
    (.ofStatus 409 ("pop_public_key_b64u already registered to an active agent; PoP keys " ++
      "must be agent-unique"))

/-- `policy::MAX_DELEGATION_DEPTH`. -/
def maxDelegationDepth : ℤ := 5

/-- The depth of a child of an agent of the same owner, whose scopes it stays within. -/
def delegationOf (tenantId human : String) (req : RegisterAgentRequest) :
    Srv F AppError (Option String × ℤ) :=
  if req.parentAgentId.isEmpty then return (none, 0)
  else do
    let parent ← Srv.require (.parent tenantId req.parentAgentId)
      (fun db => db.agents.find? fun r =>
        r.agentId == req.parentAgentId && r.tenantId == tenantId)
      (.ofStatus 400 "parent_agent_id not found")
    .rejectIf (parent.revoked ≠ 0) (.ofStatus 400 "parent agent is revoked")
    .rejectIf (parent.humanKeyImage ≠ human)
      (.ofStatus 403 "parent agent belongs to another user")
    .ofExcept ((assertChildScopesSubsetOfParent env.fromStr parent.intentJson
      req.intentJson).mapError (AppError.ofStatus 400))
    .rejectIf (maxDelegationDepth < parent.delegationDepth + 1)
      (.ofStatus 400 s!"delegation depth exceeds max {maxDelegationDepth}")
    return (some req.parentAgentId, parent.delegationDepth + 1)

/-- The mandate of the owner, if the request has one or the deployment asks for one. -/
def mandateHash (tenantId : String) (req : RegisterAgentRequest) : Srv F AppError String :=
  let sig := trim req.ownerMandateSigB64u
  if sig.isEmpty then do
    .rejectIf env.requireOwnerMandate (.ofStatus 401 ("owner_mandate_sig_b64u is required: this " ++
      "deployment refuses agents whose authority is not signed by their owner"))
    return ""
  else
    verifyOwnerMandate env
      { tenantId := tenantId, humanKeyImage := req.humanKeyImage,
        agentPublicKeyHex := req.publicKeyHex, popPublicKeyB64u := req.popPublicKeyB64u,
        intentJson := req.intentJson, ttlSecs := toString req.ttlSecs } sig

/-- The `delegation_chain` claim, if the request has one. -/
def delegationChain (req : RegisterAgentRequest) : Except AppError (Option Json) :=
  if (trim req.delegationChainJson).isEmpty then .ok none
  else
    match env.fromStr req.delegationChainJson with
    | some chain => .ok (some chain)
    | none => .error (.ofStatus 400
        s!"delegation_chain_json invalid JSON: {env.jsonError req.delegationChainJson}")

/-- The owner must be a user with a bank link. -/
def checkDelegatingOwner (human : String) : Srv F AppError Unit := do
  let users ← (Srv.select .other fun db =>
    db.users.countP fun u => u.keyImageHex == human).mapErr (AppError.ofStatus 500)
  .rejectIf (¬0 < users) (.ofStatus 404 "Human user not found — register the user first")
  let links ← Srv.scalarOr .other (fun db => some (db.bankLinks.count human)) 0
  .rejectIf (¬0 < links) (.ofStatus 403
    ("Delegated registration requires bank-verified KYC link. " ++
      "Use /agent/vc/issue for non-bank agents."))

/-- `register_agent`; `session` is the `x-sauron-session` header. -/
def registerAgent (tenantId : String) (session : Option String) (req : RegisterAgentRequest) :
    Srv F AppError RegisterAgentResponse := do
  let human ← requireSession env tenantId session
  .rejectIf (req.humanKeyImage ≠ "" ∧ req.humanKeyImage ≠ human)
    (.ofStatus 401 "human_key_image payload does not match authenticated session")
  .ofExcept (checkPopKey env req)
  .ofExcept (checkIntent env req)
  let mandate ← mandateHash env tenantId req
  let riskNow ← Srv.nowSecs
  (checkAndIncrement env (hashBucket env "agent_register" [tenantId, human]) riskNow
    env.limitAgentRegister).mapErr fun _ =>
      AppError.ofStatus 429 "Agent registration rate limit exceeded"
  let kind ← .ofExcept (parseAttestationKind req.attestationKind)
  let nonce ← attestationNonce tenantId human kind req
  let (checksum, inputs) ← .ofExcept (agentChecksum env req)
  .ofExcept (checkRegisterKeys req checksum)
  attestRegistration env kind nonce req
  let _ ← .ofExcept (decodeNonIdentity env "public_key_hex"
    "public_key_hex must be 32-byte compressed Ristretto point" req.publicKeyHex)
  let _ ← .ofExcept (decodeNonIdentity env "ring_key_image_hex"
    "ring_key_image_hex must be a 32-byte compressed Ristretto point" req.ringKeyImageHex)
  checkUnused env tenantId req
  checkDelegatingOwner human
  let (parent, depth) ← delegationOf env tenantId human req
  let ttl := max 60 (min req.ttlSecs 86400)
  let now ← Srv.nowSecs
  let rand ← Srv.random env.randomHex32
  let agentId := "agt_" ++ rand
  let chain ← .ofExcept (delegationChain env req)
  let ajwt ← forgeAjwt env human agentId checksum req.intentJson tenantId ttl
    ⟨some req.popJkt, some req.workflowId, chain⟩
  let row : AgentRow :=
    { agentId := agentId, humanKeyImage := human, agentChecksum := checksum,
      intentJson := req.intentJson, assuranceLevel := "delegated_bank",
      publicKeyHex := req.publicKeyHex, ringKeyImageHex := req.ringKeyImageHex, issuedAt := now,
      expiresAt := now + ttl, revoked := 0, parentAgentId := parent, delegationDepth := depth,
      popJkt := req.popJkt, popPublicKeyB64u := req.popPublicKeyB64u, tenantId := tenantId,
      ownerMandateSigB64u := trim req.ownerMandateSigB64u, ownerMandateHash := mandate }
  let _ ← (Srv.execute (.insertAgent row)).mapErr (AppError.ofStatus 500)
  match inputs with
  | none => pure ()
  | some (agentType, canonical) =>
    let stored := storagePayload env canonical checksum
    let row : ChecksumInputsRow := ⟨agentId, agentType, stored, checksum, 1, now, now⟩
    let _ ← (Srv.execute (.insertChecksumInputs row)).mapErr
      fun e => AppError.ofStatus 500 s!"persist agent_checksum_inputs: {e}"
  return ⟨agentId, ajwt, now + ttl, "delegated_bank"⟩

/-! ## Revocation -/

/-- `revoke_agent`; the result is the revoked id. -/
def revokeAgent (tenantId : String) (session : Option String) (agentId : String) :
    Srv F AppError String := do
  let human ← requireSession env tenantId session
  let rows ← (Srv.execute (.revokeAgent agentId human tenantId)).mapErr (AppError.ofStatus 500)
  .rejectIf (rows = 0) (.ofStatus 404 "Agent not found or not owned by this user")
  -- the key is read to take it out of the ring that is kept in memory
  let _ ← (Srv.select .other fun db =>
    (db.agents.find? fun r => r.tenantId == tenantId && r.agentId == agentId).map
      (·.publicKeyHex)).attempt
  return agentId

/-! ## Specifications -/

variable {env} {may : May F} {t : History F}

/-- The mandate an owner signs for a registration. -/
def mandateInput (tenantId : String) (req : RegisterAgentRequest) : OwnerMandateInput where
  tenantId := tenantId
  humanKeyImage := req.humanKeyImage
  agentPublicKeyHex := req.publicKeyHex
  popPublicKeyB64u := req.popPublicKeyB64u
  intentJson := req.intentJson
  ttlSecs := toString req.ttlSecs

/-- The key of an owner, bound to the tenant. -/
def boundOwnerKey (tenantId keyImage : String) (db : Db F) : Option String :=
  (db.credentials.find? fun c => c.keyImageHex == keyImage &&
    db.credentialTenants.contains (tenantId, c.keyImageHex)).map (·.ed25519PublicKeyB64u)

variable (env) in
/-- The mandate has been checked against the key of the owner, or there is none and the
deployment does not ask for one. -/
def MandateChecked (tenantId : String) (req : RegisterAgentRequest) (t : History F)
    (hash : String) : Prop :=
  (trim req.ownerMandateSigB64u = "" ∧ env.requireOwnerMandate = false) ∨
    ∃ s ownerPk, (.select .other, s) ∈ t ∧
      boundOwnerKey tenantId req.humanKeyImage s.db = some ownerPk ∧
      checkMandateSig env (mandateInput tenantId req) ownerPk (trim req.ownerMandateSigB64u) =
        .ok hash

variable {tenantId : String} {req : RegisterAgentRequest} {t' : History F}

omit [Float64 F] in
theorem MandateChecked.mono {t : History F}
    {hash : String} (h : MandateChecked env tenantId req t hash) (ht : t <:+ t') :
    MandateChecked env tenantId req t' hash := by
  refine h.imp_right ?_
  rintro ⟨s, ownerPk, hs, hrest⟩
  exact ⟨s, ownerPk, ht.subset hs, hrest⟩

theorem mandateHash_yields : (mandateHash env tenantId req).Yields (srvRules may) t fun t' hash =>
      MandateChecked env tenantId req t' hash := by
  unfold mandateHash
  dsimp only
  split
  · next hsig =>
    refine .rejectIf fun hreq => Prog.yields_pure (.inl ⟨?_, by simpa using hreq⟩)
    simpa using hsig
  · refine Srv.yields_require fun s pk _ hpk => ?_
    cases hcheck : checkMandateSig env (mandateInput tenantId req) pk
        (trim req.ownerMandateSigB64u) with
    | error e =>
      rw [← mandateInput, hcheck]
      exact Prog.yields_fail
    | ok hash =>
      rw [← mandateInput, hcheck]
      exact Prog.yields_pure (.inr ⟨s, pk, .head _, hpk, hcheck⟩)

/-- The attestation challenge of the request was read, and it is an unused one for this
tenant, owner and key. -/
def ReadsChallenge (tenantId human : String) (req : RegisterAgentRequest) (t : History F) : Prop :=
  ∃ (s : World F) (row : AttestationRow), (.select .other, s) ∈ t ∧ row ∈ s.db.attestations ∧
    row.id = req.attestationChallengeId ∧ row.popPublicKeyB64u = req.popPublicKeyB64u ∧
    row.tenantId = tenantId ∧ row.humanKeyImage = human ∧ row.usedAt = none

/-- The challenge was claimed, at the time on the clock, after it was read. -/
def Attested (tenantId human : String) (req : RegisterAgentRequest) (t : History F) : Prop :=
  ∃ (s sNow : World F) (t₁ : History F),
    (.write (.claimAttestation req.attestationChallengeId sNow.nowSecs), s) ::
      (.clock, sNow) :: t₁ <:+ t ∧
    s.writeResult (.claimAttestation req.attestationChallengeId sNow.nowSecs) = .ok 1 ∧
    ReadsChallenge tenantId human req t₁

variable {human : String}

omit [Float64 F] in
theorem ReadsChallenge.mono {t : History F} (h : ReadsChallenge tenantId human req t)
    (ht : t <:+ t') : ReadsChallenge tenantId human req t' := by
  obtain ⟨s, row, hs, hrow⟩ := h
  exact ⟨s, row, ht.subset hs, hrow⟩

theorem Attested.mono {t : History F}
    (h : Attested tenantId human req t) (ht : t <:+ t') : Attested tenantId human req t' := by
  obtain ⟨s, sNow, t₁, hsuffix, hclaim⟩ := h
  exact ⟨s, sNow, t₁, hsuffix.trans ht, hclaim⟩

variable {kind : AttestationKind}

theorem attestationNonce_yields :
    (attestationNonce tenantId human kind req).Yields (srvRules may) t fun t' _ =>
      kind = .ed25519Self → ReadsChallenge tenantId human req t' := by
  unfold attestationNonce
  split
  · next hkind => exact Prog.yields_pure fun h => absurd h hkind
  · refine .rejectIf fun _ => Srv.yields_nowSecs fun _ => Srv.yields_require fun s row _ hrow => ?_
    refine .rejectIf fun howner => .rejectIf fun hused => Prog.yields_pure fun _ => ?_
    have hkeys := List.find?_some hrow
    simp only [Bool.and_eq_true, beq_iff_eq] at hkeys
    obtain ⟨htenant, hhuman⟩ := not_or.1 howner
    have hunused : row.usedAt = none := by simpa using (not_or.1 hused).1
    exact ⟨s, row, .head _, List.mem_of_find?_eq_some hrow, hkeys.1, hkeys.2, not_not.1 htenant,
      not_not.1 hhuman, hunused⟩

theorem attestRegistration_yields (hclaim : ∀ t id now s, may t (.claimAttestation id now) s)
    {nonce : String} (hread : kind = .ed25519Self → ReadsChallenge tenantId human req t) :
    (attestRegistration env kind nonce req).Yields (srvRules may) t fun t' _ =>
      kind = .ed25519Self → Attested tenantId human req t' := by
  refine .ofExcept fun _ _ => Srv.yields_nowSecs fun s => .ofExcept fun _ _ => ?_
  split
  · next hkind =>
    refine Srv.yields_nowSecs fun sNow => ?_
    refine .bind (.mapErr (Srv.yields_execute fun s' => ⟨hclaim _ _ _ _, fun n hn => ?_⟩))
    refine Prog.yields_rejectIf fun hone _ => ?_
    rw [not_not.1 hone] at hn
    exact ⟨s', sNow, _, List.suffix_refl _, hn, (hread hkind).mono (List.suffix_cons _ _)⟩
  · next hkind => exact Prog.yields_pure fun h => absurd h hkind

variable (env) in
/-- The agents of the tenant were counted, and the count, if it came back, was below the
ceiling. -/
def RoomFor (tenantId : String) (t : History F) : Prop :=
  ∃ (e : Entitlement) (s : World F), EntitledIn env tenantId t e ∧
    (.select (.activeAgents tenantId), s) ∈ t ∧
    (s.fault = none → (activeAgents tenantId s.db : ℤ) < e.maxAgents)

omit [Float64 F] in
theorem RoomFor.mono {t : History F} (h : RoomFor env tenantId t)
    (ht : t <:+ t') : RoomFor env tenantId t' := by
  obtain ⟨e, s, he, hs, hroom⟩ := h
  exact ⟨e, s, he.mono ht, ht.subset hs, hroom⟩

theorem checkUnused_yields :
    (checkUnused env tenantId req).Yields (srvRules may) t fun t' _ => RoomFor env tenantId t' := by
  refine .bind (Srv.yields_scalarOr fun _ n _ => .rejectIf fun _ => ?_)
  refine entitlementFor_yields.andThen fun t₁ e _ he => ?_
  refine .bind (Srv.yields_scalarOr fun sCount n hn => .rejectIf fun hroom => ?_)
  refine .bind (Srv.yields_scalarOr fun _ n _ => .rejectIf fun _ => ?_)
  refine .bind (Srv.yields_scalarOr fun _ n _ => Prog.yields_rejectIf fun _ => ?_)
  refine ⟨e, sCount, he.mono ?_, .tail _ (.tail _ (.head _)), fun hf => ?_⟩
  · exact (List.suffix_cons _ _).trans ((List.suffix_cons _ _).trans (List.suffix_cons _ _))
  · rw [← Option.getD_some (a := activeAgents tenantId sCount.db), ← hn hf]
    omega

theorem checkDelegatingOwner_yields :
    (checkDelegatingOwner human : Srv F AppError Unit).Yields (srvRules may) t fun _ _ => True := by
  refine .bind (.mapErr (Srv.yields_select fun _ _ => .rejectIf fun _ => ?_))
  exact .bind (Srv.yields_scalarOr fun _ n _ => Prog.yields_rejectIf fun _ => trivial)

/-- The agent has no parent, or one that was read: an unrevoked agent of the same owner. -/
def Delegated (tenantId human : String) (t : History F) (parent : Option String) (depth : ℤ) :
    Prop :=
  (parent = none ∧ depth = 0) ∨
    ∃ (s : World F) (p : AgentRow), (.select (.parent tenantId p.agentId), s) ∈ t ∧
      p ∈ s.db.agents ∧ p.tenantId = tenantId ∧ p.revoked = 0 ∧ p.humanKeyImage = human ∧
      parent = some p.agentId ∧ depth = p.delegationDepth + 1 ∧ depth ≤ maxDelegationDepth

omit [Float64 F] in
theorem Delegated.mono {t : History F} {parent : Option String}
    {depth : ℤ} (h : Delegated tenantId human t parent depth) (ht : t <:+ t') :
    Delegated tenantId human t' parent depth := by
  refine h.imp_right ?_
  rintro ⟨s, p, hs, hrest⟩
  exact ⟨s, p, ht.subset hs, hrest⟩

theorem delegationOf_yields :
    (delegationOf env tenantId human req).Yields (srvRules may) t fun t' d =>
      Delegated tenantId human t' d.1 d.2 := by
  unfold delegationOf
  split
  · exact Prog.yields_pure (.inl ⟨rfl, rfl⟩)
  · refine Srv.yields_require fun s p _ hp => .rejectIf fun hrev => .rejectIf fun hhuman => ?_
    refine .ofExcept fun _ _ => .rejectIf fun hdepth => Prog.yields_pure (.inr ?_)
    have hrow := List.find?_some hp
    simp only [Bool.and_eq_true, beq_iff_eq] at hrow
    rw [← hrow.1]
    exact ⟨s, p, .head _, List.mem_of_find?_eq_some hp, hrow.2, not_not.1 hrev, not_not.1 hhuman,
      rfl, rfl, not_lt.1 hdepth⟩

variable (env) in
/-- The row is written for this request, with the mandate that was checked for it, after the
agents of the tenant were counted and the parent was read. -/
structure RegisteredFor (tenantId : String) (req : RegisterAgentRequest) (t : History F)
    (row : AgentRow) : Prop where
  tenant : row.tenantId = tenantId
  human : req.humanKeyImage = "" ∨ req.humanKeyImage = row.humanKeyImage
  publicKey : row.publicKeyHex = req.publicKeyHex
  popKey : row.popPublicKeyB64u = req.popPublicKeyB64u
  intent : row.intentJson = req.intentJson
  lease : row.expiresAt = row.issuedAt + max 60 (min req.ttlSecs 86400)
  mandateSig : row.ownerMandateSigB64u = trim req.ownerMandateSigB64u
  mandate : MandateChecked env tenantId req t row.ownerMandateHash
  keyImage : row.ringKeyImageHex = req.ringKeyImageHex
  active : row.revoked = 0
  issued : ReadsNow t row.issuedAt
  room : RoomFor env tenantId t
  delegated : Delegated tenantId row.humanKeyImage t row.parentAgentId row.delegationDepth
  attested : parseAttestationKind req.attestationKind = .ok .ed25519Self →
    Attested tenantId row.humanKeyImage req t

variable (env) in
/-- The inputs are stored right after the row of the agent went in, with the checksum that
the row has. -/
structure StoredFor (req : RegisterAgentRequest) (t : History F) (row : ChecksumInputsRow) :
    Prop where
  agent : ∃ agent s n t', t = (.write (.insertAgent agent), s) :: t' ∧
    s.writeResult (.insertAgent agent) = .ok n ∧ agent.agentId = row.agentId ∧
    agent.agentChecksum = row.computedChecksum
  version : row.version = 1
  computed : ∃ canonical, agentChecksum env req =
    .ok (row.computedChecksum, some (row.agentType, canonical)) ∧
    row.inputsCanonical = storagePayload env canonical row.computedChecksum

/-- A row of the agent was inserted. -/
def Registers (t : History F) (agentId : String) : Prop :=
  ∃ row s n, (.write (.insertAgent row), s) ∈ t ∧ s.writeResult (.insertAgent row) = .ok n ∧
    row.agentId = agentId

/-- Inputs of the agent's checksum were stored. -/
def Stores (t : History F) (agentId : String) : Prop :=
  ∃ row s n, (.write (.insertChecksumInputs row), s) ∈ t ∧
    s.writeResult (.insertChecksumInputs row) = .ok n ∧ row.agentId = agentId

omit [Float64 F] in
/-- Without inputs to store, the deployment does not ask for a type. -/
theorem requireAgentType_of_agentChecksum {checksum : String}
    (h : agentChecksum env req = .ok (checksum, none)) : env.requireAgentType = false := by
  unfold agentChecksum at h
  rw [refuseIf_bind_eq_ok] at h
  replace h := h.2
  split at h
  · split at h
    · obtain ⟨⟨canonical, computed⟩, -, h⟩ := exists_of_bind_eq_ok h
      exact nomatch (refuseIf_bind_eq_ok.1 h).2
    · cases h
  · simpa using (refuseIf_bind_eq_ok.1 h).1

variable {session : Option String}

/-- The row is written once the mandate is checked, and a success has written it and minted
a token; where a type is asked for, it has stored the inputs of the checksum. -/
theorem registerAgent_yields (hrisk : MayWrite .riskCounters may)
    (hclaim : ∀ t id now s, may t (.claimAttestation id now) s)
    (hins : ∀ t row s, RegisteredFor env tenantId req t row → may t (.insertAgent row) s)
    (hinputs : ∀ t row s, StoredFor env req t row → may t (.insertChecksumInputs row) s) :
    (registerAgent env tenantId session req).Yields (srvRules may) t fun t' resp =>
      (∃ chain, delegationChain env req = .ok chain ∧
        Mints env tenantId (max 60 (min req.ttlSecs 86400))
          ⟨some req.popJkt, some req.workflowId, chain⟩ t' resp.ajwt) ∧ Registers t' resp.agentId ∧
        (env.requireAgentType = true → Stores t' resp.agentId) := by
  refine requireSession_yields.andThen fun t₁ human _ _ => .rejectIf fun hhuman => ?_
  have howner : req.humanKeyImage = "" ∨ req.humanKeyImage = human :=
    or_iff_not_and_not.2 hhuman
  refine .ofExcept fun _ _ => .ofExcept fun _ _ => ?_
  refine mandateHash_yields.andThen fun t₂ mandate _ hmandate => Srv.yields_nowSecs fun s => ?_
  replace hmandate := hmandate.mono (List.suffix_cons (.clock, s) t₂)
  refine (checkAndIncrement_yields hrisk).mapErr.andThen fun t₃ _ ht₃ _ => ?_
  refine .ofExcept fun kind hkind => ?_
  refine attestationNonce_yields.andThen fun t₄ nonce ht₄ hread => ?_
  refine .ofExcept fun ⟨checksum, inputs⟩ hchecksum => ?_
  refine .ofExcept fun _ _ => ?_
  refine (attestRegistration_yields hclaim hread).andThen fun t₅ _ ht₅ hattested => ?_
  refine .ofExcept fun _ _ => .ofExcept fun _ _ => ?_
  refine checkUnused_yields.andThen fun t₆ _ ht₆ hroom => ?_
  refine checkDelegatingOwner_yields.andThen fun t₇ _ ht₇ _ => ?_
  refine delegationOf_yields.andThen fun t₈ ⟨parent, depth⟩ ht₈ hdelegated => ?_
  replace hmandate := hmandate.mono
    (ht₃.trans (ht₄.trans (ht₅.trans (ht₆.trans (ht₇.trans ht₈)))))
  refine Srv.yields_nowSecs fun sNow => Srv.yields_random fun sRand => ?_
  refine .ofExcept fun chain hchain => ?_
  refine forgeAjwt_yields.andThen fun t₉ ajwt ht₉ hmint => ?_
  have hlast := ((List.suffix_cons (.clock, sNow) t₈).trans
    (List.suffix_cons (.draw, sRand) _)).trans ht₉
  have hissued : ReadsNow t₉ sNow.nowSecs := ⟨sNow, ht₉.subset (.tail _ (.head _)), rfl⟩
  refine .bind (.mapErr (Srv.yields_execute fun s => ⟨hins _ _ _ ?_, fun n hn => ?_⟩))
  · refine ⟨rfl, howner, rfl, rfl, rfl, rfl, rfl, hmandate.mono hlast, rfl, rfl, hissued,
      hroom.mono ((ht₇.trans ht₈).trans hlast), hdelegated.mono hlast, fun hself => ?_⟩
    rw [hself] at hkind
    cases hkind
    exact (hattested rfl).mono ((ht₆.trans (ht₇.trans ht₈)).trans hlast)
  cases inputs with
  | none =>
    refine Prog.yields_pure ⟨⟨chain, hchain, hmint.mono (List.suffix_cons _ _)⟩,
      ⟨_, s, n, .head _, hn, rfl⟩, fun hrequire => ?_⟩
    rw [requireAgentType_of_agentChecksum hchecksum] at hrequire
    cases hrequire
  | some inputs =>
    refine .bind (.mapErr (Srv.yields_execute fun s' => ⟨hinputs _ _ _ ?_, fun n' hn' => ?_⟩))
    · exact ⟨⟨_, s, n, _, rfl, hn, rfl, rfl⟩, rfl, inputs.2, hchecksum, rfl⟩
    exact Prog.yields_pure ⟨⟨chain, hchain,
      hmint.mono ((List.suffix_cons _ _).trans (List.suffix_cons _ _))⟩,
      ⟨_, s, n, .tail _ (.head _), hn, rfl⟩, fun _ => ⟨_, s', n', .head _, hn', rfl⟩⟩

/-- A success has revoked a row. -/
theorem revokeAgent_yields {agentId : String}
    (hrev : ∀ t human s, may t (.revokeAgent agentId human tenantId) s) :
    (revokeAgent env tenantId session agentId).Yields (srvRules may) t fun t' a =>
      a = agentId ∧ ∃ human s n, (.write (.revokeAgent agentId human tenantId), s) ∈ t' ∧
        s.writeResult (.revokeAgent agentId human tenantId) = .ok n ∧ n ≠ 0 := by
  refine requireSession_yields.andThen fun t₁ human _ _ => ?_
  refine .bind (.mapErr (Srv.yields_execute fun s => ⟨hrev _ _ _, fun n hn => ?_⟩))
  refine .rejectIf fun hrows => ?_
  refine .bind (.attempt (Srv.follows_select fun s' =>
    ⟨_, ⟨.inl rfl, trivial, rfl⟩, fun _ => ?_, fun _ _ => ?_⟩))
  · exact Prog.yields_pure ⟨rfl, human, s, n, .tail _ (.head _), hn, hrows⟩
  · exact Prog.yields_pure ⟨rfl, human, s, n, .tail _ (.head _), hn, hrows⟩

end SauronID.Agent
