import SauronID.Agent.Session
import SauronID.Request.Support

/-!
# Issuing an agent credential

`POST /agent/vc/issue` mints an agent for the owner of a session. Before it writes, it
looks for agents that hold the signing key or the ring key image and have not expired.
The id of the agent is a hash of its checksum, its owner and the second of the request,
and the row is written with an upsert.
-/

namespace SauronID.Agent

open Conc Text Request

variable {F : Type} [Float64 F] (env : Env F)

structure AgentVcIssueBody where
  humanKeyImage : String
  agentChecksum : String
  description : String
  scope : List String
  publicKeyHex : String
  ringKeyImageHex : String
  popJkt : String
  popPublicKeyB64u : String
  ttlHours : ℤ

structure AgentVcIssueResponse where
  agentId : String
  assuranceLevel : String
  vc : Json
  vcHash : String
  ajwt : String
  agentPublicKeyHex : String
  ringKeyImageHex : String
  expiresAt : ℤ
  trustChain : String

def checkIssueBody (body : AgentVcIssueBody) : Except AppError Unit := do
  refuseIf body.agentChecksum.isEmpty (.ofStatus 400 "agent_checksum required")
  refuseIf (trim body.publicKeyHex).isEmpty
    (.ofStatus 400 "public_key_hex is required for action-time ring signatures")
  refuseIf (!body.ringKeyImageHex.toList.all isAsciiHexdigit ∨
      body.ringKeyImageHex.utf8ByteSize ≠ 64)
    (.ofStatus 400 "ring_key_image_hex is required and must be 32-byte hex")
  refuseIf ((trim body.popJkt).isEmpty ∨ (trim body.popPublicKeyB64u).isEmpty)
    (.ofStatus 400 "PoP is mandatory: pop_jkt and pop_public_key_b64u are required")

/-- The owner's key as the user directory has it. -/
def decodeHumanKey (hex : String) : Except AppError Bytes :=
  match hexDecode hex with
  | none => .error (.ofStatus 401 "Human user public key encoding invalid")
  | some bytes =>
    if bytes.length ≠ 32 then .error (.ofStatus 401 "Human user public key length invalid")
    else if !env.validPoint bytes then
      .error (.ofStatus 401 "Human user public key point invalid")
    else .ok bytes

/-- Credentials of the owner's agents that are neither revoked nor expired. -/
def activeVcCount (tenantId human : String) (now : ℤ) (db : Db F) : ℕ :=
  db.agentVcs.countP fun v =>
    (db.agents.any fun r =>
      r.agentId == v.agentId && r.tenantId == tenantId && r.humanKeyImage == human) &&
      v.revoked == 0 && decide (v.expiresAt > now)

/-- An agent of the tenant that has the value in its key column and is active at `now`. -/
def holdsKey (key : AgentRow → String) (tenantId value : String) (now : ℤ) (r : AgentRow) : Bool :=
  r.tenantId == tenantId && key r == value && r.revoked == 0 && decide (r.expiresAt > now)

def keyHolders (key : AgentRow → String) (tenantId value : String) (now : ℤ) (db : Db F) : ℕ :=
  db.agents.countP (holdsKey key tenantId value now)

/-- The id is a function of the checksum, the owner and the second. -/
def derivedAgentId (agentChecksum human : String) (now : ℤ) : String :=
  let digest := env.sha256 (utf8 agentChecksum ++ utf8 human ++ leBytes 8 (now % 2 ^ 64).toNat)
  "agt_" ++ String.ofList ((hexEncode digest).toList.take 24)

/-- The document that is signed. -/
def agentVc (body : AgentVcIssueBody) (agentId human : String) (now expiresAt : ℤ) : Json :=
  .obj [("@context", .arr [.str "https://www.w3.org/2018/credentials/v1",
      .str "https://sauronid.io/credentials/agent/v1"]),
    ("id", .str ("urn:sauronid:agent-vc:" ++ agentId)),
    ("type", .arr [.str "VerifiableCredential", .str "SauronAgentCredential"]),
    ("issuer", .str "did:sauron:idp"), ("issuanceDate", .int now),
    ("expirationDate", .int expiresAt),
    ("credentialSubject", .obj [("id", .str ("did:sauron:agent:" ++ agentId)),
      ("agentId", .str agentId), ("agentChecksum", .str body.agentChecksum),
      ("humanOwner", .str ("did:sauron:user:" ++ String.ofList (human.toList.take 16))),
      ("description", .str body.description), ("scope", .arr (body.scope.map .str)),
      ("agentPublicKey", .str body.publicKeyHex), ("ringKeyImage", .str body.ringKeyImageHex),
      ("popThumbprint", .str body.popJkt), ("rootOfTrust", .str "did:sauron:idp:bank_kyc"),
      ("kyaEvidence", .null)])]

/-- The row of the new agent. -/
def issuedRow (tenantId human : String) (body : AgentVcIssueBody) (now expiresAt : ℤ) :
    AgentRow where
  agentId := derivedAgentId env body.agentChecksum human now
  humanKeyImage := human
  agentChecksum := body.agentChecksum
  intentJson := env.jsonText (.obj [("description", .str body.description),
    ("scope", .arr (body.scope.map .str))])
  assuranceLevel := "autonomous_web3"
  publicKeyHex := body.publicKeyHex
  ringKeyImageHex := body.ringKeyImageHex
  issuedAt := now
  expiresAt := expiresAt
  revoked := 0
  parentAgentId := none
  delegationDepth := 0
  popJkt := body.popJkt
  popPublicKeyB64u := body.popPublicKeyB64u
  tenantId := tenantId
  ownerMandateSigB64u := ""
  ownerMandateHash := ""

/-- What the handler makes of an error of the upsert. -/
def issueConflict (e : String) : AppError :=
  let msg := asciiLower e
  if contains msg "uq_agents_active" || isUniqueViolation msg then
    .ofStatus 409 "public_key_hex or ring_key_image_hex already registered to an active agent"
  else .ofStatus 500 e

/-- The owner is in the directory, linked to a bank, and in the user ring. -/
def checkOwner (tenantId human : String) : Srv F AppError Unit := do
  let user ← (Srv.select .other fun db =>
    db.users.find? fun u => u.keyImageHex == human).mapErr (AppError.ofStatus 500)
  let humanPubHex ← .okOr (.ofStatus 404
    "Human user not found — must be registered in trusted user directory first")
    (user.map (·.publicKeyHex))
  let links ← Srv.scalarOr .other (fun db => some (db.bankLinks.count human)) 0
  let pt ← .ofExcept (decodeHumanKey env humanPubHex)
  let now ← Srv.nowSecs
  (checkAndIncrement env (hashBucket env "agent_vc_issue" [tenantId, human]) now
    env.limitAgentVcIssue).mapErr (AppError.ofStatus 429)
  .rejectIf (¬(0 < links ∧ env.inUserRing pt)) (.ofStatus 400
    ("no root of trust for this human: the issuer-verified ZKP path is archived, so the human " ++
      "must have a linked account and be a member of the user ring"))

/-- At most ten active credentials of an owner, and no active agent with the same keys. -/
def checkUnique (tenantId human : String) (body : AgentVcIssueBody) : Srv F AppError Unit := do
  let now ← Srv.nowSecs
  let activeCount ← Srv.scalarOr .other (fun db => some (activeVcCount tenantId human now db)) 0
  .rejectIf (10 ≤ activeCount)
    (.ofStatus 429 "Maximum 10 active agent VCs per human. Revoke some first.")
  let pubInUse ← Srv.scalarOr (.activePublicKey tenantId body.publicKeyHex now)
    (fun db => some (keyHolders AgentRow.publicKeyHex tenantId body.publicKeyHex now db)) 0
  .rejectIf (0 < pubInUse) (.ofStatus 409 "public_key_hex already registered to an active agent")
  let keyImageInUse ← Srv.scalarOr (.activeKeyImage tenantId body.ringKeyImageHex now)
    (fun db => some (keyHolders AgentRow.ringKeyImageHex tenantId body.ringKeyImageHex now db)) 0
  .rejectIf (0 < keyImageInUse)
    (.ofStatus 409 "ring_key_image_hex already registered to an active agent")

/-- `agent_vc_issue`; `session` is the `x-sauron-session` header. -/
def agentVcIssue (tenantId : String) (session : Option String) (body : AgentVcIssueBody) :
    Srv F AppError AgentVcIssueResponse := do
  .ofExcept (checkIssueBody body)
  let _ ← .ofExcept (decodePublicKeyHex env (trim body.publicKeyHex))
  let human ← requireSession env tenantId session
  .rejectIf (body.humanKeyImage ≠ "" ∧ body.humanKeyImage ≠ human)
    (.ofStatus 401 "human_key_image payload does not match authenticated session")
  checkOwner env tenantId human
  checkUnique tenantId human body
  let now ← Srv.nowSecs
  let ttlSecs := max 1 (min body.ttlHours 720) * 3600
  let expiresAt := now + ttlSecs
  let row := issuedRow env tenantId human body now expiresAt
  let vc := agentVc body row.agentId human now expiresAt
  let vcHash := hexEncode (env.hmacSha256 (env.deriveSubkey env.jwtSecret "agent-vc-hmac-v1")
    (utf8 (env.jsonText vc)))
  let _ ← (Srv.execute (.upsertAgent row)).mapErr issueConflict
  let _ ← (Srv.execute (.upsertAgentVc ⟨row.agentId, now, expiresAt, 0⟩)).mapErr
    (AppError.ofStatus 500)
  let ajwt ← forgeAjwt env human row.agentId body.agentChecksum row.intentJson tenantId ttlSecs
    ⟨some body.popJkt, none, none⟩
  return { agentId := row.agentId, assuranceLevel := "autonomous_web3", vc := vc,
           vcHash := vcHash, ajwt := ajwt, agentPublicKeyHex := body.publicKeyHex,
           ringKeyImageHex := body.ringKeyImageHex, expiresAt := expiresAt,
           trustChain := "SauronID self-sovereign (bank-linked human trust root)" }

/-! ## Specifications -/

variable {env} {may : May F} {t : History F}

/-- The row is written for this request: its tenant, its keys, and not revoked. -/
structure IssuedFor (tenantId : String) (body : AgentVcIssueBody) (row : AgentRow) : Prop where
  tenant : row.tenantId = tenantId
  publicKey : row.publicKeyHex = body.publicKeyHex
  keyImage : row.ringKeyImageHex = body.ringKeyImageHex
  popKey : row.popPublicKeyB64u = body.popPublicKeyB64u
  active : row.revoked = 0

/-- The count of the holders of a key came back, if it did, as zero. -/
def FoundFree (key : AgentRow → String) (tenantId value : String) (now : ℤ) (s : World F) : Prop :=
  s.fault = none → ∀ r ∈ s.db.agents, holdsKey key tenantId value now r = false

/-- The history has the counts of the holders of the two keys, both of them zero. -/
def Prechecked (tenantId : String) (body : AgentVcIssueBody) (t : History F) : Prop :=
  (∃ now s, (.select (.activePublicKey tenantId body.publicKeyHex now), s) ∈ t ∧
    FoundFree AgentRow.publicKeyHex tenantId body.publicKeyHex now s) ∧
  ∃ now s, (.select (.activeKeyImage tenantId body.ringKeyImageHex now), s) ∈ t ∧
    FoundFree AgentRow.ringKeyImageHex tenantId body.ringKeyImageHex now s

variable {tenantId : String} {body : AgentVcIssueBody}

omit [Float64 F] in
theorem Prechecked.mono {t t' : History F}
    (h : Prechecked tenantId body t) (ht : t <:+ t') : Prechecked tenantId body t' := by
  obtain ⟨⟨now, s, hs, hfree⟩, now', s', hs', hfree'⟩ := h
  exact ⟨⟨now, s, ht.subset hs, hfree⟩, now', s', ht.subset hs', hfree'⟩

omit [Float64 F] in
/-- What a count of zero says. -/
theorem foundFree_of_count {key : AgentRow → String} {value : String} {now : ℤ}
    {s : World F} {n : ℕ} (hn : s.fault = none → n = keyHolders key tenantId value now s.db)
    (hzero : ¬0 < n) : FoundFree key tenantId value now s := by
  intro hf r hr
  have hcount : keyHolders key tenantId value now s.db = 0 := by
    rw [← hn hf]
    omega
  simpa using List.countP_eq_zero.1 hcount r hr

variable {human : String}

theorem checkOwner_yields (hmay : Unguarded may) :
    (checkOwner env tenantId human).Yields (srvRules may) t fun _ _ => True := by
  refine .bind (.mapErr (Srv.yields_select fun s _ => .okOr fun hex _ => ?_))
  refine .bind (Srv.yields_scalarOr fun s links _ => .ofExcept fun pt _ => ?_)
  refine Srv.yields_nowSecs fun s =>
    (checkAndIncrement_yields (hmay.mayWrite rfl)).mapErr.andThen ?_
  exact fun t' _ _ _ => Prog.yields_rejectIf fun _ => trivial

theorem checkUnique_yields : (checkUnique tenantId human body).Yields (srvRules may) t fun t' _ =>
      Prechecked tenantId body t' := by
  refine Srv.yields_nowSecs fun sNow => .bind (Srv.yields_scalarOr fun s n _ => ?_)
  refine .rejectIf fun _ => .bind (Srv.yields_scalarOr fun sPub pub hpub => ?_)
  refine .rejectIf fun hpub₀ => .bind (Srv.yields_scalarOr fun sKey ki hki => ?_)
  refine Prog.yields_rejectIf fun hki₀ => ?_
  exact ⟨⟨_, sPub, .tail _ (.head _), foundFree_of_count hpub hpub₀⟩,
    _, sKey, .head _, foundFree_of_count hki hki₀⟩

/-- The row is written after both counts, and a success has written it and minted a token. -/
theorem agentVcIssue_yields (hmay : Unguarded may) {session : Option String}
    (hup : ∀ t row s, IssuedFor tenantId body row → Prechecked tenantId body t →
      may t (.upsertAgent row) s) :
    (agentVcIssue env tenantId session body).Yields (srvRules may) t fun t' resp =>
      (∃ row s, (.write (.upsertAgent row), s) ∈ t') ∧
        Mints env tenantId (max 1 (min body.ttlHours 720) * 3600) ⟨some body.popJkt, none, none⟩ t'
          resp.ajwt := by
  refine .ofExcept fun _ _ => .ofExcept fun _ _ => ?_
  refine requireSession_yields.andThen fun t₁ human _ _ => .rejectIf fun _ => ?_
  refine (checkOwner_yields hmay).andThen fun t₂ _ _ _ => ?_
  refine checkUnique_yields.andThen fun t₃ _ _ hpre => Srv.yields_nowSecs fun sNow => ?_
  refine .bind (.mapErr (Srv.yields_execute fun s =>
    ⟨hup _ _ _ ⟨rfl, rfl, rfl, rfl, rfl⟩ (hpre.mono (List.suffix_cons _ _)), fun n _ => ?_⟩))
  refine .bind (.mapErr (Srv.yields_execute fun s' => ⟨hmay _ _ _ rfl, fun n _ => ?_⟩))
  refine forgeAjwt_yields.andThen fun t₄ ajwt ht₄ hmint => Prog.yields_pure ?_
  exact ⟨⟨_, s, ht₄.subset (.tail _ (.head _))⟩, hmint⟩

end SauronID.Agent
