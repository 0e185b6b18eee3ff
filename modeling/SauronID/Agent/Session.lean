import SauronID.Model.Env
import SauronID.Model.Rules

/-!
# Owner sessions and agent tokens

The owner's session is an HMAC bearer token with the tenant, the owner's key image, an
epoch and an expiry in it. `sessionKeyImage` is the full check of the routes that mint
agents: signature, tenant, expiry, and that the epoch is still the owner's. `forgeAjwt`
is the token an agent is handed when it is minted, `decodeRistretto` how both routes read
the agent's key.
-/

namespace SauronID.Agent

open Conc Text

variable {F : Type} (env : Env F)

/-! ## Sessions -/

structure VerifiedSession where
  keyImage : String
  epoch : ℤ

/-- The texts before and after the last `|`. -/
def splitLastBar (s : String) : Option (String × String) :=
  let chars := s.toList.reverse
  match chars.dropWhile (· != '|') with
  | [] => none
  | _ :: front =>
    some (String.ofList front.reverse, String.ofList (chars.takeWhile (· != '|')).reverse)

def sessionSign (payload : String) : String :=
  hexEncode (env.hmacSha256 (env.deriveSubkey env.jwtSecret "session-hmac-v1")
    (utf8 "|SESSION|" ++ utf8 payload))

/-- `user_session::verify` but for the expiry, which it returns. -/
def parseSession (session expectedTenantId : String) : Option (VerifiedSession × ℤ) := do
  let (payload, sig) ← splitLastBar session
  guard (sessionSign env payload = sig)
  let [version, tenantId, keyImage, epoch, expiresAt] :=
    (payload.toList.splitOn '|').map String.ofList | none
  guard (version = "v3" ∧ tenantId = expectedTenantId)
  guard (keyImage.utf8ByteSize = 64 ∧ keyImage.toList.all isAsciiHexdigit)
  return (⟨keyImage, ← parseI64 epoch⟩, ← parseI64 expiresAt)

/-- `session_key_image`: the owner of a session that is good now. -/
def sessionKeyImage {ε : Type} (tenantId : String) (header : Option String) :
    Srv F ε (Option String) :=
  match header.bind (parseSession env · tenantId) with
  | none => return none
  | some (verified, expiresAt) => do
    let now ← Srv.nowSecs
    if expiresAt < now then return none
    else
      let epoch ← Srv.scalarOr .other (fun db =>
        (db.credentials.find? fun r => r.keyImageHex == verified.keyImage).map
          (·.sessionEpoch)) 0
      return if epoch = verified.epoch then some verified.keyImage else none

/-- The owner, or a refusal. -/
def requireSession (tenantId : String) (header : Option String) : Srv F AppError String := do
  let owner ← sessionKeyImage env tenantId header
  .okOr (.ofStatus 401 "Valid x-sauron-session header required") owner

/-! ## Keys -/

/-- A compressed point in the hexadecimal text of a field of the request. -/
def decodeRistretto (field lengthError hex : String) : Except AppError Bytes :=
  match hexDecode hex with
  | none => .error (.ofStatus 400 s!"{field} must be valid hex")
  | some bytes =>
    if bytes.length ≠ 32 then .error (.ofStatus 400 lengthError)
    else if !env.validPoint bytes then
      .error (.ofStatus 400 s!"{field} is not a valid Ristretto point")
    else .ok bytes

def decodePublicKeyHex (hex : String) : Except AppError Bytes :=
  decodeRistretto env "public_key_hex" "public_key_hex must be 32-byte compressed Ristretto point"
    hex

/-! ## Tokens -/

structure AjwtExtraClaims where
  cnfJkt : Option String
  workflowId : Option String
  delegationChain : Option Json

/-- The claims that are set only when they say something. -/
def AjwtExtraClaims.fields (extra : AjwtExtraClaims) : List (String × Json) :=
  [(extra.cnfJkt.filter (· ≠ "")).map fun jkt => ("cnf", Json.obj [("jkt", .str jkt)]),
    (extra.workflowId.filter (· ≠ "")).map fun wf => ("workflow_id", .str wf),
    extra.delegationChain.map fun dc => ("delegation_chain", dc)].reduceOption

def forgeAjwt {ε : Type} (humanKeyImage agentId agentChecksum intentJson tenantId : String)
    (ttlSecs : ℤ) (extra : AjwtExtraClaims) : Srv F ε String := do
  let now ← Srv.nowSecs
  let jti ← Srv.random env.randomHex32
  let header := env.b64Encode (utf8 (env.jsonText (.obj
    [("alg", .str "EdDSA"), ("typ", .str "ajwt+jwt"), ("kid", .str agentId)])))
  let payload := env.b64Encode (utf8 (env.jsonText (.obj (
    [("iss", .str "did:sauron:idp"), ("aud", .str env.ajwtAudience), ("tenant_id", .str tenantId),
      ("sub", .str humanKeyImage), ("agent_id", .str agentId),
      ("agent_checksum", .str agentChecksum), ("intent", .str intentJson), ("iat", .int now),
      ("exp", .int (now + ttlSecs)), ("jti", .str jti)] ++ extra.fields))))
  let signingInput := header ++ "." ++ payload
  let sig := env.b64Encode (env.ajwtSign agentId humanKeyImage agentChecksum (utf8 signingInput))
  return signingInput ++ "." ++ sig

/-- The claims of a token. -/
structure AjwtClaims where
  humanKeyImage : String
  agentId : String
  agentChecksum : String
  intentJson : String
  tenantId : String
  iat : ℤ
  exp : ℤ
  jti : String
  extra : AjwtExtraClaims

def ajwtHeader (agentId : String) : Json :=
  .obj [("alg", .str "EdDSA"), ("typ", .str "ajwt+jwt"), ("kid", .str agentId)]

def AjwtClaims.payload (claims : AjwtClaims) : Json :=
  .obj ([("iss", .str "did:sauron:idp"), ("aud", .str env.ajwtAudience),
    ("tenant_id", .str claims.tenantId), ("sub", .str claims.humanKeyImage),
    ("agent_id", .str claims.agentId), ("agent_checksum", .str claims.agentChecksum),
    ("intent", .str claims.intentJson), ("iat", .int claims.iat), ("exp", .int claims.exp),
    ("jti", .str claims.jti)] ++ claims.extra.fields)

/-- The two parts of a token that are signed. -/
def AjwtClaims.signingInput (claims : AjwtClaims) : String :=
  env.b64Encode (utf8 (env.jsonText (ajwtHeader claims.agentId))) ++ "." ++
    env.b64Encode (utf8 (env.jsonText (claims.payload env)))

/-- The token with these claims. -/
def AjwtClaims.token (claims : AjwtClaims) : String :=
  claims.signingInput env ++ "." ++ env.b64Encode (env.ajwtSign claims.agentId
    claims.humanKeyImage claims.agentChecksum (utf8 (claims.signingInput env)))

/-- The history reads the clock, and the token is minted at that time. -/
def Mints (tenantId : String) (ttlSecs : ℤ) (extra : AjwtExtraClaims) (t : History F)
    (token : String) : Prop :=
  ∃ (s : World F) (claims : AjwtClaims), (.clock, s) ∈ t ∧ token = claims.token env ∧
    claims.tenantId = tenantId ∧ claims.iat = s.nowSecs ∧ claims.exp = s.nowSecs + ttlSecs ∧
    claims.extra = extra

/-! ## Specifications -/

variable [Float64 F] {env} {ε : Type} {may : May F} {t : History F}

variable (env) in
omit [Float64 F] in
/-- The session is one of this owner. -/
def SessionOwner (tenantId : String) (header : Option String) (human : String) : Prop :=
  ∃ verified expiresAt, header.bind (parseSession env · tenantId) = some (verified, expiresAt) ∧
    verified.keyImage = human

variable {tenantId : String} {header : Option String}

theorem sessionKeyImage_yields :
    (sessionKeyImage (ε := ε) env tenantId header).Yields (srvRules may) t fun _ owner =>
      ∀ human, owner = some human → SessionOwner env tenantId header human := by
  unfold sessionKeyImage
  split
  · exact Prog.yields_pure nofun
  · next verified expiresAt hparse =>
    refine Srv.yields_nowSecs fun s => ?_
    split
    · exact Prog.yields_pure nofun
    · refine .bind (Srv.yields_scalarOr fun s epoch _ => Prog.yields_pure fun human hhuman => ?_)
      split at hhuman
      · exact ⟨verified, expiresAt, hparse, Option.some.inj hhuman⟩
      · cases hhuman

/-- The owner is the one of the session. -/
theorem requireSession_yields :
    (requireSession env tenantId header).Yields (srvRules may) t fun _ human =>
      SessionOwner env tenantId header human := by
  refine sessionKeyImage_yields.andThen fun t' owner _ howner => ?_
  cases owner with
  | none => exact Prog.yields_fail
  | some owner => exact Prog.yields_pure (howner owner rfl)

variable {ttlSecs : ℤ} {extra : AjwtExtraClaims}

omit [Float64 F] in
theorem Mints.mono {t t' : History F}
    {token : String} (h : Mints env tenantId ttlSecs extra t token) (ht : t <:+ t') :
    Mints env tenantId ttlSecs extra t' token := by
  obtain ⟨s, claims, hs, hrest⟩ := h
  exact ⟨s, claims, ht.subset hs, hrest⟩

/-- The token is minted at a reading of the clock. -/
theorem forgeAjwt_yields {humanKeyImage agentId agentChecksum intentJson : String} :
    (forgeAjwt (ε := ε) env humanKeyImage agentId agentChecksum intentJson tenantId ttlSecs
      extra).Yields (srvRules may) t fun t' token => Mints env tenantId ttlSecs extra t' token := by
  refine Srv.yields_nowSecs fun s => Srv.yields_random fun s' => Prog.yields_pure ?_
  exact ⟨s, ⟨humanKeyImage, agentId, agentChecksum, intentJson, tenantId, s.nowSecs,
    s.nowSecs + ttlSecs, env.randomHex32 s'.drawn, extra⟩, .tail _ (.head _), rfl, rfl, rfl, rfl,
    rfl⟩

end SauronID.Agent
