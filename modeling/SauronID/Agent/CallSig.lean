import SauronID.Action.History

/-!
# Signed calls

Every protected call of an agent carries a signature over the call, made with the key the
agent proves possession of, or, where that is enabled, a DPoP proof. `tryVerifyCallSig`
checks the headers, the clock, the agent, the signature, and last that the nonce has not
been used: it inserts the pair of agent and nonce, and fails if it is there. `collect` is
a round of the garbage collection that deletes such pairs again.
-/

namespace SauronID.Agent

open Conc Text SauronID.Action

variable {F : Type} [Float64 F] (env : Env F)

/-- A request as the middleware sees it. A header that is not visible ASCII has no text. -/
structure CallRequest where
  tenantId : String
  method : String
  path : String
  pathAndQuery : Option String
  headers : List (String × Option String)
  body : Bytes
  deriving DecidableEq

def CallRequest.header (req : CallRequest) (name : String) : Option String :=
  (req.headers.find? fun h => h.1 == name).bind Prod.snd

def CallRequest.hasHeader (req : CallRequest) (name : String) : Bool :=
  req.headers.any fun h => h.1 == name

def CallRequest.require (req : CallRequest) (name : String) : Except AppError String :=
  match req.header name with
  | some v => .ok v
  | none => .error (.detailed 401 "call_sig_missing_header" s!"{name} header required")

/-! ## Nonces -/

def consumeCallNonce (row : CallNonceRow) : Srv F RepoError Unit := do
  .rejectIf (row.nonce = "") (.backend "missing call nonce")
  .rejectIf (128 < row.nonce.utf8ByteSize) (.backend "call nonce too long (max 128 chars)")
  let _ ← (Srv.execute (.insertCallNonce row)).mapErr fun e =>
    if contains e "UNIQUE" || contains e "PRIMARY KEY" then
      RepoError.replay "call nonce replay (already used)"
    else .backend e

/-! ## The agent's row -/

/-- The row of an agent that is neither revoked nor expired. -/
def findLiveAgent (tenantId agentId : String) (now : ℤ) (db : Db F) : Option AgentRow :=
  db.agents.find? fun r => r.agentId == agentId && r.revoked == 0 && r.tenantId == tenantId &&
    decide (r.expiresAt > now)

def loadSigner (tenantId agentId : String) (now : ℤ) : Srv F AppError AgentRow := do
  let agent ← Srv.require (.agent tenantId agentId) (findLiveAgent tenantId agentId now)
    (.detailed 401 "call_sig_unknown_agent" "unknown, revoked, or expired agent")
  .rejectIf agent.popPublicKeyB64u.isEmpty
    (.detailed 401 "call_sig_no_pop_key"
      "agent has no pop_public_key_b64u registered (per-call signature requires PoP-bound agent)")
  return agent

/-- The clock is within the skew of a timestamp, in milliseconds. -/
def withinSkew (nowMs ts : ℤ) : Prop := wrapI64 |wrapI64 (nowMs - ts)| ≤ env.callSigSkewMs

instance (nowMs ts : ℤ) : Decidable (withinSkew env nowMs ts) :=
  inferInstanceAs (Decidable (_ ≤ _))

/-! ## DPoP -/

def dpopMalformed (message : String) : AppError := .detailed 401 "dpop_malformed_proof" message

/-- The three parts of a compact token; the third may contain dots. -/
def splitToken (token : String) : Option (String × String × String) :=
  let rec go : List Char → List Char → Option (List Char × List Char)
    | _, [] => none
    | acc, '.' :: cs => some (acc.reverse, cs)
    | acc, c :: cs => go (c :: acc) cs
  do
    let (header, rest) ← go [] token.toList
    let (claims, sig) ← go [] rest
    return (String.ofList header, String.ofList claims, String.ofList sig)

/-- `decode_json_part`. -/
def decodeJsonPart (part what : String) : Except AppError Json :=
  match env.b64Decode part with
  | .error _ => .error (dpopMalformed "DPoP proof part is not valid base64url")
  | .ok bytes =>
    match env.fromSlice bytes with
    | none => .error (dpopMalformed what)
    | some v => .ok v

/-- The key of a proof's header: its `x`. -/
def dpopJwkX (header : Json) : Except AppError String := do
  refuseIf (header.getStr "typ" ≠ some "dpop+jwt")
    (dpopMalformed "DPoP proof typ must be dpop+jwt")
  refuseIf (header.getStr "alg" ≠ some "EdDSA") (dpopMalformed "DPoP proof alg must be EdDSA")
  let some jwk := header.get "jwk" | throw (dpopMalformed "DPoP proof header missing jwk")
  refuseIf (jwk.getStr "kty" ≠ some "OKP" ∨ jwk.getStr "crv" ≠ some "Ed25519")
    (dpopMalformed "DPoP jwk must be kty OKP / crv Ed25519")
  let some x := jwk.getStr "x" | throw (dpopMalformed "DPoP jwk missing x")
  return x

/-- The proof must be signed with the registered key, and name it. -/
def checkDpopKey (registeredB64u jwkX sigB64 : String) (signingInput : Bytes) :
    Except AppError Unit := do
  let .ok registered := env.b64Decode (trim registeredB64u)
    | throw (.detailed 401 "call_sig_bad_pop_key" "agent pop key invalid base64url")
  let .ok claimed := env.b64Decode (trim jwkX)
    | throw (dpopMalformed "DPoP jwk x is not valid base64url")
  refuseIf (claimed ≠ registered) (.detailed 401 "dpop_wrong_key"
    "DPoP proof jwk does not match the agent's registered PoP key")
  refuseIf (registered.length ≠ 32)
    (.detailed 401 "call_sig_bad_pop_key" "agent pop key wrong length")
  refuseIf (!env.edKeyOk registered)
    (.detailed 401 "call_sig_bad_pop_key" "agent pop key not a valid Ed25519 point")
  let .ok sig := env.b64Decode sigB64
    | throw (dpopMalformed "DPoP proof signature is not valid base64url")
  refuseIf (sig.length ≠ 64) (dpopMalformed "DPoP proof signature wrong size")
  refuseIf (!env.edVerify registered signingInput sig)
    (.detailed 401 "dpop_invalid_signature" "DPoP proof signature verification failed")

def strClaim (claims : Json) (key : String) : Except AppError String :=
  match claims.getStr key with
  | some s => .ok s
  | none => .error (dpopMalformed s!"DPoP proof missing {key} claim")

def dpopClaims (claims : Json) : Except AppError DpopProof := do
  let htm ← strClaim claims "htm"
  let htu ← strClaim claims "htu"
  let some iat := (claims.get "iat").bind Json.asI64
    | throw (dpopMalformed "DPoP proof missing numeric iat claim")
  let jti ← strClaim claims "jti"
  refuseIf (jti.isEmpty ∨ 120 < jti.utf8ByteSize)
    (dpopMalformed "DPoP jti must be 1..=120 chars")
  return ⟨htm, htu, iat, jti, claims.getStr "ath"⟩

/-- `dpop::verify_proof`. -/
def verifyProof (proof registeredB64u : String) : Except AppError DpopProof := do
  let some (h, c, s) := splitToken (trim proof)
    | throw (dpopMalformed "DPoP proof must have three dot-separated parts")
  let header ← decodeJsonPart env h "DPoP proof header is not valid JSON"
  let x ← dpopJwkX header
  checkDpopKey env registeredB64u x s (utf8 (h ++ "." ++ c))
  let claims ← decodeJsonPart env c "DPoP proof claims are not valid JSON"
  dpopClaims claims

def checkContext (proof : DpopProof) (req : CallRequest) (nowMs : ℤ) : Except AppError Unit := do
  refuseIf (!eqIgnoreAsciiCase proof.htm req.method)
    (.detailed 401 "dpop_htm_mismatch" "DPoP htm does not match the request method")
  let mismatch : AppError :=
    .detailed 401 "dpop_htu_mismatch" "DPoP htu does not match the request URI"
  let some htu := env.parseUri proof.htu | throw mismatch
  refuseIf (htu.scheme.isNone ∨ htu.authority.isNone ∨ htu.query.isSome) mismatch
  refuseIf (htu.path ≠ req.path) mismatch
  match req.header "host", htu.authority with
  | some host, some authority => refuseIf (!eqIgnoreAsciiCase authority (trim host)) mismatch
  | _, _ => pure ()
  refuseIf (¬withinSkew env nowMs (satI64 (proof.iat * 1000)))
    (.detailed 401 "dpop_stale_iat" "DPoP iat outside acceptable skew window")

/-- What follows `Bearer ` in the authorization header. -/
def bearerToken (req : CallRequest) : Option String := do
  let value ← req.header "authorization"
  guard ("Bearer ".toList <+: value.toList)
  return String.ofList (value.toList.drop 7)

def checkAth (proof : DpopProof) (req : CallRequest) : Except AppError Unit :=
  match proof.ath with
  | none => .ok ()
  | some ath =>
    let mismatch : AppError :=
      .detailed 401 "dpop_ath_mismatch" "DPoP ath does not match the Authorization bearer token"
    match bearerToken req with
    | none => .error mismatch
    | some token => refuseIf (ath ≠ env.b64Encode (env.sha256 (utf8 token))) mismatch

/-- `dpop::consume_jti`. -/
def consumeDpopJti (agentId : String) (proof : DpopProof) : Srv F AppError Unit :=
  (consumeCallNonce ⟨agentId, "dpop:" ++ proof.jti,
    proof.iat + env.callSigSkewMs.tdiv 1000 + 60⟩).mapErr fun
    | .replay _ => .detailed 409 "dpop_jti_reused" "DPoP jti replay (already used)"
    | .backend s => .internal s

def verifyDpopRequest (req : CallRequest) : Srv F AppError String := do
  let agentId ← .ofExcept (req.require "x-sauron-agent-id")
  let proofStr ← .okOr (dpopMalformed "DPoP header is not valid ascii") (req.header "dpop")
  let now ← Srv.nowSecs
  let agent ← loadSigner req.tenantId agentId now
  let proof ← .ofExcept (verifyProof env proofStr agent.popPublicKeyB64u)
  let nowMs ← Srv.nowMs
  .ofExcept (checkContext env proof req nowMs)
  .ofExcept (checkAth env proof req)
  consumeDpopJti env agentId proof
  return agentId

/-! ## Call signatures -/

/-- The headers of a signed call that are read before the agent is known. -/
structure CallHeaders where
  agentId : String
  callTsStr : String
  callTs : ℤ
  nonce : String
  sigB64 : String
  isV3 : Bool

def parseCallHeaders (req : CallRequest) : Except AppError CallHeaders := do
  let agentId ← req.require "x-sauron-agent-id"
  let callTsStr ← req.require "x-sauron-call-ts"
  let some callTs := parseI64 callTsStr
    | throw (.detailed 401 "call_sig_bad_timestamp" "x-sauron-call-ts must be unix milliseconds")
  let nonce ← req.require "x-sauron-call-nonce"
  let sigB64 ← req.require "x-sauron-call-sig"
  let some version := req.header "x-sauron-protocol-version"
    | throw (.detailed 426 "call_sig_protocol_version" "x-sauron-protocol-version: 2 required")
  refuseIf (version ≠ "3" ∧ version ≠ "2") (.detailed 426 "call_sig_protocol_version"
    s!"unsupported call-signature protocol version {version}; expected 2")
  let audience ← req.require "x-sauron-call-audience"
  refuseIf (audience ≠ env.callAudience)
    (.detailed 401 "call_sig_audience_mismatch" "call signature audience mismatch")
  return ⟨agentId, callTsStr, callTs, nonce, sigB64, version = "3"⟩

/-- The fields that protocol 3 adds. -/
structure CallExtension where
  mandateDigest : String
  runId : String
  expiresAtMs : String

def requireV3 (req : CallRequest) (name : String) : Except AppError String :=
  match (req.header name).map trim with
  | some v =>
    if v = "" then
      .error (.detailed 401 "call_sig_v3_missing_header"
        s!"{name} header required for protocol version 3")
    else .ok v
  | none => .error (.detailed 401 "call_sig_v3_missing_header"
      s!"{name} header required for protocol version 3")

/-- A call of protocol 3 cites the mandate of the agent and bounds its own lifetime. -/
def parseExtension (req : CallRequest) (agent : AgentRow) (nowMs : ℤ) :
    Except AppError CallExtension := do
  let mandate ← requireV3 req "x-sauron-call-mandate-digest"
  let run ← requireV3 req "x-sauron-call-run-id"
  let expires ← requireV3 req "x-sauron-call-expires"
  refuseIf agent.ownerMandateHash.isEmpty (.detailed 401 "call_sig_no_mandate"
    "agent has no owner mandate recorded, so it cannot cite one")
  refuseIf (mandate ≠ agent.ownerMandateHash) (.detailed 401 "call_sig_mandate_mismatch"
    "cited mandate digest is not the mandate this agent was registered under")
  let some expiresMs := parseI64 expires
    | throw (.detailed 401 "call_sig_bad_expires"
        "x-sauron-call-expires must be unix milliseconds, ascii decimal")
  refuseIf (expiresMs < nowMs) (.detailed 401 "call_sig_expired"
    "the signature is past the expiry its own signer set")
  return ⟨mandate, run, expires⟩

/-- The bytes that are signed, in either version of the protocol. -/
def callSignaturePayload (req : CallRequest) (h : CallHeaders) (configDigest : String)
    (ext : Option CallExtension) : Bytes :=
  let targetUri := req.pathAndQuery.getD req.path
  let contentType := asciiLower (trim ((req.header "content-type").getD ""))
  let call := [("agent_id", h.agentId), ("tenant_id", req.tenantId),
    ("audience", env.callAudience), ("method", asciiUpper req.method), ("target_uri", targetUri),
    ("content_type", contentType), ("body_sha256", env.sha256Hex req.body),
    ("config_digest", configDigest)]
  match ext with
  | none =>
    canonicalFields "sauron.call.v2"
      ([("version", "2")] ++ call ++ [("timestamp_ms", h.callTsStr), ("nonce", h.nonce)])
  | some ext =>
    canonicalFields "sauron.call.v3"
      ([("version", "3")] ++ call ++ [("mandate_digest", ext.mandateDigest),
        ("run_id", ext.runId), ("timestamp_ms", h.callTsStr),
        ("expires_at_ms", ext.expiresAtMs), ("nonce", h.nonce)])

/-- The configuration the agent runs with must be the one it was registered with. -/
def checkConfigDigest (req : CallRequest) (agent : AgentRow) : Except AppError String := do
  let some digest := req.header "x-sauron-agent-config-digest"
    | throw (.detailed 401 "call_sig_missing_header"
        "x-sauron-agent-config-digest header required (Gap 4 enforcement)")
  refuseIf (digest ≠ agent.agentChecksum) (.detailed 401 "call_sig_config_digest_mismatch"
    ("agent runtime config digest does not match registered checksum (config drift; call " ++
      "/agent/<id>/checksum/update to rotate)"))
  return digest

def checkSignature (popPkB64u sigB64 : String) (payload : Bytes) : Except AppError Unit := do
  let .ok pk := env.b64Decode (trim popPkB64u)
    | throw (.detailed 401 "call_sig_bad_pop_key" "agent pop key invalid base64url")
  refuseIf (pk.length ≠ 32) (.detailed 401 "call_sig_bad_pop_key" "agent pop key wrong length")
  refuseIf (!env.edKeyOk pk)
    (.detailed 401 "call_sig_bad_pop_key" "agent pop key not a valid Ed25519 point")
  let .ok sig := env.b64Decode sigB64
    | throw (.detailed 401 "call_sig_bad_signature_encoding"
        "x-sauron-call-sig invalid base64url")
  refuseIf (sig.length ≠ 64)
    (.detailed 401 "call_sig_bad_signature_encoding" "x-sauron-call-sig wrong size")
  refuseIf (!env.edVerify pk payload sig)
    (.detailed 401 "call_sig_invalid" "call signature verification failed")

/-- Everything about a call that is checked once the agent is known. -/
def checkCall (req : CallRequest) (h : CallHeaders) (agent : AgentRow) (nowMs : ℤ) :
    Except AppError Unit := do
  let digest ← checkConfigDigest req agent
  let ext ← if h.isV3 then some <$> parseExtension req agent nowMs else pure none
  checkSignature env agent.popPublicKeyB64u h.sigB64 (callSignaturePayload env req h digest ext)

/-- The second after which the pair of agent and nonce may be deleted. -/
def nonceExp (callTs : ℤ) : ℤ := callTs.tdiv 1000 + env.callSigSkewMs.tdiv 1000 + 60

/-- `try_verify_call_sig`; the result is the agent that has signed. -/
def tryVerifyCallSig (req : CallRequest) : Srv F AppError String :=
  if req.hasHeader "dpop" ∧ ¬req.hasHeader "x-sauron-call-sig" ∧ env.acceptDpop then
    verifyDpopRequest env req
  else do
    let h ← .ofExcept (parseCallHeaders env req)
    let nowMs ← Srv.nowMs
    .rejectIf (¬withinSkew env nowMs h.callTs) (.detailed 401 "call_sig_timestamp_skew"
      "x-sauron-call-ts outside acceptable skew window")
    let now ← Srv.nowSecs
    let agent ← loadSigner req.tenantId h.agentId now
    .ofExcept (checkCall env req h agent nowMs)
    (consumeCallNonce ⟨h.agentId, h.nonce, nonceExp env h.callTs⟩).mapErr fun
      | .replay s => AppError.detailed 409 "call_sig_nonce_reused" s
      | .backend s => .internal s
    return h.agentId

/-! ## Garbage collection -/

/-- One round of `spawn_background_gc`; a failed deletion counts as none. -/
def collect {ε : Type} : Srv F ε Unit := do
  let now ← Srv.nowSecs
  let oldestWindow := satI64 (now.tdiv env.gcWindowSecs - 120)
  let _ ← (Srv.execute (.pruneJtis now)).attempt
  let _ ← (Srv.execute (.prunePopChallenges now)).attempt
  let _ ← (Srv.execute (.pruneCallNonces now)).attempt
  let _ ← (Srv.execute (.pruneRisk oldestWindow)).attempt

/-! ## Specifications -/

/-- The path of a request through the middleware. -/
def CallRequest.isDpop (req : CallRequest) : Prop :=
  req.hasHeader "dpop" ∧ ¬req.hasHeader "x-sauron-call-sig" ∧ env.acceptDpop

instance (req : CallRequest) : Decidable (req.isDpop env) :=
  inferInstanceAs (Decidable (_ ∧ _))

/-- The claims of a proof, whatever key it is checked against. -/
def proofClaims (proof : String) : Option DpopProof := do
  let (_, c, _) ← splitToken (trim proof)
  let claims ← (decodeJsonPart env c "DPoP proof claims are not valid JSON").toOption
  (dpopClaims claims).toOption

/-- What a request presents for single use: its agent, the nonce as it is stored, and its
timestamp in milliseconds. -/
def presented (req : CallRequest) : Option (String × String × ℤ) :=
  if req.isDpop env then do
    let agentId ← req.header "x-sauron-agent-id"
    let proof ← (req.header "dpop").bind (proofClaims env)
    return (agentId, "dpop:" ++ proof.jti, proof.iat * 1000)
  else do
    let h ← (parseCallHeaders env req).toOption
    return (h.agentId, h.nonce, h.callTs)

/-- The row of a nonce is inserted for what the request presents, after its timestamp was
found within the skew of the clock. -/
def Timely (req : CallRequest) (t : History F) (row : CallNonceRow) : Prop :=
  ∃ ts s, presented env req = some (row.agentId, row.nonce, ts) ∧ row.exp = nonceExp env ts ∧
    (.clockMs, s) ∈ t ∧ withinSkew env s.clockMs (satI64 ts)

variable {env} {may : May F} {t : History F}

omit [Float64 F] in
theorem proofClaims_of_verifyProof {proof key : String} {p : DpopProof}
    (h : verifyProof env proof key = .ok p) : proofClaims env proof = some p := by
  unfold verifyProof at h
  cases hsplit : splitToken (trim proof) with
  | none => simp [hsplit] at h
  | some parts =>
    obtain ⟨hd, c, s⟩ := parts
    simp only [hsplit] at h
    obtain ⟨header, -, h⟩ := exists_of_bind_eq_ok h
    obtain ⟨x, -, h⟩ := exists_of_bind_eq_ok h
    obtain ⟨_, -, h⟩ := exists_of_bind_eq_ok h
    obtain ⟨claims, hclaims, h⟩ := exists_of_bind_eq_ok h
    simp [proofClaims, hsplit, hclaims, h, Except.toOption]

variable {req : CallRequest}

omit [Float64 F] in
theorem header_of_require {name v : String} (h : req.require name = .ok v) :
    req.header name = some v := by
  unfold CallRequest.require at h
  split at h
  · next v' hv => rw [hv, Except.ok.inj h]
  · cases h

omit [Float64 F] in
theorem satI64_callTs {h : CallHeaders}
    (hh : parseCallHeaders env req = .ok h) : satI64 h.callTs = h.callTs := by
  unfold parseCallHeaders at hh
  obtain ⟨agentId, -, hh⟩ := exists_of_bind_eq_ok hh
  obtain ⟨callTsStr, -, hh⟩ := exists_of_bind_eq_ok hh
  cases hts : parseI64 callTsStr with
  | none => simp [hts] at hh
  | some callTs =>
    simp only [hts] at hh
    obtain ⟨nonce, -, hh⟩ := exists_of_bind_eq_ok hh
    obtain ⟨sigB64, -, hh⟩ := exists_of_bind_eq_ok hh
    cases hversion : req.header "x-sauron-protocol-version" with
    | none => simp [hversion] at hh
    | some version =>
      simp only [hversion, refuseIf_bind_eq_ok] at hh
      obtain ⟨audience, -, hh⟩ := exists_of_bind_eq_ok hh.2
      rw [refuseIf_bind_eq_ok] at hh
      cases hh.2
      exact satI64_of_parseI64 hts

/-- The row went into the table of nonces. -/
def Inserted (t : History F) (row : CallNonceRow) : Prop :=
  ∃ s n, (.write (.insertCallNonce row), s) ∈ t ∧ s.writeResult (.insertCallNonce row) = .ok n

theorem consumeCallNonce_yields {row : CallNonceRow} (hmay : ∀ s, may t (.insertCallNonce row) s) :
    (consumeCallNonce row).Yields (srvRules may) t fun t' _ => Inserted t' row := by
  refine .rejectIf fun _ => .rejectIf fun _ => ?_
  refine .bind (.mapErr (Srv.yields_execute fun s => ⟨hmay s, fun n hn => ?_⟩))
  exact Prog.yields_pure ⟨s, n, .head _, hn⟩

theorem loadSigner_yields {tenantId agentId : String} {now : ℤ} :
    (loadSigner tenantId agentId now : Srv F AppError AgentRow).Yields (srvRules may) t
      fun t' _ => SawActive tenantId agentId t' := by
  refine Srv.yields_require fun s agent _ hagent => .rejectIf fun _ => Prog.yields_pure ?_
  have hkey := List.find?_some hagent
  simp only [Bool.and_eq_true, beq_iff_eq] at hkey
  exact ⟨s, .head _, agent, List.mem_of_find?_eq_some hagent, hkey.1.1.1, hkey.1.2, hkey.1.1.2⟩

omit [Float64 F] in
theorem withinSkew_of_checkContext {proof : DpopProof} {nowMs : ℤ}
    (h : checkContext env proof req nowMs = .ok ()) :
    withinSkew env nowMs (satI64 (proof.iat * 1000)) := by
  unfold checkContext at h
  rw [refuseIf_bind_eq_ok] at h
  cases hhtu : env.parseUri proof.htu with
  | none => simp [hhtu] at h
  | some htu =>
    simp only [hhtu, refuseIf_bind_eq_ok] at h
    obtain ⟨-, -, -, h⟩ := h
    split at h
    · rw [refuseIf_bind_eq_ok, refuseIf_eq_ok, not_not] at h
      exact h.2
    · rwa [refuseIf_eq_ok, not_not] at h

/-- A DPoP request has read an active agent and inserted its identifier in time. -/
theorem verifyDpopRequest_yields (hdpop : req.isDpop env)
    (hmay : ∀ t row s, Timely env req t row → may t (.insertCallNonce row) s) :
    (verifyDpopRequest env req).Yields (srvRules may) t fun t' a =>
      SawActive req.tenantId a t' ∧ ∃ row, Timely env req t' row ∧ Inserted t' row := by
  refine .ofExcept fun agentId hagent => .okOr fun proofStr hproof => ?_
  refine Srv.yields_nowSecs fun sNow => loadSigner_yields.andThen fun t₁ agent _ hsaw => ?_
  refine .ofExcept fun proof hverify => Srv.yields_nowMs fun s => .ofExcept fun _ hctx => ?_
  refine .ofExcept fun _ _ => ?_
  have htimely : ∀ t', (.clockMs, s) :: t₁ <:+ t' → Timely env req t'
      ⟨agentId, "dpop:" ++ proof.jti, proof.iat + env.callSigSkewMs.tdiv 1000 + 60⟩ := by
    intro t' ht'
    refine ⟨proof.iat * 1000, s, ?_, ?_, ht'.subset (.head _), withinSkew_of_checkContext hctx⟩
    · have hheader := header_of_require hagent
      simp [presented, hdpop, hheader, hproof, proofClaims_of_verifyProof hverify]
    · rw [nonceExp, Int.mul_tdiv_cancel _ (by decide)]
  refine ((consumeCallNonce_yields fun s' => hmay _ _ _ (htimely _ List.suffix_rfl)).mapErr).andThen
    fun t₂ _ ht₂ hins => Prog.yields_pure ⟨hsaw.mono ?_, _, htimely _ ht₂, hins⟩
  exact (List.suffix_cons _ _).trans ht₂

/-- A signed call that is accepted has read an active agent and inserted its nonce in
time. -/
theorem tryVerifyCallSig_yields
    (hmay : ∀ t row s, Timely env req t row → may t (.insertCallNonce row) s) :
    (tryVerifyCallSig env req).Yields (srvRules may) t fun t' a =>
      SawActive req.tenantId a t' ∧ ∃ row, Timely env req t' row ∧ Inserted t' row := by
  unfold tryVerifyCallSig
  split
  · next hdpop => exact verifyDpopRequest_yields hdpop hmay
  · next hdpop =>
    refine .ofExcept fun h hh => Srv.yields_nowMs fun s => .rejectIf fun hskew => ?_
    refine Srv.yields_nowSecs fun sNow => loadSigner_yields.andThen fun t₁ agent ht₁ hsaw => ?_
    refine .ofExcept fun _ _ => ?_
    have htimely : ∀ t', t₁ <:+ t' →
        Timely env req t' ⟨h.agentId, h.nonce, nonceExp env h.callTs⟩ := by
      intro t' ht'
      refine ⟨h.callTs, s, ?_, rfl, ?_, ?_⟩
      · have hnot : ¬req.isDpop env := hdpop
        simp [presented, hnot, hh, Except.toOption]
      · exact ht'.subset (ht₁.subset (.tail _ (.head _)))
      · rw [satI64_callTs hh]
        exact not_not.1 hskew
    refine (consumeCallNonce_yields fun s' =>
        hmay _ _ _ (htimely _ List.suffix_rfl)).mapErr.andThen
      fun t₂ _ ht₂ hins => Prog.yields_pure ⟨hsaw.mono ht₂, _, htimely _ ht₂, hins⟩

/-- The statements of the garbage collection: it deletes what had expired when it read the
clock. -/
def Collects (t : History F) : Write F → Prop
  | .pruneJtis now | .prunePopChallenges now | .pruneCallNonces now => ReadsNow t now
  | .pruneRisk _ => True
  | _ => False

theorem collect_yields {ε : Type} (hmay : ∀ t w s, Collects t w → may t w s) :
    (collect env : Srv F ε Unit).Yields (srvRules may) t fun _ _ => True := by
  refine Srv.yields_nowSecs fun s => ?_
  have hclock : ∀ t', (.clock, s) :: t <:+ t' → ReadsNow t' s.nowSecs :=
    fun t' ht' => ⟨s, ht'.subset (.head _), rfl⟩
  refine Srv.yields_tryExecute fun s₁ => ⟨hmay _ _ _ (hclock _ List.suffix_rfl), fun _ => ?_⟩
  refine Srv.yields_tryExecute fun s₂ => ⟨hmay _ _ _ (hclock _ (List.suffix_cons _ _)), fun _ => ?_⟩
  refine Srv.yields_tryExecute fun s₃ => ⟨hmay _ _ _ (hclock _ ?_), fun _ => ?_⟩
  · exact (List.suffix_cons _ _).trans (List.suffix_cons _ _)
  · exact Srv.yields_tryExecute fun s₄ => ⟨hmay _ _ _ trivial, fun _ => Prog.yields_pure trivial⟩

end SauronID.Agent
