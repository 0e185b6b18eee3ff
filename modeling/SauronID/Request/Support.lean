import SauronID.Model.Env
import SauronID.Model.Rules

/-!
# What the action routes share

The agent token and its claims, the rate windows, the one-time identifiers and the
matrix of actions an assurance level permits. Each stateful part comes with its
specification: which statements it may send is of no interest to the routes' own
guarantees as long as they touch no guarded table.
-/

namespace SauronID.Request

open Conc Text

variable {F : Type} (env : Env F)

/-! ## The agent token -/

/-- The claims of a token that verifies at `now`: signed, of this issuer and audience,
neither expired nor dated ahead nor longer-lived than a day. -/
def verifyAjwt (token : String) (now : ℤ) : Option Json := do
  let (header, payload) ← env.decodeAjwt token
  guard (header.getStr "alg" = some "EdDSA")
  guard (header.getStr "typ" = some "ajwt+jwt")
  let agentId ← payload.getStr "agent_id"
  let human ← payload.getStr "sub"
  let checksum ← payload.getStr "agent_checksum"
  guard (header.getStr "kid" = some agentId)
  guard (payload.getStr "iss" = some "did:sauron:idp")
  guard (payload.getStr "aud" = some env.ajwtAudience)
  guard ((payload.getStr "tenant_id").any (· ≠ ""))
  guard (env.ajwtSigOk token agentId human checksum)
  let exp ← payload.getI64 "exp"
  guard (now ≤ exp)
  guard ((payload.getI64 "nbf").all fun nbf => nbf ≤ now + 300)
  guard ((payload.getI64 "iat").all fun iat => iat ≤ now + 300 && satI64 (exp - iat) ≤ 86400)
  return payload

/-- `verify_ajwt_for_tenant`: the token must also be of the request's tenant. -/
def verifyAjwtForTenant (token tenant : String) (e : AppError) : Srv F AppError Json := do
  let now ← Srv.nowSecs
  .okOr e do
    let claims ← verifyAjwt env token now
    guard (claims.getStr "tenant_id" = some tenant)
    return claims

/-- A claim that must be a string. -/
def requireClaim (claims : Json) (name : String) : Except AppError String :=
  match claims.getStr name with
  | some v => .ok v
  | none => .error (.ofStatus 401 s!"A-JWT missing {name}")

/-- The `exp` claim. -/
def requireExp (claims : Json) : Except AppError ℤ :=
  match claims.getI64 "exp" with
  | some v => .ok v
  | none => .error (.ofStatus 401 "A-JWT missing exp")

/-- `parse_ajwt_intent_claim`: JSON text or an object. -/
def parseAjwtIntentClaim (claims : Json) : Except AppError Json :=
  match claims.get "intent" with
  | some (.str s) =>
    match env.fromStr s with
    | some v => .ok v
    | none => .error (.unauthorized "A-JWT intent is not valid JSON")
  | some (.obj fields) => .ok (.obj fields)
  | _ => .error (.ofStatus 401 "A-JWT missing intent claim")

/-! ## The matrix of permitted actions -/

inductive AssuranceLevel where
  | delegatedBank
  | delegatedNonBank
  | autonomousWeb3
  deriving DecidableEq, Repr

def AssuranceLevel.fromDb (value : String) : AssuranceLevel :=
  match value with
  | "delegated_bank" => delegatedBank
  | "autonomous_web3" => autonomousWeb3
  | _ => delegatedNonBank

def delegatedBankActions : List String :=
  ["prove_age", "prove_nationality", "read_identity", "kyc_lookup", "kyc_consent", "zkp_login",
    "payment_initiation", "payment_consume", "web3_sign"]

def autonomousWeb3Actions : List String :=
  ["read_identity", "prove_age", "prove_nationality", "kyc_lookup", "kyc_consent", "zkp_login",
    "web3_sign", "web3_trade_small"]

structure PolicyDecision where
  allowed : Bool
  reason : String
  deriving DecidableEq, Repr

/-- `authorize_action` -/
def authorizeAction (level : AssuranceLevel) (action : String) : PolicyDecision :=
  let normalized := asciiLower (trim action)
  if normalized.isEmpty then ⟨false, "empty action"⟩
  else
    match level with
    | .delegatedBank =>
      if delegatedBankActions.contains normalized then
        ⟨true, "delegated_bank: action in KYA policy matrix"⟩
      else ⟨false, s!"action '{action}' not allowed for delegated_bank (see policy matrix)"⟩
    | .delegatedNonBank =>
      ⟨false, s!"action '{action}' blocked for delegated_nonbank; use delegated_bank or " ++
        "autonomous_web3"⟩
    | .autonomousWeb3 =>
      if autonomousWeb3Actions.contains normalized then
        ⟨true, "autonomous_web3: action in KYA policy matrix"⟩
      else ⟨false, s!"action '{action}' not allowed for autonomous_web3 assurance level"⟩

/-! ## Rate windows -/

variable [Float64 F]

/-- `hash_bucket` -/
def hashBucket (kind : String) (parts : List String) : String :=
  hexEncode ((env.sha256 (utf8 kind ++ parts.flatMap fun p => utf8 "|" ++ utf8 p)).take 24)

/-- `check_and_increment`: count the request in its window; a limit of zero is none. -/
def checkAndIncrement (bucket : String) (now maxPerWindow : ℤ) : Srv F String Unit :=
  if maxPerWindow ≤ 0 then pure ()
  else do
    .rejectIf (128 < bucket.utf8ByteSize) "risk: internal bucket key too long"
    let window := now.tdiv env.riskWindowSecs
    let cnt ← (Srv.execute (.bumpRisk bucket window)).mapErr fun e => s!"risk: db error: {e}"
    .rejectIf (maxPerWindow < cnt) "risk: rate limit exceeded"
    -- best-effort pruning of old windows
    let _ ← (Srv.execute (.pruneRisk (window - 120))).attempt

/-! ## One-time identifiers -/

/-- `consume_ajwt_jti` -/
def consumeAjwtJti (jti : String) (exp : ℤ) : Srv F String Unit := do
  .rejectIf (jti = "") "missing jti"
  .rejectIf (256 < jti.utf8ByteSize) "jti too long (max 256 chars)"
  let now ← Srv.nowSecs
  let _ ← (Srv.execute (.consumeJti now jti exp)).mapErr fun e =>
    if isUniqueViolation e then "A-JWT jti replay (token already used)" else e

/-- `take_pop_challenge`: the request that deletes the challenge may use it. -/
def takePopChallenge (challengeId expectedAgentId : String) : Srv F String String := do
  let now ← Srv.nowSecs
  let row ← Srv.require .other (fun db => db.popChallenges.find? fun r => r.id == challengeId)
    "unknown or expired pop_challenge_id"
  .rejectIf (row.agentId ≠ expectedAgentId) "pop challenge does not match agent"
  if row.exp < now then
    let _ ← (Srv.execute (.deletePopChallenge challengeId)).attempt
    .fail "pop challenge expired"
  else
    let consumed ← Srv.execute (.deletePopChallenge challengeId)
    .rejectIf (consumed ≠ 1) "pop challenge already used"
    return row.challenge

/-- The bytes that the signature of a compact JWS is over. -/
def jwsSigningInput (header payload : String) : Bytes := utf8 (header ++ "." ++ payload)

/-- `verify_ed25519_pop_jws`: a compact JWS over a challenge. Its header is signed but not
looked at. -/
def verifyEd25519PopJws (challenge jws publicKeyB64url : String) : Except String Unit := do
  let .ok pk := env.b64Decode (trim publicKeyB64url)
    | throw "pop_public_key_b64u invalid base64url"
  refuseIf (pk.length ≠ 32) "pop public key must decode to 32 bytes"
  refuseIf (!env.edKeyOk pk) "invalid Ed25519 public key"
  let [header, payload, signature] := splitn 3 '.' jws
    | throw "pop JWS must have 3 segments"
  let .ok payloadBytes := env.b64Decode payload
    | throw "pop JWS payload b64 invalid"
  let some payloadStr := fromUtf8 payloadBytes
    | throw "pop JWS payload not UTF-8"
  refuseIf (payloadStr ≠ challenge) "pop JWS payload does not match challenge"
  let .ok sig := env.b64Decode signature
    | throw "pop JWS sig b64 invalid"
  refuseIf (sig.length ≠ 64) "invalid Ed25519 signature"
  refuseIf (!env.edVerify pk (jwsSigningInput header payload) sig)
    "PoP signature verification failed"

/-! ## Specifications -/

variable {env} {may : May F} {t : History F} {token : String} {now : ℤ} {claims : Json}

omit [Float64 F] in
/-- Verification returns the claims the token carries. -/
theorem decodeAjwt_of_verifyAjwt (h : verifyAjwt env token now = some claims) :
    ∃ header, env.decodeAjwt token = some (header, claims) := by
  simp only [verifyAjwt, Option.bind_eq_bind, Option.bind_eq_some_iff] at h
  obtain ⟨⟨header, payload⟩, hdecode, h⟩ := h
  -- fourteen checks stand between the payload and the answer
  obtain ⟨_, -, _, -, _, -, _, -, _, -, _, -, _, -, h⟩ := h
  obtain ⟨_, -, _, -, _, -, _, -, _, -, _, -, _, -, h⟩ := h
  cases h
  exact ⟨header, hdecode⟩

theorem verifyAjwtForTenant_yields {tenant : String} {e : AppError} :
    (verifyAjwtForTenant env token tenant e).Yields (srvRules may) t fun _ claims =>
      ∃ header, env.decodeAjwt token = some (header, claims) := by
  refine Srv.yields_nowSecs fun s => ?_
  unfold Prog.okOr
  split
  · next claims hclaims =>
    refine Prog.yields_pure ?_
    simp only [Option.bind_eq_bind, Option.bind_eq_some_iff] at hclaims
    obtain ⟨claims', hverify, _, -, hpure⟩ := hclaims
    cases hpure
    exact decodeAjwt_of_verifyAjwt hverify
  · exact Prog.yields_fail

theorem checkAndIncrement_yields (hmay : MayWrite .riskCounters may) {bucket : String} {limit : ℤ} :
    (checkAndIncrement env bucket now limit).Yields (srvRules may) t fun _ _ => True := by
  unfold checkAndIncrement
  split
  · exact Prog.yields_pure trivial
  · refine .rejectIf fun _ => .bind (.mapErr (Srv.yields_execute fun s =>
      ⟨hmay _ _ _ rfl, fun n _ => ?_⟩))
    refine .rejectIf fun _ => Srv.yields_tryExecute fun s => ⟨hmay _ _ _ rfl, fun _ => ?_⟩
    exact Prog.yields_pure trivial

variable (env) in
omit [Float64 F] in
/-- The one-time identifier of a token, and when it expires. -/
def tokenUse (token : String) : Option (String × ℤ) := do
  let (_, claims) ← env.decodeAjwt token
  let jti ← claims.getStr "jti"
  let exp ← claims.getI64 "exp"
  return (jti, exp)

variable {jti : String} {exp : ℤ} {header : Json}

omit [Float64 F] in
theorem tokenUse_of_claims (hdecode : env.decodeAjwt token = some (header, claims))
    (hjti : requireClaim claims "jti" = .ok jti) (hexp : requireExp claims = .ok exp) :
    tokenUse env token = some (jti, exp) := by
  have hj : claims.getStr "jti" = some jti := by
    unfold requireClaim at hjti
    split at hjti
    · next v hv => rw [hv, Except.ok.inj hjti]
    · cases hjti
  have he : claims.getI64 "exp" = some exp := by
    unfold requireExp at hexp
    split at hexp
    · next v hv => rw [hv, Except.ok.inj hexp]
    · cases hexp
  simp [tokenUse, hdecode, hj, he]

variable (env) in
omit [Float64 F] in
/-- The intent document of a token. -/
def tokenIntent (token : String) : Option Json := do
  let (_, claims) ← env.decodeAjwt token
  (parseAjwtIntentClaim env claims).toOption

omit [Float64 F] in
theorem tokenIntent_of_claims {intent : Json}
    (hdecode : env.decodeAjwt token = some (header, claims))
    (hintent : parseAjwtIntentClaim env claims = .ok intent) :
    tokenIntent env token = some intent := by
  simp [tokenIntent, hdecode, hintent, Except.toOption]

variable (env) in
omit [Float64 F] in
/-- The rules allow to consume the identifier of the token, at the time of the clock. -/
def MayConsume (may : May F) (token : String) : Prop :=
  ∀ t now jti exp s, ReadsNow t now → tokenUse env token = some (jti, exp) →
    may t (.consumeJti now jti exp) s

variable (env) in
/-- The request has consumed the identifier of the token. -/
def Consumed (token : String) (t : History F) : Prop :=
  ∃ now jti exp s n, tokenUse env token = some (jti, exp) ∧
    (.write (.consumeJti now jti exp), s) ∈ t ∧ s.writeResult (.consumeJti now jti exp) = .ok n

theorem Consumed.mono {t t' : History F} (h : Consumed env token t)
    (ht : t <:+ t') : Consumed env token t' := by
  obtain ⟨now, jti, exp, s, n, huse, hs, hn⟩ := h
  exact ⟨now, jti, exp, s, n, huse, ht.subset hs, hn⟩

theorem consumeAjwtJti_yields (hmay : MayConsume env may token)
    (huse : tokenUse env token = some (jti, exp)) :
    (consumeAjwtJti jti exp).Yields (srvRules may) t fun t' _ => Consumed env token t' := by
  refine .rejectIf fun _ => .rejectIf fun _ => Srv.yields_nowSecs fun s => ?_
  refine .bind (.mapErr (Srv.yields_execute fun s' =>
    ⟨hmay _ _ _ _ _ ⟨s, .head _, rfl⟩ huse, fun n hn => ?_⟩))
  exact Prog.yields_pure ⟨_, _, _, s', n, huse, .head _, hn⟩

/-- A possession challenge that is handed out was read in time, for this agent, and deleted. -/
theorem takePopChallenge_yields {challengeId agentId : String}
    (hdelete : ∀ t s, may t (.deletePopChallenge challengeId) s) :
    (takePopChallenge challengeId agentId : Srv F String String).Yields (srvRules may) t
      fun t' challenge => ∃ row sNow sRow s,
        t' = (.write (.deletePopChallenge challengeId), s) :: (.select .other, sRow) ::
          (.clock, sNow) :: t ∧ s.writeResult (.deletePopChallenge challengeId) = .ok 1 ∧
        row ∈ sRow.db.popChallenges ∧ row.id = challengeId ∧ row.agentId = agentId ∧
        row.challenge = challenge ∧ sNow.nowSecs ≤ row.exp := by
  refine Srv.yields_nowSecs fun sNow => Srv.yields_require fun sRow row _ hrow => ?_
  refine .rejectIf fun hagent => ?_
  split
  · exact Srv.yields_tryExecute fun s => ⟨hdelete _ _, fun _ => Prog.yields_fail⟩
  · next hexp =>
    refine .bind (Srv.yields_execute fun s => ⟨hdelete _ _, fun n hn => ?_⟩)
    refine .rejectIf fun hone => Prog.yields_pure ⟨row, sNow, sRow, s, rfl, ?_,
      List.mem_of_find?_eq_some hrow, ?_, not_not.1 hagent, rfl, not_lt.1 hexp⟩
    · rw [hn, not_not.1 hone]
    · simpa using List.find?_some hrow

/-! ## Evaluation -/

/-- The claims of a token of the sample agent that is valid until second 100; the token
is its own `jti`. -/
def sampleClaims (jti : String) : Json :=
  .obj [("agent_id", .str "agt_1"), ("sub", .str "owner"), ("agent_checksum", .str "checksum"),
    ("iss", .str "did:sauron:idp"), ("aud", .str "sauron-core"), ("tenant_id", .str "default"),
    ("exp", .int 100), ("jti", .str jti),
    ("intent", .obj [("scope", .arr [.str "prove_age", .str "payment_initiation"]),
      ("maxAmount", .int 1000), ("currency", .str "USD")])]

def sampleHeader : Json :=
  .obj [("alg", .str "EdDSA"), ("typ", .str "ajwt+jwt"), ("kid", .str "agt_1")]

/-- An environment in which every text is a token of the sample agent. -/
def tokenEnv : Env ℚ :=
  { sampleEnv ℚ with decodeAjwt := fun token => some (sampleHeader, sampleClaims token) }

/-- The sample agent with a bank's assurance and a key it can prove possession of. -/
def bankAgent : AgentRow :=
  { sampleAgent with
    assuranceLevel := "delegated_bank", popJkt := "jkt",
    popPublicKeyB64u := String.ofList (List.replicate 32 'k') }

/-- A JWS over a challenge, in the base64 of the sample environment. -/
def samplePopJws (challenge : String) : String :=
  "header." ++ challenge ++ "." ++ String.ofList (List.replicate 64 's')

end SauronID.Request
