import SauronID.Model.Server
import SauronID.Policy.Compile

/-!
# What the server is configured with

The parts of the server that come from outside its source: the cryptographic
primitives, the JSON library, the random source and the configuration. They are
fields of `Env`, and every result holds for every choice of them; an assumption
on one is a hypothesis of the result that needs it.
-/

namespace SauronID

open Text

/-- A linkable ring signature; points and scalars stand by their encodings. -/
structure RingSignature where
  c0 : Bytes
  responses : List Bytes
  keyImage : Bytes
  deriving DecidableEq, Repr

/-- The budgets of a ring; `none` is unlimited. -/
structure RingBudgets (F : Type) where
  usd : Option F
  inputTokens : Option ℤ
  outputTokens : Option ℤ

/-- A ring is a rule: what its members may do. -/
structure RingRule (F : Type) where
  allowedActions : List String
  allowedConfigDigests : List String
  budgets : RingBudgets F

/-- `SAURON_POLICY_ENFORCEMENT_MODE`. -/
inductive PolicyEnforcementMode where
  | enforce
  | advisory
  | off
  deriving DecidableEq, Repr

/-- A parsed URL. -/
structure Url where
  scheme : String
  username : String
  password : Option String
  host : Option String
  query : Option String
  fragment : Option String
  path : String
  /-- The port of the URL, or the one of its scheme. -/
  port : Option ℕ
  deriving DecidableEq, Repr

/-- An address a name resolves to. -/
inductive IpAddr where
  | v4 (a b c d : UInt8)
  | v6 (s₀ s₁ s₂ s₃ s₄ s₅ s₆ s₇ : UInt16)
  deriving DecidableEq, Repr

/-- The classes of personal data a request body is searched for. -/
inductive PiiClass where
  | email
  | ssn
  | iban
  | creditCard
  | phone
  deriving DecidableEq, Repr

/-- A compiled regular expression. -/
structure Regex where
  isMatch : String → Bool
  /-- All matches of the text replaced by another one. -/
  replaceAll : String → String → String

/-- A request as it leaves the gateway, to a resolved address. -/
structure OutboundRequest where
  method : String
  url : String
  pinned : IpAddr
  headers : List (String × String)
  body : Option String
  deriving DecidableEq, Repr

/-- What comes back: the body in chunks, and how reading it ends. -/
structure UpstreamResponse where
  status : ℕ
  contentLength : Option ℕ
  chunks : List Bytes
  readError : Option String
  deriving DecidableEq, Repr

/-- A parsed request URI. -/
structure Uri where
  scheme : Option String
  authority : Option String
  path : String
  query : Option String
  deriving DecidableEq, Repr

/-- The claims of a DPoP proof. -/
structure DpopProof where
  htm : String
  htu : String
  iat : ℤ
  jti : String
  ath : Option String
  deriving DecidableEq, Repr

/-- The kinds of attestation an agent may be registered with. -/
inductive AttestationKind where
  | none
  | serverDerived
  | ed25519Self
  deriving DecidableEq, Repr

/-- What `enforce_registration_attestation_bound` is given. -/
structure AttestationInput where
  kind : AttestationKind
  blob : String
  trustedPubkeyB64u : String
  expectedMeasurementHex : String
  nonce : String
  popPublicKeyB64u : String

/-- A deployment licence. -/
structure DeploymentLicence where
  licenceId : String
  licensee : String
  /-- The tenant it covers, or `*` for every tenant. -/
  tenantId : String
  maxAgents : ℤ
  issuedAtMs : ℤ
  expiresAtMs : ℤ
  signatureB64u : String
  deriving DecidableEq, Repr

/-- The price of a model, per thousand tokens. -/
structure ModelPrice (F : Type) where
  inPer1k : F
  outPer1k : F

/-- The primitives, the random source and the configuration. -/
structure Env (F : Type) where
  sha256 : Bytes → Bytes
  hmacSha256 : Bytes → Bytes → Bytes
  /-- HKDF subkey of a secret under a label. -/
  deriveSubkey : Bytes → String → Bytes
  /-- The 32-byte strings that are the encoding of a group element. -/
  validPoint : Bytes → Bool
  ringVerify : Bytes → List Bytes → RingSignature → Bool
  /-- `serde_json::to_string` of a string. -/
  jsonStr : String → String
  /-- `serde_json::to_string` of a value. -/
  jsonText : Json → String
  /-- `serde_json::from_str`. -/
  fromStr : String → Option Json
  /-- `serde_json::from_str` into a ring rule. -/
  parseRingRule : String → Except String (RingRule F)
  /-- The random identifiers in the order they are drawn. -/
  randomHex32 : ℕ → String
  jwtSecret : Bytes
  auditHmacKey : Bytes
  /-- `SAURON_ANON_RINGS`. -/
  anonRings : Bool
  engine : Dsl.Engine F
  /-- The loaded policies, by tenant and id. -/
  policyStore : String → String → Option (Dsl.CompiledPolicy engine)
  policyMode : PolicyEnforcementMode
  /-- `SAURON_POLICY_REQUIRE_BINDING`. -/
  requireBinding : Bool
  /-- `SAURON_MAX_ACTION_USD`. -/
  globalMaxActionUsd : Option F
  /-- Header and claims of a token of three well-formed parts. -/
  decodeAjwt : String → Option (Json × Json)
  /-- The token's signature, under the key derived for the agent, its owner and its
  checksum. -/
  ajwtSigOk : String → String → String → String → Bool
  ajwtAudience : String
  /-- `SAURON_RISK_WINDOW_SECS`. -/
  riskWindowVar : Option String
  limitPaymentAuthorize : ℤ
  limitEgressCapability : ℤ
  /-- `SAURON_EGRESS_GATEWAY`. -/
  egressGateway : Bool
  parseUrl : String → Except String Url
  /-- The texts that are an HTTP method. -/
  validMethod : String → Bool
  /-- The names and values the HTTP client takes for a header. -/
  validHeader : String → String → Bool
  limitAgentVcIssue : ℤ
  limitAgentRegister : ℤ
  limitAgentVerify : ℤ
  /-- The members of the user ring, by their encodings. -/
  inUserRing : Bytes → Bool
  /-- The encoding of the identity. -/
  isIdentity : Bytes → Bool
  /-- base64url without padding. -/
  b64Encode : Bytes → String
  b64Decode : String → Except String Bytes
  /-- The 32-byte strings that are an Ed25519 public key, and those of small order. -/
  edKeyOk : Bytes → Bool
  edKeyWeak : Bytes → Bool
  /-- Verification under a public key of a message and a signature. -/
  edVerify : Bytes → Bytes → Bytes → Bool
  /-- `verify_strict`, which refuses keys and signatures of small order too. -/
  edVerifyStrict : Bytes → Bytes → Bytes → Bool
  /-- Signature of a token under the key derived for the agent, its owner and its
  checksum. -/
  ajwtSign : String → String → String → Bytes → Bytes
  /-- Verification of a message and a signature under that key. -/
  ajwtVerify : String → String → String → Bytes → Bytes → Bool
  /-- What `serde_json::from_str` says of a text it rejects. -/
  jsonError : String → String
  /-- `is_development_runtime`. -/
  development : Bool
  /-- `SAURON_REQUIRE_OWNER_MANDATE`. -/
  requireOwnerMandate : Bool
  /-- `SAURON_REQUIRE_AGENT_TYPE`. -/
  requireAgentType : Bool
  /-- `SAURON_ALLOW_CUSTOM_CHECKSUM`. -/
  allowCustomChecksum : Bool
  /-- `SAURON_CHECKSUM_INPUTS_STORAGE` is `hash_only`. -/
  hashOnlyInputs : Bool
  /-- `validate_production_egress_policy`. -/
  egressPolicy : Json → Except String Unit
  /-- `check_server_derived_allowed`. -/
  serverDerivedAllowed : Except String Unit
  /-- `enforce_registration_attestation_bound` at a time: the measurement it pins. -/
  attest : AttestationInput → ℤ → Except String (Option String)
  /-- `serde_json::from_str` into a licence. -/
  parseLicence : String → Option DeploymentLicence
  /-- `fs::read_to_string`. -/
  readFile : String → Option String
  /-- `serde_json::from_str` into the prices of models, by their ids. -/
  parsePrices : String → Option (List (String × ModelPrice F))
  /-- `accept_dpop`. -/
  acceptDpop : Bool
  /-- `SAURON_CALL_SIG_SKEW_MS`. -/
  callSigSkewMs : ℤ
  /-- `SAURON_CALL_AUDIENCE`. -/
  callAudience : String
  /-- `serde_json::from_slice`. -/
  fromSlice : Bytes → Option Json
  parseUri : String → Option Uri
  /-- `str::to_uppercase`. -/
  toUppercase : String → String
  /-- `String::from_utf8_lossy`. -/
  fromUtf8Lossy : Bytes → String
  /-- `SAURON_EGRESS_REDACT_PII`. -/
  redactEnabled : Bool
  piiRegex : PiiClass → Regex
  /-- `SAURON_EGRESS_MAX_RESP_BYTES`. -/
  maxRespBytes : ℕ
  /-- `SAURON_EGRESS_CREDENTIALS`, when it is set and parses. -/
  egressCredentials : Option Json
  /-- The variables of the process. -/
  processVar : String → Option String
  lookupHost : String → ℕ → Except String (List IpAddr)
  displayIp : IpAddr → String
  /-- Building the HTTP client. -/
  httpClient : Except String Unit
  send : OutboundRequest → Except String UpstreamResponse

variable {F : Type} (env : Env F)

/-- Decode a compressed point from hexadecimal text: 32 bytes that encode a group
element. The element is represented by its encoding. -/
def Env.decodePoint (hex : String) : Option Bytes := do
  let bytes ← hexDecode hex
  if bytes.length = 32 ∧ env.validPoint bytes then some bytes else none

/-- `canonical_fields`: a domain and named fields, each behind its length. -/
def canonicalFields (domain : String) (fields : List (String × String)) : Bytes :=
  lengthPrefixed (utf8 domain) ++
    fields.flatMap fun p => lengthPrefixed (utf8 p.1) ++ lengthPrefixed (utf8 p.2)

def Env.sha256Hex (bytes : Bytes) : String := hexEncode (env.sha256 bytes)

/-- `.unwrap_or(60).clamp(10, 3600)` -/
def clampWindow (secs : Option ℤ) : ℤ := max 10 (min (secs.getD 60) 3600)

/-- `window_secs`: the length of a window for the calls. -/
def Env.riskWindowSecs : ℤ :=
  clampWindow (env.riskWindowVar.bind fun s => parseI64 (trim s))

/-- The length of a window for the garbage collection, which does not trim the variable. -/
def Env.gcWindowSecs : ℤ := clampWindow (env.riskWindowVar.bind parseI64)

/-- An error message that reports a violated uniqueness constraint, in the wording
of either backend. -/
def isUniqueViolation (message : String) : Bool :=
  let low := asciiLower message
  contains low "unique" || contains low "duplicate key"

/-! ## Evaluation -/

/-- A policy engine to run the model in: no payload holds personal data, no invariant
parses, and every zone is UTC. -/
def sampleEngine (F : Type) : Dsl.Engine F where
  digit := Char.isDigit
  emailRe _ := false
  ssnRe _ := false
  parseExpr := .error
  hashPolicy _ := ""
  representable _ := true
  zone _ := some .utc

/-- A header as HTTP has it: the name is a token, the value has no control characters. -/
def isHeader (name value : String) : Bool :=
  name ≠ "" && (name.toList.all fun c => c.isAlphanum || "!#$%&'*+-.^_`|~".toList.contains c) &&
    value.toList.all fun c => c = '\t' || (' ' ≤ c && c ≠ '\x7f')

/-- An environment to run the model in: every signature verifies, the hash forgets its
input. -/
def sampleEnv (F : Type) : Env F where
  sha256 _ := []
  hmacSha256 _ _ := []
  deriveSubkey _ _ := []
  validPoint _ := true
  ringVerify _ _ _ := true
  jsonStr := quoted
  jsonText _ := ""
  fromStr _ := none
  parseRingRule := .error
  randomHex32 k := String.ofList (List.replicate k 'f')
  jwtSecret := []
  auditHmacKey := []
  anonRings := true
  engine := sampleEngine F
  policyStore _ _ := none
  policyMode := .enforce
  requireBinding := false
  globalMaxActionUsd := none
  decodeAjwt _ := none
  ajwtSigOk _ _ _ _ := true
  ajwtAudience := "sauron-core"
  riskWindowVar := none
  limitPaymentAuthorize := 0
  limitEgressCapability := 0
  egressGateway := true
  parseUrl _ := .ok ⟨"https", "", none, some "api.example", none, none, "/", some 443⟩
  validMethod _ := true
  validHeader := isHeader
  limitAgentVcIssue := 0
  limitAgentRegister := 0
  limitAgentVerify := 0
  inUserRing _ := true
  isIdentity _ := false
  b64Encode bytes := hexEncode bytes
  b64Decode s := .ok (utf8 s)
  edKeyOk _ := true
  edKeyWeak _ := false
  edVerify _ _ _ := true
  edVerifyStrict _ _ _ := true
  ajwtSign _ _ _ _ := []
  ajwtVerify _ _ _ _ _ := true
  jsonError _ := "expected value"
  development := true
  requireOwnerMandate := false
  requireAgentType := false
  allowCustomChecksum := true
  hashOnlyInputs := false
  egressPolicy _ := .ok ()
  serverDerivedAllowed := .ok ()
  attest _ _ := .ok none
  parseLicence _ := none
  readFile _ := none
  parsePrices _ := none
  acceptDpop := false
  callSigSkewMs := 60000
  callAudience := "sauron-core"
  fromSlice _ := none
  parseUri _ := none
  toUppercase := asciiUpper
  fromUtf8Lossy _ := ""
  redactEnabled := false
  piiRegex _ := ⟨fun _ => false, fun s _ => s⟩
  maxRespBytes := 1048576
  egressCredentials := none
  processVar _ := none
  lookupHost _ _ := .ok [.v4 93 184 215 14]
  displayIp _ := ""
  httpClient := .ok ()
  send _ := .ok ⟨200, none, [], none⟩

theorem sampleEnv_random_injective (F : Type) : Function.Injective (sampleEnv F).randomHex32 := by
  intro j k h
  simpa [sampleEnv] using congrArg String.length h

/-- An agent to run the model with. -/
def sampleAgent : AgentRow where
  agentId := "agt_1"
  humanKeyImage := "owner"
  agentChecksum := "checksum"
  intentJson := ""
  assuranceLevel := ""
  publicKeyHex := String.ofList (List.replicate 64 '0')
  ringKeyImageHex := "00"
  issuedAt := 0
  expiresAt := 1000000
  revoked := 0
  parentAgentId := none
  delegationDepth := 0
  popJkt := ""
  popPublicKeyB64u := ""
  tenantId := "default"
  ownerMandateSigB64u := ""
  ownerMandateHash := ""

/-- A server that knows the sample agent and nothing else. -/
def sampleWorld (clockMs : ℤ) : World ℚ :=
  World.steady { Db.empty ℚ with agents := [sampleAgent] } clockMs

end SauronID
