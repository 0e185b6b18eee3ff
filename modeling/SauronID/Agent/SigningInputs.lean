import SauronID.Action.Signed
import SauronID.Agent.CallSig
import SauronID.Agent.Register

/-!
# Signing inputs

What is signed in one protocol must not be what is signed in another: the key of an agent
signs calls in two versions and, as a JWS, challenges. `signing_inputs_apart` says that all
payloads of `canonical_fields` are told apart by their domains, and that none is the text of a
JWS, which has a single dot while every domain has two.
-/

namespace SauronID.Agent

open SauronID.Action Request Text

variable {F : Type} {env : Env F}

def userAuthChallengePayload (challengeId tenantId keyImageHex nonce : String) (expiresAt : ℤ) :
    Bytes :=
  canonicalFields "sauron.user-auth-challenge.v1"
    [("challenge_id", challengeId), ("tenant_id", tenantId), ("key_image_hex", keyImageHex),
      ("nonce", nonce), ("expires_at", toString expiresAt)]

/-! ## Inputs -/

@[ext] structure CallSignatureInput where
  agentId : String
  tenantId : String
  audience : String
  method : String
  targetUri : String
  contentType : String
  bodySha256Hex : String
  configDigest : String
  timestampMs : String
  nonce : String

def CallSignatureInput.fields (input : CallSignatureInput) : List (String × String) :=
  [("version", "2"), ("agent_id", input.agentId), ("tenant_id", input.tenantId),
    ("audience", input.audience), ("method", input.method), ("target_uri", input.targetUri),
    ("content_type", input.contentType), ("body_sha256", input.bodySha256Hex),
    ("config_digest", input.configDigest), ("timestamp_ms", input.timestampMs),
    ("nonce", input.nonce)]

/-- `call_signature_payload` -/
def CallSignatureInput.payload (input : CallSignatureInput) : Bytes :=
  canonicalFields "sauron.call.v2" input.fields

@[ext] structure CallSignatureV3Input where
  agentId : String
  tenantId : String
  audience : String
  method : String
  targetUri : String
  contentType : String
  bodySha256Hex : String
  configDigest : String
  mandateDigest : String
  runId : String
  timestampMs : String
  expiresAtMs : String
  nonce : String

def CallSignatureV3Input.fields (input : CallSignatureV3Input) : List (String × String) :=
  [("version", "3"), ("agent_id", input.agentId), ("tenant_id", input.tenantId),
    ("audience", input.audience), ("method", input.method), ("target_uri", input.targetUri),
    ("content_type", input.contentType), ("body_sha256", input.bodySha256Hex),
    ("config_digest", input.configDigest), ("mandate_digest", input.mandateDigest),
    ("run_id", input.runId), ("timestamp_ms", input.timestampMs),
    ("expires_at_ms", input.expiresAtMs), ("nonce", input.nonce)]

/-- `call_signature_v3_payload` -/
def CallSignatureV3Input.payload (input : CallSignatureV3Input) : Bytes :=
  canonicalFields "sauron.call.v3" input.fields

/-- What the verification of a request forms is the payload of its input. -/
theorem callSignaturePayload_eq (req : CallRequest) (h : CallHeaders) (digest : String)
    (ext : CallExtension) : callSignaturePayload env req h digest none =
        CallSignatureInput.payload
          { agentId := h.agentId, tenantId := req.tenantId, audience := env.callAudience,
            method := asciiUpper req.method, targetUri := req.pathAndQuery.getD req.path,
            contentType := asciiLower (trim ((req.header "content-type").getD "")),
            bodySha256Hex := env.sha256Hex req.body, configDigest := digest,
            timestampMs := h.callTsStr, nonce := h.nonce } ∧
      callSignaturePayload env req h digest (some ext) =
        CallSignatureV3Input.payload
          { agentId := h.agentId, tenantId := req.tenantId, audience := env.callAudience,
            method := asciiUpper req.method, targetUri := req.pathAndQuery.getD req.path,
            contentType := asciiLower (trim ((req.header "content-type").getD "")),
            bodySha256Hex := env.sha256Hex req.body, configDigest := digest,
            mandateDigest := ext.mandateDigest, runId := ext.runId, timestampMs := h.callTsStr,
            expiresAtMs := ext.expiresAtMs, nonce := h.nonce } :=
  ⟨rfl, rfl⟩

structure DeploymentLicenceInput where
  licenceId : String
  licensee : String
  tenantId : String
  maxAgents : String
  issuedAtMs : String
  expiresAtMs : String

def DeploymentLicenceInput.fields (input : DeploymentLicenceInput) : List (String × String) :=
  [("licence_id", input.licenceId), ("licensee", input.licensee), ("tenant_id", input.tenantId),
    ("max_agents", input.maxAgents), ("issued_at_ms", input.issuedAtMs),
    ("expires_at_ms", input.expiresAtMs)]

theorem deploymentLicencePayload_eq (lic : DeploymentLicence) :
    deploymentLicencePayload lic = canonicalFields "sauron.deployment-licence.v1"
      (DeploymentLicenceInput.fields
        ⟨lic.licenceId, lic.licensee, lic.tenantId, toString lic.maxAgents,
          toString lic.issuedAtMs, toString lic.expiresAtMs⟩) :=
  rfl

/-! ## Purposes -/

inductive Purpose where
  | call
  | callV3
  | ownerMandate
  | userAuthChallenge
  | deploymentLicence
  | receipt
  deriving DecidableEq, Repr

/-- The domains of a purpose: one for each version of its payload. -/
def Purpose.domains : Purpose → List String
  | call => ["sauron.call.v2"]
  | callV3 => ["sauron.call.v3"]
  | ownerMandate => ["sauron.owner-mandate.v1"]
  | userAuthChallenge => ["sauron.user-auth-challenge.v1"]
  | deploymentLicence => ["sauron.deployment-licence.v1"]
  | receipt => ["sauron.agent-action-receipt.v2", "sauron.agent-action-receipt.v3",
      "sauron.agent-action-receipt.v4"]

variable {p : Purpose} {d : String}

theorem Purpose.eq_of_mem_domains {q : Purpose} (hp : d ∈ p.domains)
    (hq : d ∈ q.domains) : p = q := by
  have happart : ∀ p q : Purpose, ∀ d ∈ p.domains, d ∈ q.domains → p = q := by
    rintro (_ | _) (_ | _) <;> decide
  exact happart p q d hp hq

theorem Purpose.fits_domain (hd : d ∈ p.domains) : Fits (utf8 d) := by
  have hfits : ∀ p : Purpose, ∀ d ∈ p.domains, Fits (utf8 d) := by
    rintro (_ | _) <;> decide +kernel
  exact hfits p d hd

/-- Every domain has two dots. -/
theorem Purpose.count_dot (hd : d ∈ p.domains) : (utf8 d).count 46 = 2 := by
  have hdots : ∀ p : Purpose, ∀ d ∈ p.domains, (utf8 d).count 46 = 2 := by
    rintro (_ | _) <;> decide +kernel
  exact hdots p d hd

/-- What is signed, for all purposes. -/
inductive SigningInput where
  | call (input : CallSignatureInput)
  | callV3 (input : CallSignatureV3Input)
  | ownerMandate (input : OwnerMandateInput)
  | userAuthChallenge (challengeId tenantId keyImageHex nonce : String) (expiresAt : ℤ)
  | deploymentLicence (input : DeploymentLicenceInput)
  | receipt (r : ActionReceipt)

namespace SigningInput

def purpose : SigningInput → Purpose
  | call _ => .call
  | callV3 _ => .callV3
  | ownerMandate _ => .ownerMandate
  | userAuthChallenge .. => .userAuthChallenge
  | deploymentLicence _ => .deploymentLicence
  | receipt _ => .receipt

/-- The bytes that are signed. -/
def payload : SigningInput → Bytes
  | call input => input.payload
  | callV3 input => input.payload
  | ownerMandate input => ownerMandatePayload input
  | userAuthChallenge id tenant keyImage nonce exp =>
    userAuthChallengePayload id tenant keyImage nonce exp
  | deploymentLicence input => canonicalFields "sauron.deployment-licence.v1" input.fields
  | receipt r => receiptSigningPayload r

/-- The domain and the fields of the payload. -/
def encoded : SigningInput → String × List (String × String)
  | call input => ("sauron.call.v2", input.fields)
  | callV3 input => ("sauron.call.v3", input.fields)
  | ownerMandate input =>
    ("sauron.owner-mandate.v1",
      [("tenant_id", input.tenantId), ("human_key_image", input.humanKeyImage),
        ("agent_public_key_hex", input.agentPublicKeyHex),
        ("pop_public_key_b64u", input.popPublicKeyB64u), ("intent_json", input.intentJson),
        ("ttl_secs", input.ttlSecs)])
  | userAuthChallenge id tenant keyImage nonce exp =>
    ("sauron.user-auth-challenge.v1",
      [("challenge_id", id), ("tenant_id", tenant), ("key_image_hex", keyImage),
        ("nonce", nonce), ("expires_at", toString exp)])
  | deploymentLicence input => ("sauron.deployment-licence.v1", input.fields)
  | receipt r => signingFields r

/-- The input can be signed: no field is four gibibytes or longer, at which
`push_len_prefixed` panics. -/
def Encodable (s : SigningInput) : Prop := FieldsFit s.encoded.2

instance (s : SigningInput) : Decidable s.Encodable := inferInstanceAs (Decidable (FieldsFit _))

theorem payload_eq (s : SigningInput) : s.payload = canonicalFields s.encoded.1 s.encoded.2 := by
  cases s with
  | receipt r => exact receiptSigningPayload_eq r
  | _ => rfl

theorem domain_mem (s : SigningInput) : s.encoded.1 ∈ s.purpose.domains := by
  cases s with
  | receipt r =>
    simp only [encoded, purpose, Purpose.domains, signingFields]
    split_ifs <;> simp
  | _ => exact List.mem_singleton_self _

variable {s s' : SigningInput}

/-- The domain and the fields of a payload can be read back. -/
theorem encoded_inj (hs : s.Encodable) (hs' : s'.Encodable)
    (h : s.payload = s'.payload) : s.encoded = s'.encoded := by
  rw [payload_eq, payload_eq] at h
  obtain ⟨hdomain, hfields⟩ := canonicalFields_inj (Purpose.fits_domain s.domain_mem)
    (Purpose.fits_domain s'.domain_mem) hs hs' h
  exact Prod.ext hdomain hfields

theorem purpose_eq (hs : s.Encodable) (hs' : s'.Encodable)
    (h : s.payload = s'.payload) : s.purpose = s'.purpose := by
  have hmem := s'.domain_mem
  rw [← encoded_inj hs hs' h] at hmem
  exact Purpose.eq_of_mem_domains s.domain_mem hmem

end SigningInput

/-! ## The text of a JWS -/

variable {jws header payload signature : String}

/-- A signing input of a JWS has a single dot. -/
theorem count_dot_jwsSigningInput (hsplit : splitn 3 '.' jws = [header, payload, signature]) :
    (jwsSigningInput header payload).count 46 = 1 := by
  obtain ⟨hheader, hpayload⟩ := notMem_of_splitn_three hsplit
  have hnone : ∀ {s : String}, '.' ∉ s.toList → (utf8 s).count 46 = 0 := by
    intro s hs
    exact List.count_eq_zero.2 fun h => hs (ofNat_mem_of_mem_utf8 (by decide) h)
  have hdot : (utf8 ".").count 46 = 1 := by decide +kernel
  rw [jwsSigningInput, utf8_append, utf8_append, List.count_append, List.count_append,
    hnone hheader, hnone hpayload, hdot]

theorem canonicalFields_ne_jwsSigningInput (hd : d ∈ p.domains) (fields : List (String × String))
    (hsplit : splitn 3 '.' jws = [header, payload, signature]) :
    canonicalFields d fields ≠ jwsSigningInput header payload := by
  intro h
  have hcount := count_dot_jwsSigningInput hsplit
  rw [← h, canonicalFields, lengthPrefixed, List.count_append, List.count_append,
    Purpose.count_dot hd] at hcount
  omega

/-! ## Verification -/

variable {keyText : String} {pk : Bytes}

/-- What a signature that `checkSignature` accepts is over. -/
theorem edVerify_of_checkSignature {sigText : String} {payload sig : Bytes}
    (hpk : env.b64Decode (trim keyText) = .ok pk) (hsig : env.b64Decode sigText = .ok sig)
    (h : checkSignature env keyText sigText payload = .ok ()) :
    env.edVerify pk payload sig = true := by
  unfold checkSignature at h
  simp only [hpk, hsig] at h
  obtain ⟨-, h⟩ := refuseIf_bind_eq_ok.1 h
  obtain ⟨-, h⟩ := refuseIf_bind_eq_ok.1 h
  obtain ⟨-, h⟩ := refuseIf_bind_eq_ok.1 h
  simpa using refuseIf_eq_ok.1 h

/-- What a JWS that `verify_ed25519_pop_jws` accepts is. -/
theorem edVerify_of_verifyEd25519PopJws {challenge : String}
    (hpk : env.b64Decode (trim keyText) = .ok pk)
    (h : verifyEd25519PopJws env challenge jws keyText = .ok ()) :
    ∃ header payload sigText sig, splitn 3 '.' jws = [header, payload, sigText] ∧
      env.b64Decode sigText = .ok sig ∧
      env.edVerify pk (jwsSigningInput header payload) sig = true := by
  unfold verifyEd25519PopJws at h
  simp only [hpk] at h
  obtain ⟨-, h⟩ := refuseIf_bind_eq_ok.1 h
  obtain ⟨-, h⟩ := refuseIf_bind_eq_ok.1 h
  split at h
  · rename_i header payload sigText hsplit
    split at h
    · split at h
      · obtain ⟨-, h⟩ := refuseIf_bind_eq_ok.1 h
        split at h
        · rename_i sig hsig
          obtain ⟨-, h⟩ := refuseIf_bind_eq_ok.1 h
          exact ⟨header, payload, sigText, sig, hsplit, hsig, by simpa using refuseIf_eq_ok.1 h⟩
        · cases h
      · cases h
    · cases h
  · cases h

/-- **Signing inputs never collide.** `canonical_fields` can be read back; payloads of two
purposes differ, those of calls determine their inputs, and no payload is a signing input of a
JWS. So if signatures under a key are each of one message, then one that was made for a
purpose is accepted for no other, be it with a payload or in a JWS. -/
theorem signing_inputs_apart (env : Env F) :
    (∀ d d' fs fs', Fits (utf8 d) → Fits (utf8 d') → FieldsFit fs → FieldsFit fs' →
        canonicalFields d fs = canonicalFields d' fs' → d = d' ∧ fs = fs') ∧
      (∀ s s' : SigningInput, s.Encodable → s'.Encodable → s.payload = s'.payload →
        s.purpose = s'.purpose) ∧
      (∀ c c' : CallSignatureInput, FieldsFit c.fields → FieldsFit c'.fields →
        c.payload = c'.payload → c = c') ∧
      (∀ c c' : CallSignatureV3Input, FieldsFit c.fields → FieldsFit c'.fields →
        c.payload = c'.payload → c = c') ∧
      (∀ (p : Purpose), ∀ d ∈ p.domains, ∀ fields jws header payload signature,
        splitn 3 '.' jws = [header, payload, signature] →
          canonicalFields d fields ≠ jwsSigningInput header payload) ∧
      ∀ keyText pk, env.b64Decode (trim keyText) = .ok pk →
        (∀ m m' sig, env.edVerify pk m sig = true → env.edVerify pk m' sig = true → m = m') →
        (∀ sigText sigText' sig, env.b64Decode sigText = .ok sig →
          env.b64Decode sigText' = .ok sig → ∀ s s' : SigningInput, s.Encodable → s'.Encodable →
            checkSignature env keyText sigText s.payload = .ok () →
            checkSignature env keyText sigText' s'.payload = .ok () → s.purpose = s'.purpose) ∧
        ∀ challenge jws, verifyEd25519PopJws env challenge jws keyText = .ok () →
          ∃ header payload sigText sig, splitn 3 '.' jws = [header, payload, sigText] ∧
            env.b64Decode sigText = .ok sig ∧
            ∀ (s : SigningInput) (sigText' : String), env.b64Decode sigText' = .ok sig →
              checkSignature env keyText sigText' s.payload ≠ .ok () := by
  refine ⟨fun _ _ _ _ hd hd' hfs hfs' h => canonicalFields_inj hd hd' hfs hfs' h,
    fun _ _ hs hs' h => SigningInput.purpose_eq hs hs' h, ?_, ?_,
    fun _ _ hd _ _ _ _ _ hsplit => canonicalFields_ne_jwsSigningInput hd _ hsplit, ?_⟩
  · intro c c' hc hc' h
    have hencoded : (SigningInput.call c).encoded = (SigningInput.call c').encoded :=
      SigningInput.encoded_inj hc hc' h
    cases c
    simpa [SigningInput.encoded, CallSignatureInput.fields, CallSignatureInput.ext_iff]
      using hencoded
  · intro c c' hc hc' h
    have hencoded : (SigningInput.callV3 c).encoded = (SigningInput.callV3 c').encoded :=
      SigningInput.encoded_inj hc hc' h
    cases c
    simpa [SigningInput.encoded, CallSignatureV3Input.fields, CallSignatureV3Input.ext_iff]
      using hencoded
  · intro keyText pk hpk hsingle
    constructor
    · intro sigText sigText' sig hsig hsig' s s' hs hs' h h'
      have hpayload := hsingle _ _ sig (edVerify_of_checkSignature hpk hsig h)
        (edVerify_of_checkSignature hpk hsig' h')
      exact SigningInput.purpose_eq hs hs' hpayload
    · intro challenge jws h
      obtain ⟨header, payload, sigText, sig, hsplit, hsig, hjws⟩ :=
        edVerify_of_verifyEd25519PopJws hpk h
      refine ⟨header, payload, sigText, sig, hsplit, hsig, fun s sigText' hsig' hcall => ?_⟩
      have hmessage := hsingle _ _ sig (edVerify_of_checkSignature hpk hsig' hcall) hjws
      rw [s.payload_eq] at hmessage
      exact canonicalFields_ne_jwsSigningInput s.domain_mem _ hsplit hmessage

/-- An environment in which a message is its own signature. -/
def echoEnv : Env ℚ := { sampleEnv ℚ with edVerify := fun _ m sig => m == sig }

/-- A JWS of 64 signed bytes, over the challenge `c1`. -/
def echoJws : String :=
  let signed := String.ofList (List.replicate 61 'h') ++ ".c1"
  signed ++ "." ++ signed

theorem echo_jws_signs_no_call :
    verifyEd25519PopJws echoEnv "c1" echoJws (String.ofList (List.replicate 32 'k')) = .ok () ∧
      ∃ header payload sigText sig, splitn 3 '.' echoJws = [header, payload, sigText] ∧
        echoEnv.b64Decode sigText = .ok sig ∧
        ∀ (s : SigningInput) (sigText' : String), echoEnv.b64Decode sigText' = .ok sig →
          checkSignature echoEnv (String.ofList (List.replicate 32 'k')) sigText' s.payload ≠
            .ok () := by
  have hjws : verifyEd25519PopJws echoEnv "c1" echoJws (String.ofList (List.replicate 32 'k')) =
      .ok () := by
    decide +kernel
  have hsingle : ∀ pk m m' sig, echoEnv.edVerify pk m sig = true →
      echoEnv.edVerify pk m' sig = true → m = m' := by
    intro pk m m' sig h h'
    exact (beq_iff_eq.1 h).trans (beq_iff_eq.1 h').symm
  exact ⟨hjws, ((signing_inputs_apart echoEnv).2.2.2.2.2 _ _ rfl (hsingle _)).2 "c1" echoJws hjws⟩

end SauronID.Agent
