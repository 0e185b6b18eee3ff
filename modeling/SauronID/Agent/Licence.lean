import SauronID.Model.Env
import SauronID.Model.Rules

/-!
# The deployment licence

A signed document names the tenant it covers, a ceiling on registered agents and an expiry.
`entitlementFor` resolves it from the variables of the process: without a licence that
verifies and covers the tenant the ceiling is that of the free tier, and so it is once the
licence has expired.
-/

namespace SauronID.Agent

open Conc Text

variable {F : Type} (env : Env F)

/-- Bytes of a fixed length out of base64url text. -/
def b64Exactly (n : ℕ) (text : String) : Option Bytes :=
  (env.b64Decode (trim text)).toOption.filter (·.length == n)

/-! ## Documents -/

def freeTierMaxAgents : ℤ := 3

def defaultIssuerPubkeyB64u : String := "h01P9z18oDkwTmsmtabYlszppEL7RzH1dpSXydi1nME"

def deploymentLicencePayload (lic : DeploymentLicence) : Bytes :=
  canonicalFields "sauron.deployment-licence.v1"
    [("licence_id", lic.licenceId), ("licensee", lic.licensee), ("tenant_id", lic.tenantId),
      ("max_agents", toString lic.maxAgents), ("issued_at_ms", toString lic.issuedAtMs),
      ("expires_at_ms", toString lic.expiresAtMs)]

def coversTenant (lic : DeploymentLicence) (tenantId : String) : Bool :=
  lic.tenantId == "*" || lic.tenantId == tenantId

/-- What a deployment is entitled to. -/
inductive Entitlement where
  | freeTier (reason : String)
  | licensed (maxAgents : ℤ) (licensee : String)
  | expired (licensee : String)
  deriving DecidableEq, Repr

def Entitlement.maxAgents : Entitlement → ℤ
  | licensed maxAgents _ => maxAgents
  | freeTier _ | expired _ => freeTierMaxAgents

def issuerKey : Option Bytes :=
  let raw := (env.processVar "SAURON_LICENCE_ISSUER_PUBKEY_B64U").getD defaultIssuerPubkeyB64u
  if (trim raw).isEmpty then none else (b64Exactly env 32 raw).filter fun key => env.edKeyOk key

/-- `Option::ok_or`. -/
def someOr {α : Type} (reason : String) : Option α → Except String α
  | some a => .ok a
  | none => .error reason

/-- The licence that a document holds, if its signature verifies. -/
def verifyDocument (json : String) : Except String DeploymentLicence := do
  let lic ← someOr "licence document is not valid JSON" (env.parseLicence json)
  let key ← someOr "no issuer public key configured" (issuerKey env)
  let sig ← someOr "signature is not base64url" (env.b64Decode (trim lic.signatureB64u)).toOption
  refuseIf (sig.length ≠ 64) "signature is not 64 bytes"
  refuseIf (!env.edVerifyStrict key (deploymentLicencePayload lic) sig)
    "licence signature does not verify"
  refuseIf (lic.maxAgents ≤ 0) "licence ceiling is not positive"
  return lic

/-! ## Entitlement -/

/-- The document that is configured, inline or in a file, or the reason there is none. -/
def licenceDocument : Except String String :=
  let path : Except String String :=
    match env.processVar "SAURON_LICENCE_PATH" with
    | some path =>
      if (trim path).isEmpty then .error "no licence configured"
      else
        match env.readFile (trim path) with
        | some body => .ok body
        | none => .error "licence file could not be read"
    | none => .error "no licence configured"
  match env.processVar "SAURON_LICENCE" with
  | some inline => if (trim inline).isEmpty then path else .ok inline
  | none => path

/-- The licence that covers a tenant, or the reason for the free tier. -/
def licenceOf (tenantId : String) : Except String DeploymentLicence := do
  let document ← licenceDocument env
  let lic ← verifyDocument env document
  refuseIf (!coversTenant lic tenantId) "licence does not cover this tenant"
  return lic

/-- `entitlement_for`. The clock is read only for a licence that covers the tenant. -/
def entitlementFor {ε : Type} (tenantId : String) : Srv F ε Entitlement :=
  match licenceOf env tenantId with
  | .error reason => pure (.freeTier reason)
  | .ok lic => do
    let nowMs ← Srv.nowMs
    return if lic.expiresAtMs < nowMs then .expired lic.licensee
      else .licensed lic.maxAgents lic.licensee

/-- The entitlement of a tenant at a reading of the clock. -/
def entitlementAt (tenantId : String) (nowMs : ℤ) : Entitlement :=
  match licenceOf env tenantId with
  | .error reason => .freeTier reason
  | .ok lic =>
    if lic.expiresAtMs < nowMs then .expired lic.licensee else .licensed lic.maxAgents lic.licensee

variable {env}

/-- The entitlement is the one at the reading of the clock, where the clock was read. -/
def EntitledIn (env : Env F) (tenantId : String) (t : History F) (e : Entitlement) : Prop :=
  (∀ nowMs, e = entitlementAt env tenantId nowMs) ∨
    ∃ s, (.clockMs, s) ∈ t ∧ e = entitlementAt env tenantId s.clockMs

variable {tenantId : String} {t : History F}

theorem EntitledIn.mono {t' : History F} {e : Entitlement}
    (h : EntitledIn env tenantId t e) (ht : t <:+ t') : EntitledIn env tenantId t' e := by
  refine h.imp_right ?_
  rintro ⟨s, hs, he⟩
  exact ⟨s, ht.subset hs, he⟩

/-- The entitlement is that of some reading of the clock. -/
theorem entitlementFor_yields [Float64 F] {may : May F} {ε : Type} :
    (entitlementFor env tenantId : Srv F ε _).Yields (srvRules may) t
      (EntitledIn env tenantId) := by
  unfold entitlementFor
  split
  · next reason hlic =>
    exact Prog.yields_pure (.inl fun nowMs => by simp only [entitlementAt, hlic])
  · next lic hlic =>
    refine Srv.yields_nowMs fun s => Prog.yields_pure (.inr ⟨s, .head _, ?_⟩)
    simp only [entitlementAt, hlic]

end SauronID.Agent
