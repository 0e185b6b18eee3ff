import SauronID.Admin.Auth

/-!
# The tenant authorised and the tenant acted on

Two layers in front of a handler read the tenant of a request on their own. The one that
`extract_tenant` settles on is the one the handler acts on. The one that `auth_middleware`
takes off the header is the one its decision and its audit record are about. A header that
contradicts a signed `tnt` claim is refused, but a claim without a header goes past
`auth_middleware`, which then decides for the default tenant. `acting_tenant_iff` says that
this is the only way for the two to differ.
-/

namespace SauronID.Admin

open Text

variable {jwt : JwtLibrary}

/-! ## The two layers around a handler -/

/-- `AuditEvent::AdminAction`, the record of an authenticated request. -/
structure AdminAction where
  tenantId : String
  principal : Principal
  crossTenant : Bool
  method : Method
  path : String
  status : ℕ
  deriving DecidableEq, Repr

/-- A request through `extract_tenant` and `auth_middleware`, and then `run_audited`: the
tenant the handler receives and the record that is written once it has answered. `handler`
gives the status of its response. -/
def auditedRequest (jwt : JwtLibrary) (cfg : AdminAuthConfig) (tenantNow authNow : ℤ)
    (req : AdminRequest) (path : String) (handler : String → AdminAuthz → ℕ) :
    Except ℕ (String × AdminAction) := do
  let tenant ← (extractTenant jwt cfg.envSecret tenantNow req).mapError Prod.fst
  let (principal, authz) ← authMiddleware jwt cfg authNow req
  return (tenant, ⟨requestTenant req, principal, authz.crossTenant, req.method, path,
    handler tenant authz⟩)

/-! ## What the token says of the tenant -/

/-- The bearer token of the request is signed with the secret that `extract_tenant` reads,
and its `tnt` claim is this one tenant. -/
structure NamesTenant (jwt : JwtLibrary) (envSecret : Option String) (now : ℤ)
    (req : AdminRequest) (tenant : String) : Prop where
  signed : ∃ secret ≠ "", envSecret = some secret ∧ ∃ token, extractBearerToken req = some token ∧
    ∃ payload, jwt.decode (utf8 secret) now token = some payload ∧
      payload.get "tnt" = some (.str tenant) ∧
      (optionalClaim Json.asI64 (payload.get "exp")).isSome
  valid : validTenantId tenant = true

theorem optionalClaim_asStr_eq_some {v : Option Json} {s : String} :
    optionalClaim Json.asStr v = some (some s) ↔ v = some (.str s) := by
  cases v with
  | none => simp [optionalClaim]
  | some v => cases v <;> simp [optionalClaim, Json.asStr]

variable {tenant : String}

theorem tenantClaims_eq_some {payload : Json} :
    tenantClaims payload = some (some tenant) ↔ payload.get "tnt" = some (.str tenant) ∧
        (optionalClaim Json.asI64 (payload.get "exp")).isSome := by
  unfold tenantClaims
  split
  · next fields =>
    simp only [Option.bind_eq_bind, Option.bind_eq_some_iff, Option.isSome_iff_exists,
      ← optionalClaim_asStr_eq_some]
    constructor
    · rintro ⟨tnt, htnt, exp, hexp, h⟩
      cases h
      exact ⟨htnt, exp, hexp⟩
    · rintro ⟨htnt, exp, hexp⟩
      exact ⟨some tenant, htnt, exp, hexp, rfl⟩
  · next hobj =>
    cases payload <;> simp_all [Json.get]

variable {now : ℤ} {req : AdminRequest}

theorem tenantFromJwt_eq_some {secret : Bytes} :
    tenantFromJwt jwt secret now req = some tenant ↔ (∃ token, extractBearerToken req = some token ∧
        ∃ payload, jwt.decode secret now token = some payload ∧
          payload.get "tnt" = some (.str tenant) ∧
          (optionalClaim Json.asI64 (payload.get "exp")).isSome) ∧ validTenantId tenant = true := by
  simp only [tenantFromJwt, Option.bind_eq_bind, Option.bind_eq_some_iff,
    Option.filter_eq_some_iff, ← tenantClaims_eq_some]
  constructor
  · rintro ⟨token, htoken, payload, hpayload, claim, hclaim, rfl, hvalid⟩
    exact ⟨⟨token, htoken, payload, hpayload, hclaim⟩, hvalid⟩
  · rintro ⟨⟨token, htoken, payload, hpayload, hclaim⟩, hvalid⟩
    exact ⟨token, htoken, payload, hpayload, some tenant, hclaim, rfl, hvalid⟩

variable {envSecret : Option String}

/-- The tenant `extract_tenant` takes from the token, if its secret is configured. -/
theorem jwtTenant_eq_some :
    ((envSecret.filter (· ≠ "")).bind fun secret => tenantFromJwt jwt (utf8 secret) now req) =
      some tenant ↔ NamesTenant jwt envSecret now req tenant := by
  simp only [Option.bind_eq_some_iff, Option.filter_eq_some_iff, decide_eq_true_eq,
    tenantFromJwt_eq_some]
  constructor
  · rintro ⟨secret, ⟨hsecret, hne⟩, hsigned, hvalid⟩
    exact ⟨⟨secret, hne, hsecret, hsigned⟩, hvalid⟩
  · rintro ⟨⟨secret, hne, hsecret, hsigned⟩, hvalid⟩
    exact ⟨secret, ⟨hsecret, hne⟩, hsigned, hvalid⟩

/-! ## The two tenants -/

/-- Where the header says nothing, the claim of the token decides. -/
theorem resolveTenant_eq_header_iff {jwtTenant header : Option String}
    (h : (resolveTenant jwtTenant header = .use tenant) ∨
      (resolveTenant jwtTenant header = .default ∧ tenant = defaultTenant)) :
    tenant = header.getD defaultTenant ↔
      (header = none → ∀ t, jwtTenant = some t → t = defaultTenant) := by
  cases header with
  | some hdr =>
    -- a claim beside a header restates it
    have : tenant = hdr := by
      cases jwtTenant with
      | none => simpa [resolveTenant, eq_comm] using h
      | some t =>
        by_cases ht : t = hdr
        · simpa [resolveTenant, ht, eq_comm] using h
        · simp [resolveTenant, ht] at h
    simp [this]
  | none =>
    cases jwtTenant with
    | none =>
      have : tenant = defaultTenant := by simpa [resolveTenant] using h
      simp [this]
    | some t =>
      have : t = tenant := by simpa [resolveTenant] using h
      simp [this]

theorem resolveTenant_of_extractTenant (h : extractTenant jwt envSecret now req = .ok tenant) :
    let resolution := resolveTenant ((envSecret.filter (· ≠ "")).bind fun secret =>
      tenantFromJwt jwt (utf8 secret) now req) (headerTenant req)
    resolution = .use tenant ∨ (resolution = .default ∧ tenant = defaultTenant) := by
  unfold extractTenant at h
  dsimp only at h ⊢
  split at h
  · cases h
  · split at h
    · next hres =>
      cases h
      exact .inl hres
    · next hres =>
      cases h
      exact .inr ⟨hres, rfl⟩
    · cases h

/-- For a request that passes both layers, the tenant the handler receives is the one
`auth_middleware` decided for and recorded exactly when the request has a tenant header,
or no signed claim of another tenant than the default one. -/
theorem acting_tenant_iff (cfg : AdminAuthConfig) (tenantNow authNow : ℤ) (req : AdminRequest)
    (path : String) (handler : String → AdminAuthz → ℕ) (tenant : String) (action : AdminAction)
    (hpass : auditedRequest jwt cfg tenantNow authNow req path handler = .ok (tenant, action)) :
    (tenant = requestTenant req ∧ action.tenantId = tenant) ↔
      (headerTenant req = none →
        ∀ t, NamesTenant jwt cfg.envSecret tenantNow req t → t = defaultTenant) := by
  obtain ⟨t, ht, h⟩ := exists_of_bind_eq_ok hpass
  obtain ⟨⟨principal, authz⟩, -, h⟩ := exists_of_bind_eq_ok h
  cases h
  have hres := resolveTenant_of_extractTenant (eq_ok_of_mapError ht)
  have hiff := resolveTenant_eq_header_iff hres
  simp only [jwtTenant_eq_some] at hiff
  rw [← hiff]
  -- the record is about the tenant of the header by construction
  exact ⟨fun hboth => hboth.1, fun heq => ⟨heq, heq.symm⟩⟩

/-! ## A static key beside a token that names a tenant -/

/-- A library with one token, whose `tnt` claim is a string. -/
def stringClaimJwt : JwtLibrary where
  encode _ _ := .error "no key"
  decode _ now token :=
    if token = "jwt" ∧ now ≤ 5600 then
      some (.obj [("tnt", .str "acme"), ("exp", .int 5600)])
    else none

/-- A static key and a signing secret of the 32 bytes production demands. -/
def adminKey : String := "static-key-of-the-admin-operator"

def adminSecret : String := "signing-secret-of-the-admin-jwts"

/-- A production server, whose static key is declared operator-global or not. -/
def productionConfig (crossTenant : Bool) : AdminAuthConfig :=
  ⟨[utf8 adminKey], [], some (utf8 adminSecret), some adminSecret, crossTenant, false⟩

/-- The static key authenticates, the token only names the tenant. -/
def keyAndToken (header : Option String) : AdminRequest :=
  ⟨.other "POST", some "Bearer jwt", some adminKey, header⟩

/-- With a header that repeats the tenant of the token the two layers agree. -/
theorem static_key_agrees :
    auditedRequest stringClaimJwt (productionConfig true) 2000 2000 (keyAndToken (some "acme"))
        "/admin/agents" (fun _ _ => 200) =
      .ok ("acme", ⟨"acme", .staticKey, true, .other "POST", "/admin/agents", 200⟩) ∧
    "acme" = requestTenant (keyAndToken (some "acme")) := by
  have hpass : auditedRequest stringClaimJwt (productionConfig true) 2000 2000
      (keyAndToken (some "acme")) "/admin/agents" (fun _ _ => 200) =
      .ok ("acme", ⟨"acme", .staticKey, true, .other "POST", "/admin/agents", 200⟩) := by
    rfl
  have hheader : headerTenant (keyAndToken (some "acme")) = some "acme" := by rfl
  refine ⟨hpass, ((acting_tenant_iff _ _ _ _ _ _ _ _ hpass).2 fun hnone => ?_).1⟩
  rw [hheader] at hnone
  cases hnone

/-- The static key, which may target the default tenant only, reaches `acme`: the decision
and the record are about the default tenant. -/
theorem static_key_acts_elsewhere :
    auditedRequest stringClaimJwt (productionConfig false) 2000 2000 (keyAndToken none)
        "/admin/agents" (fun _ _ => 200) =
      .ok ("acme", ⟨"default", .staticKey, false, .other "POST", "/admin/agents", 200⟩) ∧
    staticKeyMayTarget (productionConfig false) "acme" = false ∧
    authMiddleware stringClaimJwt (productionConfig false) 2000 (keyAndToken (some "acme")) =
      .error 403 := by
  exact ⟨by rfl, by decide, by rfl⟩

end SauronID.Admin
