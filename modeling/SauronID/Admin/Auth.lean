import SauronID.Admin.Tenancy
import SauronID.Model.Server

/-!
# Admin authentication and the tokens it issues

`auth_middleware` accepts a signed admin token or a static key, and tells the handler how
far the caller may reach. `issue_admin_jwt` mints tokens for a list of tenants.
-/

namespace SauronID.Admin

open Text

variable (jwt : JwtLibrary)

/-- The configuration of the middlewares. -/
structure AdminAuthConfig where
  fullWriteKeys : List Bytes
  readOnlyKeys : List Bytes
  jwtHs256Secret : Option Bytes
  /-- `SAURON_ADMIN_JWT_HS256_SECRET` as `extract_tenant` reads it. -/
  envSecret : Option String
  /-- `SAURON_ADMIN_CROSS_TENANT` -/
  crossTenantAdmin : Bool
  development : Bool

structure AdminAuthz where
  crossTenant : Bool
  deriving DecidableEq, Repr

/-- How the caller authenticated. -/
inductive Principal where
  | adminJwt
  | staticKey
  deriving DecidableEq, Repr

/-! ## Authentication -/

/-- A list of strings that may be absent. -/
def stringsClaim : Option Json → Option (List String)
  | none => some []
  | some v => v.asArray.bind fun xs => xs.mapM Json.asStr

/-- `AdminJwtClaims` read off a payload: the scopes and the tenants. -/
def adminJwtClaims (payload : Json) : Option (List String × List String) :=
  match payload with
  | .obj _ => do
    let scp ← stringsClaim (payload.get "scp")
    let tnt ← stringsClaim (payload.get "tnt")
    let _ ← payload.getI64 "exp"
    return (scp, tnt)
  | _ => none

def verifyAdminJwt (token : String) (secret : Bytes) (now : ℤ) :
    Option (List String × List String) := do
  adminJwtClaims (← jwt.decode secret now token)

def isSuperScope (s : String) : Bool := s == "admin:super" || s == "*" || s == "admin:full"

def scopesAreSuper (scopes : List String) : Bool := (scopes.map asciiLower).any isSuperScope

def requestTenant (req : AdminRequest) : String := (headerTenant req).getD defaultTenant

def Method.isRead (m : Method) : Bool := m == .get || m == .head

def jwtAuthOk (scopes : List String) (method : Method) : Bool :=
  let scopesL := scopes.map asciiLower
  if scopesL.any isSuperScope then true
  else if method.isRead then scopesL.any fun s => s == "admin:read" || s == "admin:write"
  else scopesL.any fun s => s == "admin:write"

def staticKeyMayTarget (cfg : AdminAuthConfig) (tenant : String) : Bool :=
  tenant == defaultTenant || cfg.crossTenantAdmin || cfg.development

/-- What is checked of a static key that is known. -/
def staticKeyAuth (cfg : AdminAuthConfig) (key : Bytes) (method : Method) (tenant : String) :
    Except ℕ (Principal × AdminAuthz) :=
  if !cfg.fullWriteKeys.contains key && !method.isRead then .error 403
  else if !staticKeyMayTarget cfg tenant then .error 403
  else .ok (.staticKey, ⟨cfg.crossTenantAdmin⟩)

/-- The key is one of the configured ones. -/
def isStaticKey (cfg : AdminAuthConfig) (key : Bytes) : Bool :=
  cfg.fullWriteKeys.contains key || cfg.readOnlyKeys.contains key

/-- What is checked of a token with these scopes and tenants. -/
def jwtAuth (cfg : AdminAuthConfig) (scopes tnt : List String) (method : Method)
    (tenant : String) : Except ℕ (Principal × AdminAuthz) :=
  if !jwtAuthOk scopes method then .error 401
  else
    let isSuper := scopesAreSuper scopes
    if !isSuper && !tnt.isEmpty then
      if !tnt.contains tenant then .error 403 else .ok (.adminJwt, ⟨false⟩)
    else .ok (.adminJwt, ⟨isSuper || cfg.crossTenantAdmin⟩)

def xAdminKeyAuth (cfg : AdminAuthConfig) (req : AdminRequest) :
    Except ℕ (Principal × AdminAuthz) :=
  let key := utf8 (trim (req.xAdminKey.getD ""))
  if key.isEmpty then .error 401
  else if !isStaticKey cfg key then .error 401
  else staticKeyAuth cfg key req.method (requestTenant req)

/-- `auth_middleware`: how the caller is authenticated and how far it may reach, or the
status of the refusal. -/
def authMiddleware (cfg : AdminAuthConfig) (now : ℤ) (req : AdminRequest) :
    Except ℕ (Principal × AdminAuthz) :=
  let tenant := requestTenant req
  match extractBearerToken req with
  | none => xAdminKeyAuth cfg req
  | some token =>
    match cfg.jwtHs256Secret.bind fun secret => verifyAdminJwt jwt token secret now with
    | some (scopes, tnt) => jwtAuth cfg scopes tnt req.method tenant
    | none =>
      -- any other bearer token may be a static key
      let key := utf8 (trim token)
      if isStaticKey cfg key then staticKeyAuth cfg key req.method tenant
      else xAdminKeyAuth cfg req

/-! ## Issuance -/

def minIssuedKeyTtlSecs : ℤ := 3600
def maxIssuedKeyTtlSecs : ℤ := 90 * 86400
def defaultIssuedKeyTtlSecs : ℤ := 86400

structure IssueAdminKeyRequest where
  scopes : List String
  tenants : List String
  ttlSecs : Option ℤ

structure IssueAdminKeyResponse where
  token : String
  scopes : List String
  tenants : List String
  expiresAt : ℤ

/-- A scope as the loop of `issue_admin_jwt` takes it in. -/
def addScope (scopes : List String) (raw : String) : Except AppError (List String) :=
  let s := asciiLower (trim raw)
  if s = "admin:read" ∨ s = "admin:write" then
    .ok (if s ∈ scopes then scopes else scopes ++ [s])
  else if s = "admin:super" ∨ s = "admin:full" ∨ s = "*" then
    .error (.badRequest (s!"scope escalation refused: '{s}' cannot be issued at runtime; " ++
      "static env admin keys remain the break-glass path"))
  else .error (.badRequest s!"unknown scope '{s}' (allowed: admin:read, admin:write)")

def addTenant (tenants : List String) (raw : String) : Except AppError (List String) :=
  let t := trim raw
  if !validTenantId t then
    .error (.badRequest (s!"invalid tenant id '{t}': must match " ++ "[A-Za-z0-9_-]\x7b1,64\x7d"))
  else .ok (if t ∈ tenants then tenants else tenants ++ [t])

def issueAdminJwt (secret : Option Bytes) (requesterCrossTenant : Bool)
    (payload : IssueAdminKeyRequest) (now : ℤ) : Except AppError IssueAdminKeyResponse := do
  refuseIf (!requesterCrossTenant)
    (.unauthorized "issuing admin keys requires a cross-tenant super-admin principal")
  let some secret := secret
    | throw (.detailed 503 "admin_jwt_secret_unset"
        "runtime key issuance is disabled — no admin JWT secret is configured")
  refuseIf payload.scopes.isEmpty
    (.badRequest "scopes must be non-empty (allowed: admin:read, admin:write)")
  let scopes ← payload.scopes.foldlM addScope []
  refuseIf payload.tenants.isEmpty
    (.badRequest "tenants must be non-empty — issued keys are always tenant-locked")
  let tenants ← payload.tenants.foldlM addTenant []
  let ttl := max minIssuedKeyTtlSecs
    (min (payload.ttlSecs.getD defaultIssuedKeyTtlSecs) maxIssuedKeyTtlSecs)
  let expiresAt := now + ttl
  let token ← (jwt.encode secret ⟨scopes, tenants, expiresAt⟩).mapError fun e =>
    AppError.internal s!"jwt encode: {e}"
  return ⟨token, scopes, tenants, expiresAt⟩

/-- `issue_admin_key`, the handler behind both middlewares. -/
def issueAdminKey (cfg : AdminAuthConfig) (authz : Option AdminAuthz)
    (payload : IssueAdminKeyRequest) (now : ℤ) : Except AppError IssueAdminKeyResponse :=
  issueAdminJwt jwt cfg.jwtHs256Secret ((authz.map (·.crossTenant)).getD cfg.crossTenantAdmin)
    payload now

end SauronID.Admin
