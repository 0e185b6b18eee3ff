import SauronID.Lib.Text
import SauronID.Model.Json

/-!
# The tenant of a request

`extract_tenant` runs before every handler and settles which tenant the request is about:
the `tnt` claim of a signed admin token if it has one, else the header, else the default
tenant. The JWT library is a parameter.
-/

namespace SauronID.Admin

open Text

def defaultTenant : String := "default"

def maxTenantIdLen : ℕ := 64

def isAsciiAlphanumeric (c : Char) : Bool :=
  ('0' ≤ c && c ≤ '9') || ('a' ≤ c && c ≤ 'z') || ('A' ≤ c && c ≤ 'Z')

def validTenantId (s : String) : Bool :=
  s ≠ "" && s.utf8ByteSize ≤ maxTenantIdLen &&
    s.toList.all fun c => isAsciiAlphanumeric c || c == '-' || c == '_'

/-! ## Tokens -/

/-- The claims of an issued admin token. -/
structure IssuedAdminClaims where
  scp : List String
  tnt : List String
  exp : ℤ
  deriving DecidableEq, Repr

def IssuedAdminClaims.toJson (claims : IssuedAdminClaims) : Json :=
  .obj [("scp", .arr (claims.scp.map .str)), ("tnt", .arr (claims.tnt.map .str)),
    ("exp", .int claims.exp)]

/-- `jsonwebtoken` with HS256. -/
structure JwtLibrary where
  encode : Bytes → IssuedAdminClaims → Except String String
  /-- The payload of a token that is signed with the secret and has not expired. -/
  decode : Bytes → ℤ → String → Option Json

/-- The payload of a token is what it was made of. -/
def JwtLibrary.ReadsBack (jwt : JwtLibrary) : Prop :=
  ∀ secret claims token, jwt.encode secret claims = .ok token →
    ∀ secret' now payload, jwt.decode secret' now token = some payload → payload = claims.toJson

/-! ## Requests -/

inductive Method where
  | get
  | head
  | other (name : String)
  deriving DecidableEq, Repr

/-- What the two middlewares look at: the method, and of three headers the first value, if
it is text. -/
structure AdminRequest where
  method : Method
  authorization : Option String
  xAdminKey : Option String
  xSauronTenantId : Option String

/-- `strip_prefix` -/
def stripStart (start s : String) : Option String :=
  if startsWith s start then some (String.ofList (s.toList.drop start.length)) else none

/-- The token of an `Authorization: Bearer` header, as both middlewares read it. -/
def extractBearerToken (req : AdminRequest) : Option String := do
  let auth := trim (← req.authorization)
  let rest ← (stripStart "Bearer " auth).or (stripStart "bearer " auth)
  let token := trim rest
  if token.isEmpty then none else some token

/-- The tenant header, if it says something. -/
def headerTenant (req : AdminRequest) : Option String :=
  (req.xSauronTenantId.map trim).filter (!·.isEmpty)

/-! ## Resolution -/

/-- An optional member of a kind: absent and `null` are nothing, anything else of another
kind is an error. -/
def optionalClaim {α : Type} (as : Json → Option α) : Option Json → Option (Option α)
  | none => some none
  | some .null => some none
  | some v => (as v).map some

/-- `TenantClaims` read off a payload. -/
def tenantClaims (payload : Json) : Option (Option String) :=
  match payload with
  | .obj _ => do
    let tnt ← optionalClaim Json.asStr (payload.get "tnt")
    let _ ← optionalClaim Json.asI64 (payload.get "exp")
    return tnt
  | _ => none

variable (jwt : JwtLibrary)

def tenantFromJwt (secret : Bytes) (now : ℤ) (req : AdminRequest) : Option String := do
  let token ← extractBearerToken req
  let payload ← jwt.decode secret now token
  (← tenantClaims payload).filter validTenantId

inductive TenantResolution where
  | use (tenant : String)
  | default
  | conflict
  deriving DecidableEq, Repr

def resolveTenant (jwtTenant headerTenant : Option String) : TenantResolution :=
  match jwtTenant, headerTenant with
  | some jwt, some hdr => if jwt ≠ hdr then .conflict else .use jwt
  | some jwt, none => .use jwt
  | none, some hdr => .use hdr
  | none, none => .default

/-- `extract_tenant`; `envSecret` is the value of `SAURON_ADMIN_JWT_HS256_SECRET`. -/
def extractTenant (envSecret : Option String) (now : ℤ) (req : AdminRequest) :
    Except (ℕ × String) String :=
  let header := headerTenant req
  if (header.any fun t => !validTenantId t) then
    .error (400, "invalid x-sauron-tenant-id: must match [A-Za-z0-9_-]\x7b1,64\x7d")
  else
    let jwtTenant := (envSecret.filter (· ≠ "")).bind fun secret =>
      tenantFromJwt jwt (utf8 secret) now req
    match resolveTenant jwtTenant header with
    | .use t => .ok t
    | .default => .ok defaultTenant
    | .conflict => .error (403, "x-sauron-tenant-id does not match the authenticated tenant claim")

end SauronID.Admin
