import SauronID.Model.Env

/-!
# What the egress gateway permits

An outbound call is permitted by an entry of the `egress_allowlist` in the agent's
intent, to an address outside the private ranges, with headers that neither steer the
connection nor carry the server's own credentials. In production an entry must be
complete: a field that is missing or unknown makes it permit nothing.
-/

namespace SauronID.Egress

open Text

/-! ## Headers and addresses -/

/-- `FORBIDDEN_HEADERS`. -/
def forbiddenHeaders : List String :=
  ["host", "content-length", "connection", "keep-alive", "transfer-encoding", "te", "trailer",
    "upgrade", "expect", "proxy-authorization", "proxy-connection", "x-forwarded-for",
    "x-forwarded-host", "x-forwarded-proto", "x-real-ip"]

def headerForbidden (name : String) : Bool :=
  let n := asciiLower (trim name)
  forbiddenHeaders.contains n || startsWith n "x-sauron-" || startsWith n "proxy-"

/-- The IPv4 addresses no call may reach. -/
def isBlockedV4 (a b c d : UInt8) : Bool :=
  -- loopback, private, link-local
  a == 127 || (a == 10 || (a == 172 && b &&& 0xf0 == 16) || (a == 192 && b == 168)) ||
    (a == 169 && b == 254) ||
    -- broadcast
    (a == 255 && b == 255 && c == 255 && d == 255) ||
    -- documentation
    ((a == 192 && b == 0 && c == 2) || (a == 198 && b == 51 && c == 100) ||
      (a == 203 && b == 0 && c == 113)) ||
    -- unspecified, multicast, "this host", carrier-grade NAT
    (a == 0 && b == 0 && c == 0 && d == 0) || a &&& 0xf0 == 224 || a == 0 ||
    (a == 100 && b &&& 0xC0 == 64)

def isBlockedIp : IpAddr → Bool
  | .v4 a b c d => isBlockedV4 a b c d
  | .v6 s₀ s₁ s₂ s₃ s₄ s₅ s₆ s₇ =>
    -- an embedded IPv4 address is judged as such
    if s₀ = 0 ∧ s₁ = 0 ∧ s₂ = 0 ∧ s₃ = 0 ∧ s₄ = 0 ∧ (s₅ = 0 ∨ s₅ = 0xffff) then
      isBlockedV4 (s₆ >>> 8).toUInt8 s₆.toUInt8 (s₇ >>> 8).toUInt8 s₇.toUInt8
    else
      (s₀ == 0 && s₁ == 0 && s₂ == 0 && s₃ == 0 && s₄ == 0 && s₅ == 0 && s₆ == 0 &&
          (s₇ == 1 || s₇ == 0)) ||
        s₀ &&& 0xff00 == 0xff00 || s₀ &&& 0xfe00 == 0xfc00 || s₀ &&& 0xffc0 == 0xfe80 ||
        (s₀ == 0x0064 && s₁ == 0xff9b && s₂ == 0 && s₃ == 0) || s₀ == 0x2002 ||
        (s₀ == 0x2001 && s₁ == 0)

variable {F : Type} (env : Env F)

/-- The addresses of a host, all of them vetted; the first one is the one to connect to. -/
def resolveAndVet (host : String) (port : ℕ) : Except String (IpAddr × List IpAddr) :=
  match env.lookupHost host port with
  | .error e => .error s!"dns resolution failed: {e}"
  | .ok [] => .error "host did not resolve to any address"
  | .ok (addr :: addrs) =>
    match (addr :: addrs).find? isBlockedIp with
    | some blocked =>
      .error ("target resolves to a blocked address (" ++ env.displayIp blocked ++
        ") — private/loopback/link-local/metadata ranges are refused")
    | none => .ok (addr, addrs)

/-! ## Personal data -/

/-- `PII_RULES`, in the order they are applied. -/
def piiRules : List PiiClass := [.email, .ssn, .iban, .creditCard, .phone]

def piiClassName : PiiClass → String
  | .email => "email"
  | .ssn => "ssn"
  | .iban => "iban"
  | .creditCard => "credit_card"
  | .phone => "phone"

/-- Apply one rule to the text so far and the classes hit so far. -/
def redactClass (acc : String × List String) (cls : PiiClass) : String × List String :=
  if (env.piiRegex cls).isMatch acc.1 then
    ((env.piiRegex cls).replaceAll acc.1 s!"⟪redacted:{piiClassName cls}⟫",
      acc.2 ++ [piiClassName cls])
  else acc

/-- The body without its personal data, and the classes that were found. -/
def redactPii (body : String) : String × List String :=
  piiRules.foldl (redactClass env) (body, [])

/-! ## The allowlist -/

/-- The terms on which a call is permitted. -/
structure EgressMatch where
  injectCredential : Option String
  requestBodyAllowed : Bool
  responseBodyAllowed : Bool
  maxRequestBytes : ℕ
  maxResponseBytes : ℕ
  allowedHeaders : List String
  deriving DecidableEq, Repr

/-- The fields an entry may have in production. -/
def entryFields : List String :=
  ["host", "methods", "path_prefix", "inject_credential", "request_body", "response_body",
    "max_request_bytes", "max_response_bytes", "allowed_headers"]

/-- The methods of an entry include this one. -/
def methodListed (strict : Bool) (entry : Json) (method : String) : Bool :=
  match entry.getArray "methods" with
  | some methods => !(strict && methods.isEmpty) &&
      (methods.filterMap Json.asStr).any (eqIgnoreAsciiCase · method)
  | none => !strict

/-- The path is the one of the entry, or below it. -/
def pathListed (strict : Bool) (entry : Json) (path : String) : Bool :=
  match entry.getStr "path_prefix" with
  | some above =>
    let above := trimEndMatches above '/'
    !(strict && (above.isEmpty || !startsWith above "/")) &&
      (path == above || startsWith path (above ++ "/"))
  | none => !strict

/-- A field that is one of two words; a missing one is the first word, in development. -/
def wordField (strict : Bool) (entry : Json) (field yes no : String) : Option Bool :=
  match entry.getStr field with
  | some word => if word = yes then some true else if word = no then some false else none
  | none => if strict then none else some true

/-- A field that may be left out in development. -/
def fieldOr {α : Type} (strict : Bool) (value : Option α) (default : α) : Option α :=
  match value with
  | some a => some a
  | none => if strict then none else some default

/-- The headers an entry lets through, in lower case. -/
def listedHeaders (entry : Json) : Option (List String) :=
  (entry.getArray "allowed_headers").map fun values =>
    ((values.filterMap Json.asStr).map fun v => asciiLower (trim v)).filter fun v =>
      v ≠ "" && !headerForbidden v

/-- What an entry of the allowlist permits of a call. -/
def matchEntry (strict : Bool) (host method path : String) (entry : Json) : Option EgressMatch :=
  match entry with
  | .str s =>
    if !strict && eqIgnoreAsciiCase s host then
      some ⟨none, true, true, 256 * 1024, env.maxRespBytes, []⟩
    else none
  | .obj fields => do
    guard (strict = false ∨ ∀ f ∈ fields, f.1 ∈ entryFields)
    guard (eqIgnoreAsciiCase ((entry.getStr "host").getD "") host)
    guard (methodListed strict entry method)
    guard (pathListed strict entry path)
    let requestBodyAllowed ← wordField strict entry "request_body" "allow" "deny"
    let responseBodyAllowed ← wordField strict entry "response_body" "allow" "digest_only"
    let maxRequestBytes ← fieldOr strict
      ((entry.getU64 "max_request_bytes").filter (· ≤ 4 * 1024 * 1024)) (256 * 1024)
    let maxResponseBytes ← fieldOr strict
      ((entry.getU64 "max_response_bytes").filter fun v => 0 < v ∧ v ≤ env.maxRespBytes)
      env.maxRespBytes
    let allowedHeaders ← fieldOr strict (listedHeaders entry) []
    return ⟨entry.getStr "inject_credential", requestBodyAllowed, responseBodyAllowed,
      maxRequestBytes, maxResponseBytes, allowedHeaders⟩
  | _ => none

/-- The first entry of the agent's allowlist that permits the call. -/
def egressMatch (intent : Json) (host method path : String) (strict : Bool) :
    Option EgressMatch := do
  let entries ← intent.getArray "egress_allowlist"
  entries.findSome? (matchEntry env strict host method path)

/-- A credential the server holds: the header and its value. -/
def egressCredential (name : String) : Option (String × String) := do
  let map ← env.egressCredentials
  let entry ← map.get name
  let header := (entry.getStr "header").getD "authorization"
  let value ← match entry.getStr "value_env" with
    | some envName => env.processVar envName
    | none => entry.getStr "value"
  return (header, value)

end SauronID.Egress
