import SauronID.Egress.Rules
import SauronID.Policy.Gate

/-!
# `POST /agent/egress/proxy`

The outbound call itself. The destination is matched against the agent's allowlist and
then judged by its bound policy, with the facts only this route has: the size and the
type of the payload, and whether personal data was found in it. The capability for
exactly this request is spent before the call goes out.
-/

namespace SauronID.Egress

open Conc Text Dsl

structure EgressProxyRequest where
  capability : String
  method : String
  url : String
  headers : List (String × String)
  body : Option String

structure EgressProxyResponse where
  status : ℕ
  body : String
  bodySha256Hex : String
  bodyBytes : ℕ
  redacted : List String

/-- Where a call goes, and when. -/
structure Destination where
  url : Url
  host : String
  port : ℕ
  method : String
  now : ℤ

variable {F : Type} [Float64 F] (env : Env F)

/-- The parsed URL of a call, with its host and its port. -/
def checkProxyUrl (text : String) : Except AppError (Url × String × ℕ) := do
  let url ← (env.parseUrl text).mapError fun e => AppError.ofStatus 400 s!"bad url: {e}"
  refuseIf (url.scheme ≠ "http" ∧ url.scheme ≠ "https")
    (.ofStatus 400 "only http/https targets allowed")
  match url.host, url.port with
  | none, _ => .error (.ofStatus 400 "url has no host")
  | some _, none => .error (.ofStatus 400 "url has no port")
  | some host, some port => .ok (url, host, port)

/-- `record_egress`; the number of the row is not used. -/
def recordEgress (tenant agentId : String) (dest : Destination) (bodyHashHex : String)
    (statusCode : ℤ) (allowed : Bool) : Srv F String ℕ :=
  Srv.execute (.insertEgressLog
    { tenantId := tenant, agentId := agentId, targetHost := dest.host,
      targetPath := dest.url.path, method := dest.method, bodyHashHex := bodyHashHex,
      statusCode := statusCode, ts := dest.now, allowed := allowed })

/-- Record a denial and refuse. -/
def denyEgress {α : Type} (tenant agentId : String) (dest : Destination) (reason : String) :
    Srv F AppError α := do
  let _ ← (recordEgress tenant agentId dest "" 0 false).attempt
  .fail (.detailed 403 "egress_denied" reason)

/-- `agent_intent`: the intent of an agent that is not revoked. -/
def agentIntent (tenant agentId : String) : Srv F AppError Json := do
  let text ← Srv.require (.agent tenant agentId)
    (fun db => (db.agents.find? fun r =>
      r.agentId == agentId && r.tenantId == tenant && r.revoked == 0).map (·.intentJson))
    (.ofStatus 401 "agent not found or revoked")
  return (env.fromStr text).getD .null

/-- The credential a matched entry injects; one that is not configured is an error. -/
def injectedCredential (terms : EgressMatch) : Except AppError (Option (String × String)) :=
  match terms.injectCredential with
  | none => .ok none
  | some name =>
    match egressCredential env name with
    | some credential => .ok (some credential)
    | none =>
      .error (.ofStatus 500 ("egress allowlist references credential '" ++ name ++
        "' but it is not configured (SAURON_EGRESS_CREDENTIALS)"))

/-- The media type a request declares. -/
def contentType (headers : List (String × String)) : String :=
  ((headers.find? fun h => eqIgnoreAsciiCase (trim h.1) "content-type").map Prod.snd).getD
    "application/octet-stream"

/-- The action the bound policy is asked about. -/
def proxyAction (agentId : String) (req : EgressProxyRequest) (dest : Destination) :
    Dsl.Action F where
  actionId := "egress-" ++ env.sha256Hex (utf8 (agentId ++ toString dest.now ++ req.url))
  tool := "egress"
  timestamp := dest.now
  metadata := [("target_domain", .str dest.host), ("method", .str dest.method),
    ("payload_bytes", .int (req.body.getD "").utf8ByteSize),
    ("pii_detected", .bool (!(redactPii env (req.body.getD "")).2.isEmpty)),
    ("content_type", .str (contentType req.headers))]

/-- Everything before the bound policy is asked: the destination, the terms of the matched
entry, and the credential it injects. -/
def proxyTarget (tenant agentId : String) (req : EgressProxyRequest) :
    Srv F AppError (Destination × EgressMatch × Option (String × String)) := do
  .rejectIf (env.egressGateway = false)
    (.ofStatus 503 "egress gateway disabled (set SAURON_EGRESS_GATEWAY=1)")
  .rejectIf (agentId = "") (.ofStatus 401 "missing x-sauron-agent-id")
  let target ← .ofExcept (checkProxyUrl env req.url)
  let now ← Srv.nowSecs
  let dest : Destination :=
    { url := target.1, host := target.2.1, port := target.2.2,
      method := env.toUppercase req.method, now := now }
  if dest.url.username ≠ "" ∨ dest.url.password.isSome then
    denyEgress tenant agentId dest "URL userinfo is not permitted"
  else if dest.url.query.isSome then
    denyEgress tenant agentId dest
      "query parameters are not permitted by the Phase 1 egress policy"
  else
    let intent ← agentIntent env tenant agentId
    match egressMatch env intent dest.host dest.method dest.url.path (!env.development) with
    | none =>
      denyEgress tenant agentId dest (s!"egress {dest.method} {dest.host}{dest.url.path} " ++
        "not permitted by the agent's egress_allowlist")
    | some terms =>
      let credential ← .ofExcept (injectedCredential env terms)
      return (dest, terms, credential)

/-- The headers that are forwarded, or the first one the terms do not allow. A header the
server injects is not taken from the caller. -/
def forwardedHeaders (terms : EgressMatch) (injected : Option String) :
    List (String × String) → Except String (List (String × String))
  | [] => .ok []
  | (k, v) :: headers =>
    if headerForbidden k then forwardedHeaders terms injected headers
    else if !env.development && !terms.allowedHeaders.contains (asciiLower (trim k)) then
      .error s!"request header '{trim k}' is not explicitly allowed by target policy"
    else do
      let rest ← forwardedHeaders terms injected headers
      return if injected = some (asciiLower (trim k)) then rest else (k, v) :: rest

/-- The HTTP client builds no request with a header it does not take; nothing is sent then. -/
def builtHeaders (headers : List (String × String)) : Except String (List (String × String)) :=
  if headers.all fun h => env.validHeader h.1 h.2 then .ok headers else .error "builder error"

/-- Read the chunks of a body as long as they stay below the cap. -/
def readChunks (cap : ℕ) (buf : Bytes) : List Bytes → Except AppError Bytes
  | [] => .ok buf
  | chunk :: chunks =>
    if cap < buf.length + chunk.length then
      .error (.ofStatus 413
        s!"upstream response exceeds SAURON_EGRESS_MAX_RESP_BYTES ({cap})")
    else readChunks cap (buf ++ chunk) chunks

/-- Read the body of a response, bounded by the terms and by the configuration. -/
def readResponse (cap : ℕ) (resp : UpstreamResponse) : Except AppError Bytes := do
  match resp.contentLength with
  | some len =>
    if cap < len then
      throw (.ofStatus 413
        s!"upstream response {len} bytes exceeds SAURON_EGRESS_MAX_RESP_BYTES ({cap})")
  | none => pure ()
  let buf ← readChunks cap [] resp.chunks
  match resp.readError with
  | some e => throw (.ofStatus 502 s!"read response failed: {e}")
  | none => return buf

/-- The call goes out: its capability is spent and it is recorded. -/
def sendRequest (tenant agentId : String) (req : EgressProxyRequest) (dest : Destination)
    (terms : EgressMatch) (credential : Option (String × String)) (pinned : IpAddr) :
    Srv F AppError EgressProxyResponse := do
  let original := req.body.getD ""
  let forwarded := if env.redactEnabled then redactPii env original else (original, [])
  let changed ← (Srv.execute (.useCapability dest.now (env.sha256Hex (utf8 (trim req.capability)))
    tenant agentId dest.method req.url (env.sha256Hex (utf8 original)))).mapErr
      (AppError.ofStatus 500)
  .rejectIf (changed ≠ 1) (.ofStatus 401 ("egress capability is invalid, expired, already " ++
    "used, or not bound to this exact request"))
  .rejectIf (env.validMethod dest.method = false) (.ofStatus 400 "bad HTTP method")
  .ofExcept (env.httpClient.mapError (AppError.ofStatus 500))
  match forwardedHeaders env terms (credential.map fun c => asciiLower c.1) req.headers with
  | .error reason => denyEgress tenant agentId dest reason
  | .ok headers =>
    let body := req.body.map fun _ => forwarded.1
    let failed := fun e => AppError.ofStatus 502 s!"forward failed: {e}"
    let built ← .ofExcept ((builtHeaders env (headers ++ credential.toList)).mapError failed)
    let resp ← (Srv.forward dest.method req.url body (env.send
      { method := dest.method, url := req.url, pinned := pinned, headers := built,
        body := body })).mapErr failed
    let _ ← (recordEgress tenant agentId dest (env.sha256Hex (utf8 forwarded.1)) resp.status
      true).attempt
    let buf ← .ofExcept (readResponse (min terms.maxResponseBytes env.maxRespBytes) resp)
    return { status := resp.status
             body := if terms.responseBodyAllowed then env.fromUtf8Lossy buf else ""
             bodySha256Hex := env.sha256Hex buf
             bodyBytes := buf.length
             redacted := forwarded.2 }

/-- What follows once the bound policy has allowed the call. -/
def forwardEgress (tenant agentId : String) (req : EgressProxyRequest) (dest : Destination)
    (terms : EgressMatch) (credential : Option (String × String)) :
    Srv F AppError EgressProxyResponse :=
  match resolveAndVet env dest.host dest.port with
  | .error reason => denyEgress tenant agentId dest reason
  | .ok vetted =>
    let original := req.body.getD ""
    if terms.requestBodyAllowed = false ∧ original ≠ "" then
      denyEgress tenant agentId dest "egress policy forbids a request body for this target"
    else if terms.maxRequestBytes < original.utf8ByteSize then
      .fail (.ofStatus 413
        s!"request body exceeds target policy max_request_bytes ({terms.maxRequestBytes})")
    else sendRequest env tenant agentId req dest terms credential vetted.1

/-- `agent_egress_proxy`; `agentId` is the `x-sauron-agent-id` header. -/
def agentEgressProxy (tenant agentId : String) (req : EgressProxyRequest) :
    Srv F AppError EgressProxyResponse := do
  let target ← proxyTarget env tenant agentId req
  gateActionOnBoundPolicy env tenant agentId (proxyAction env agentId req target.1)
  forwardEgress env tenant agentId req target.1 target.2.1 target.2.2

end SauronID.Egress
