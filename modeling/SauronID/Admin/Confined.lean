import SauronID.Admin.Auth

/-!
# Issued admin tokens are confined

A token of `issue_admin_jwt` carries its tenants as a list. `extract_tenant` expects one
tenant there and reads nothing, so both middlewares take the tenant from the header, and
`auth_middleware` holds it against the list. `issued_tokens_confined` follows the token
through both and through chains of requests.
-/

namespace SauronID.Admin

open Text

variable {jwt : JwtLibrary}

/-! ## What is issued -/

/-- A loop that takes in the normal form of each entry, unless it has it already. -/
theorem mem_of_foldlM_collect {α β ε : Type} {f : List β → α → Except ε (List β)}
    (norm : α → β) (p : β → Prop) (hstep : ∀ acc a acc', f acc a = .ok acc' →
      p (norm a) ∧ ∀ x, x ∈ acc' ↔ x ∈ acc ∨ x = norm a)
    {as : List α} {acc out : List β} (h : as.foldlM f acc = .ok out) :
    (∀ a ∈ as, p (norm a)) ∧ ∀ x, x ∈ out ↔ x ∈ acc ∨ x ∈ as.map norm := by
  induction as generalizing acc with
  | nil =>
    cases h
    simp
  | cons a as ih =>
    rw [List.foldlM_cons] at h
    obtain ⟨acc', hacc', h⟩ := exists_of_bind_eq_ok h
    obtain ⟨hp, hmem⟩ := hstep acc a acc' hacc'
    obtain ⟨hall, hout⟩ := ih h
    refine ⟨fun b hb => ?_, fun x => ?_⟩
    · rcases List.mem_cons.1 hb with rfl | hb
      · exact hp
      · exact hall b hb
    · rw [hout, hmem, List.map_cons, List.mem_cons, or_assoc]

theorem mem_pushNew {x s : String} {l : List String} :
    x ∈ (if s ∈ l then l else l ++ [s]) ↔ x ∈ l ∨ x = s := by
  split
  · next h =>
    refine ⟨.inl, ?_⟩
    rintro (hx | rfl)
    · exact hx
    · exact h
  · simp

variable {raw : String}

theorem addScope_eq_ok {scopes scopes' : List String} (h : addScope scopes raw = .ok scopes') :
    (asciiLower (trim raw) = "admin:read" ∨ asciiLower (trim raw) = "admin:write") ∧
      ∀ x, x ∈ scopes' ↔ x ∈ scopes ∨ x = asciiLower (trim raw) := by
  simp only [addScope] at h
  split at h
  · next hs =>
    cases h
    exact ⟨hs, fun x => mem_pushNew⟩
  · split at h <;> cases h

theorem addTenant_eq_ok {tenants tenants' : List String}
    (h : addTenant tenants raw = .ok tenants') :
    validTenantId (trim raw) = true ∧ ∀ x, x ∈ tenants' ↔ x ∈ tenants ∨ x = trim raw := by
  simp only [addTenant] at h
  split at h
  · cases h
  · next hvalid =>
    cases h
    exact ⟨by simpa using hvalid, fun x => mem_pushNew⟩

/-- The scopes and tenants of an issued token are those of the request, and its scopes
are not more than reading and writing. -/
structure Issued (jwt : JwtLibrary) (payload : IssueAdminKeyRequest) (token : String)
    (claims : IssuedAdminClaims) : Prop where
  encoded : ∃ secret, jwt.encode secret claims = .ok token
  scopes : ∀ s ∈ claims.scp, s = "admin:read" ∨ s = "admin:write"
  mem_scopes : ∀ s, s ∈ claims.scp ↔ s ∈ payload.scopes.map fun raw => asciiLower (trim raw)
  mem_tenants : ∀ t, t ∈ claims.tnt ↔ t ∈ payload.tenants.map trim
  tenants : claims.tnt ≠ []

theorem issued_of_issueAdminJwt {secret : Option Bytes} {cross : Bool}
    {payload : IssueAdminKeyRequest} {now : ℤ} {resp : IssueAdminKeyResponse}
    (h : issueAdminJwt jwt secret cross payload now = .ok resp) :
    cross = true ∧ Issued jwt payload resp.token ⟨resp.scopes, resp.tenants, resp.expiresAt⟩ := by
  unfold issueAdminJwt at h
  rw [refuseIf_bind_eq_ok] at h
  obtain ⟨hcross, h⟩ := h
  split at h
  · next secret =>
    rw [refuseIf_bind_eq_ok] at h
    obtain ⟨-, h⟩ := h
    obtain ⟨scopes, hscopes, h⟩ := exists_of_bind_eq_ok h
    rw [refuseIf_bind_eq_ok] at h
    obtain ⟨htenants, h⟩ := h
    obtain ⟨tenants, htens, h⟩ := exists_of_bind_eq_ok h
    obtain ⟨token, htoken, h⟩ := exists_of_bind_eq_ok h
    cases h
    obtain ⟨hread, hmem⟩ := mem_of_foldlM_collect (fun raw => asciiLower (trim raw))
      (fun s => s = "admin:read" ∨ s = "admin:write") (fun _ _ _ => addScope_eq_ok) hscopes
    obtain ⟨-, hmem'⟩ := mem_of_foldlM_collect trim (fun t => validTenantId t = true)
      (fun _ _ _ => addTenant_eq_ok) htens
    have hmem_scopes : ∀ s, s ∈ scopes ↔ s ∈ payload.scopes.map fun raw =>
        asciiLower (trim raw) := by simpa using hmem
    have hmem_tenants : ∀ t, t ∈ tenants ↔ t ∈ payload.tenants.map trim := by simpa using hmem'
    refine ⟨by simpa using hcross, ⟨secret, eq_ok_of_mapError htoken⟩, fun s hs => ?_,
      hmem_scopes, hmem_tenants, ?_⟩
    · obtain ⟨raw, hraw, rfl⟩ := List.mem_map.1 ((hmem_scopes s).1 hs)
      exact hread raw hraw
    · -- the first tenant of the request is in the list
      obtain ⟨t, ht⟩ := List.exists_mem_of_ne_nil _ (by simpa using htenants)
      exact List.ne_nil_of_mem ((hmem_tenants _).2 (List.mem_map_of_mem ht))
  · cases h

/-! ## What the middlewares read of it -/

section
variable {claims : IssuedAdminClaims}

theorem adminJwtClaims_toJson : adminJwtClaims claims.toJson = some (claims.scp, claims.tnt) := by
  have hstrs : ∀ l : List String, (l.map Json.str).mapM Json.asStr = some l := by
    intro l
    induction l with
    | nil => rfl
    | cons s l ih => simp [ih, Json.asStr]
  simp [adminJwtClaims, IssuedAdminClaims.toJson, Json.get, stringsClaim, Json.asArray, hstrs,
    Json.getI64, Json.asI64]

/-- The list of tenants is not the tenant that `extract_tenant` looks for. -/
theorem tenantClaims_toJson : tenantClaims claims.toJson = none := by
  simp [tenantClaims, IssuedAdminClaims.toJson, Json.get, optionalClaim, Json.asStr]

end

section
variable {payload : IssueAdminKeyRequest} {token : String} {claims : IssuedAdminClaims}
  {cfg : AdminAuthConfig} {req : AdminRequest} {now : ℤ} {tenant : String}

/-- `extract_tenant` settles on the tenant of the header. -/
theorem Issued.extractTenant_eq (h : Issued jwt payload token claims) (hjwt : jwt.ReadsBack)
    (hreq : extractBearerToken req = some token) {envSecret : Option String}
    (htenant : extractTenant jwt envSecret now req = .ok tenant) : requestTenant req = tenant := by
  have hnone : ∀ secret, tenantFromJwt jwt secret now req = none := by
    intro secret
    rw [tenantFromJwt, hreq]
    cases hdecode : jwt.decode secret now token with
    | none => simp [hdecode]
    | some v =>
      obtain ⟨secret', hencode⟩ := h.encoded
      have hv := hjwt secret' claims token hencode secret now v hdecode
      simp [hdecode, hv, tenantClaims_toJson]
  have hjwtTenant : ((envSecret.filter (· ≠ "")).bind fun secret =>
      tenantFromJwt jwt (utf8 secret) now req) = none := by
    simp [hnone]
  simp only [extractTenant, hjwtTenant] at htenant
  split at htenant
  · cases htenant
  · unfold requestTenant
    cases hheader : headerTenant req <;> simp [hheader, resolveTenant] at htenant ⊢
    all_goals exact htenant

variable {method : Method} {authz : AdminAuthz}

theorem ne_adminJwt_of_staticKeyAuth {key : Bytes} :
    staticKeyAuth cfg key method tenant ≠ .ok (.adminJwt, authz) := by
  unfold staticKeyAuth
  split
  · nofun
  · split <;> nofun

theorem ne_adminJwt_of_xAdminKeyAuth : xAdminKeyAuth cfg req ≠ .ok (.adminJwt, authz) := by
  unfold xAdminKeyAuth
  dsimp only
  split
  · nofun
  · split
    · nofun
    · exact ne_adminJwt_of_staticKeyAuth

/-- `auth_middleware` that lets a request pass by the token has held it against the
token's claims. -/
theorem Issued.jwtAuth_of_authMiddleware (h : Issued jwt payload token claims)
    (hjwt : jwt.ReadsBack) (hreq : extractBearerToken req = some token)
    (hauth : authMiddleware jwt cfg now req = .ok (.adminJwt, authz)) :
    jwtAuth cfg claims.scp claims.tnt req.method (requestTenant req) = .ok (.adminJwt, authz) := by
  simp only [authMiddleware, hreq] at hauth
  split at hauth
  · next scopes tnt hverify =>
    obtain ⟨secret, -, hverify⟩ := Option.bind_eq_some_iff.1 hverify
    obtain ⟨v, hdecode, hclaims⟩ := Option.bind_eq_some_iff.1 hverify
    obtain ⟨secret', hencode⟩ := h.encoded
    rw [hjwt secret' claims token hencode secret now v hdecode, adminJwtClaims_toJson] at hclaims
    cases hclaims
    exact hauth
  · split at hauth
    · exact absurd hauth ne_adminJwt_of_staticKeyAuth
    · exact absurd hauth ne_adminJwt_of_xAdminKeyAuth

/-- The scopes of an issued token are never those of a super admin. -/
theorem Issued.not_super (h : Issued jwt payload token claims) :
    (claims.scp.map asciiLower).any isSuperScope = false := by
  rw [List.any_eq_false]
  intro s hs
  obtain ⟨s', hs', rfl⟩ := List.mem_map.1 hs
  rcases h.scopes s' hs' with rfl | rfl <;> decide

theorem Issued.of_jwtAuth (h : Issued jwt payload token claims)
    (hauth : jwtAuth cfg claims.scp claims.tnt method tenant = .ok (.adminJwt, authz)) :
    tenant ∈ claims.tnt ∧ authz.crossTenant = false ∧
      (method.isRead = false → "admin:write" ∈ claims.scp) := by
  have hlist : claims.tnt.isEmpty = false := by simpa using h.tenants
  simp only [jwtAuth, scopesAreSuper, h.not_super, hlist] at hauth
  split at hauth
  · cases hauth
  next hok =>
  simp only [Bool.not_false, Bool.and_self, ↓reduceIte] at hauth
  split at hauth
  · cases hauth
  next hmem =>
  cases hauth
  refine ⟨by simpa using hmem, rfl, fun hwrite => ?_⟩
  simp only [jwtAuthOk, h.not_super, hwrite] at hok
  obtain ⟨s, hs, heq⟩ : ∃ s ∈ claims.scp, asciiLower s = "admin:write" := by simpa using hok
  rcases h.scopes s hs with rfl | rfl
  · exact absurd heq (by decide)
  · exact hs

end

/-- `issue_admin_key` issues nothing to a caller that is held to its tenants. -/
theorem issueAdminKey_of_not_crossTenant {cfg : AdminAuthConfig} {authz : AdminAuthz}
    (hauthz : authz.crossTenant = false) (payload : IssueAdminKeyRequest) (now : ℤ)
    (resp : IssueAdminKeyResponse) : issueAdminKey jwt cfg (some authz) payload now ≠ .ok resp := by
  intro h
  have hcross := (issued_of_issueAdminJwt h).1
  simp [hauthz] at hcross

/-! ## Chains of requests -/

/-- A request with the configuration and the clocks it meets, and the body if it goes to
`issue_admin_key`. -/
structure AdminCall where
  cfg : AdminAuthConfig
  req : AdminRequest
  tenantNow : ℤ
  authNow : ℤ
  issueNow : ℤ
  issue : Option IssueAdminKeyRequest

/-- The request passes both middlewares, authenticated by the token, and the handler sees
this tenant and this authority. -/
def AdminCall.PassesBy (jwt : JwtLibrary) (call : AdminCall) (token tenant : String)
    (authz : AdminAuthz) : Prop :=
  extractBearerToken call.req = some token ∧
    extractTenant jwt call.cfg.envSecret call.tenantNow call.req = .ok tenant ∧
    authMiddleware jwt call.cfg call.authNow call.req = .ok (.adminJwt, authz)

/-- What a client can do from the tokens it holds: each request is authenticated by one of
them, and a token that comes back is held from then on. -/
inductive Chain (jwt : JwtLibrary) (start : List String) :
    List String → List String → Prop where
  | start : Chain jwt start start []
  | request {held reached : List String} {call : AdminCall} {token tenant : String}
      {authz : AdminAuthz} :
      Chain jwt start held reached → token ∈ held → call.PassesBy jwt token tenant authz →
      Chain jwt start held (tenant :: reached)
  | mint {held reached : List String} {call : AdminCall} {token tenant : String}
      {authz : AdminAuthz} {payload : IssueAdminKeyRequest} {resp : IssueAdminKeyResponse} :
      Chain jwt start held reached → token ∈ held → call.PassesBy jwt token tenant authz →
      call.issue = some payload →
      issueAdminKey jwt call.cfg (some authz) payload call.issueNow = .ok resp →
      Chain jwt start (resp.token :: held) (tenant :: reached)

section
variable {payload : IssueAdminKeyRequest} {token : String} {claims : IssuedAdminClaims}

/-- What one request by the token is held to. -/
theorem Issued.passesBy (h : Issued jwt payload token claims) (hjwt : jwt.ReadsBack)
    {call : AdminCall} {tenant : String} {authz : AdminAuthz}
    (hpass : call.PassesBy jwt token tenant authz) :
    requestTenant call.req = tenant ∧ tenant ∈ payload.tenants.map trim ∧
      authz.crossTenant = false ∧ (call.req.method.isRead = false →
        "admin:write" ∈ payload.scopes.map fun raw => asciiLower (trim raw)) := by
  obtain ⟨hreq, htenant, hauth⟩ := hpass
  have heq := h.extractTenant_eq hjwt hreq htenant
  obtain ⟨hmem, hcross, hwrite⟩ := h.of_jwtAuth (h.jwtAuth_of_authMiddleware hjwt hreq hauth)
  rw [heq] at hmem
  exact ⟨heq, (h.mem_tenants tenant).1 hmem, hcross, fun hm => (h.mem_scopes _).1 (hwrite hm)⟩

/-- Along a chain nothing is minted, so every tenant is reached by the first token. -/
theorem Issued.chain (h : Issued jwt payload token claims) (hjwt : jwt.ReadsBack)
    {held reached : List String} (hchain : Chain jwt [token] held reached) :
    held = [token] ∧ ∀ tenant ∈ reached, tenant ∈ payload.tenants.map trim := by
  induction hchain with
  | start => simp
  | request _ hheld hpass ih =>
    obtain ⟨rfl, hreached⟩ := ih
    cases List.mem_singleton.1 hheld
    exact ⟨rfl, List.forall_mem_cons.2 ⟨(h.passesBy hjwt hpass).2.1, hreached⟩⟩
  | mint _ hheld hpass _ hissue ih =>
    obtain ⟨rfl, -⟩ := ih
    cases List.mem_singleton.1 hheld
    exact absurd hissue (issueAdminKey_of_not_crossTenant (h.passesBy hjwt hpass).2.2.1 _ _ _)

end

/-- A token of `issue_admin_jwt` reaches its own tenants only: the tenant the handler sees
is the one `auth_middleware` checked and one of those asked for, the caller is never
cross-tenant, writes need `admin:write`, and `issue_admin_key` refuses. So no chain of
requests from the token reaches another tenant or gains another token. -/
theorem issued_tokens_confined (hjwt : jwt.ReadsBack) {secret : Option Bytes} {cross : Bool}
    {payload : IssueAdminKeyRequest} {now : ℤ} {resp : IssueAdminKeyResponse}
    (hissue : issueAdminJwt jwt secret cross payload now = .ok resp) :
    (∀ (call : AdminCall) (tenant : String) (authz : AdminAuthz),
      call.PassesBy jwt resp.token tenant authz →
        requestTenant call.req = tenant ∧ tenant ∈ payload.tenants.map trim ∧
        authz.crossTenant = false ∧
        (call.req.method ≠ .get → call.req.method ≠ .head →
          "admin:write" ∈ payload.scopes.map fun raw => asciiLower (trim raw)) ∧
        ∀ body again, issueAdminKey jwt call.cfg (some authz) body call.issueNow ≠ .ok again) ∧
    ∀ held reached, Chain jwt [resp.token] held reached →
      held = [resp.token] ∧ ∀ tenant ∈ reached, tenant ∈ payload.tenants.map trim := by
  have h := (issued_of_issueAdminJwt hissue).2
  refine ⟨fun call tenant authz hpass => ?_, fun held reached => h.chain hjwt⟩
  obtain ⟨heq, hmem, hcross, hwrite⟩ := h.passesBy hjwt hpass
  refine ⟨heq, hmem, hcross, fun hget hhead => hwrite ?_, fun body again =>
    issueAdminKey_of_not_crossTenant hcross body _ again⟩
  simp [Method.isRead, hget, hhead]

/-! ## A token for two tenants -/

def sampleClaims : IssuedAdminClaims := ⟨["admin:write"], ["acme", "globex"], 5600⟩

/-- A library that has issued one token. -/
def sampleJwt : JwtLibrary where
  encode _ claims := if claims = sampleClaims then .ok "jwt" else .error "no key"
  decode _ now token :=
    if token = "jwt" ∧ now ≤ sampleClaims.exp then some sampleClaims.toJson else none

theorem sampleJwt_readsBack : sampleJwt.ReadsBack := by
  intro secret claims token hencode secret' now payload hdecode
  simp only [sampleJwt] at hencode hdecode
  split at hencode
  · next hclaims =>
    rw [hclaims]
    split at hdecode
    · cases hdecode
      rfl
    · cases hdecode
  · cases hencode

def sampleIssue : IssueAdminKeyRequest := ⟨[" Admin:Write"], ["acme ", "globex", "acme"], some 60⟩

/-- The token writes to the second of its tenants, under a cross-tenant configuration. -/
def sampleCall : AdminCall where
  cfg := ⟨[], [], some [1], some "secret", true, false⟩
  req := ⟨.other "POST", some "Bearer jwt", none, some "globex"⟩
  tenantNow := 2500
  authNow := 2500
  issueNow := 2500
  issue := none

theorem issued_token_reaches_its_tenant :
    sampleJwt.ReadsBack ∧
      issueAdminJwt sampleJwt (some [1]) true sampleIssue 2000 =
        .ok ⟨"jwt", ["admin:write"], ["acme", "globex"], 5600⟩ ∧
      sampleCall.PassesBy sampleJwt "jwt" "globex" ⟨false⟩ ∧
      "globex" ∈ sampleIssue.tenants.map trim ∧
      Chain sampleJwt ["jwt"] ["jwt"] ["globex"] ∧
      ∀ held reached, Chain sampleJwt ["jwt"] held reached →
        held = ["jwt"] ∧ ∀ tenant ∈ reached, tenant ∈ sampleIssue.tenants.map trim := by
  have hissue : issueAdminJwt sampleJwt (some [1]) true sampleIssue 2000 =
      .ok ⟨"jwt", ["admin:write"], ["acme", "globex"], 5600⟩ := by rfl
  have hpass : sampleCall.PassesBy sampleJwt "jwt" "globex" ⟨false⟩ :=
    ⟨by decide +kernel, by rfl, by rfl⟩
  obtain ⟨hone, hchain⟩ := issued_tokens_confined sampleJwt_readsBack hissue
  exact ⟨sampleJwt_readsBack, hissue, hpass, (hone _ _ _ hpass).2.1,
    .request .start (List.mem_singleton.2 rfl) hpass, hchain⟩

end SauronID.Admin
