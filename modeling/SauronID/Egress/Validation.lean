import SauronID.Egress.Rules
import SauronID.Lib.Encoding

/-!
# Allowlists that passed validation

An agent is registered with an allowlist whose entries are complete: the validator names the
first field that is not as it must be. The gateway reads the entries again at each call and
passes over those it cannot use. Here what it permits is compared with the entries as they are
written: the two differ in one field, the cap on responses, which the configuration may set
below the entry's.
-/

namespace SauronID.Egress

open Text

variable {F : Type} (env : Env F)

/-! ## The validator -/

section Validator

-- what is a header name to the HTTP library
variable (headerName : String → Bool)

/-- A value that must be there. -/
def required {α : Type} (value : Option α) (message : String) : Except String α :=
  match value with
  | some a => .ok a
  | none => .error message

theorem required_eq_ok {α : Type} {value : Option α} {message : String} {a : α} :
    required value message = .ok a ↔ value = some a := by
  cases value <;> simp [required]

/-- What is checked for each element of a list. -/
theorem forall_of_forM_eq_ok {ε α : Type} {f : α → Except ε Unit} {l : List α}
    (h : l.forM f = .ok ()) : ∀ a ∈ l, f a = .ok () := by
  induction l with
  | nil => simp
  | cons a l ih =>
    obtain ⟨ha, hl⟩ := check_bind_eq_ok.1 h
    exact List.forall_mem_cons.2 ⟨ha, ih hl⟩

def validMethods : List String := ["GET", "POST", "PUT", "PATCH", "DELETE", "HEAD", "OPTIONS"]

def validateMethod (entryAt : String) (method : Json) : Except String Unit := do
  let name ← required method.asStr s!"{entryAt}.methods must be strings"
  refuseIf (asciiUpper name ∉ validMethods) s!"{entryAt} forbids method '{asciiUpper name}'"

def validateHeader (entryAt : String) (header : Json) : Except String Unit := do
  let name ← required header.asStr s!"{entryAt}.allowed_headers must be strings"
  refuseIf (name = "" ∨ headerForbidden name = true ∨ headerName name = false)
    s!"{entryAt} contains forbidden header '{name}'"

/-- One entry of the allowlist. -/
def validateEntry (index : ℕ) (entry : Json) : Except String Unit := do
  let entryAt := s!"egress_allowlist[{index}]"
  let fields ← required (match entry with | .obj fields => some fields | _ => none)
    s!"{entryAt} must be a structured object"
  match fields.find? fun f => !entryFields.contains f.1 with
  | some f => throw s!"{entryAt} has unknown field '{f.1}'"
  | none =>
    let host := (entry.getStr "host").getD ""
    refuseIf (host = "" ∨ ['*', '/', '@'].any host.toList.contains = true)
      s!"{entryAt}.host must be an exact host"
    let methods ← required ((entry.getArray "methods").filter fun ms => !ms.isEmpty)
      s!"{entryAt}.methods must be non-empty"
    methods.forM (validateMethod entryAt)
    let above := (entry.getStr "path_prefix").getD ""
    refuseIf (startsWith above "/" = false ∨ trimEndMatches above '/' = "")
      s!"{entryAt}.path_prefix must be narrower than '/'"
    refuseIf (entry.getStr "request_body" ∉ [some "allow", some "deny"])
      s!"{entryAt}.request_body is required"
    refuseIf (entry.getStr "response_body" ∉ [some "allow", some "digest_only"])
      s!"{entryAt}.response_body is required"
    refuseIf ((entry.getU64 "max_request_bytes").any (· ≤ 4194304) = false)
      s!"{entryAt}.max_request_bytes is invalid"
    refuseIf ((entry.getU64 "max_response_bytes").any (fun n => 1 ≤ n ∧ n ≤ 1048576) = false)
      s!"{entryAt}.max_response_bytes is invalid"
    let headers ← required (entry.getArray "allowed_headers")
      s!"{entryAt}.allowed_headers is required"
    headers.forM (validateHeader headerName entryAt)
    refuseIf ((entry.get "inject_credential").any (fun v => !v.asStr.any (trim · ≠ "")) = true)
      s!"{entryAt}.inject_credential is invalid"

/-- The entries from the one with number `index` on. -/
def validateEntries : ℕ → List Json → Except String Unit
  | _, [] => .ok ()
  | index, entry :: entries => do
    validateEntry headerName index entry
    validateEntries (index + 1) entries

def validateProductionEgressPolicy (intent : Json) : Except String Unit :=
  match intent.get "egress_allowlist" with
  | none => .ok ()
  | some value => do
    let entries ← required value.asArray "egress_allowlist must be an array"
    validateEntries headerName 0 entries

/-- What the gateway needs of an entry is there. -/
structure Complete (entry : Json) : Prop where
  fields : ∃ fields, entry = .obj fields ∧ ∀ f ∈ fields, f.1 ∈ entryFields
  host : ∃ host, entry.getStr "host" = some host
  methods : ∃ methods, entry.getArray "methods" = some methods ∧ methods.isEmpty = false
  path : ∃ above, entry.getStr "path_prefix" = some above ∧ startsWith above "/" = true ∧
    trimEndMatches above '/' ≠ ""
  requestBody : entry.getStr "request_body" ∈ [some "allow", some "deny"]
  responseBody : entry.getStr "response_body" ∈ [some "allow", some "digest_only"]
  maxRequestBytes : ∃ n ≤ 4194304, entry.getU64 "max_request_bytes" = some n
  maxResponseBytes : ∃ n, 0 < n ∧ entry.getU64 "max_response_bytes" = some n
  headers : ∃ headers, entry.getArray "allowed_headers" = some headers ∧
    ∀ name ∈ headers.filterMap Json.asStr,
      name ≠ "" ∧ headerForbidden name = false ∧ headerName name = true

variable {headerName}

theorem complete_of_validateEntry {index : ℕ} {entry : Json}
    (h : validateEntry headerName index entry = .ok ()) : Complete headerName entry := by
  unfold validateEntry at h
  dsimp only at h
  obtain ⟨fields, hfields, h⟩ := exists_of_bind_eq_ok h
  have hobj : entry = .obj fields := by
    rw [required_eq_ok] at hfields
    cases entry <;> simp_all
  split at h
  · cases h
  rename_i hknown
  obtain ⟨hhost, h⟩ := refuseIf_bind_eq_ok.1 h
  obtain ⟨methods, hmethods, h⟩ := exists_of_bind_eq_ok h
  obtain ⟨-, h⟩ := check_bind_eq_ok.1 h
  obtain ⟨hpath, h⟩ := refuseIf_bind_eq_ok.1 h
  obtain ⟨hrequest, h⟩ := refuseIf_bind_eq_ok.1 h
  obtain ⟨hresponse, h⟩ := refuseIf_bind_eq_ok.1 h
  obtain ⟨hmaxRequest, h⟩ := refuseIf_bind_eq_ok.1 h
  obtain ⟨hmaxResponse, h⟩ := refuseIf_bind_eq_ok.1 h
  obtain ⟨headers, hheaders, h⟩ := exists_of_bind_eq_ok h
  obtain ⟨hnames, -⟩ := check_bind_eq_ok.1 h
  refine ⟨⟨fields, hobj, ?_⟩, ?_, ?_, ?_, not_not.1 hrequest, not_not.1 hresponse, ?_, ?_, ?_⟩
  · intro f hf
    have := List.find?_eq_none.1 hknown f hf
    simpa using this
  · cases hget : entry.getStr "host" with
    | none => simp [hget] at hhost
    | some host => exact ⟨host, rfl⟩
  · obtain ⟨hmethods, hsome⟩ := Option.filter_eq_some_iff.1 (required_eq_ok.1 hmethods)
    exact ⟨methods, hmethods, by simpa using hsome⟩
  · cases hget : entry.getStr "path_prefix" with
    | none => exact absurd (.inl (by rw [hget]; rfl)) hpath
    | some above =>
      rw [hget] at hpath
      simp only [Option.getD_some, not_or, Bool.not_eq_false] at hpath
      exact ⟨above, rfl, hpath⟩
  · obtain ⟨n, hn, hle⟩ := (Option.any_eq_true _ _).1 (eq_true_of_ne_false hmaxRequest)
    exact ⟨n, of_decide_eq_true hle, hn⟩
  · obtain ⟨n, hn, hle⟩ := (Option.any_eq_true _ _).1 (eq_true_of_ne_false hmaxResponse)
    exact ⟨n, (of_decide_eq_true hle).1, hn⟩
  · refine ⟨headers, required_eq_ok.1 hheaders, fun name hname => ?_⟩
    obtain ⟨header, hheader, hstr⟩ := List.mem_filterMap.1 hname
    have hvalid := forall_of_forM_eq_ok hnames header hheader
    unfold validateHeader at hvalid
    rw [hstr] at hvalid
    have hok := refuseIf_eq_ok.1 hvalid
    simpa [not_or] using hok

theorem complete_of_validated {intent : Json}
    (h : validateProductionEgressPolicy headerName intent = .ok ()) :
    ∀ entry ∈ (intent.getArray "egress_allowlist").getD [], Complete headerName entry := by
  have hentries : ∀ (entries : List Json) (index : ℕ),
      validateEntries headerName index entries = .ok () → ∀ e ∈ entries, Complete headerName e := by
    intro entries
    induction entries with
    | nil => simp
    | cons entry entries ih =>
      intro index hok
      obtain ⟨hentry, hrest⟩ := check_bind_eq_ok.1 hok
      exact List.forall_mem_cons.2 ⟨complete_of_validateEntry hentry, ih _ hrest⟩
  unfold validateProductionEgressPolicy at h
  unfold Json.getArray
  cases hget : intent.get "egress_allowlist" with
  | none => simp
  | some value =>
    rw [hget] at h
    obtain ⟨entries, hvalue, hok⟩ := exists_of_bind_eq_ok h
    rw [Option.bind_some, required_eq_ok.1 hvalue]
    exact hentries entries 0 hok

end Validator

/-! ## The entries as they are written -/

/-- The entry is for this call. -/
def permits (host method path : String) (entry : Json) : Bool :=
  (entry.getStr "host").any (eqIgnoreAsciiCase · host) &&
    (entry.getArray "methods").any (fun methods =>
      (methods.filterMap Json.asStr).any (eqIgnoreAsciiCase · method)) &&
    (entry.getStr "path_prefix").any fun above =>
      path == trimEndMatches above '/' || startsWith path (trimEndMatches above '/' ++ "/")

/-- The terms an entry states. -/
def statedTerms (entry : Json) : EgressMatch where
  injectCredential := entry.getStr "inject_credential"
  requestBodyAllowed := entry.getStr "request_body" == some "allow"
  responseBodyAllowed := entry.getStr "response_body" == some "allow"
  maxRequestBytes := (entry.getU64 "max_request_bytes").getD 0
  maxResponseBytes := (entry.getU64 "max_response_bytes").getD 0
  allowedHeaders :=
    (((entry.getArray "allowed_headers").getD []).filterMap Json.asStr).map asciiLower

theorem headerForbidden_asciiLower (name : String) :
    headerForbidden (asciiLower name) = headerForbidden name := by
  simp only [headerForbidden, trim_asciiLower, asciiLower_asciiLower]

/-- A path keeps its first slash. -/
theorem startsWith_trimEndMatches {above : String} (h : startsWith above "/" = true)
    (hne : trimEndMatches above '/' ≠ "") : startsWith (trimEndMatches above '/') "/" = true := by
  have hpre : (above.toList.reverse.dropWhile (· == '/')).reverse <+: above.toList := by
    have hsuffix : above.toList.reverse.dropWhile (· == '/') <:+ above.toList.reverse :=
      List.dropWhile_suffix _
    simpa using List.reverse_prefix.2 hsuffix
  unfold trimEndMatches at hne ⊢
  unfold startsWith at h ⊢
  rw [String.toList_ofList]
  cases hcs : (above.toList.reverse.dropWhile (· == '/')).reverse with
  | nil => simp [hcs] at hne
  | cons c cs =>
    rw [hcs] at hpre
    obtain ⟨rest, hrest⟩ := hpre
    rw [← hrest] at h
    simpa using h

/-- The gateway uses a complete entry as it is written, unless its cap on responses is above the
configured one. -/
theorem matchEntry_of_complete {headerName : String → Bool}
    (hname : ∀ name, headerName name = true → ∀ c ∈ name.toList, isWhiteSpace c = false)
    {entry : Json} (h : Complete headerName entry) (host method path : String) :
    matchEntry env true host method path entry = if permits host method path entry ∧
          (statedTerms entry).maxResponseBytes ≤ env.maxRespBytes then
        some (statedTerms entry) else none := by
  obtain ⟨fields, hobj, hfields⟩ := h.fields
  obtain ⟨ownHost, hhost⟩ := h.host
  obtain ⟨methods, hmethods, hsome⟩ := h.methods
  obtain ⟨above, habove, hslash, hnarrow⟩ := h.path
  obtain ⟨maxRequest, hle, hmaxRequest⟩ := h.maxRequestBytes
  obtain ⟨maxResponse, hpos, hmaxResponse⟩ := h.maxResponseBytes
  obtain ⟨headers, hheaders, hnames⟩ := h.headers
  have hmethod : methodListed true entry method =
      (methods.filterMap Json.asStr).any (eqIgnoreAsciiCase · method) := by
    simp [methodListed, hmethods, hsome]
  have hpath : pathListed true entry path =
      (path == trimEndMatches above '/' || startsWith path (trimEndMatches above '/' ++ "/")) := by
    simp [pathListed, habove, hnarrow, startsWith_trimEndMatches hslash hnarrow]
  have hrequestBody : wordField true entry "request_body" "allow" "deny" =
      some (statedTerms entry).requestBodyAllowed := by
    rcases List.mem_pair.1 h.requestBody with hword | hword <;>
      simp [wordField, statedTerms, hword]
  have hresponseBody : wordField true entry "response_body" "allow" "digest_only" =
      some (statedTerms entry).responseBodyAllowed := by
    rcases List.mem_pair.1 h.responseBody with hword | hword <;>
      simp [wordField, statedTerms, hword]
  have hlisted : listedHeaders entry = some (statedTerms entry).allowedHeaders := by
    simp only [listedHeaders, statedTerms, hheaders, Option.map_some, Option.getD_some]
    congr 1
    rw [List.filter_eq_self.2]
    · refine List.map_congr_left fun name hmem => ?_
      rw [trim_eq_self (hname name (hnames name hmem).2.2)]
    · intro lower hlower
      obtain ⟨name, hmem, rfl⟩ := List.mem_map.1 hlower
      obtain ⟨hne, hforbidden, hvalid⟩ := hnames name hmem
      simp [trim_eq_self (hname name hvalid), asciiLower_eq_empty, hne, headerForbidden_asciiLower,
        hforbidden]
  have hterms : statedTerms entry = ⟨entry.getStr "inject_credential",
      (statedTerms entry).requestBodyAllowed, (statedTerms entry).responseBodyAllowed, maxRequest,
      maxResponse, (statedTerms entry).allowedHeaders⟩ := by
    simp [statedTerms, hmaxRequest, hmaxResponse]
  have hpermits : permits host method path entry = (eqIgnoreAsciiCase ownHost host &&
      (methods.filterMap Json.asStr).any (eqIgnoreAsciiCase · method) &&
      (path == trimEndMatches above '/' || startsWith path (trimEndMatches above '/' ++ "/"))) := by
    simp only [permits, hhost, hmethods, habove, Option.any_some]
  have hcap : (statedTerms entry).maxResponseBytes = maxResponse := by rw [hterms]
  subst hobj
  simp only [matchEntry, hmethod, hpath, hrequestBody, hresponseBody, hlisted, hmaxRequest,
    hmaxResponse, hhost, hcap, hpermits]
  -- the three conditions on the call, and the cap
  generalize (methods.filterMap Json.asStr).any (eqIgnoreAsciiCase · method) = listed
  generalize (path == trimEndMatches above '/' ||
    startsWith path (trimEndMatches above '/' ++ "/")) = below
  rw [Option.getD_some]
  generalize eqIgnoreAsciiCase ownHost host = same
  by_cases hresponse : maxResponse ≤ env.maxRespBytes <;> cases same <;> cases listed <;>
    cases below <;> simp [guard, if_pos (Or.inr hfields), fieldOr, hle, hpos, hresponse, ← hterms,
      Option.filter_some]

/-- Where entries are passed over for their cap, the first that is used is the first that permits
the call exactly if the cap of that one is in order. -/
theorem findSome?_eq_iff {f : Json → Option EgressMatch} {p : Json → Bool} {cap : ℕ}
    {entries : List Json}
    (h : ∀ e ∈ entries, f e = if p e ∧ (statedTerms e).maxResponseBytes ≤ cap then
      some (statedTerms e) else none) : entries.findSome? f = (entries.find? p).map statedTerms ↔
      ∀ e, entries.find? p = some e → (statedTerms e).maxResponseBytes ≤ cap := by
  have hused : ∀ terms, entries.findSome? f = some terms → terms.maxResponseBytes ≤ cap := by
    intro terms hterms
    obtain ⟨e, he, hfe⟩ := List.exists_of_findSome?_eq_some hterms
    rw [h e he] at hfe
    split_ifs at hfe with hcond
    cases hfe
    exact hcond.2
  constructor
  · intro heq e he
    rw [he] at heq
    exact hused _ heq
  · clear hused
    intro hcap
    induction entries with
    | nil => rfl
    | cons e entries ih =>
      obtain ⟨hfe, hrest⟩ := List.forall_mem_cons.1 h
      cases hp : p e with
      | false =>
        have hnone : f e = none := by simp [hfe, hp]
        rw [List.findSome?_cons, hnone, List.find?_cons_of_neg (by simp [hp])]
        refine ih hrest fun e' he' => hcap e' ?_
        rwa [List.find?_cons_of_neg (by simp [hp])]
      | true =>
        have hfirst : List.find? p (e :: entries) = some e := List.find?_cons_of_pos hp
        have hsome : f e = some (statedTerms e) := by simp [hfe, hp, hcap e hfirst]
        rw [List.findSome?_cons, hsome, hfirst, Option.map_some]

/-- **Validated allowlists.** For every intent that passed validation and every call, the gateway
permits in production what the first entry for the call states, and nothing if there is none,
exactly if the cap on responses of that entry is not above the configured one. -/
theorem validated_policy_enforced_iff {headerName : String → Bool}
    (hname : ∀ name, headerName name = true → ∀ c ∈ name.toList, isWhiteSpace c = false)
    {intent : Json} (h : validateProductionEgressPolicy headerName intent = .ok ())
    (host method path : String) :
    egressMatch env intent host method path true =
        (((intent.getArray "egress_allowlist").getD []).find? (permits host method path)).map
          statedTerms ↔
      ∀ entry, ((intent.getArray "egress_allowlist").getD []).find? (permits host method path) =
        some entry → (statedTerms entry).maxResponseBytes ≤ env.maxRespBytes := by
  have hcomplete := complete_of_validated h
  have hmatch : egressMatch env intent host method path true =
      ((intent.getArray "egress_allowlist").getD []).findSome?
        (matchEntry env true host method path) := by
    unfold egressMatch
    cases intent.getArray "egress_allowlist" <;> rfl
  rw [hmatch]
  exact findSome?_eq_iff fun e he => matchEntry_of_complete env hname (hcomplete e he) ..

/-- An allowlist of one entry, with a cap on responses. -/
def oneEntryIntent (maxResponseBytes : ℤ) : Json :=
  .obj [("egress_allowlist", .arr [.obj [("host", .str "api.example"),
    ("methods", .arr [.str "get"]), ("path_prefix", .str "/v1/"), ("request_body", .str "deny"),
    ("response_body", .str "allow"),
    ("max_request_bytes", .int 0), ("max_response_bytes", .int maxResponseBytes),
    ("allowed_headers", .arr [.str "Accept"])]])]

/-- Any name without white space. -/
def blackName (name : String) : Bool := name.toList.all fun c => !isWhiteSpace c

/-- A gateway that reads a thousand bytes. -/
def narrowEnv : Env ℚ := { sampleEnv ℚ with maxRespBytes := 1000 }

/-- An entry with a cap of two thousand bytes is valid and permits nothing. -/
theorem valid_entry_skipped :
    validateProductionEgressPolicy blackName (oneEntryIntent 2000) = .ok () ∧
    (((oneEntryIntent 2000).getArray "egress_allowlist").getD []).any
      (permits "API.example" "GET" "/v1/items") = true ∧
    egressMatch narrowEnv (oneEntryIntent 2000) "API.example" "GET" "/v1/items" true = none := by
  decide +kernel

/-- One with a cap of a thousand is used as it is written. -/
theorem valid_entry_used :
    egressMatch narrowEnv (oneEntryIntent 1000) "API.example" "GET" "/v1/items" true =
      ((((oneEntryIntent 1000).getArray "egress_allowlist").getD []).find?
        (permits "API.example" "GET" "/v1/items")).map statedTerms := by
  have hname : ∀ name, blackName name = true → ∀ c ∈ name.toList, isWhiteSpace c = false := by
    intro name hname c hc
    simpa using List.all_eq_true.1 hname c hc
  have hvalid : validateProductionEgressPolicy blackName (oneEntryIntent 1000) = .ok () := by
    decide +kernel
  refine (validated_policy_enforced_iff narrowEnv hname hvalid ..).2 fun entry hentry => ?_
  have hcaps : ∀ e ∈ ((oneEntryIntent 1000).getArray "egress_allowlist").getD [],
      (statedTerms e).maxResponseBytes ≤ 1000 := by decide +kernel
  exact hcaps entry (List.mem_of_find?_eq_some hentry)

end SauronID.Egress
