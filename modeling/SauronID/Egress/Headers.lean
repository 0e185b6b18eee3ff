import SauronID.Egress.Proxy
import SauronID.Lib.Encoding

/-!
# The media type the policy sees

The policy is told of one `Content-Type`, that of the first header with the name in the order the
map happens to have. The request that goes out has every header of the caller, and names that
differ in case are different to the map but not to HTTP. The HTTP client sends nothing when it
does not take a name or a value. So the policy sees what is sent only where all headers of the
name agree, and with a credential that is injected under it.
-/

namespace SauronID.Egress

open Text Dsl

variable {F : Type} [Float64 F] (env : Env F)

/-- The receiver takes the header for the media type. -/
def sentAsContentType (h : String × String) : Bool := eqIgnoreAsciiCase h.1 "content-type"

/-- The gate takes the header for the media type. -/
def declaresContentType (h : String × String) : Bool :=
  eqIgnoreAsciiCase (trim h.1) "content-type"

variable {h : String × String}

theorem sentAsContentType_iff :
    sentAsContentType h = true ↔ asciiLower h.1 = "content-type" := beq_iff_eq

theorem declaresContentType_iff :
    declaresContentType h = true ↔ asciiLower (trim h.1) = "content-type" := beq_iff_eq

/-- There is no white space to trim off the name. -/
theorem declares_of_sent (hsent : sentAsContentType h = true) : declaresContentType h = true := by
  have hname := sentAsContentType_iff.1 hsent
  have hblack : ∀ c ∈ "content-type".toList, isWhiteSpace c = false := by
    simp [isWhiteSpace]
  have htrim : trim h.1 = h.1 := by
    refine trim_eq_self fun c hc => ?_
    rw [← isWhiteSpace_asciiLowerChar]
    apply hblack
    rw [← hname, asciiLower, String.toList_ofList]
    exact List.mem_map_of_mem hc
  rw [declaresContentType_iff, htrim, hname]

variable {headers : List (String × String)}

theorem contentType_cons (hdeclares : declaresContentType h = true) :
    contentType (h :: headers) = h.2 := by
  have hfind : (h :: headers).find? (fun h => eqIgnoreAsciiCase (trim h.1) "content-type") =
      some h := List.find?_cons_of_pos hdeclares
  rw [contentType, hfind]
  rfl

/-- The media type is that of a header of the name, or the default without one. -/
theorem contentType_cases (headers : List (String × String)) :
    (∃ h ∈ headers, declaresContentType h = true ∧ contentType headers = h.2) ∨
      (∀ h ∈ headers, declaresContentType h = false) ∧
        contentType headers = "application/octet-stream" := by
  unfold contentType
  cases hfind : headers.find? fun h => eqIgnoreAsciiCase (trim h.1) "content-type" with
  | some h => exact .inl ⟨h, List.mem_of_find?_eq_some hfind, List.find?_some hfind, rfl⟩
  | none =>
    refine .inr ⟨fun h hh => ?_, rfl⟩
    simpa [declaresContentType] using List.find?_eq_none.1 hfind h hh

/-- The terms let all headers of the caller pass. -/
def AllForwarded (terms : EgressMatch) (headers : List (String × String)) : Prop :=
  ∀ h ∈ headers, headerForbidden h.1 = true ∨ env.development = true ∨
    asciiLower (trim h.1) ∈ terms.allowedHeaders

/-- The headers of the caller that go out if all may. -/
def callerHeaders (injected : Option String) (headers : List (String × String)) :
    List (String × String) :=
  headers.filter fun h =>
    !headerForbidden h.1 && decide (injected ≠ some (asciiLower (trim h.1)))

omit [Float64 F] in
theorem forwardedHeaders_eq_ok {terms : EgressMatch} {injected : Option String}
    {forwarded : List (String × String)} :
    forwardedHeaders env terms injected headers = .ok forwarded ↔
      AllForwarded env terms headers ∧ forwarded = callerHeaders injected headers := by
  induction headers generalizing forwarded with
  | nil =>
    constructor
    · rintro ⟨⟩
      exact ⟨by simp [AllForwarded], rfl⟩
    · rintro ⟨-, rfl⟩
      rfl
  | cons h headers ih =>
    obtain ⟨k, v⟩ := h
    unfold forwardedHeaders AllForwarded
    rw [List.forall_mem_cons]
    change _ ↔ (_ ∧ AllForwarded env terms headers) ∧ _
    by_cases hforbidden : headerForbidden k = true
    · simp [hforbidden, ih, callerHeaders]
    · by_cases hallowed : env.development = true ∨ asciiLower (trim k) ∈ terms.allowedHeaders
      · have hpass : ¬(!env.development &&
            !terms.allowedHeaders.contains (asciiLower (trim k))) = true := by
          rcases hallowed with h | h <;> simp [h]
        rw [if_neg hforbidden, if_neg hpass, bind_eq_ok_iff]
        simp only [ih, pure, Except.pure, Except.ok.injEq]
        -- what is injected under the name takes the place of the header
        have hfilter : callerHeaders injected ((k, v) :: headers) =
            if injected = some (asciiLower (trim k)) then callerHeaders injected headers
            else (k, v) :: callerHeaders injected headers := by
          by_cases hinjected : injected = some (asciiLower (trim k)) <;>
            simp [callerHeaders, hforbidden, hinjected]
        rw [hfilter]
        constructor
        · rintro ⟨rest, ⟨hall, rfl⟩, rfl⟩
          exact ⟨⟨.inr hallowed, hall⟩, rfl⟩
        · rintro ⟨⟨-, hall⟩, rfl⟩
          exact ⟨_, ⟨hall, rfl⟩, rfl⟩
      · rw [not_or] at hallowed
        have hstop : (!env.development && !terms.allowedHeaders.contains (asciiLower (trim k))) =
            true := by simp [hallowed]
        rw [if_neg hforbidden, if_pos hstop]
        simp [hforbidden, hallowed]

omit [Float64 F] in
theorem builtHeaders_eq_ok {built : List (String × String)} : builtHeaders env headers = .ok built ↔
      (∀ h ∈ headers, env.validHeader h.1 h.2 = true) ∧ built = headers := by
  unfold builtHeaders
  split
  · next hall =>
    rw [Except.ok.injEq]
    exact ⟨fun h => ⟨List.all_eq_true.1 hall, h.symm⟩, fun h => h.2.symm⟩
  · next hall =>
    refine ⟨fun h => (by cases h), ?_⟩
    rintro ⟨h, -⟩
    exact absurd (List.all_eq_true.2 h) hall

variable (agentId : String) (dest : Destination) (terms : EgressMatch)
  (credential : Option (String × String))

/-- The request goes out: the terms let all headers pass, and the client takes those it is
given. -/
def GoesOut (headers : List (String × String)) : Prop :=
  AllForwarded env terms headers ∧
    ∀ h ∈ callerHeaders (credential.map fun c => asciiLower c.1) headers ++ credential.toList,
      env.validHeader h.1 h.2 = true

/-- Each `Content-Type` of the request that goes out is the one the policy is told of, and on
every list on which the policy requires that one to be. -/
def SeenAsSent (req : EgressProxyRequest) : Prop :=
  ∀ headers sent, forwardedHeaders env terms (credential.map fun c => asciiLower c.1) req.headers =
      .ok headers → builtHeaders env (headers ++ credential.toList) = .ok sent →
    ∀ h ∈ sent, sentAsContentType h = true →
      h.2 = contentType req.headers ∧
      ∀ allowed (ctx : EvaluationContext F), ctx.action = proxyAction env agentId req dest →
        (RuntimeCheck.contentType allowed).evaluate env.engine ctx = .allow →
          mediaType h.2 ∈ allowed

/-- All headers of the name agree; with a credential under it, the headers agree with that, and
there is one if it is not the default. -/
def OneContentType (headers : List (String × String)) : Prop :=
  match credential.filter sentAsContentType with
  | some c => (∀ h ∈ headers, declaresContentType h = true → h.2 = c.2) ∧
      ((∀ h ∈ headers, declaresContentType h = false) → c.2 = "application/octet-stream")
  | none => ∀ h' ∈ headers, sentAsContentType h' = true →
      ∀ h ∈ headers, declaresContentType h = true → h.2 = h'.2

variable {env agentId dest terms credential} {req : EgressProxyRequest}

/-- What the allowlist of media types lets pass. -/
theorem mediaType_mem_of_allow {allowed : List String}
    {ctx : EvaluationContext F} (hctx : ctx.action = proxyAction env agentId req dest)
    (h : (RuntimeCheck.contentType allowed).evaluate env.engine ctx = .allow) :
    mediaType (contentType req.headers) ∈ allowed := by
  have hmeta : ctx.action.metaStr "content_type" = some (contentType req.headers) := by
    rw [hctx]
    rfl
  unfold RuntimeCheck.evaluate at h
  simp only [metaAllowlist, hmeta, denyIf] at h
  split at h
  · cases h
  · rename_i hlisted
    simpa using hlisted

/-- The media type is the same in every order of the headers. -/
theorem forall_perm_contentType_iff {v : String} :
    (∀ headers', headers'.Perm headers → v = contentType headers') ↔
      (∀ h ∈ headers, declaresContentType h = true → h.2 = v) ∧
        ((∀ h ∈ headers, declaresContentType h = false) → v = "application/octet-stream") := by
  constructor
  · intro hall
    refine ⟨fun h hh hdeclares => ?_, fun hnone => ?_⟩
    · -- the map may have any header in front
      obtain ⟨before, after, rfl⟩ := List.append_of_mem hh
      have hfront := hall (h :: (before ++ after)) List.perm_middle.symm
      rw [hfront, contentType_cons hdeclares]
    · rw [hall headers (.refl _)]
      rcases contentType_cases headers with ⟨h, hh, hdeclares, -⟩ | ⟨-, hdefault⟩
      · rw [hnone h hh] at hdeclares
        cases hdeclares
      · exact hdefault
  · rintro ⟨hsame, hdefault⟩ headers' hperm
    rcases contentType_cases headers' with ⟨h, hh, hdeclares, heq⟩ | ⟨hnone, heq⟩
    · rw [heq, hsame h (hperm.mem_iff.1 hh) hdeclares]
    · rw [heq, hdefault fun h hh => hnone h (hperm.mem_iff.2 hh)]

/-- The headers that are sent as media type: the one that is injected, or those of the caller. -/
theorem forall_sent_iff {P : String × String → Prop} :
    (∀ h ∈ callerHeaders (credential.map fun c => asciiLower c.1) headers ++ credential.toList,
        sentAsContentType h = true → P h) ↔
      match credential.filter sentAsContentType with
      | some c => P c
      | none => ∀ h ∈ headers, sentAsContentType h = true → P h := by
  have hname : ∀ {h : String × String}, sentAsContentType h = true →
      asciiLower (trim h.1) = "content-type" ∧ headerForbidden h.1 = false := by
    intro h hsent
    have hname := declaresContentType_iff.1 (declares_of_sent hsent)
    refine ⟨hname, ?_⟩
    unfold headerForbidden
    rw [hname]
    decide
  cases hcredential : credential.filter sentAsContentType with
  | some c =>
    obtain ⟨rfl, hc⟩ := Option.filter_eq_some_iff.1 hcredential
    constructor
    · intro hall
      exact hall c (by simp) hc
    · intro hP h hh hsent
      rcases List.mem_append.1 hh with hmem | hmem
      · -- the caller's are left out
        have hfilter := (List.mem_filter.1 hmem).2
        simp [hname hsent, sentAsContentType_iff.1 hc] at hfilter
      · cases List.mem_singleton.1 hmem
        exact hP
  | none =>
    have hother := Option.filter_eq_none_iff.1 hcredential
    constructor
    · intro hall h hh hsent
      refine hall h (List.mem_append_left _ (List.mem_filter.2 ⟨hh, ?_⟩)) hsent
      cases credential with
      | none => simp [hname hsent]
      | some c =>
        have hc := hother c rfl
        rw [sentAsContentType_iff] at hc
        simp [hname hsent, hc]
    · intro hall h hh hsent
      rcases List.mem_append.1 hh with hmem | hmem
      · exact hall h (List.mem_filter.1 hmem).1 hsent
      · exact absurd hsent (hother h (Option.mem_toList.1 hmem))

theorem seenAsSent_iff :
    SeenAsSent env agentId dest terms credential req ↔
    (GoesOut env terms credential req.headers →
      match credential.filter sentAsContentType with
      | some c => c.2 = contentType req.headers
      | none => ∀ h ∈ req.headers, sentAsContentType h = true → h.2 = contentType req.headers) := by
  constructor
  · rintro hseen ⟨hall, hvalid⟩
    refine forall_sent_iff.1 fun h hh hsent => ?_
    exact (hseen _ _ ((forwardedHeaders_eq_ok env).2 ⟨hall, rfl⟩)
      ((builtHeaders_eq_ok env).2 ⟨hvalid, rfl⟩) h hh hsent).1
  · intro hone headers sent hok hbuilt h hh hsent
    obtain ⟨hall, rfl⟩ := (forwardedHeaders_eq_ok env).1 hok
    obtain ⟨hvalid, rfl⟩ := (builtHeaders_eq_ok env).1 hbuilt
    have heq : h.2 = contentType req.headers :=
      (forall_sent_iff (P := fun h => h.2 = contentType req.headers)).2 (hone ⟨hall, hvalid⟩) h hh
        hsent
    exact ⟨heq, fun allowed ctx hctx hallow => heq ▸ mediaType_mem_of_allow hctx hallow⟩

/-- **What the egress policy sees.** For every map of headers, every `Content-Type` of the request
that goes out is the one given to the policy, whatever the order of the map, exactly if the
request does not go out for a header that is not allowed or not valid, or all headers of that
name agree. -/
theorem policy_sees_content_type_iff (req : EgressProxyRequest) :
    (∀ headers, headers.Perm req.headers →
        SeenAsSent env agentId dest terms credential { req with headers := headers }) ↔
      (GoesOut env terms credential req.headers → OneContentType credential req.headers) := by
  have hforwarded : ∀ headers, headers.Perm req.headers →
      (GoesOut env terms credential headers ↔ GoesOut env terms credential req.headers) := by
    intro headers hperm
    simp only [GoesOut, AllForwarded, callerHeaders, List.mem_append, List.mem_filter,
      hperm.mem_iff]
  simp only [seenAsSent_iff, OneContentType]
  constructor
  · intro hseen hall
    have hseen' := fun headers hperm => hseen headers hperm ((hforwarded headers hperm).2 hall)
    cases hcredential : credential.filter sentAsContentType with
    | some c =>
      rw [hcredential] at hseen'
      exact forall_perm_contentType_iff.1 hseen'
    | none =>
      rw [hcredential] at hseen'
      intro h' hh' hsent
      have hsame := fun headers (hperm : headers.Perm req.headers) =>
        hseen' headers hperm h' (hperm.mem_iff.2 hh') hsent
      exact (forall_perm_contentType_iff.1 hsame).1
  · intro hone headers hperm hall
    have hone := hone ((hforwarded headers hperm).1 hall)
    cases hcredential : credential.filter sentAsContentType with
    | some c =>
      rw [hcredential] at hone
      exact forall_perm_contentType_iff.2 hone headers hperm
    | none =>
      rw [hcredential] at hone
      intro h' hh' hsent
      have hh := hperm.mem_iff.1 hh'
      refine forall_perm_contentType_iff.2 ⟨hone h' hh hsent, fun hnone => ?_⟩ headers hperm
      have hdeclares := declares_of_sent hsent
      rw [hnone h' hh] at hdeclares
      cases hdeclares

/-- A request with these headers. -/
def requestWith (headers : List (String × String)) : EgressProxyRequest :=
  ⟨"", "POST", "https://api.example/v1", headers, some "\x7b\x7d"⟩

/-- The terms of a target that allows the media type. -/
def typedTerms : EgressMatch := ⟨none, true, true, 1000, 1000, ["content-type"]⟩

/-- The headers of two types, under one name in different case. -/
def twoTypes : List (String × String) :=
  [("content-type", "application/json"), ("Content-Type", "text/html")]

/-- A production server. -/
def productionEnv : Env ℚ := { sampleEnv ℚ with development := false }

/-- The call the policy is asked about. -/
def typedContext (headers : List (String × String)) : EvaluationContext ℚ :=
  contextOf (proxyAction productionEnv "agt_1" (requestWith headers)
    ⟨⟨"https", "", none, some "api.example", none, none, "/v1", some 443⟩, "api.example", 443,
      "POST", 0⟩) 0 0 ⟨"", 0, "", 0⟩ (.ofReads 0 [] 0 0)

/-- A policy that allows JSON lets pass what is then sent as HTML, too. -/
theorem second_content_type_sent :
    forwardedHeaders productionEnv typedTerms none twoTypes = .ok twoTypes ∧
    builtHeaders productionEnv twoTypes = .ok twoTypes ∧
    (RuntimeCheck.contentType ["application/json"]).evaluate productionEnv.engine
      (typedContext twoTypes) = .allow ∧
    ∃ h ∈ twoTypes, sentAsContentType h = true ∧ mediaType h.2 ∉ ["application/json"] := by
  decide +kernel

end SauronID.Egress
