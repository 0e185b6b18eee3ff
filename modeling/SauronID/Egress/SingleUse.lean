import SauronID.Egress.Proxy
import SauronID.Policy.FailClosed
import SauronID.Request.Capability

/-!
# A capability is for one call

A capability is issued for one outbound call of one agent and used up by the proxy before the
call leaves. Rows are inserted, used and deleted by concurrent requests, and a row that was
deleted could come back only under the same bearer value. `capability_forwards_once` says that
at most one call leaves the gateway under a capability, and that it is the call for which the
capability was issued.
-/

namespace SauronID.Egress

open Conc Text Dsl Request
  SauronID.Action

variable {F : Type} [Float64 F] (env : Env F)

/-! ## The proxy -/

section Proxy

variable {env} {may : May F} {t : History F} {tenant agentId : String} {req : EgressProxyRequest}
  {dest : Destination}

section

variable (hlog : ∀ t row s, may t (.insertEgressLog row) s)

include hlog

theorem denyEgress_yields {α : Type} {reason : String} {P : History F → α → Prop} :
    (denyEgress tenant agentId dest reason).Yields (srvRules may) t P :=
  Srv.yields_tryExecute fun s => ⟨hlog _ _ s, fun _ => Prog.yields_fail⟩

theorem proxyTarget_yields :
    (proxyTarget env tenant agentId req).Yields (srvRules may) t fun _ target =>
      target.1.method = env.toUppercase req.method := by
  refine .rejectIf fun _ => .rejectIf fun _ => .ofExcept fun target _ => ?_
  refine Srv.yields_nowSecs fun s => ?_
  dsimp only
  split
  · exact denyEgress_yields hlog
  split
  · exact denyEgress_yields hlog
  refine Prog.Yields.andThen (P := fun _ _ => True) (Srv.yields_require fun _ _ _ _ =>
    Prog.yields_pure trivial) fun _ intent _ _ => ?_
  split
  · exact denyEgress_yields hlog
  · exact .ofExcept fun credential _ => Prog.yields_pure rfl

/-- A call leaves the gateway right after its capability was used up for it. -/
theorem sendRequest_yields {terms : EgressMatch}
    {credential : Option (String × String)} {pinned : IpAddr}
    (huse : ∀ t now s, may t (.useCapability now (env.sha256Hex (utf8 (trim req.capability)))
      tenant agentId dest.method req.url (env.sha256Hex (utf8 (req.body.getD "")))) s) :
    (sendRequest env tenant agentId req dest terms credential pinned).Yields (srvRules may) t
      fun _ _ => True := by
  refine .bind (.mapErr (Srv.yields_execute fun s => ⟨huse _ _ s, fun n hn => ?_⟩))
  refine .rejectIf fun hone => .rejectIf fun _ => .ofExcept fun _ _ => ?_
  have hused : n = 1 := not_not.1 hone
  subst hused
  split
  · exact denyEgress_yields hlog
  refine .ofExcept fun built _ => ?_
  refine .bind (.mapErr (Srv.yields_forward ⟨_, _, _, _, _, s, t, rfl, hn⟩ fun _ _ _ => ?_))
  refine Srv.yields_tryExecute fun s => ⟨hlog _ _ s, fun _ => ?_⟩
  exact .ofExcept fun _ _ => Prog.yields_pure trivial

theorem agentEgressProxy_yields
    (huse : ∀ t now s, may t (.useCapability now (env.sha256Hex (utf8 (trim req.capability)))
      tenant agentId (env.toUppercase req.method) req.url
      (env.sha256Hex (utf8 (req.body.getD "")))) s) :
    (agentEgressProxy env tenant agentId req).Yields (srvRules may) t fun _ _ => True := by
  refine (proxyTarget_yields hlog).andThen fun t₁ target _ hmethod => ?_
  refine gate_yields.andThen fun t₂ _ _ _ => ?_
  unfold forwardEgress
  split
  · exact denyEgress_yields hlog
  dsimp only
  split
  · exact denyEgress_yields hlog
  split
  · exact Prog.yields_fail
  · refine sendRequest_yields hlog fun t now s => ?_
    rw [hmethod]
    exact huse t now s

end

end Proxy

/-! ## Requests -/

/-- A request to the gateway. -/
inductive EgressCall where
  | issue (tenant signedAgent : String) (req : EgressCapabilityRequest)
  | proxy (tenant agentId : String) (req : EgressProxyRequest)

/-- The request; the result is the capability, if one was asked for. -/
def EgressCall.prog : EgressCall → Srv F AppError (Option String)
  | issue tenant signedAgent req => do
    let resp ← issueEgressCapability env tenant signedAgent req
    return some resp.capability
  | proxy tenant agentId req => do
    let _ ← agentEgressProxy env tenant agentId req
    return none

/-- A run of requests. -/
def egressRun (start : World F) (calls : List EgressCall) (sched : List Event) :
    SrvConfig F AppError (Option String) :=
  (Config.init start (calls.map (EgressCall.prog env))).run sched

/-- A bearer value, as it is stored, and the call it is for. -/
structure BoundCall where
  tokenHashHex : String
  tenantId : String
  agentId : String
  method : String
  url : String
  bodyHashHex : String

/-- The statement that uses up the capability for the call. -/
def BoundCall.use (k : BoundCall) (now : ℤ) : Write F :=
  .useCapability now k.tokenHashHex k.tenantId k.agentId k.method k.url k.bodyHashHex

/-- What a row is for. -/
def boundCall (r : CapabilityRow) : BoundCall :=
  ⟨r.tokenHashHex, r.tenantId, r.agentId, r.method, r.url, r.bodyHashHex⟩

/-- What a request for a capability wants it for. -/
def issuedCall (tenant : String) (req : EgressCapabilityRequest) (capability : String) :
    BoundCall :=
  ⟨env.sha256Hex (utf8 capability), tenant, req.agentId, asciiUpper (trim req.method), req.url,
    asciiLower req.bodyHashHex⟩

/-- The call that a request to the proxy asks for, with the capability it presents. -/
def proxyCall (tenant agentId : String) (req : EgressProxyRequest) : BoundCall :=
  ⟨env.sha256Hex (utf8 (trim req.capability)), tenant, agentId, env.toUppercase req.method,
    req.url, env.sha256Hex (utf8 (req.body.getD ""))⟩

/-- What a request may do to the capabilities: issue one for what it wants it for, or use one
up for the call it asks for. -/
def egressMay (call : Option EgressCall) (t : History F) (w : Write F) (_ : World F) : Prop :=
  match w with
  | .insertCapability row => ∃ tenant signedAgent req,
      call = some (.issue tenant signedAgent req) ∧ IssuedFor env tenant req t row
  | .useCapability _ hash tenant agentId method url body => ∃ req,
      call = some (.proxy tenant agentId req) ∧
        ⟨hash, tenant, agentId, method, url, body⟩ = proxyCall env tenant agentId req
  | _ => True

omit [Float64 F] in
theorem egressMay_elsewhere (call : Option EgressCall) :
    UnguardedElsewhere (egressMay env call) := by
  intro t w s _ _ hcaps
  cases w with
  | insertCapability row => exact absurd rfl hcaps
  | useCapability now hash tenant agentId method url body => exact absurd rfl hcaps
  | _ => trivial

/-- The request has inserted the row of the capability it returns. -/
def EgressCall.Returns (call : EgressCall) (t : History F) (result : Option String) : Prop :=
  ∀ tenant signedAgent req, call = .issue tenant signedAgent req → ∀ capability,
    result = some capability → ∃ row s, (.write (.insertCapability row), s) ∈ t ∧
      boundCall row = issuedCall env tenant req capability

theorem EgressCall.prog_yields (call : EgressCall) :
    (call.prog env).Yields (srvRules (egressMay env (some call))) [] (call.Returns env) := by
  cases call with
  | issue tenant signedAgent req =>
    refine (issueEgressCapability_gated (egressMay_elsewhere env _) (fun _ _ _ _ _ => trivial)
      (fun _ _ _ => trivial) fun t row s _ h => ⟨tenant, signedAgent, req, rfl, h⟩).andThen
        fun t resp _ h => Prog.yields_pure ?_
    obtain ⟨-, r, t₁, row, s, n, -, -, rfl, -, -, -, hissued, hhash⟩ := h
    rintro _ _ _ ⟨⟩ _ ⟨⟩
    refine ⟨row, s, .head _, ?_⟩
    simp [boundCall, issuedCall, hhash, hissued.tenantId, hissued.agentId, hissued.method,
      hissued.url, hissued.bodyHashHex]
  | proxy tenant agentId req =>
    refine (agentEgressProxy_yields (fun _ _ _ => trivial)
      fun _ _ _ => ⟨req, rfl, rfl⟩).andThen fun t _ _ _ => Prog.yields_pure nofun

/-! ## Bearer values -/

section BearerValues

variable {env} {calls : List EgressCall} {start s : World F} {log : RunLog F}

/-- No two entries of the log issue capabilities under one bearer value. -/
def IssuesApart (e e' : LogEntry F) : Prop :=
  ∀ row row', e.label = .write (.insertCapability row) →
    e'.label = .write (.insertCapability row') → row.tokenHashHex ≠ row'.tokenHashHex

omit [Float64 F] in
instance : Std.Symm (IssuesApart (F := F)) :=
  ⟨fun _ _ h row row' hrow hrow' => (h row' row hrow' hrow).symm⟩

/-- Every statement so far was one its request may send, and no number was drawn twice. -/
structure Orderly (env : Env F) (calls : List EgressCall) (start s : World F)
    (log : RunLog F) : Prop where
  draws : Drawing start.drawn s log
  allowed : ∀ e older, e :: older <:+ log →
    (srvRules (egressMay env calls[e.thread]?)).may (threadTrace e.thread older) e.label e.before

theorem orderly_invariant (env : Env F) (calls : List EgressCall) (start : World F) :
    TraceInvariant (fun i => srvRules (egressMay env calls[i]?)) (fun _ _ => True)
      (Orderly env calls start) := by
  have hboth := (drawing_invariant start.drawn (fun i => egressMay env calls[i]?)
    fun _ _ => True).and TraceInvariant.allowed
  refine ⟨fun d h => ?_, fun h hC heff hmay => ?_⟩
  · exact ⟨(hboth.tick d ⟨h.draws, h.allowed⟩).1, h.allowed⟩
  · obtain ⟨hdraws, hallowed⟩ := hboth.step ⟨h.draws, h.allowed⟩ hC heff hmay
    exact ⟨hdraws, hallowed⟩

/-- A capability is issued under a bearer value that its request has just drawn. -/
theorem Orderly.issuedFor (h : Orderly env calls start s log) {e : LogEntry F}
    {older : RunLog F} (he : e :: older <:+ log) {row : CapabilityRow}
    (hrow : e.label = .write (.insertCapability row)) :
    ∃ tenant req, IssuedFor env tenant req (threadTrace e.thread older) row := by
  have hmay := h.allowed e older he
  rw [hrow] at hmay
  obtain ⟨tenant, -, req, -, hissued⟩ := hmay
  exact ⟨tenant, req, hissued⟩

/-- Bearer values made of numbers in `D` differ in the first number. -/
def BearersApart (env : Env F) (D : Set ℕ) : Prop :=
  ∀ a ∈ D, ∀ b ∈ D, ∀ a' ∈ D, ∀ b' ∈ D,
    capabilityText env a b = capabilityText env a' b' → a = a'

omit [Float64 F] in
theorem mem_drawnIn {i : ℕ} {s₀ : World F} (h : (.draw, s₀) ∈ threadTrace i log) :
    s₀.drawn ∈ drawnIn log := ⟨_, mem_threadTrace.1 h, rfl, rfl⟩

/-- Numbers are drawn once, so no bearer value comes twice. -/
theorem Orderly.issuesApart (h : Orderly env calls start s log)
    (hsha : Function.Injective env.sha256) {D : Set ℕ} (hD : drawnIn log ⊆ D)
    (hdrawn : BearersApart env D) : log.Pairwise IssuesApart := by
  refine pairwise_of_suffix fun e older he e' he' row row' hrow hrow' hsame => ?_
  obtain ⟨newer, older', rfl⟩ := List.append_of_mem he'
  have hbefore : e' :: older' <:+ newer ++ e' :: older' := List.suffix_append _ _
  have hlog : newer ++ e' :: older' <:+ log := (List.suffix_cons _ _).trans he
  obtain ⟨_, _, hissued⟩ := h.issuedFor he hrow
  obtain ⟨_, _, hissued'⟩ := h.issuedFor (hbefore.trans hlog) hrow'
  obtain ⟨s₁, s₂, s₃, now, t, ht, hhash⟩ := hissued.drawn
  obtain ⟨s₁', s₂', s₃', now', t', ht', hhash'⟩ := hissued'.drawn
  have htext : s₁.drawn = s₁'.drawn := by
    rw [hhash, hhash'] at hsame
    have hin {e₀ : LogEntry F} {l : RunLog F} {s₀ : World F} (hl : e₀ :: l <:+ log)
        (hs₀ : (.draw, s₀) ∈ threadTrace e₀.thread l) : s₀.drawn ∈ D := by
      obtain ⟨e₁, he₁, hdraw⟩ := mem_drawnIn hs₀
      exact hD ⟨e₁, hl.subset (.tail _ he₁), hdraw⟩
    exact hdrawn _ (hin he (by simp [ht])) _ (hin he (by simp [ht])) _
      (hin (hbefore.trans hlog) (by simp [ht'])) _ (hin (hbefore.trans hlog) (by simp [ht']))
      (utf8_injective (hsha (hexEncode_injective hsame)))
  have happart : (newer ++ e' :: older').Pairwise DrawsApart := h.draws.apart.sublist hlog.sublist
  refine pairwise_ahead happart [_, _] (.draw, s₁) (.draw, s₁') ht hbefore ?_ ?_ rfl rfl htext
  · simp [ht']
  · simp [hrow']

end BearerValues

/-! ## Uses -/

/-- The row before it was used. -/
def unused (r : CapabilityRow) : CapabilityRow := { r with usedAt := none }

/-- The statement uses up a capability for the call. -/
def UsesUp (k : BoundCall) (e : LogEntry F) : Prop :=
  ∃ now, e.label = .write (k.use now) ∧ e.before.writeResult (k.use now) = .ok 1

/-- The two statements do not both use up a capability under this bearer value. -/
def UsesApart (hash : String) (e e' : LogEntry F) : Prop :=
  ∀ k k', UsesUp k e → UsesUp k' e' → k.tokenHashHex = hash → k'.tokenHashHex ≠ hash

instance (hash : String) : Std.Symm (UsesApart (F := F) hash) :=
  ⟨fun _ _ h k k' huse huse' hk hk' => h k' k huse' huse hk' hk⟩

/-- The log has an attempt to issue the capability. -/
def Issued (log : RunLog F) (r : CapabilityRow) : Prop :=
  ∃ row, unused row = unused r ∧ ∃ e ∈ log, e.label = .write (.insertCapability row)

section Uses

variable {s s' : World F} {log : RunLog F} {lbl : Label F} {r : CapabilityRow}

omit [Float64 F] in
theorem Issued.cons (h : Issued log r) (e : LogEntry F) : Issued (e :: log) r := by
  obtain ⟨row, hrow, e', he', hlabel⟩ := h
  exact ⟨row, hrow, e', .tail _ he', hlabel⟩

variable {r' : CapabilityRow}

omit [Float64 F] in
/-- One bearer value is issued for one row. -/
theorem Issued.unused_eq (hapart : log.Pairwise IssuesApart) (h : Issued log r) (h' : Issued log r')
    (hsame : r.tokenHashHex = r'.tokenHashHex) : unused r = unused r' := by
  obtain ⟨row, hrow, e, he, hlabel⟩ := h
  obtain ⟨row', hrow', e', he', hlabel'⟩ := h'
  by_cases hee : e = e'
  · subst hee
    cases hlabel.symm.trans hlabel'
    exact hrow.symm.trans hrow'
  · refine absurd ?_ (hapart.forall he he' hee row row' hlabel hlabel')
    have hhash := congrArg CapabilityRow.tokenHashHex hrow
    have hhash' := congrArg CapabilityRow.tokenHashHex hrow'
    exact hhash.trans (hsame.trans hhash'.symm)

omit [Float64 F] in
/-- A row was there before, unless it is being inserted. -/
theorem exists_row_of_step {rows rows' : List CapabilityRow} (h : CapabilitiesStep lbl rows rows')
    (hr' : r' ∈ rows') : (∃ r ∈ rows, unused r' = unused r ∧ (r'.usedAt = none → r' = r)) ∨
      lbl = .write (.insertCapability r') := by
  cases h with
  | same => exact .inl ⟨r', hr', rfl, fun _ => rfl⟩
  | prune => exact .inl ⟨r', List.mem_of_mem_filter hr', rfl, fun _ => rfl⟩
  | insert =>
    rcases List.mem_append.1 hr' with hr' | hr'
    · exact .inl ⟨r', hr', rfl, fun _ => rfl⟩
    · cases List.mem_singleton.1 hr'
      exact .inr rfl
  | use =>
    obtain ⟨r, hr, rfl⟩ := List.mem_map.1 hr'
    refine .inl ⟨r, hr, ?_⟩
    split
    · exact ⟨rfl, nofun⟩
    · exact ⟨rfl, fun _ => rfl⟩

/-- A use finds a row that is for the call and was not used, and leaves no such row. -/
theorem UsesUp.exists_row {k : BoundCall} {e : LogEntry F} (h : UsesUp k e)
    (heff : e.label.Effect e.before s') : ∃ r ∈ e.before.db.capabilities,
      boundCall r = k ∧ r.usedAt = none ∧ r ∉ s'.db.capabilities := by
  obtain ⟨now, hlabel, hok⟩ := h
  have happly := World.apply_of_writeResult hok
  rw [hlabel] at heff
  rw [← (show s' = e.before.afterWrite (k.use now) from heff)] at happly
  simp only [BoundCall.use, Write.apply, Except.ok.injEq, Prod.mk.injEq] at happly
  obtain ⟨r, hr, husable⟩ := List.countP_pos_iff.1 (happly.2.symm ▸ Nat.one_pos)
  have hrow := husable
  simp only [CapabilityRow.usable, Bool.and_eq_true, beq_iff_eq, Option.isNone_iff_eq_none]
    at hrow
  refine ⟨r, hr, by simp [boundCall, hrow], hrow.1.2, fun hleft => ?_⟩
  rw [← happly.1] at hleft
  obtain ⟨r₀, -, hr₀⟩ := List.mem_map.1 hleft
  split at hr₀
  · rw [← hr₀] at hrow
    exact absurd hrow.1.2 (by simp)
  · subst hr₀
    contradiction

/-- Along a run: what is stored or used under this bearer value was issued in the run, and
once it is used nothing is left to use. -/
structure SingleUse (hash : String) (s : World F) (log : RunLog F) : Prop where
  issued : ∀ r ∈ s.db.capabilities, r.tokenHashHex = hash → Issued log r
  used : ∀ e ∈ log, ∀ k, UsesUp k e → k.tokenHashHex = hash →
    (∃ r, boundCall r = k ∧ Issued log r) ∧
      ∀ r ∈ s.db.capabilities, r.tokenHashHex = hash → r.usedAt ≠ none
  once : log.Pairwise (UsesApart hash)

theorem SingleUse.step {hash : String} {i : ℕ} (h : SingleUse hash s log)
    (hapart : (⟨i, lbl, s⟩ :: log : RunLog F).Pairwise IssuesApart)
    (heff : lbl.Effect s s') : SingleUse hash s' (⟨i, lbl, s⟩ :: log) := by
  have hstep := capabilitiesStep_of_effect heff
  have hissued : ∀ r ∈ s'.db.capabilities, r.tokenHashHex = hash →
      Issued (⟨i, lbl, s⟩ :: log) r := by
    intro r' hr' hhash
    rcases exists_row_of_step hstep hr' with ⟨r, hr, hsame, -⟩ | hinsert
    · obtain ⟨row, hrow, he⟩ := (h.issued r hr
        ((congrArg CapabilityRow.tokenHashHex hsame).symm.trans hhash)).cons ⟨i, lbl, s⟩
      exact ⟨row, hrow.trans hsame.symm, he⟩
    · exact ⟨r', rfl, _, .head _, hinsert⟩
  refine ⟨hissued, fun e he k huse hk => ?_, List.pairwise_cons.2 ⟨?_, h.once⟩⟩
  · rcases List.mem_cons.1 he with rfl | he
    · -- the row that is used is the only one under its bearer value
      obtain ⟨r₁, hr₁, hbound, hunused, hgone⟩ := huse.exists_row heff
      have hhash₁ : r₁.tokenHashHex = hash := by
        rw [← hk, ← hbound]
        rfl
      have hissued₁ := (h.issued r₁ hr₁ hhash₁).cons ⟨i, lbl, s⟩
      refine ⟨⟨r₁, hbound, hissued₁⟩, fun r' hr' hhash hnone => hgone ?_⟩
      have hsame := (hissued r' hr' hhash).unused_eq hapart hissued₁ (hhash.trans hhash₁.symm)
      have heq : r' = r₁ := by
        cases r'
        cases r₁
        cases hnone
        cases hunused
        exact hsame
      rwa [← heq]
    · obtain ⟨⟨r₀, hbound, hissued₀⟩, hspent⟩ := h.used e he k huse hk
      refine ⟨⟨r₀, hbound, hissued₀.cons _⟩, fun r' hr' hhash hnone => ?_⟩
      rcases exists_row_of_step hstep hr' with ⟨r, hr, -, hold⟩ | hinsert
      · cases hold hnone
        exact hspent r' hr hhash hnone
      · obtain ⟨row, hrow, e', he', hlabel⟩ := hissued₀
        refine (List.pairwise_cons.1 hapart).1 e' he' r' row hinsert hlabel ?_
        rw [hhash, ← hk, ← hbound]
        exact (congrArg CapabilityRow.tokenHashHex hrow).symm
  · intro e he k k' huse huse' hk hk'
    obtain ⟨r, hr, hbound, hunused, -⟩ := huse.exists_row heff
    refine (h.used e he k' huse' hk').2 r hr ?_ hunused
    rw [← hk, ← hbound]
    rfl

end Uses

/-! ## Runs -/

section Runs

variable {env} {calls : List EgressCall} {start s : World F} {log : RunLog F}

/-- The entry is a call that leaves the gateway for a request with this capability. -/
def Forwards (calls : List EgressCall) (capability : String) (e : LogEntry F) : Prop :=
  ∃ tenant agentId req method url body,
    calls[e.thread]? = some (.proxy tenant agentId req) ∧ trim req.capability = capability ∧
      e.label = .forward method url body

variable {e : LogEntry F} {tenant agentId : String} {req : EgressProxyRequest} {method url : String}
  {body : Option String}

/-- Right before a call leaves, its request has used up its capability for just this call. -/
theorem Orderly.just_used (h : Orderly env calls start s log) {older : RunLog F}
    (he : e :: older <:+ log) (hcall : calls[e.thread]? = some (.proxy tenant agentId req))
    (hlabel : e.label = .forward method url body) :
    method = env.toUppercase req.method ∧ url = req.url ∧ ∃ now s₀ t, threadTrace e.thread older =
        (.write ((proxyCall env tenant agentId req).use now), s₀) :: t ∧
      s₀.writeResult ((proxyCall env tenant agentId req).use now) = .ok 1 := by
  have hmay := h.allowed e older he
  rw [hlabel] at hmay
  obtain ⟨now, hash, tenant', agentId', bodyHash, s₀, t, ht, hok⟩ := hmay
  obtain ⟨older', hsuffix, -⟩ := exists_suffix_of_threadTrace (ht.symm ▸ List.suffix_refl _ :
    (.write (.useCapability now hash tenant' agentId' method url bodyHash), s₀) :: t <:+
      threadTrace e.thread older)
  have huse := h.allowed _ older' (hsuffix.trans ((List.suffix_cons _ _).trans he))
  obtain ⟨req', hcall', hbound⟩ := huse
  rw [hcall] at hcall'
  cases hcall'
  simp only [proxyCall, BoundCall.mk.injEq] at hbound
  obtain ⟨rfl, -, -, rfl, rfl, rfl⟩ := hbound
  exact ⟨rfl, rfl, now, s₀, t, ht, hok⟩

/-- The run so far is orderly, and every bearer value it has drawn was used at most once. -/
theorem singleUse_invariant (hsha : Function.Injective env.sha256) {D : Set ℕ}
    (hdrawn : BearersApart env D) (calls : List EgressCall) (start : World F) (hash : String) :
    TraceInvariant (fun i => srvRules (egressMay env calls[i]?))
      (fun e _ => True ∧ (e.label = .draw → e.before.drawn ∈ D))
      fun s log => Orderly env calls start s log ∧ drawnIn log ⊆ D ∧ SingleUse hash s log where
  tick d h := ⟨(orderly_invariant env calls start).tick d h.1, h.2.1, h.2.2.issued, h.2.2.used,
    h.2.2.once⟩
  step {s log i lbl s'} h hC heff hmay := by
    have horderly := (orderly_invariant env calls start).step h.1 trivial heff hmay
    have hD : drawnIn (⟨i, lbl, s⟩ :: log) ⊆ D := by
      rintro k ⟨e, he, hdraw, rfl⟩
      rcases List.mem_cons.1 he with rfl | he
      · exact hC.2 hdraw
      · exact h.2.1 ⟨e, he, hdraw, rfl⟩
    exact ⟨horderly, hD, h.2.2.step (horderly.issuesApart hsha hD hdrawn) heff⟩

theorem orderly_initial : Orderly env calls start start [] where
  draws := ⟨le_rfl, List.forall_mem_nil _, .nil⟩
  allowed e older h := by cases List.suffix_nil.1 h

variable {row : CapabilityRow}

/-- What is drawn in the run is not stored at the start. -/
theorem Orderly.singleUse_initial (h : Orderly env calls start s log)
    (hfresh : ∀ r ∈ start.db.capabilities, ∀ a ∈ drawnIn log, ∀ b ∈ drawnIn log,
      r.tokenHashHex ≠ env.sha256Hex (utf8 (capabilityText env a b))) (he : e ∈ log)
    (hrow : e.label = .write (.insertCapability row)) : SingleUse row.tokenHashHex start [] := by
  refine ⟨fun r hr hhash => ?_, List.forall_mem_nil _, .nil⟩
  obtain ⟨newer, older, rfl⟩ := List.append_of_mem he
  have hsuffix : e :: older <:+ newer ++ e :: older := List.suffix_append _ _
  obtain ⟨_, _, hissued⟩ := h.issuedFor hsuffix hrow
  obtain ⟨s₁, s₂, s₃, now, t, ht, htext⟩ := hissued.drawn
  have hin {s₀ : World F} (hs₀ : (.draw, s₀) ∈ threadTrace e.thread older) :
      s₀.drawn ∈ drawnIn (newer ++ e :: older) :=
    ⟨_, hsuffix.subset (.tail _ (mem_threadTrace.1 hs₀)), rfl, rfl⟩
  exact absurd (hhash.trans htext) (hfresh r hr _ (hin (by simp [ht])) _ (hin (by simp [ht])))

/-- Two calls under one bearer value have used it up twice. -/
theorem Orderly.forwards_apart (h : Orderly env calls start s log) {capability : String}
    (hsingle : SingleUse (env.sha256Hex (utf8 capability)) s log) :
    log.Pairwise fun e e' => ¬ (Forwards calls capability e ∧ Forwards calls capability e') := by
  refine pairwise_of_suffix fun e older he e' he' hboth => ?_
  obtain ⟨⟨_, _, _, _, _, _, hcall, rfl, hlabel⟩, _, _, _, _, _, _, hcall', hcap, hlabel'⟩ := hboth
  obtain ⟨newer, older', rfl⟩ := List.append_of_mem he'
  have hbefore : e' :: older' <:+ newer ++ e' :: older' := List.suffix_append _ _
  have hlog : newer ++ e' :: older' <:+ log := (List.suffix_cons _ _).trans he
  obtain ⟨-, -, now, s₀, t, ht, hok⟩ := h.just_used he hcall hlabel
  obtain ⟨-, -, now', s₀', t', ht', hok'⟩ := h.just_used (hbefore.trans hlog) hcall' hlabel'
  refine pairwise_ahead (hsingle.once.sublist hlog.sublist) [] _ (_, s₀') ht hbefore
    (ht' ▸ .head _) ?_ _ _ ⟨now, rfl, hok⟩ ⟨now', rfl, hok'⟩ rfl ?_
  · simp [hlabel']
  · simp [proxyCall, hcap]

/-- A call that leaves is the one for which its capability was issued. -/
theorem Orderly.proxyCall_eq (h : Orderly env calls start s log) (hapart : log.Pairwise IssuesApart)
    (hsingle : SingleUse row.tokenHashHex s log) (hrow : Issued log row) (he : e ∈ log)
    (hcall : calls[e.thread]? = some (.proxy tenant agentId req))
    (hhash : env.sha256Hex (utf8 (trim req.capability)) = row.tokenHashHex)
    (hlabel : e.label = .forward method url body) :
    method = env.toUppercase req.method ∧ url = req.url ∧
      proxyCall env tenant agentId req = boundCall row := by
  obtain ⟨newer, older, rfl⟩ := List.append_of_mem he
  have hsuffix : e :: older <:+ newer ++ e :: older := List.suffix_append _ _
  obtain ⟨hmethod, hurl, now, s₀, t, ht, hok⟩ := h.just_used hsuffix hcall hlabel
  have huse : ⟨e.thread, .write ((proxyCall env tenant agentId req).use now), s₀⟩ ∈ older :=
    mem_threadTrace.1 (by simp [ht])
  obtain ⟨⟨r, hbound, hissued⟩, -⟩ := hsingle.used _ (hsuffix.subset (.tail _ huse)) _
    ⟨now, rfl, hok⟩ hhash
  have hsame : r.tokenHashHex = row.tokenHashHex := by
    rw [← hhash]
    exact congrArg BoundCall.tokenHashHex hbound
  have hunused := hissued.unused_eq hapart hrow hsame
  refine ⟨hmethod, hurl, hbound.symm.trans ?_⟩
  calc boundCall r = boundCall (unused r) := rfl
    _ = boundCall (unused row) := by rw [hunused]
    _ = boundCall row := rfl

/-- For every interleaving of requests for capabilities and requests to the proxy in which no two
bearer values that are drawn collide with each other or with a stored one: at most one call
leaves the gateway under a capability that was issued, and it is a call of the tenant and
the agent, with the method, the URL and the body, for which the capability was issued. -/
theorem capability_forwards_once (env : Env F) (hsha : Function.Injective env.sha256)
    (start : World F) (calls : List EgressCall) (sched : List Event)
    (hdrawn : BearersApart env (drawnIn (egressRun env start calls sched).log))
    (hfresh : ∀ r ∈ start.db.capabilities, ∀ a ∈ drawnIn (egressRun env start calls sched).log,
      ∀ b ∈ drawnIn (egressRun env start calls sched).log,
        r.tokenHashHex ≠ env.sha256Hex (utf8 (capabilityText env a b)))
    {j : ℕ} {tenant signedAgent : String}
    {req : EgressCapabilityRequest} {capability : String}
    (hissue : calls[j]? = some (.issue tenant signedAgent req))
    (hresult : (egressRun env start calls sched).result j = some (.ok (some capability))) :
    ((egressRun env start calls sched).log.Pairwise fun e e' =>
      ¬ (Forwards calls capability e ∧ Forwards calls capability e')) ∧
    ∀ e ∈ (egressRun env start calls sched).log, Forwards calls capability e →
      ∃ preq body, calls[e.thread]? = some (.proxy tenant req.agentId preq) ∧
        e.label = .forward (asciiUpper (trim req.method)) req.url body ∧
        env.toUppercase preq.method = asciiUpper (trim req.method) ∧ preq.url = req.url ∧
        env.sha256Hex (utf8 (preq.body.getD "")) = asciiLower req.bodyHashHex := by
  have hcalls (i : ℕ) (call : EgressCall) (hcall : calls[i]? = some call) :
      (call.prog env).Yields (srvRules (egressMay env calls[i]?)) [] (call.Returns env) := by
    rw [hcall]
    exact call.prog_yields env
  -- the capability was drawn in the run, so nothing is stored under it at the start
  obtain ⟨horderly, hpost⟩ := (orderly_invariant env calls start).run_calls hcalls
    orderly_initial sched (LogOk.of_true _)
  obtain ⟨row, s, hrow, hbound⟩ := hpost j _ _ hissue hresult _ _ _ rfl _ rfl
  have hinsert := mem_threadTrace.1 hrow
  have hinitial := horderly.singleUse_initial hfresh hinsert rfl
  have hnone : drawnIn ([] : RunLog F) ⊆ drawnIn (egressRun env start calls sched).log := by
    rintro k ⟨e, he, -⟩
    cases he
  obtain ⟨⟨-, hD, hsingle⟩, -⟩ := (singleUse_invariant hsha hdrawn calls start
    row.tokenHashHex).run_calls hcalls ⟨orderly_initial, hnone, hinitial⟩ sched
      ((LogOk.of_true _).and_forall fun e he hdraw => ⟨e, he, hdraw, rfl⟩)
  have hhash : row.tokenHashHex = env.sha256Hex (utf8 capability) :=
    congrArg BoundCall.tokenHashHex hbound
  refine ⟨horderly.forwards_apart (hhash ▸ hsingle), ?_⟩
  rintro e he ⟨tenant', agentId, preq, method, url, body, hcall, rfl, hlabel⟩
  obtain ⟨rfl, rfl, hexact⟩ := horderly.proxyCall_eq (horderly.issuesApart hsha hD hdrawn) hsingle
    ⟨row, rfl, _, hinsert, rfl⟩ he hcall hhash.symm hlabel
  rw [hbound, proxyCall, issuedCall, BoundCall.mk.injEq] at hexact
  obtain ⟨-, rfl, rfl, hmethod, hurl, hbody⟩ := hexact
  exact ⟨preq, body, hcall, by rw [hlabel, hmethod, hurl], hmethod, hurl, hbody⟩

end Runs

/-! ## A capability that is presented twice -/

/-- The server with its policy gate switched off. -/
def ungated {F : Type} (env : Env F) : Env F := { env with policyMode := .off }

/-- The claims of a token of the sample agent that may call out. -/
def egressClaims (jti : String) : Json :=
  .obj [("agent_id", .str "agt_1"), ("sub", .str "owner"), ("agent_checksum", .str "checksum"),
    ("iss", .str "did:sauron:idp"), ("aud", .str "sauron-core"), ("tenant_id", .str "default"),
    ("exp", .int 100), ("jti", .str jti), ("intent", .obj [("scope", .arr [.str "egress"])])]

/-- The one value of the hash in the examples. -/
def zeroHash : String := String.ofList (List.replicate 64 '0')

/-- Every token is the sample agent's, every agent may call `api.example`, and `p` is the
one policy. -/
def limitEnv (p : CompiledPolicy (sampleEngine ℚ)) : Env ℚ :=
  { sampleEnv ℚ with
    sha256 := fun _ => List.replicate 32 0
    policyStore := fun _ _ => some p
    fromStr := fun _ => some (.obj [("egress_allowlist", .arr [.str "api.example"])])
    decodeAjwt := fun token => some (sampleHeader, egressClaims token) }

/-- The sample agent is bound to the policy and has done nothing yet. -/
def limitWorld : World ℚ :=
  World.steady { Db.empty ℚ with
    agents := [sampleAgent], bindings := [⟨"default", "agt_1", "pol_1"⟩] } 1000

/-- The sample agent asks to call `https://api.example/`. -/
def capabilityRequest : EgressCapabilityRequest where
  agentId := "agt_1"
  ajwt := "t1"
  method := "POST"
  url := "https://api.example/"
  bodyHashHex := zeroHash
  agentAction := { sampleProof with
    envelope := { sampleProof.envelope with
      action := "egress", resource := "https://api.example/", merchantId := "api.example",
      ajwtJti := "t1", policyHash := zeroHash } }

/-- Two calls in a minute, two at the same time. -/
def twoCalls : CompiledPolicy (sampleEngine ℚ) where
  policyId := "pol_1"
  agent := "agt_1"
  checks := [.rate 2, .concurrency 2]
  raw := { version := "1", agent := "agt_1",
           binding := { rateLimit := some 2, maxConcurrent := some 2 }, invariants := [] }
  compiled := rfl

/-- Every hash keeps its input and every identifier ends in a zero of its own; no policy is
bound. -/
def bearerEnv : Env ℚ :=
  { ungated (limitEnv twoCalls) with
    sha256 := id
    randomHex32 := fun k => String.ofList (List.replicate k 'f' ++ ['0']) }

theorem bearerEnv_drawn (a b a' b' : ℕ)
    (h : capabilityText bearerEnv a b = capabilityText bearerEnv a' b') : a = a' := by
  have htext : List.replicate a 'f' ++ '0' :: (List.replicate b 'f' ++ ['0']) =
      List.replicate a' 'f' ++ '0' :: (List.replicate b' 'f' ++ ['0']) := by
    have hlist := congrArg String.toList h
    simpa [capabilityText, bearerEnv] using hlist
  clear h
  induction a generalizing a' with
  | zero =>
    cases a' with
    | zero => rfl
    | succ a' => simp [List.replicate_succ] at htext
  | succ a ih =>
    cases a' with
    | zero => simp [List.replicate_succ] at htext
    | succ a' =>
      simp only [List.replicate_succ, List.cons_append, List.cons.injEq, true_and] at htext
      exact congrArg (· + 1) (ih a' htext)

/-- A body of 32 bytes. -/
def thirtyTwo : String := "0123456789abcdef0123456789abcdef"

/-- The sample agent asks for a capability to send the body, and presents it twice. -/
def bearerCalls : List EgressCall :=
  [.issue "default" "agt_1" { capabilityRequest with
      bodyHashHex := bearerEnv.sha256Hex (utf8 thirtyTwo)
      agentAction := { capabilityRequest.agentAction with
        envelope := { capabilityRequest.agentAction.envelope with
          policyHash := expectedPolicyHash bearerEnv "egress" } } },
    .proxy "default" "agt_1" ⟨"egc_f0ff0", "post", "https://api.example/", [], some thirtyTwo⟩,
    .proxy "default" "agt_1" ⟨"egc_f0ff0", "post", "https://api.example/", [], some thirtyTwo⟩]

/-- The capability is issued first; the two calls are then in step. -/
@[irreducible] def bearerRun : SrvConfig ℚ AppError (Option String) :=
  egressRun bearerEnv limitWorld bearerCalls
    (List.replicate 30 (.step 0) ++ (List.replicate 20 [.step 1, .step 2]).flatten)

def isForward (e : LogEntry ℚ) : Bool :=
  match e.label with
  | .forward _ _ _ => true
  | _ => false

/-- Of two calls with one capability one leaves the gateway, and no two can. -/
theorem presented_twice_forwards_once :
    bearerRun.log.countP isForward = 1 ∧
      bearerRun.result 0 = some (.ok (some "egc_f0ff0")) ∧
      bearerRun.log.Pairwise fun e e' =>
        ¬ (Forwards bearerCalls "egc_f0ff0" e ∧ Forwards bearerCalls "egc_f0ff0" e') := by
  have hrun : bearerRun.log.countP isForward = 1 ∧
      bearerRun.result 0 = some (.ok (some "egc_f0ff0")) := by decide +kernel
  have hc : egressRun bearerEnv limitWorld bearerCalls
      (List.replicate 30 (.step 0) ++ (List.replicate 20 [.step 1, .step 2]).flatten) =
        bearerRun := by
    unfold bearerRun
    rfl
  have hresult := hrun.2
  rw [← hc] at hresult
  have honce := capability_forwards_once bearerEnv Function.injective_id limitWorld bearerCalls _
    (fun _ _ _ _ _ _ _ _ => bearerEnv_drawn _ _ _ _) (List.forall_mem_nil _) rfl hresult
  rw [hc] at honce
  exact ⟨hrun.1, hrun.2, honce.1⟩

end SauronID.Egress
