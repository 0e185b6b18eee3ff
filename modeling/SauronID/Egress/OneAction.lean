import SauronID.Egress.SingleUse
import SauronID.Request.TokenUse

/-!
# One token, one action

A token is issued for one action. The routes that authorize a payment or an action consume
its identifier; the route that issues egress capabilities does not, so one token gives as
many capabilities as are asked for, and an action besides. `one_action_per_token` says that
a token gives one action as long as it is not presented for a capability and again, and no
identifier is consumed a second time after a token that has it expired.
-/

namespace SauronID.Egress

open Conc Text SauronID.Action Request

variable {F : Type} [Float64 F] (env : Env F)

/-! ## Runs -/

/-- A request for an action: to one of the routes that consume the token, or for an egress
capability. -/
inductive ActionCall where
  | token (call : TokenCall)
  | egress (tenant signedAgent : String) (req : EgressCapabilityRequest)

def ActionCall.token? : ActionCall → Option String
  | token call => call.token
  | egress _ _ req => some req.ajwt

/-- The route that consumes the token, if the request goes to one. -/
def ActionCall.consuming? : ActionCall → Option TokenCall
  | token call => some call
  | egress _ _ _ => none

/-- The result of a request says whether it led to an action. -/
def ActionCall.prog : ActionCall → Srv F AppError Bool
  | token call => call.prog env
  | egress tenant signedAgent req => do
    let _ ← issueEgressCapability env tenant signedAgent req
    return true

def actionRun (start : World F) (calls : List ActionCall) (sched : List Event) :
    SrvConfig F AppError Bool :=
  (Config.init start (calls.map (ActionCall.prog env))).run sched

/-- The identifier of the token that is presented, and when it expires. -/
def ActionCall.use (call : ActionCall) : Option (String × ℤ) := call.token?.bind (tokenUse env)

/-- The token that is presented has the identifier. -/
def ActionCall.Presents (jti : String) (call : ActionCall) : Prop :=
  ∃ exp, call.use env = some (jti, exp)

/-- A request for a capability is the only one that presents the identifier. -/
def EgressAlone (calls : List ActionCall) (jti : String) : Prop :=
  ∀ (i j : ℕ) (call call' : ActionCall), calls[i]? = some call → calls[j]? = some call' →
    call.consuming? = none → call.Presents env jti → call'.Presents env jti → i = j

/-- When the identifier is consumed again, no token that is presented with it has expired. -/
def consumedInTime (calls : List ActionCall) (jti : String) (e : LogEntry F) (older : RunLog F) :
    Bool :=
  match e.label with
  | .write (.consumeJti _ jti' _) =>
      jti' != jti || !older.any (consumes jti) || calls.all fun call =>
        (call.use env).all fun u => u.1 != jti || decide (e.before.nowSecs ≤ u.2)
  | _ => true

/-! ## What the requests do -/

variable {env}

/-- A request that led to an action has consumed the identifier, or was for a capability. -/
theorem ActionCall.prog_yields (call : ActionCall) :
    (call.prog env).Yields (srvRules (tokenMay env call.consuming?)) [] fun t acted =>
      acted = true → call.consuming? = none ∨
        ∃ token, call.token? = some token ∧ Consumed env token t := by
  cases call with
  | token call =>
    have hone : [call][0]? = some call := rfl
    exact (TokenCall.prog_yields 0 call hone).mono fun t used h hused => .inr (h hused)
  | egress tenant signedAgent req =>
    exact (issueEgressCapability_yields (tokenMay_unguarded none)).andThen fun t _ _ _ =>
      Prog.yields_pure fun _ => .inl rfl

section Runs

variable (calls : List ActionCall) (jti : String)

variable (env) in
/-- A request consumes the identifier of the token it presents. -/
def ConsumesJti (e : LogEntry F) : Prop :=
  ∃ call now exp n, calls[e.thread]? = some call ∧ call.use env = some (jti, exp) ∧
    e.label = .write (.consumeJti now jti exp) ∧
    e.before.writeResult (.consumeJti now jti exp) = .ok n

variable (env) in
/-- No token with the identifier has expired. -/
def JtiLive (s : World F) : Prop :=
  ∀ call ∈ calls, ∀ exp, call.use env = some (jti, exp) → s.nowSecs ≤ exp

variable (env) in
/-- The identifier is stored for one of the tokens that have it. -/
def JtiStored (s : World F) : Prop :=
  ∃ call ∈ calls, ∃ exp, call.use env = some (jti, exp) ∧ (jti, exp) ∈ s.db.usedJtis

theorem jtiLive_of_consumedInTime {e : LogEntry F} {older : RunLog F} {now exp : ℤ}
    (hlabel : e.label = .write (.consumeJti now jti exp)) (hused : older.any (consumes jti) = true)
    (h : consumedInTime env calls jti e older = true) : JtiLive env calls jti e.before := by
  intro call hcall exp' huse
  simp only [consumedInTime, hlabel, hused, bne_self_eq_false, Bool.not_true, Bool.false_or,
    List.all_eq_true] at h
  simpa [huse] using h call hcall

theorem jti_onceRules (lo : ℤ) :
    OnceRules (fun i => srvRules (tokenMay env (calls[i]?.bind ActionCall.consuming?)))
      (fun e older => consumedInTime env calls jti e older = true) (ClockFrom lo)
      (ConsumesJti env calls jti) (JtiLive env calls jti) (JtiStored env calls jti) where
  live_of_tick {s} d h call hcall exp huse :=
    (World.nowSecs_le_advance s d).trans (h call hcall exp huse)
  tick_stored d h := h
  live_of_step heff h call hcall exp huse :=
    (World.nowSecs_mono (Label.Effect.clockMs_eq heff).ge).trans (h call hcall exp huse)
  step_stored := by
    rintro s log i lbl s' hJ heff hmay hlive ⟨call, hcall, exp, huse, hmem⟩
    refine ⟨call, hcall, exp, huse, usedJtis_of_effect heff hmem ?_ ?_⟩
    · rintro now jti' exp' rfl
      exact (hJ.readsNow_le hmay.1).trans (hlive call hcall exp huse)
    · rintro now rfl
      exact (hJ.readsNow_le hmay).trans (hlive call hcall exp huse)
  uses_stored := by
    rintro i lbl s s' heff ⟨call, now, exp, n, hcall, huse, rfl, hn⟩
    cases heff
    exact ⟨call, List.mem_of_getElem? hcall, exp, huse, (consumeJti_ok hn).2⟩
  uses_live := by
    rintro s log i lbl hJ htime hmay ⟨-, now, exp, n, -, -, hlabel, -⟩
      ⟨e, he, -, now', exp', n', -, -, hlabel', hn'⟩
    refine jtiLive_of_consumedInTime calls jti hlabel (List.any_eq_true.2 ⟨e, he, ?_⟩) htime
    simp [consumes, hlabel', hn', Except.isOk, Except.toBool]
  uses_fresh := by
    rintro s log i lbl hJ hmay hlive ⟨_, now, _, n, _, _, rfl, hn⟩ ⟨call, hcall, exp, huse, hmem⟩
    have hkept := (hJ.readsNow_le hmay.1).trans (hlive call hcall exp huse)
    exact (consumeJti_ok hn).1 exp hkept hmem

end Runs

variable (env) in
/-- **One token, one action.** If a request for a capability is the only one that presents
the identifier, and the identifier is not consumed a second time after a token that has it
expired, at most one request that presents it leads to an action. -/
theorem one_action_per_token (start : World F) (calls : List ActionCall) (sched : List Event)
    (jti : String) (halone : EgressAlone env calls jti)
    (hlog : LogOk (fun e older => consumedInTime env calls jti e older = true)
      (actionRun env start calls sched).log) :
    ∀ (i j : ℕ) (call call' : ActionCall), calls[i]? = some call → calls[j]? = some call' →
      call.Presents env jti → call'.Presents env jti →
      (actionRun env start calls sched).result i = some (.ok true) →
      (actionRun env start calls sched).result j = some (.ok true) → i = j := by
  have hcalls : ∀ (i : ℕ) (call : ActionCall), calls[i]? = some call →
      (call.prog env).Yields (srvRules (tokenMay env (calls[i]?.bind ActionCall.consuming?))) []
        fun t acted => acted = true → call.consuming? = none ∨
          ∃ token, call.token? = some token ∧ Consumed env token t := by
    intro i call hcall
    rw [hcall]
    exact call.prog_yields
  obtain ⟨honce, hpost⟩ := ((jti_onceRules calls jti start.clockMs).invariant
    (clockFrom_invariant _ _ _)).run_calls hcalls
    ⟨⟨le_rfl, List.forall_mem_nil _⟩, List.forall_mem_nil _, .nil⟩ sched hlog
  -- A request that led to an action has an entry that consumes the identifier.
  have huse : ∀ {k : ℕ} {call : ActionCall}, calls[k]? = some call → call.Presents env jti →
      call.consuming? ≠ none → (actionRun env start calls sched).result k = some (.ok true) →
      ∃ e ∈ (actionRun env start calls sched).log, e.thread = k ∧ ConsumesJti env calls jti e := by
    intro k call hcall ⟨exp, huse⟩ hconsuming hres
    obtain ⟨token, htoken, now, jti', exp', s, n, huse', hs, hn⟩ :=
      (hpost k call true hcall hres rfl).resolve_left hconsuming
    rw [ActionCall.use, htoken] at huse
    cases huse.symm.trans huse'
    exact ⟨_, mem_threadTrace.1 hs, rfl, call, now, exp, n, hcall,
      by rw [ActionCall.use, htoken]; exact huse, rfl, hn⟩
  intro i j call call' hi hj hpi hpj hri hrj
  by_cases hci : call.consuming? = none
  · exact halone i j call call' hi hj hci hpi hpj
  by_cases hcj : call'.consuming? = none
  · exact (halone j i call' call hj hi hcj hpj hpi).symm
  obtain ⟨e, he, rfl, huse_i⟩ := huse hi hpi hci hri
  obtain ⟨e', he', rfl, huse_j⟩ := huse hj hpj hcj hrj
  rw [honce.eq he he' huse_i huse_j]

/-! ## A token that is not used up -/

/-- A hash that keeps the end of its input. -/
def tailHash (bytes : Bytes) : Bytes := (bytes.reverse ++ List.replicate 32 0).take 32

/-- No policy is bound, and every token is the sample agent's. -/
def tokenActionEnv : Env ℚ := { ungated (limitEnv twoCalls) with sha256 := tailHash }

/-- The request for a capability, under a nonce of its own. -/
def capabilityOnce (nonce : String) : ActionCall :=
  .egress "default" "agt_1" { capabilityRequest with
    agentAction := { capabilityRequest.agentAction with
      envelope := { capabilityRequest.agentAction.envelope with
        nonce := nonce, policyHash := expectedPolicyHash tokenActionEnv "egress" } } }

def capabilityTwice : SrvConfig ℚ AppError Bool :=
  actionRun tokenActionEnv limitWorld
    [capabilityOnce "nonce-0123456789", capabilityOnce "nonce-9876543210"]
    (List.replicate 20 (.step 0) ++ List.replicate 20 (.step 1))

/-- The token "t1" is presented for two capabilities, and both are issued. -/
theorem token_gives_two_capabilities :
    (capabilityOnce "nonce-0123456789").use tokenActionEnv = some ("t1", 100) ∧
      (capabilityOnce "nonce-9876543210").use tokenActionEnv = some ("t1", 100) ∧
      capabilityTwice.result 0 = some (.ok true) ∧ capabilityTwice.result 1 = some (.ok true) ∧
      capabilityTwice.world.db.capabilities.length = 2 := by
  decide +kernel

/-- The sample agent asks to prove an age with the token "t1". -/
def authorizeOnce (nonce : String) : ActionCall :=
  .token (.authorize "default" ⟨"agt_1", "prove_age", some "t1", some { sampleProof with
    envelope := { sampleProof.envelope with
      action := "prove_age", resource := "prove_age", ajwtJti := "t1", nonce := nonce } }⟩)

def authorizeTwice : SrvConfig ℚ AppError Bool :=
  actionRun tokenEnv (World.steady { Db.empty ℚ with agents := [bankAgent] } 1000)
    [authorizeOnce "nonce-0123456789", authorizeOnce "nonce-9876543210"]
    (List.replicate 20 (.step 0) ++ List.replicate 20 (.step 1))

theorem token_gives_one_authorization :
    authorizeTwice.result 0 = some (.ok true) ∧ authorizeTwice.result 1 ≠ some (.ok true) := by
  have hfirst : authorizeTwice.result 0 = some (.ok true) := by decide +kernel
  refine ⟨hfirst, fun hsecond => ?_⟩
  have halone : EgressAlone tokenEnv
      [authorizeOnce "nonce-0123456789", authorizeOnce "nonce-9876543210"] "t1" := by
    intro i j call call' hi _ hnone
    rcases List.mem_cons.1 (List.mem_of_getElem? hi) with rfl | hmem
    · cases hnone
    · cases List.mem_singleton.1 hmem
      cases hnone
  have hone := one_action_per_token tokenEnv _ _ _ "t1" halone (by decide +kernel) 0 1 _ _ rfl rfl
    ⟨100, by decide +kernel⟩ ⟨100, by decide +kernel⟩ hfirst hsecond
  cases hone

end SauronID.Egress
