import SauronID.Agent.CallSig
import SauronID.Lib.Once
import SauronID.Request.Authorize
import SauronID.Request.Payment
import SauronID.Request.Verify

/-!
# A token is used once

Runs of the routes that verify an agent token and consume its identifier, with rounds of
the garbage collection between them. A token is good up to and including its last second.
The row of its identifier may be deleted from the next second on, so a request that was
still in time when it verified the token, and reads the clock again a second later to
consume it, deletes the row that should stop it. `token_used_once` says that this is the
only way.
-/

namespace SauronID.Request

open Conc Text SauronID.Action Agent

variable {F : Type} [Float64 F] (env : Env F)

/-- A request that consumes a token, or a round of the garbage collection. -/
inductive TokenCall where
  | authorize (tenant : String) (body : PolicyAuthorizeBody)
  | payment (tenant : String) (body : AgentPaymentAuthorizeBody)
  | verify (tenant : String) (req : VerifyAjwtRequest)
  | gc

def TokenCall.token : TokenCall → Option String
  | authorize _ body => body.ajwt
  | payment _ body => some body.ajwt
  | verify _ req => some req.ajwt
  | gc => none

/-- The result of a request says whether it accepted the token and used it up. -/
def TokenCall.prog : TokenCall → Srv F AppError Bool
  | authorize tenant body => do
    let resp ← policyAuthorize env tenant body
    return resp.allowed
  | payment tenant body => do
    let _ ← agentPaymentAuthorize env tenant body
    return true
  | verify tenant req => do
    let resp ← agentVerify env tenant req
    return resp.valid && req.consumeJti
  | gc => do
    collect env
    return false

/-- The statement has consumed the identifier. -/
def consumes (jti : String) (e : LogEntry F) : Bool :=
  match e.label with
  | .write (.consumeJti now jti' exp) =>
      jti' == jti && (e.before.writeResult (.consumeJti now jti' exp)).isOk
  | _ => false

/-- Once the identifier of the token was consumed, the statement that consumes it is executed no
later than the token expires. -/
def reconsumedInTime (token : String) (e : LogEntry F) (older : RunLog F) : Bool :=
  match e.label with
  | .write (.consumeJti _ jti exp) => tokenUse env token != some (jti, exp) ||
      !older.any (consumes jti) || decide (e.before.nowSecs ≤ exp)
  | _ => true

/-- A request consumes the identifier of its own token; identifiers are deleted by a clock
that was read before. -/
def tokenMay (call : Option TokenCall) (t : History F) (w : Write F) (_ : World F) : Prop :=
  match w with
  | .consumeJti now jti exp => ReadsNow t now ∧
      ∃ token, call.bind TokenCall.token = some token ∧ tokenUse env token = some (jti, exp)
  | .pruneJtis now => ReadsNow t now
  | _ => True

variable {env}

omit [Float64 F] in
theorem tokenMay_unguarded (call : Option TokenCall) : Unguarded (tokenMay (F := F) env call) := by
  rintro t w s hfree
  cases w with
  | consumeJti _ _ _ | pruneJtis _ => cases hfree
  | _ => trivial

omit [Float64 F] in
theorem tokenMay_consume {call : Option TokenCall} {token : String}
    (h : call.bind TokenCall.token = some token) :
    MayConsume env (tokenMay (F := F) env call) token :=
  fun _ _ _ _ _ hnow huse => ⟨hnow, token, h, huse⟩

/-- A request that accepted its token has consumed the identifier. -/
theorem TokenCall.prog_yields {calls : List TokenCall} (i : ℕ) (call : TokenCall)
    (hcall : calls[i]? = some call) :
    (call.prog env).Yields (srvRules (tokenMay env calls[i]?)) [] fun t used =>
      used = true → ∃ token, call.token = some token ∧ Consumed env token t := by
  rw [hcall]
  cases call with
  | authorize tenant body =>
    refine (policyAuthorize_yields (tokenMay_unguarded _) fun token h => tokenMay_consume h).andThen
      fun t resp _ h => Prog.yields_pure h.2
  | payment tenant body =>
    refine (agentPaymentAuthorize_yields (tokenMay_unguarded _) (tokenMay_consume rfl)
      fun _ _ _ _ => trivial).andThen fun t resp _ h => Prog.yields_pure fun _ => ?_
    exact ⟨body.ajwt, rfl, h.2.1⟩
  | verify tenant req =>
    refine (agentVerify_yields (tokenMay_unguarded _) (tokenMay_consume rfl)).andThen
      fun t resp _ h => Prog.yields_pure fun hused => ?_
    obtain ⟨hvalid, hask⟩ := Bool.and_eq_true_iff.1 hused
    exact ⟨req.ajwt, rfl, h hvalid hask⟩
  | gc =>
    refine (collect_yields fun t w s hw => ?_).andThen fun t _ _ _ => Prog.yields_pure nofun
    cases w with
    | pruneJtis now => exact hw
    | consumeJti _ _ _ => cases hw
    | _ => trivial

variable {s : World F} {jti : String} {exp : ℤ}

/-- The identifiers that stay: those that have not expired when the clock was read. -/
theorem usedJtis_of_effect {lbl : Label F} {s' : World F} (heff : lbl.Effect s s')
    (hmem : (jti, exp) ∈ s.db.usedJtis)
    (hconsume : ∀ now jti' exp', lbl = .write (.consumeJti now jti' exp') → now ≤ exp)
    (hprune : ∀ now, lbl = .write (.pruneJtis now) → now ≤ exp) : (jti, exp) ∈ s'.db.usedJtis := by
  obtain ⟨t, ht, hsame⟩ | ⟨w, db, n, rfl, htable, happly, -, hdb⟩ := heff.onTable .usedJtis nofun
  · rwa [hsame.usedJtis ht]
  rw [hdb]
  cases w with
  | consumeJti now jti' exp' =>
    have hkept := hconsume now jti' exp' rfl
    simp only [Write.apply] at happly
    split at happly <;> cases happly
    simp [hmem, hkept]
  | pruneJtis now =>
    cases happly
    have hkept := hprune now rfl
    simp [hmem, hkept]
  | _ => cases htable

/-- An identifier that is consumed was not among those that stay, and is stored. -/
theorem consumeJti_ok {now : ℤ} {n : ℕ} (h : s.writeResult (.consumeJti now jti exp) = .ok n) :
    (∀ exp', now ≤ exp' → (jti, exp') ∉ s.db.usedJtis) ∧
      (jti, exp) ∈ (s.afterWrite (.consumeJti now jti exp)).db.usedJtis := by
  rcases World.afterWrite_cases s (.consumeJti now jti exp) with
    ⟨e, herr, -⟩ | ⟨db, m, -, happly, -, hdb⟩
  · cases herr.symm.trans h
  simp only [Write.apply] at happly
  split at happly
  · cases happly
  · next hnew =>
    cases happly
    refine ⟨fun exp' hkept hmem => hnew (List.any_eq_true.2 ⟨(jti, exp'), ?_, by simp⟩), ?_⟩
    · simp [hmem, hkept]
    · rw [hdb]
      exact List.mem_append_right _ (.head _)

/-! ## Runs -/

section Runs

variable (calls : List TokenCall) (token : String)

variable (env) in
/-- A request that presents the token consumes its identifier. -/
def ConsumesToken (e : LogEntry F) : Prop :=
  calls[e.thread]?.bind TokenCall.token = some token ∧
    ∃ now jti exp n, tokenUse env token = some (jti, exp) ∧
      e.label = .write (.consumeJti now jti exp) ∧
      e.before.writeResult (.consumeJti now jti exp) = .ok n

variable (env) in
/-- The token has not expired. -/
def TokenLive (s : World F) : Prop :=
  ∀ jti exp, tokenUse env token = some (jti, exp) → s.nowSecs ≤ exp

variable (env) in
/-- The identifier of the token is stored. -/
def TokenStored (s : World F) : Prop :=
  ∀ jti exp, tokenUse env token = some (jti, exp) → (jti, exp) ∈ s.db.usedJtis

theorem token_onceRules (lo : ℤ) : OnceRules (fun i => srvRules (tokenMay env calls[i]?))
      (fun e older => reconsumedInTime env token e older = true) (ClockFrom lo)
      (ConsumesToken env calls token) (TokenLive env token) (TokenStored env token) where
  live_of_tick {s} d h jti exp huse := (World.nowSecs_le_advance s d).trans (h jti exp huse)
  tick_stored d h := h
  live_of_step heff h jti exp huse :=
    (World.nowSecs_mono (Label.Effect.clockMs_eq heff).ge).trans (h jti exp huse)
  step_stored := by
    rintro s log i lbl s' hJ heff hmay hlive hmem jti exp huse
    refine usedJtis_of_effect heff (hmem jti exp huse) ?_ ?_
    · rintro now jti' exp' rfl
      exact (hJ.readsNow_le hmay.1).trans (hlive jti exp huse)
    · rintro now rfl
      exact (hJ.readsNow_le hmay).trans (hlive jti exp huse)
  uses_stored := by
    rintro i lbl s s' heff ⟨-, now, jti', exp', n, huse', rfl, hn⟩ jti exp huse
    cases huse.symm.trans huse'
    cases heff
    exact (consumeJti_ok hn).2
  uses_live := by
    rintro s log i lbl hJ htime hmay ⟨-, now, jti, exp, n, huse, rfl, hn⟩
      ⟨e, he, -, now', jti', exp', n', huse', hlabel, hn'⟩ jti'' exp'' huse''
    cases huse.symm.trans huse'
    cases huse.symm.trans huse''
    have hused : log.any (consumes jti) = true :=
      List.any_eq_true.2 ⟨e, he, by simp [consumes, hlabel, hn', Except.isOk, Except.toBool]⟩
    simpa [reconsumedInTime, huse, hused] using htime
  uses_fresh := by
    rintro s log i lbl hJ hmay hlive ⟨-, now, jti, exp, n, huse, rfl, hn⟩ hstored
    have hkept := (hJ.readsNow_le hmay.1).trans (hlive jti exp huse)
    exact (consumeJti_ok hn).1 exp hkept (hstored jti exp huse)

end Runs

variable (env) in
/-- The calls run together from `start`. -/
def tokenRun (start : World F) (calls : List TokenCall) (sched : List Event) :
    SrvConfig F AppError Bool :=
  (Config.init start (calls.map (TokenCall.prog env))).run sched

variable (env) in
/-- **Single use of tokens.** If the identifier of a token that was consumed is not consumed
again after the token expires, the token is consumed at most once, and accepted by at most one
request. -/
theorem token_used_once (start : World F) (calls : List TokenCall) (sched : List Event)
    (token : String) (hlog : LogOk (fun e older => reconsumedInTime env token e older = true)
      (tokenRun env start calls sched).log) :
    ((tokenRun env start calls sched).log.Pairwise fun e e' =>
        ¬(ConsumesToken env calls token e ∧ ConsumesToken env calls token e')) ∧
      ∀ i j, calls[i]?.bind TokenCall.token = some token →
        calls[j]?.bind TokenCall.token = some token →
        (tokenRun env start calls sched).result i = some (.ok true) →
        (tokenRun env start calls sched).result j = some (.ok true) → i = j := by
  obtain ⟨honce, hpost⟩ := ((token_onceRules calls token start.clockMs).invariant
    (clockFrom_invariant _ _ _)).run_calls (@TokenCall.prog_yields _ _ env calls)
    ⟨⟨le_rfl, List.forall_mem_nil _⟩, List.forall_mem_nil _, .nil⟩ sched hlog
  -- A request that accepted the token has an entry that consumes it.
  have huse : ∀ {k}, calls[k]?.bind TokenCall.token = some token →
      (tokenRun env start calls sched).result k = some (.ok true) →
      ∃ e ∈ (tokenRun env start calls sched).log,
        e.thread = k ∧ ConsumesToken env calls token e := by
    intro k hk hresult
    obtain ⟨call, hcall, htoken⟩ := Option.bind_eq_some_iff.1 hk
    obtain ⟨token', htoken', now, jti, exp, s, n, huse, hs, hn⟩ :=
      hpost k call true hcall hresult rfl
    cases htoken.symm.trans htoken'
    exact ⟨_, mem_threadTrace.1 hs, rfl, hk, now, jti, exp, n, huse, rfl, hn⟩
  refine ⟨honce.2.2, fun i j hi hj hri hrj => ?_⟩
  obtain ⟨e, he, rfl, huse_i⟩ := huse hi hri
  obtain ⟨e', he', rfl, huse_j⟩ := huse hj hrj
  rw [honce.eq he he' huse_i huse_j]

/-! ## The last second of a token -/

/-- The token "t", which is good until second 100, is verified and consumed. -/
def verifyOnce : TokenCall := .verify "default" ⟨"t", true, "", ""⟩

/-- Two requests for the one token, at second 99. -/
def verifyTwice (sched : List Event) : SrvConfig ℚ AppError Bool :=
  tokenRun tokenEnv (sampleWorld 99500) [verifyOnce, verifyOnce] sched

/-- The second request verifies the token at second 100 and consumes it at second 101. -/
def verifyAtExpiry : List Event :=
  List.replicate 6 (.step 0) ++ [.tick 1400, .step 1, .tick 200] ++ List.replicate 6 (.step 1)

/-- Both requests accept the token. -/
theorem token_used_twice :
    (verifyTwice verifyAtExpiry).result 0 = some (.ok true) ∧
      (verifyTwice verifyAtExpiry).result 1 = some (.ok true) := by
  decide +kernel

/-- The second request follows within the lifetime of the token. -/
def verifyInTime : List Event := List.replicate 6 (.step 0) ++ List.replicate 6 (.step 1)

theorem token_refused_second :
    (verifyTwice verifyInTime).result 0 = some (.ok true) ∧
      (verifyTwice verifyInTime).result 1 ≠ some (.ok true) := by
  have hfirst : (verifyTwice verifyInTime).result 0 = some (.ok true) := by decide +kernel
  refine ⟨hfirst, fun hsecond => ?_⟩
  have hone := (token_used_once tokenEnv (sampleWorld 99500) [verifyOnce, verifyOnce] verifyInTime
    "t" (by decide +kernel)).2 0 1 rfl rfl hfirst hsecond
  cases hone

end SauronID.Request
