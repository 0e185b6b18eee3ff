import SauronID.Agent.CallSig
import SauronID.Lib.Once

/-!
# A signed call is accepted once

Runs of signed calls and DPoP requests with rounds of the garbage collection between
them. The row of a nonce expires a minute after the last second at which the timestamp of
the call can still be within the skew of the clock, so that whoever presents the call
again in time finds the row: `call_accepted_once`.
-/

namespace SauronID.Agent

open Conc Text SauronID.Action

variable {F : Type} [Float64 F] (env : Env F)

/-- A request with a signature or a proof, or a round of the garbage collection. -/
inductive SignedCall where
  | request (req : CallRequest)
  | gc

def SignedCall.prog : SignedCall → Srv F AppError Unit
  | request req => do let _ ← tryVerifyCallSig env req
  | gc => collect env

/-- What the call presents for single use. -/
def SignedCall.presents : SignedCall → Option (String × String × ℤ)
  | request req => presented env req
  | gc => none

/-- The clock is read in milliseconds only to check a timestamp against it. -/
def isSkewCheck : Label F → Bool
  | .clockMs => true
  | _ => false

/-- A nonce is inserted within 58 seconds of the request's check of the clock. -/
def insertsSoon (e : LogEntry F) (older : RunLog F) : Bool :=
  match e.label with
  | .write (.insertCallNonce _) => older.all fun e' =>
      e'.thread != e.thread || !isSkewCheck e'.label ||
        decide (e.before.clockMs ≤ e'.before.clockMs + 58000)
  | _ => true

/-- A request inserts the row of its own nonce, in time; the garbage collection deletes
what had expired when it read the clock. -/
def callMay (call : Option SignedCall) (t : History F) (w : Write F) (_ : World F) : Prop :=
  match w with
  | .insertCallNonce row => ∃ req, call = some (.request req) ∧ Timely env req t row
  | .pruneCallNonces now => ReadsNow t now
  | w => w.table ≠ .callNonces

variable {env}

/-- A call that succeeds has inserted the row of its nonce. -/
theorem SignedCall.prog_yields {calls : List SignedCall} (i : ℕ) (call : SignedCall)
    (hcall : calls[i]? = some call) :
    (call.prog env).Yields (srvRules (callMay env calls[i]?)) [] fun t _ =>
      ∀ agentId nonce ts, call.presents env = some (agentId, nonce, ts) →
        Inserted t ⟨agentId, nonce, nonceExp env ts⟩ := by
  rw [hcall]
  cases call with
  | request req =>
    refine (tryVerifyCallSig_yields fun t row s htimely => ⟨req, rfl, htimely⟩).andThen
      fun t _ _ h => Prog.yields_pure ?_
    rintro agentId nonce ts (hpresents : presented env req = _)
    obtain ⟨-, row, ⟨ts', s, hrow, hexp, -⟩, hins⟩ := h
    cases hrow.symm.trans hpresents
    rwa [← hexp]
  | gc =>
    refine (collect_yields fun t w s hw => ?_).mono fun t _ _ => nofun
    cases w with
    | pruneCallNonces now => exact hw
    | pruneJtis _ | prunePopChallenges _ | pruneRisk _ => exact nofun
    | _ => cases hw

omit [Float64 F] in
/-- The row of a nonce outlives the skew: a timestamp that was within the skew less than a
minute ago has a row that has not expired. -/
theorem le_nonceExp {nowMs clockMs ts : ℤ} (hts : |ts| < 2 ^ 62) (hnow : 0 ≤ nowMs)
    (hnow' : nowMs < 2 ^ 62) (hskew : withinSkew env nowMs (satI64 ts))
    (hclock : clockMs ≤ nowMs + 58000) : clockMs / 1000 ≤ nonceExp env ts := by
  obtain ⟨hlo, hhi⟩ := abs_lt.1 hts
  have hsat : satI64 ts = ts := satI64_of_lt (by omega) (by omega)
  have hdiff : wrapI64 (nowMs - ts) = nowMs - ts := wrapI64_of_lt (by omega) (by omega)
  have hbound : |nowMs - ts| < 2 ^ 63 := abs_lt.2 ⟨by omega, by omega⟩
  have habs : wrapI64 |nowMs - ts| = |nowMs - ts| :=
    wrapI64_of_lt ((by decide : (-2 ^ 63 : ℤ) ≤ 0).trans (abs_nonneg _)) hbound
  rw [withinSkew, hsat, hdiff, habs] at hskew
  have hle : nowMs - ts ≤ env.callSigSkewMs := (le_abs_self _).trans hskew
  have hq := ediv_le_tdiv ts (b := 1000) (by decide)
  have hq' := ediv_le_tdiv env.callSigSkewMs (b := 1000) (by decide)
  unfold nonceExp
  omega

/-- What a statement does to the nonces: insertions add their row if the nonce is new,
the garbage collection deletes expired rows. -/
theorem callNonces_of_effect {lbl : Label F} {s s' : World F} (heff : lbl.Effect s s')
    {r : CallNonceRow} (hr : r ∈ s.db.callNonces)
    (hlive : ∀ now, lbl = .write (.pruneCallNonces now) → now ≤ r.exp) : r ∈ s'.db.callNonces := by
  obtain ⟨t, ht, hsame⟩ | ⟨w, db, n, rfl, htable, happly, -, hdb⟩ :=
    heff.onTable .callNonces nofun
  · rwa [hsame.callNonces ht]
  rw [hdb]
  cases w with
  | insertCallNonce row =>
    simp only [Write.apply] at happly
    split at happly <;> cases happly
    exact List.mem_append_left _ hr
  | pruneCallNonces now =>
    cases happly
    have hkept := hlive now rfl
    simpa [hr] using hkept
  | _ => cases htable

/-! ## Runs -/

section Runs

variable (calls : List SignedCall) (agentId nonce : String) (ts : ℤ)

variable (env) in
/-- A call that presents the nonce inserts its row. -/
def UsesNonce (e : LogEntry F) : Prop :=
  (calls[e.thread]?.bind (SignedCall.presents env)) = some (agentId, nonce, ts) ∧
    e.label = .write (.insertCallNonce ⟨agentId, nonce, nonceExp env ts⟩) ∧
    ∃ n, e.before.writeResult (.insertCallNonce ⟨agentId, nonce, nonceExp env ts⟩) = .ok n

/-- An insertion that succeeds finds no row of the nonce and leaves one. -/
theorem insertCallNonce_ok {row : CallNonceRow} {s : World F} {n : ℕ}
    (h : s.writeResult (.insertCallNonce row) = .ok n) :
    row ∉ s.db.callNonces ∧ row ∈ (s.afterWrite (.insertCallNonce row)).db.callNonces := by
  rcases World.afterWrite_cases s (.insertCallNonce row) with
    ⟨e, herr, -⟩ | ⟨db, m, -, happly, -, hdb⟩
  · cases herr.symm.trans h
  simp only [Write.apply] at happly
  split at happly
  · cases happly
  · next hnew =>
    cases happly
    refine ⟨fun hmem => hnew (List.any_eq_true.2 ⟨row, hmem, by simp⟩), ?_⟩
    rw [hdb]
    exact List.mem_append_right _ (.head _)

theorem nonce_onceRules (hts : |ts| < 2 ^ 62) :
    OnceRules (fun i => srvRules (callMay env calls[i]?))
      (fun e older => insertsSoon e older = true ∧ e.before.clockMs < 2 ^ 62) (ClockFrom 0)
      (UsesNonce env calls agentId nonce ts) (fun s => s.nowSecs ≤ nonceExp env ts)
      (fun s => ⟨agentId, nonce, nonceExp env ts⟩ ∈ s.db.callNonces) where
  live_of_tick {s} d h := (World.nowSecs_le_advance s d).trans h
  tick_stored d h := h
  live_of_step heff h := (World.nowSecs_mono (Label.Effect.clockMs_eq heff).ge).trans h
  step_stored := by
    rintro s log i lbl s' hJ heff hmay hlive hr
    refine callNonces_of_effect heff hr ?_
    rintro now rfl
    exact (hJ.readsNow_le hmay).trans hlive
  uses_stored := by
    rintro i lbl s s' heff ⟨-, rfl, n, hn⟩
    cases heff
    exact (insertCallNonce_ok hn).2
  uses_live := by
    rintro s log i lbl hJ ⟨hsoon, hclock⟩ hmay ⟨hcall, rfl, -⟩ -
    obtain ⟨req, hreq, ts', s₀, hpresented, -, hs₀, hskew⟩ := hmay
    rw [hreq] at hcall
    cases hpresented.symm.trans hcall
    have hentry := mem_threadTrace.1 hs₀
    simp only [insertsSoon, List.all_eq_true] at hsoon
    have hwithin : s.clockMs ≤ s₀.clockMs + 58000 := by
      simpa [isSkewCheck] using hsoon _ hentry
    obtain ⟨hlo, hhi⟩ := hJ.2 _ hentry
    exact le_nonceExp hts hlo (hhi.trans_lt hclock) hskew hwithin
  uses_fresh := by
    rintro s log i lbl - - - ⟨-, rfl, n, hn⟩
    exact (insertCallNonce_ok hn).1

end Runs

variable (env) in
/-- The calls run together from `start`. -/
def signedRun (start : World F) (calls : List SignedCall) (sched : List Event) :
    SrvConfig F AppError Unit :=
  (Config.init start (calls.map (SignedCall.prog env))).run sched

variable (env) in
/-- The `i`-th call presents the key and was accepted. -/
def Accepted (calls : List SignedCall) (c : SrvConfig F AppError Unit)
    (key : String × String × ℤ) (i : ℕ) : Prop :=
  calls[i]?.bind (SignedCall.presents env) = some key ∧ c.result i = some (.ok ())

variable (env) in
/-- **Single use of signed calls.** If no request takes more than 58 seconds from its check
of the clock to the insertion of its nonce, the nonce of one signed call, or the identifier
of one proof, is accepted at most once. The clock stays where the difference of clock and
timestamp does not overflow. -/
theorem call_accepted_once (start : World F) (calls : List SignedCall) (sched : List Event)
    (hstart : 0 ≤ start.clockMs) (hend : (signedRun env start calls sched).world.clockMs < 2 ^ 62)
    (hlog : LogOk (fun e older => insertsSoon e older = true) (signedRun env start calls sched).log)
    {agentId nonce : String} {ts : ℤ} (hts : |ts| < 2 ^ 62) {i j : ℕ}
    (hi : Accepted env calls (signedRun env start calls sched) (agentId, nonce, ts) i)
    (hj : Accepted env calls (signedRun env start calls sched) (agentId, nonce, ts) j) :
    i = j := by
  have hcalls := @SignedCall.prog_yields _ _ env calls
  have hclock := (clockFrom_invariant 0 (fun i => callMay env calls[i]?) _).run_calls hcalls
    ⟨hstart, List.forall_mem_nil _⟩ sched hlog
  have hlog' := hlog.and_forall fun e he => ((hclock.1.2 e he).2.trans_lt hend)
  obtain ⟨honce, hpost⟩ := ((nonce_onceRules calls agentId nonce ts hts).invariant
    (clockFrom_invariant 0 _ _)).run_calls hcalls
    ⟨⟨hstart, List.forall_mem_nil _⟩, List.forall_mem_nil _, .nil⟩ sched hlog'
  -- Each of the two has an entry in the log that inserts the row of the nonce.
  have huse : ∀ {k}, Accepted env calls (signedRun env start calls sched) (agentId, nonce, ts) k →
      ∃ s, ⟨k, .write (.insertCallNonce ⟨agentId, nonce, nonceExp env ts⟩), s⟩ ∈
          (signedRun env start calls sched).log ∧
        UsesNonce env calls agentId nonce ts
          ⟨k, .write (.insertCallNonce ⟨agentId, nonce, nonceExp env ts⟩), s⟩ := by
    rintro k ⟨hpresents, hresult⟩
    obtain ⟨call, hcall, hkey⟩ := Option.bind_eq_some_iff.1 hpresents
    obtain ⟨s, n, hs, hn⟩ := hpost k call () hcall hresult _ _ _ hkey
    exact ⟨s, mem_threadTrace.1 hs, hpresents, rfl, n, hn⟩
  obtain ⟨s, hs, huse_i⟩ := huse hi
  obtain ⟨s', hs', huse_j⟩ := huse hj
  exact congrArg Entry.thread (honce.eq hs hs' huse_i huse_j)

/-! ## A call that is sent twice -/

/-- An agent with a key it proves possession of. -/
def callAgent : AgentRow :=
  { sampleAgent with popPublicKeyB64u := String.ofList (List.replicate 32 'k') }

/-- A call signed at second 5. -/
def sampleCall : CallRequest where
  tenantId := "default"
  method := "POST"
  path := "/"
  pathAndQuery := none
  headers := [("x-sauron-agent-id", some "agt_1"), ("x-sauron-call-ts", some "5000"),
    ("x-sauron-call-nonce", some "n"),
    ("x-sauron-call-sig", some (String.ofList (List.replicate 64 's'))),
    ("x-sauron-protocol-version", some "2"), ("x-sauron-call-audience", some "sauron-core"),
    ("x-sauron-agent-config-digest", some "checksum")]
  body := []

/-- The call is sent, the garbage collection runs, and the call is sent again. -/
def callTwice (sched : List Event) : SrvConfig ℚ AppError Unit :=
  signedRun (sampleEnv ℚ) (World.steady { Db.empty ℚ with agents := [callAgent] } 5000)
    [.request sampleCall, .request sampleCall, .gc] sched

def sentTwice : List Event :=
  List.replicate 5 (.step 0) ++ [.tick 50000] ++ List.replicate 5 (.step 2) ++
    List.replicate 5 (.step 1)

theorem call_sent_twice :
    (callTwice sentTwice).result 0 = some (.ok ()) ∧
      (callTwice sentTwice).result 1 ≠ some (.ok ()) := by
  have hfirst : (callTwice sentTwice).result 0 = some (.ok ()) := by decide +kernel
  refine ⟨hfirst, fun hsecond => ?_⟩
  have hkey : presented (sampleEnv ℚ) sampleCall = some ("agt_1", "n", 5000) := by decide +kernel
  have := call_accepted_once (sampleEnv ℚ) _ [.request sampleCall, .request sampleCall, .gc]
    sentTwice (by decide) (by decide +kernel) (by decide +kernel) (by decide) (i := 0) (j := 1)
    ⟨hkey, hfirst⟩ ⟨hkey, hsecond⟩
  exact absurd this (by decide)

end SauronID.Agent
