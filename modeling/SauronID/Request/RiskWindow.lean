import Mathlib.Data.Set.Function
import SauronID.Admin.Tenancy
import SauronID.Agent.CallSig
import SauronID.Request.Support

/-!
# The limit of a rate window

Calls of `check_and_increment` and rounds of the garbage collection run side by side on one
table of counters. Both delete old windows, and the collection reads the length of a window
on its own: it does not trim the variable. Where its windows are not shorter than those of the
calls and no call comes 120 windows late, a window is deleted only when no call can be in it any
more, and a call succeeds exactly if fewer than its limit were counted before it in its window
(`risk_window_limit`), all of them calls of its own tenant.
-/

namespace SauronID.Request

open Admin Conc Text

variable {F : Type}

/-! ## Counters -/

/-- The row of a bucket and a window. -/
def isCounter (bucket : String) (window : ℤ) (c : String × ℤ × ℤ) : Bool :=
  c.1 == bucket && c.2.1 == window

theorem isCounter_iff {bucket : String} {window : ℤ} {c : String × ℤ × ℤ} :
    isCounter bucket window c = true ↔ c.1 = bucket ∧ c.2.1 = window := by
  simp [isCounter]

/-- The count of a bucket in a window. -/
def counter (db : Db F) (bucket : String) (window : ℤ) : ℤ :=
  ((db.riskCounters.find? (isCounter bucket window)).map fun c => c.2.2).getD 0

/-- The row with one call more. -/
def bumped (bucket : String) (window : ℤ) (c : String × ℤ × ℤ) : String × ℤ × ℤ :=
  if isCounter bucket window c then (c.1, c.2.1, c.2.2 + 1) else c

theorem isCounter_bumped (bucket b : String) (window w : ℤ) (c : String × ℤ × ℤ) :
    isCounter b w (bumped bucket window c) = isCounter b w c := by
  unfold bumped
  split <;> rfl

theorem bumpRisk_apply [Float64 F] (db : Db F) (bucket : String) (window : ℤ) :
    (Write.bumpRisk bucket window : Write F).apply db =
      match db.riskCounters.find? (isCounter bucket window) with
      | some c => .ok ({ db with riskCounters := db.riskCounters.map (bumped bucket window) },
          (c.2.2 + 1).toNat)
      | none => .ok ({ db with riskCounters := db.riskCounters ++ [(bucket, window, 1)] }, 1) :=
  rfl

/-- `INSERT … ON CONFLICT DO UPDATE SET cnt = cnt + 1` counts one call in its own window. -/
theorem bumpRisk_spec [Float64 F] (db : Db F) (bucket : String) (window : ℤ) :
    ∃ db', (Write.bumpRisk bucket window : Write F).apply db =
        .ok (db', (counter db bucket window + 1).toNat) ∧
      ∀ b w, counter db' b w = counter db b w + if bucket = b ∧ window = w then 1 else 0 := by
  cases hfind : db.riskCounters.find? (isCounter bucket window) with
  | none =>
    refine ⟨{ db with riskCounters := db.riskCounters ++ [(bucket, window, 1)] }, ?_, fun b w => ?_⟩
    · rw [bumpRisk_apply, counter, hfind]
      rfl
    · by_cases h : bucket = b ∧ window = w
      · obtain ⟨rfl, rfl⟩ := h
        simp [counter, hfind, isCounter]
      · have hnew : isCounter b w (bucket, window, 1) = false := by
          rwa [Bool.eq_false_iff, ne_eq, isCounter_iff]
        cases hb : db.riskCounters.find? (isCounter b w) <;> simp [counter, h, hb, hnew]
  | some c =>
    refine ⟨{ db with riskCounters := db.riskCounters.map (bumped bucket window) }, ?_,
      fun b w => ?_⟩
    · rw [bumpRisk_apply, counter, hfind]
      rfl
    · have hcomp : isCounter b w ∘ bumped bucket window = isCounter b w :=
        funext (isCounter_bumped bucket b window w)
      simp only [counter, List.find?_map, hcomp, Option.map_map]
      cases hb : db.riskCounters.find? (isCounter b w) with
      | none =>
        have hne : ¬(bucket = b ∧ window = w) := by
          rintro ⟨rfl, rfl⟩
          rw [hfind] at hb
          exact absurd hb (Option.some_ne_none c)
        simp [hne]
      | some c' =>
        obtain ⟨rfl, rfl⟩ := isCounter_iff.1 (List.find?_some hb)
        by_cases h : bucket = c'.1 ∧ window = c'.2.1
        · obtain ⟨rfl, rfl⟩ := h
          simp [bumped, isCounter]
        · have h' : isCounter bucket window c' = false := by
            rw [Bool.eq_false_iff, ne_eq, isCounter_iff]
            exact fun h' => h ⟨h'.1.symm, h'.2.symm⟩
          simp [bumped, h, h']

/-- `DELETE … WHERE window_id < ?` leaves the later windows. -/
theorem pruneRisk_spec [Float64 F] (db : Db F) (oldest : ℤ) :
    ∃ db', (Write.pruneRisk oldest : Write F).apply db = .ok (db', 0) ∧
      ∀ b w, oldest ≤ w → counter db' b w = counter db b w := by
  refine ⟨_, rfl, fun b w hw => ?_⟩
  have hkeep : (fun c : String × ℤ × ℤ => decide ((!decide (c.2.1 < oldest)) = true ∧
      isCounter b w c = true)) = isCounter b w := by
    funext c
    by_cases h : c.2.1 = w
    · simp [h, not_lt.2 hw]
    · simp [isCounter, h]
  simp only [counter, List.find?_filter, hkeep]

/-! ## Calls and rounds of the collection -/

/-- The limits of `risk.rs`. -/
inductive RiskKind where
  | kycRetrieve
  | paymentAuthorize
  | agentVcIssue
  | agentRegister
  | agentVerify
  | egressCapability
  deriving DecidableEq

/-- What the hashed material of a limit starts with. -/
def RiskKind.name : RiskKind → String
  | .kycRetrieve => "kyc_retrieve"
  | .paymentAuthorize => "payment_authorize"
  | .agentVcIssue => "agent_vc_issue"
  | .agentRegister => "agent_register"
  | .agentVerify => "agent_verify"
  | .egressCapability => "egress_capability"

/-- A call of `check_and_increment` with the bucket of one of the limits. -/
structure RiskCall where
  kind : RiskKind
  tenant : String
  /-- What follows the tenant: an agent, a person, or a site and a person. -/
  parts : List String
  now : ℤ
  limit : ℤ

inductive RiskJob where
  | call (c : RiskCall)
  | collect

section Jobs

variable [Float64 F] (env : Env F)

/-- The material that is hashed. -/
def RiskCall.material (c : RiskCall) : Bytes :=
  utf8 c.kind.name ++ (c.tenant :: c.parts).flatMap fun p => utf8 "|" ++ utf8 p

def RiskCall.bucket (c : RiskCall) : String := hashBucket env c.kind.name (c.tenant :: c.parts)

def RiskCall.window (c : RiskCall) : ℤ := c.now.tdiv env.riskWindowSecs

/-- The statement that counts the call. -/
def RiskCall.bump (c : RiskCall) : Write F := .bumpRisk (c.bucket env) (c.window env)

def RiskJob.prog : RiskJob → Srv F String Unit
  | .call c => checkAndIncrement env (c.bucket env) c.now c.limit
  | .collect => Agent.collect env

variable (jobs : List RiskJob)

def callOf (i : ℕ) : Option RiskCall :=
  match jobs[i]? with
  | some (.call c) => some c
  | _ => none

/-- The second the call was made with that a statement counts. -/
def callTime (e : LogEntry F) : Option ℤ :=
  match e.label with
  | .write (.bumpRisk _ _) => (callOf jobs e.thread).map RiskCall.now
  | _ => none

/-- The time of a statement: that of the call it counts, or the one that the collection read. -/
def timeOf (e : LogEntry F) : Option ℤ :=
  match e.label with
  | .clock => some e.before.nowSecs
  | _ => callTime jobs e

/-- No call is counted more than 120 windows behind the time of an earlier statement. -/
def NotFarBehind (e : LogEntry F) (older : RunLog F) : Prop :=
  ∀ time ∈ callTime jobs e, ∀ e' ∈ older, ∀ time' ∈ timeOf jobs e',
    time'.tdiv env.riskWindowSecs ≤ time.tdiv env.riskWindowSecs + 120

/-- The statement has counted a call in the bucket and the window. -/
def counted (bucket : String) (window : ℤ) (e : LogEntry F) : Bool :=
  match e.label with
  | .write (.bumpRisk b w) => b == bucket && w == window && e.before.fault.isNone
  | _ => false

/-- The statement has counted a call of the tenant in the bucket and the window of `c`. -/
def countedFor (c : RiskCall) (e : LogEntry F) : Bool :=
  counted (c.bucket env) (c.window env) e &&
    (callOf jobs e.thread).any fun c' => c'.tenant == c.tenant

/-- The statements of a job: a call counts itself and deletes what is far behind it, the
collection deletes what is far behind the clock it read. -/
def riskMay (i : ℕ) (t : History F) (w : Write F) (_ : World F) : Prop :=
  match w with
  | .bumpRisk b w => ∃ c, callOf jobs i = some c ∧ b = c.bucket env ∧ w = c.window env
  | .pruneRisk oldest =>
      (∃ c s, callOf jobs i = some c ∧ (.write (c.bump env), s) ∈ t ∧
        oldest = c.window env - 120) ∨
      ∃ now, ReadsNow t now ∧ oldest = satI64 (now.tdiv env.gcWindowSecs - 120)
  | .pruneJtis _ | .prunePopChallenges _ | .pruneCallNonces _ => True
  | _ => False

/-- Every counter is the number of calls counted in its window, or the window is far behind
the clock. -/
def Counting (s : World F) (log : RunLog F) : Prop :=
  ∀ b w, counter s.db b w = log.countP (counted b w) ∨
    ∃ e ∈ log, ∃ time ∈ timeOf jobs e, w + 120 < time.tdiv env.riskWindowSecs

end Jobs

section Windows

variable {env : Env F} {jobs : List RiskJob}

/-! ## The windows in use -/

variable {i : ℕ} {c : RiskCall}

theorem callOf_eq (h : jobs[i]? = some (.call c)) : callOf jobs i = some c := by
  rw [callOf, h]

theorem mem_of_callOf (h : callOf jobs i = some c) : .call c ∈ jobs := by
  unfold callOf at h
  split at h
  · next c' hc' => exact List.mem_of_getElem? (Option.some.inj h ▸ hc')
  · cases h

theorem riskWindowSecs_pos : 0 < env.riskWindowSecs := by
  unfold Env.riskWindowSecs clampWindow
  omega

theorem bucket_short (c : RiskCall) : ¬128 < (c.bucket env).utf8ByteSize := by
  rw [RiskCall.bucket, hashBucket, utf8ByteSize_hexEncode]
  have hle := List.length_take_le 24 (env.sha256 (utf8 c.kind.name ++
    (c.tenant :: c.parts).flatMap fun p => utf8 "|" ++ utf8 p))
  omega

variable {s : World F} {log : RunLog F}

/-- A statement that changes the counters as it counts keeps the correspondence. -/
theorem Counting.of_counter_eq {s' : World F} {e : LogEntry F} (h : Counting env jobs s log)
    (hcounter : ∀ b w, counter s'.db b w = counter s.db b w + if counted b w e then 1 else 0) :
    Counting env jobs s' (e :: log) := by
  intro b w
  rcases h b w with heq | ⟨e', he', htime⟩
  · left
    rw [hcounter, heq, List.countP_cons]
    split <;> simp
  · exact .inr ⟨e', .tail _ he', htime⟩

/-- A window is deleted only when it is far behind the time of a statement before. -/
theorem behind_of_pruned (hwindow : env.riskWindowSecs ≤ env.gcWindowSecs)
    (hclock : ClockFrom 0 s log) {oldest : ℤ}
    (hmay : riskMay env jobs i (threadTrace i log) (.pruneRisk oldest) s) :
    ∃ e ∈ log, ∃ time ∈ timeOf jobs e, oldest + 120 ≤ time.tdiv env.riskWindowSecs := by
  obtain ⟨c, s₀, hc, hmem, rfl⟩ | ⟨now, ⟨s₀, hmem, rfl⟩, rfl⟩ := hmay
  · refine ⟨_, mem_threadTrace.1 hmem, c.now, by simp [timeOf, callTime, RiskCall.bump, hc], ?_⟩
    rw [RiskCall.window]
    omega
  · have he := mem_threadTrace.1 hmem
    refine ⟨_, he, s₀.nowSecs, rfl, ?_⟩
    have hnow : 0 ≤ s₀.nowSecs := Int.ediv_nonneg (hclock.2 _ he).1 (by decide)
    have hpos : 0 < env.gcWindowSecs := riskWindowSecs_pos.trans_le hwindow
    rw [Int.tdiv_eq_ediv_of_nonneg hnow, Int.tdiv_eq_ediv_of_nonneg hnow]
    have hnonneg := Int.ediv_nonneg hnow hpos.le
    have hle : s₀.nowSecs / env.gcWindowSecs ≤ s₀.nowSecs / env.riskWindowSecs :=
      Int.le_ediv_of_mul_le riskWindowSecs_pos
        ((Int.mul_le_mul_of_nonneg_left hwindow hnonneg).trans (Int.ediv_mul_le _ hpos.ne'))
    unfold satI64
    omega

/-- A call that may be counted in a window is not behind it, so its counter is still there. -/
theorem counter_of_counting {older : RunLog F} (hc : callOf jobs i = some c)
    (hcounting : Counting env jobs s older)
    (hnear : NotFarBehind env jobs ⟨i, .write (c.bump env), s⟩ older) :
    counter s.db (c.bucket env) (c.window env) =
      older.countP (counted (c.bucket env) (c.window env)) := by
  refine (hcounting _ _).resolve_right ?_
  rintro ⟨e, he, time, htime, hbehind⟩
  have hle := hnear c.now (by simp [callTime, RiskCall.bump, hc]) e he time htime
  rw [RiskCall.window] at hbehind
  omega

/-! ## Tenants -/

theorem bar_notMem_name (kind : RiskKind) : (124 : UInt8) ∉ utf8 kind.name := by
  intro h
  have hchar := ofNat_mem_of_mem_utf8 (by decide) h
  revert hchar
  cases kind <;> decide

theorem bar_notMem_tenant {tenant : String} (h : validTenantId tenant = true) :
    (124 : UInt8) ∉ utf8 tenant := by
  intro hbar
  have hchar : '|' ∈ tenant.toList := ofNat_mem_of_mem_utf8 (by decide) hbar
  simp only [validTenantId, Bool.and_eq_true, List.all_eq_true] at h
  exact absurd (h.2 _ hchar) (by decide)

variable {c' : RiskCall}

/-- The material names its tenant. -/
theorem tenant_eq_of_material (hc : validTenantId c.tenant = true)
    (hc' : validTenantId c'.tenant = true) (h : c.material = c'.material) :
    c.tenant = c'.tenant := by
  have hbar : utf8 "|" = [124] := rfl
  simp only [RiskCall.material, List.flatMap_cons, hbar, List.cons_append,
    List.nil_append] at h
  obtain ⟨-, htail⟩ := append_cons_inj (bar_notMem_name c.kind) (bar_notMem_name c'.kind) h
  -- with a separator at the end, a separator follows the tenant whatever parts there are
  have hparts (parts : List String) : ∃ rest : Bytes,
      (parts.flatMap fun p => 124 :: utf8 p) ++ [124] = 124 :: rest := by
    cases parts with
    | nil => exact ⟨[], rfl⟩
    | cons p parts => exact ⟨_, rfl⟩
  obtain ⟨rest, hrest⟩ := hparts c.parts
  obtain ⟨rest', hrest'⟩ := hparts c'.parts
  have hlast := congrArg (· ++ [(124 : UInt8)]) htail
  simp only [List.append_assoc, hrest, hrest'] at hlast
  exact utf8_injective
    (append_cons_inj (bar_notMem_tenant hc) (bar_notMem_tenant hc') hlast).1

/-- Calls of one bucket are calls of one tenant. -/
theorem tenant_eq_of_bucket (htenants : ∀ c, .call c ∈ jobs → validTenantId c.tenant = true)
    (hhash : Set.InjOn (fun bytes => (env.sha256 bytes).take 24)
      {m | ∃ c, .call c ∈ jobs ∧ m = RiskCall.material c}) (hc : .call c ∈ jobs)
    (hc' : .call c' ∈ jobs) (h : c.bucket env = c'.bucket env) : c.tenant = c'.tenant :=
  tenant_eq_of_material (htenants c hc) (htenants c' hc')
    (hhash ⟨c, hc, rfl⟩ ⟨c', hc', rfl⟩ (hexEncode_injective h))

end Windows

section Proofs

variable [Float64 F] {env : Env F} {jobs : List RiskJob} {i : ℕ} {c : RiskCall}

/-- A call is counted once, and succeeds if the count is within its limit. -/
theorem call_follows (hc : callOf jobs i = some c) :
    (checkAndIncrement env (c.bucket env) c.now c.limit).Follows
      (srvRules (riskMay env jobs i)).Step [] fun t r => 0 < c.limit →
        ∃ s, (.write (c.bump env), s) ∈ t ∧
          (r = .ok () ↔ ∃ n : ℕ, s.writeResult (c.bump env) = .ok n ∧ n ≤ c.limit) := by
  unfold checkAndIncrement
  split
  · exact Prog.follows_pure.2 fun h => absurd h (by omega)
  · refine .rejectIf (fun h => absurd h (bucket_short c)) fun _ => .bind (.mapErr
      (Srv.follows_execute fun s => ⟨_, ⟨rfl, ⟨c, hc, rfl, rfl⟩, rfl⟩, ?_⟩))
    have hmem (t : History F) : (.write (c.bump env), s) ∈ t ++ [(.write (c.bump env), s)] :=
      List.mem_append_right t (List.mem_singleton_self _)
    cases hcount : s.writeResult (.bumpRisk (c.bucket env) (c.now.tdiv env.riskWindowSecs)) with
    | error e => exact fun _ => ⟨s, hmem [], by simp [RiskCall.bump, RiskCall.window, hcount]⟩
    | ok n =>
      refine .rejectIf (fun hover _ => ⟨s, hmem [], ?_⟩) fun hwithin => ?_
      · simp [RiskCall.bump, RiskCall.window, hcount, hover]
      · refine .bind (.attempt (Srv.follows_execute fun s' =>
          ⟨_, ⟨rfl, .inl ⟨c, s, hc, hmem [], rfl⟩, rfl⟩, ?_⟩))
        refine Prog.follows_pure.2 fun _ => ⟨s, hmem [_], ?_⟩
        simp [RiskCall.bump, RiskCall.window, hcount, not_lt.1 hwithin]

theorem collect_follows (i : ℕ) :
    (Agent.collect env : Srv F String Unit).Yields (srvRules (riskMay env jobs i)) []
      fun _ _ => True := by
  refine Srv.yields_nowSecs fun s => ?_
  refine Srv.yields_tryExecute fun _ => ⟨trivial, fun _ => ?_⟩
  refine Srv.yields_tryExecute fun _ => ⟨trivial, fun _ => ?_⟩
  refine Srv.yields_tryExecute fun _ => ⟨trivial, fun _ => ?_⟩
  exact Srv.yields_tryExecute fun _ => ⟨.inr ⟨_, ⟨s, by simp, rfl⟩, rfl⟩,
    fun _ => Prog.yields_pure trivial⟩

/-! ## The counters -/

variable {log : RunLog F}

theorem counting_step (hwindow : env.riskWindowSecs ≤ env.gcWindowSecs) {s s' : World F}
    {lbl : Label F} (hclock : ClockFrom 0 s log) (h : Counting env jobs s log)
    (heff : lbl.Effect s s')
    (hmay : (srvRules (riskMay env jobs i)).may (threadTrace i log) lbl s) :
    Counting env jobs s' (⟨i, lbl, s⟩ :: log) := by
  -- a statement that does not touch the counters, or has failed
  have hother (hcounters : s'.db.riskCounters = s.db.riskCounters)
      (hcounted : ∀ b w, counted b w (⟨i, lbl, s⟩ : LogEntry F) = false) :
      Counting env jobs s' (⟨i, lbl, s⟩ :: log) :=
    h.of_counter_eq fun b w => by simp [counter, hcounters, hcounted]
  cases lbl with
  | write w =>
    cases heff
    cases hfault : s.fault with
    | some e =>
      refine hother (by rw [World.afterWrite_of_fault hfault]) fun b w' => ?_
      cases w <;> simp [counted, hfault]
    | none =>
      cases w with
      | bumpRisk bucket window =>
        obtain ⟨db', happly, hcounter⟩ := bumpRisk_spec s.db bucket window
        refine h.of_counter_eq fun b w => ?_
        have hcounted : counted b w (⟨i, .write (.bumpRisk bucket window), s⟩ :
            LogEntry F) = decide (bucket = b ∧ window = w) := by
          rw [Bool.eq_iff_iff]
          simp [counted, hfault]
        rw [World.afterWrite_of_ok hfault happly, hcounter, hcounted]
        simp
      | pruneRisk oldest =>
        obtain ⟨e, he, time, htime, hbehind⟩ := behind_of_pruned hwindow hclock hmay
        obtain ⟨db', happly, hcounter⟩ := pruneRisk_spec s.db oldest
        intro b w
        by_cases hw : oldest ≤ w
        · rw [World.afterWrite_of_ok hfault happly, hcounter b w hw, List.countP_cons_of_neg
            (by simp [counted])]
          exact (h b w).imp_right fun ⟨e', he', hpast⟩ => ⟨e', .tail _ he', hpast⟩
        · exact .inr ⟨e, .tail _ he, time, htime, by omega⟩
      | pruneJtis | prunePopChallenges | pruneCallNonces =>
        exact hother (by rw [World.afterWrite_of_ok hfault rfl]) fun _ _ => rfl
      | _ => exact hmay.elim
  | select q => rcases heff with rfl | rfl <;> exact hother rfl fun _ _ => rfl
  | publish network root =>
    cases heff
    refine hother ?_ fun _ _ => rfl
    unfold World.afterPublish
    split <;> rfl
  | _ =>
    cases heff
    exact hother rfl fun _ _ => rfl

/-! ## The limit -/

theorem jobs_follow : PoolFollows (fun i => (srvRules (riskMay env jobs i)).Step)
    (fun i t r => ∀ c, callOf jobs i = some c → 0 < c.limit → ∃ s, (.write (c.bump env), s) ∈ t ∧
      (r = .ok () ↔ ∃ n : ℕ, s.writeResult (c.bump env) = .ok n ∧ n ≤ c.limit))
    (jobs.map (RiskJob.prog env)) fun _ => [] := by
  intro i p hp
  obtain ⟨job, hjob, rfl⟩ : ∃ job, jobs[i]? = some job ∧ job.prog env = p := by simpa using hp
  cases job with
  | call c =>
    refine (call_follows (callOf_eq hjob)).mono fun t r h c' hc' hlimit => ?_
    obtain rfl := Option.some.inj ((callOf_eq hjob).symm.trans hc')
    exact h hlimit
  | collect =>
    refine Prog.Follows.mono (collect_follows i) fun t r _ c' hc' => ?_
    simp [callOf, hjob] at hc'

theorem counting_invariant (hwindow : env.riskWindowSecs ≤ env.gcWindowSecs) :
    TraceInvariant (fun i => srvRules (riskMay env jobs i)) (NotFarBehind env jobs)
      fun s log => ClockFrom 0 s log ∧ Counting env jobs s log where
  tick d h := ⟨(clockFrom_invariant 0 (riskMay env jobs) (NotFarBehind env jobs)).tick d h.1, h.2⟩
  step h hC heff hmay := ⟨(clockFrom_invariant 0 _ (NotFarBehind env jobs)).step h.1 hC heff hmay,
    counting_step hwindow h.1 h.2 heff hmay⟩

/-- What a call is counted with are calls of its tenant. -/
theorem countP_countedFor (htenants : ∀ c, .call c ∈ jobs → validTenantId c.tenant = true)
    (hhash : Set.InjOn (fun bytes => (env.sha256 bytes).take 24)
      {m | ∃ c, .call c ∈ jobs ∧ m = RiskCall.material c})
    (hallowed : ∀ e older, e :: older <:+ log → (srvRules (riskMay env jobs e.thread)).may
      (threadTrace e.thread older) e.label e.before) (hc : .call c ∈ jobs) :
    log.countP (counted (c.bucket env) (c.window env)) = log.countP (countedFor env jobs c) := by
  refine List.countP_congr fun e he => ?_
  rw [countedFor, Bool.and_eq_true]
  refine ⟨fun h => ⟨h, ?_⟩, And.left⟩
  obtain ⟨newer, older, rfl⟩ := List.append_of_mem he
  have hmay := hallowed e older (List.suffix_append newer _)
  obtain ⟨i, lbl, s⟩ := e
  unfold counted at h
  split at h
  · next b w hlabel =>
    obtain rfl : lbl = .write (.bumpRisk b w) := hlabel
    obtain ⟨c', hc', rfl, rfl⟩ := hmay
    simp only [Bool.and_eq_true, beq_iff_eq] at h
    have htenant := tenant_eq_of_bucket htenants hhash (mem_of_callOf hc') hc h.1.1
    simp [hc', htenant]
  · cases h

/-- **The limit of a window.** Where the windows of the collection are not shorter than those of
the calls and no call is counted more than 120 windows late, a call succeeds exactly if its
statement does not fail and fewer than its limit were counted before it in its bucket and window;
those it competes with are of its own tenant. -/
theorem risk_window_limit {s : World F} (hwindow : env.riskWindowSecs ≤ env.gcWindowSecs)
    (htenants : ∀ c, .call c ∈ jobs → validTenantId c.tenant = true)
    (hhash : Set.InjOn (fun bytes => (env.sha256 bytes).take 24)
      {m | ∃ c, .call c ∈ jobs ∧ m = RiskCall.material c})
    (hs : s.db.riskCounters = []) (hclock : 0 ≤ s.clockMs) (sched : List Event)
    (hnear : LogOk (NotFarBehind env jobs)
      ((Config.init s (jobs.map (RiskJob.prog env))).run sched).log)
    {i : ℕ} {c : RiskCall} (hc : jobs[i]? = some (.call c)) (hlimit : 0 < c.limit)
    {r : Except String Unit}
    (hr : ((Config.init s (jobs.map (RiskJob.prog env))).run sched).result i = some r) :
    ∃ e older, e :: older <:+ ((Config.init s (jobs.map (RiskJob.prog env))).run sched).log ∧
      e.thread = i ∧ e.label = .write (c.bump env) ∧
      (r = .ok () ↔ e.before.fault = none ∧
        older.countP (countedFor env jobs c) < c.limit) := by
  have hstart : Counting env jobs s [] := fun b w => .inl (by simp [counter, hs])
  have hempty {P : Entry (Label F) (World F) → Prop} : ∀ e ∈ [], P e :=
    fun e he => absurd he List.not_mem_nil
  obtain ⟨g, ⟨⟨⟨-, hpast⟩, hallowed⟩, hg⟩, hfollows⟩ :=
    ((counting_invariant hwindow).throughout.and .allowed).runInvariant.run
      (c := .init s (jobs.map (RiskJob.prog env))) (g := fun _ => []) jobs_follow
      ⟨⟨⟨⟨⟨hclock, hempty⟩, hstart⟩, hempty⟩, fun e older h =>
        absurd (List.suffix_nil.1 h) (List.cons_ne_nil e older)⟩, fun _ => rfl⟩ sched hnear
  obtain ⟨s₀, hmem, hiff⟩ := hfollows.result hr c (callOf_eq hc) hlimit
  rw [hg i] at hmem
  obtain ⟨older, hsuffix, -, hcounting⟩ := hpast _ (mem_threadTrace.1 hmem)
  refine ⟨_, older, hsuffix, rfl, rfl, hiff.trans ?_⟩
  have hcounter := counter_of_counting (callOf_eq hc) hcounting (hnear.of_suffix hsuffix)
  rw [countP_countedFor htenants hhash
    (fun e older' h => hallowed e older' (h.trans ((List.suffix_cons _ _).trans hsuffix)))
    (mem_of_callOf (callOf_eq hc))] at hcounter
  obtain ⟨db', happly, -⟩ := bumpRisk_spec s₀.db (c.bucket env) (c.window env)
  cases hfault : s₀.fault with
  | some e => simp [World.writeResult, hfault]
  | none =>
    simp only [World.writeResult, hfault, RiskCall.bump, happly, Except.map, hcounter]
    constructor
    · rintro ⟨n, hn, hle⟩
      cases hn
      exact ⟨trivial, by omega⟩
    · rintro ⟨-, hlt⟩
      exact ⟨_, rfl, by omega⟩

end Proofs

/-! ### Two calls with a limit of one -/

instance {env : Env F} {jobs : List RiskJob} (e : LogEntry F) (older : RunLog F) :
    Decidable (NotFarBehind env jobs e older) :=
  inferInstanceAs (Decidable (∀ time ∈ callTime jobs e, ∀ e' ∈ older, ∀ time' ∈ timeOf jobs e',
    time'.tdiv env.riskWindowSecs ≤ time.tdiv env.riskWindowSecs + 120))

/-- A server whose variable is set to the text. -/
def windowEnv (text : String) : Env ℚ := { sampleEnv ℚ with riskWindowVar := some text }

/-- A verification in the window 7260 of an hour. -/
def windowCall : RiskCall := ⟨.agentVerify, "t1", ["a1"], 26136000, 1⟩

/-- Two calls with a collection between them. -/
def windowJobs : List RiskJob := [.call windowCall, .collect, .call windowCall]

def windowWorld : World ℚ := World.steady (Db.empty ℚ) 26136000000

/-- The jobs one after the other. -/
def windowSched : List Event :=
  [.step 0, .step 0] ++ List.replicate 5 (.step 1) ++ [.step 2, .step 2]

def windowRun (text : String) : SrvConfig ℚ String Unit :=
  (Config.init windowWorld (windowJobs.map (RiskJob.prog (windowEnv text)))).run windowSched

/-- The second call is over the limit, since the first was counted before it. -/
theorem second_call_over_limit :
    (windowRun "3600").result 2 = some (.error "risk: rate limit exceeded") ∧
      ∃ e older, e :: older <:+ (windowRun "3600").log ∧ e.thread = 2 ∧
        ¬(e.before.fault = none ∧
          older.countP (countedFor (windowEnv "3600") windowJobs windowCall) < (1 : ℤ)) := by
  have hjobs (c : RiskCall) (hc : .call c ∈ windowJobs) : c = windowCall := by
    simpa [windowJobs] using hc
  have hr : (windowRun "3600").result 2 = some (.error "risk: rate limit exceeded") := by
    decide +kernel
  obtain ⟨e, older, hsuffix, hthread, hlabel, hiff⟩ :=
    @risk_window_limit ℚ _ (windowEnv "3600") windowJobs windowWorld (by decide +kernel)
      (fun c hc => hjobs c hc ▸ by decide)
      (by rintro _ ⟨c, hc, rfl⟩ _ ⟨c', hc', rfl⟩ -; rw [hjobs c hc, hjobs c' hc'])
      rfl (by decide) windowSched (by decide +kernel) 2 windowCall rfl (by decide) _ hr
  exact ⟨hr, e, older, hsuffix, hthread, fun h => nomatch hiff.2 h⟩

/-- With a blank after the number the collection takes the default length, deletes the window
of the calls, and both are within the limit. -/
theorem collected_window_restarts :
    (windowEnv "3600 ").riskWindowSecs = 3600 ∧ (windowEnv "3600 ").gcWindowSecs = 60 ∧
      LogOk (NotFarBehind (windowEnv "3600 ") windowJobs) (windowRun "3600 ").log ∧
      (windowRun "3600 ").result 0 = some (.ok ()) ∧
      (windowRun "3600 ").result 2 = some (.ok ()) := by
  decide +kernel

end SauronID.Request
