import SauronID.Policy.Gate

/-!
# What the loaded facts say about an agent's receipts

The rate checks and the cooldown judge an action by the receipts of the last seven days, the
newest 20000 of them. Here their verdicts are compared with what the complete history of the
agent says. Three things come between: the cap on the rows, which receipts of the future use
up first, the window of seven days, and casts between integer types.
-/

namespace SauronID.Dsl

open Conc

variable {F : Type} [Float64 F] {engine : Engine F} {tenant agentId policyId : String}
  {now dayStart : ℤ}

/-! ## The loaded rows -/

/-- The times of all receipts of an agent. -/
def allTimes (tenant agentId : String) (db : Db F) : List ℤ :=
  (db.receipts.filter fun r => r.tenantId == tenant && r.agentId == agentId).map (·.timestamp)

omit [Float64 F] in
/-- The rows are the newest of the times after `lower`. -/
theorem receiptTimes_eq (db : Db F) (lower : ℤ) : receiptTimes tenant agentId db lower =
    (orderBy (fun t => -t) ((allTimes tenant agentId db).filter fun t => decide (lower < t))).take
      maxRateWindowRows := by
  rw [receiptTimes, allTimes, List.filter_map, List.filter_filter]
  congr 4
  funext r
  simp [Bool.and_comm]

variable {s s' : World F} {facts : AgentRuntimeFacts F}

/-- What `load_agent_runtime_facts` returns when it returns. -/
theorem exec_loadAgentRuntimeFacts
    (h : (loadAgentRuntimeFacts tenant agentId policyId now dayStart).exec s = (.ok facts, s')) :
    ∃ daily inFlight, facts = .ofReads now
      (receiptTimes tenant agentId s.db (satI64 (now - 7 * 24 * 60 * 60))) daily inFlight := by
  unfold loadAgentRuntimeFacts at h
  obtain ⟨weekly, s₁, hweekly, hspend⟩ := Prog.exec_bind_eq_ok.1 h
  obtain ⟨daily, s₂, -, hcount⟩ := Prog.exec_bind_eq_ok.1 hspend
  obtain ⟨inFlight, s₃, -, hfacts⟩ := Prog.exec_bind_eq_ok.1 hcount
  cases hfacts
  rw [Prog.exec_mapErr, Srv.exec_select] at hweekly
  cases hfault : s.fault with
  | some e =>
    rw [hfault] at hweekly
    cases hweekly
  | none =>
    rw [hfault] at hweekly
    cases hweekly
    exact ⟨daily, inFlight, rfl⟩

/-- Of times from the newest down, the first `n` hold those of a window that ends at `now`
as far as the times after `now` leave room for them. -/
theorem countP_take_of_sorted {times : List ℤ} (h : times.Pairwise (· ≥ ·)) (lower : ℤ) (n : ℕ) :
    (times.take n).countP (fun t => decide (lower < t) && decide (t ≤ now)) =
      min (times.countP fun t => decide (lower < t) && decide (t ≤ now))
        (n - times.countP fun t => decide (now < t)) := by
  induction times generalizing n with
  | nil => simp
  | cons t times ih =>
    obtain ⟨ht, htimes⟩ := List.pairwise_cons.1 h
    cases n with
    | zero => simp
    | succ n =>
      have hrest := ih htimes n
      simp only [List.take_succ_cons, List.countP_cons, hrest]
      by_cases hnow : t ≤ now
      · -- what follows is not later
        have hlater : times.countP (fun t => decide (now < t)) = 0 := by
          rw [List.countP_eq_zero]
          intro u hu
          have := ht u hu
          simp only [decide_eq_true_eq]
          omega
        have hbefore : ¬now < t := by omega
        by_cases hlower : lower < t
        · simp [hnow, hbefore, hlower, hlater]
        · have hnone : times.countP (fun t => decide (lower < t) && decide (t ≤ now)) = 0 := by
            rw [List.countP_eq_zero]
            intro u hu
            have := ht u hu
            simp only [Bool.and_eq_true, decide_eq_true_eq]
            omega
          simp [hlower, hnone]
      · have hafter : now < t := by omega
        simp [hnow, hafter]

/-! ## Rates -/

/-- The receipts in the `secs` seconds up to `now`. -/
def windowCount (secs now : ℤ) (times : List ℤ) : ℕ :=
  times.countP fun t => decide (satI64 (now - secs) < t) && decide (t ≤ now)

/-- The receipts that are stamped later than `now`. -/
def laterCount (now : ℤ) (times : List ℤ) : ℕ := times.countP fun t => decide (now < t)

omit [Float64 F] in
/-- How many calls of a window the loaded rows hold. -/
theorem windowCount_receiptTimes (db : Db F) {secs : ℤ} (h0 : 0 ≤ secs)
    (hsecs : secs ≤ 7 * 24 * 60 * 60) (hnow : -2 ^ 63 ≤ now) : windowCount secs now
        (receiptTimes tenant agentId db (satI64 (now - 7 * 24 * 60 * 60))) =
      min (windowCount secs now (allTimes tenant agentId db))
        (maxRateWindowRows - laterCount now (allTimes tenant agentId db)) := by
  set week := satI64 (now - 7 * 24 * 60 * 60)
  have hweek : week ≤ satI64 (now - secs) := satI64_mono (by omega)
  have hsorted : (orderBy (fun t : ℤ => -t)
      ((allTimes tenant agentId db).filter fun t => decide (week < t))).Pairwise (· ≥ ·) :=
    (pairwise_orderBy _ _).imp fun hab => by omega
  -- the window and what is later lie in the week
  have hcount : ∀ p : ℤ → Bool, (∀ t, p t = true → week < t) →
      (orderBy (fun t : ℤ => -t)
        ((allTimes tenant agentId db).filter fun t => decide (week < t))).countP p =
          (allTimes tenant agentId db).countP p := by
    intro p hp
    rw [(perm_orderBy _ _).countP_eq, List.countP_filter]
    refine List.countP_congr fun t _ => ?_
    have := hp t
    simp only [Bool.and_eq_true, decide_eq_true_eq]
    tauto
  rw [receiptTimes_eq, windowCount, countP_take_of_sorted hsorted, hcount, hcount]
  · rfl
  · intro t ht
    simp only [decide_eq_true_eq] at ht
    simp only [week, satI64]
    omega
  · intro t ht
    simp only [Bool.and_eq_true, decide_eq_true_eq] at ht
    omega

/-- The facts with the complete history in place of the loaded rows. -/
def AgentRuntimeFacts.complete (facts : AgentRuntimeFacts F) (times : List ℤ) :
    AgentRuntimeFacts F :=
  { facts with recentCallTimestamps := times, weeklyCallTimestamps := times }

/-- The rate checks see a limit that `n` calls of the window reach or not, with `later` receipts
stamped after `now`. Counts are of type `u32`. -/
def RowsSuffice (limit n later : ℕ) : Prop :=
  limit = 0 ∨ (n % 2 ^ 32 < limit ∧ (n < limit ∨ maxRateWindowRows < limit + later)) ∨
    (limit ≤ n % 2 ^ 32 ∧ limit + later ≤ maxRateWindowRows)

theorem rowsSuffice_iff {limit n later : ℕ} :
    (wrapU32 (min n (maxRateWindowRows - later)) < limit ↔ wrapU32 n < limit) ↔
      RowsSuffice limit n later := by
  unfold wrapU32 RowsSuffice maxRateWindowRows
  omega

section Rates

variable {s s' : World F} {facts : AgentRuntimeFacts F} {action : Action F} {spend : F}
  {clock : PolicyWallClock} {limit : ℕ}

/-- A rate check allows while its count is below the limit. -/
theorem isAllow_denyIf {n limit : ℕ} {check reason : String} :
    (denyIf (decide (limit ≤ n)) check reason).isAllow = true ↔ n < limit := by
  by_cases h : limit ≤ n
  · simp [denyIf, h, Verdict.isAllow]
  · simp only [denyIf, h, decide_false, Verdict.isAllow]
    simpa using h

theorem rate_isAllow : ((RuntimeCheck.rate limit).evaluate engine
    (contextOf action spend now clock facts)).isAllow = true ↔
      wrapU32 (windowCount 60 now facts.recentCallTimestamps) < limit := isAllow_denyIf

theorem weeklyRate_isAllow : ((RuntimeCheck.weeklyRate limit).evaluate engine
    (contextOf action spend now clock facts)).isAllow = true ↔
      wrapU32 (windowCount (7 * 24 * 60 * 60) now facts.weeklyCallTimestamps) < limit :=
  isAllow_denyIf

/-- How many calls the two checks count in what was loaded. -/
theorem windowCount_facts (hnow : -2 ^ 63 ≤ now)
    (h : (loadAgentRuntimeFacts tenant agentId policyId now dayStart).exec s = (.ok facts, s')) :
    windowCount 60 now facts.recentCallTimestamps =
        min (windowCount 60 now (allTimes tenant agentId s.db))
          (maxRateWindowRows - laterCount now (allTimes tenant agentId s.db)) ∧
      windowCount (7 * 24 * 60 * 60) now facts.weeklyCallTimestamps =
        min (windowCount (7 * 24 * 60 * 60) now (allTimes tenant agentId s.db))
          (maxRateWindowRows - laterCount now (allTimes tenant agentId s.db)) := by
  obtain ⟨daily, inFlight, rfl⟩ := exec_loadAgentRuntimeFacts h
  constructor
  · rw [← windowCount_receiptTimes s.db (by omega) (by omega) hnow]
    simp only [AgentRuntimeFacts.ofReads, windowCount, List.countP_filter]
    refine List.countP_congr fun t _ => ?_
    simp only [Bool.and_eq_true, decide_eq_true_eq]
    tauto
  · exact windowCount_receiptTimes s.db (by omega) le_rfl hnow

/-- **The row cap.** For every history of receipts, every time and every two limits, the rate
checks decide on the loaded rows as they would on the complete history exactly if the rows
suffice for each of the limits. -/
theorem rate_verdicts_iff (hnow : -2 ^ 63 ≤ now)
    (h : (loadAgentRuntimeFacts tenant agentId policyId now dayStart).exec s = (.ok facts, s'))
    (action : Action F) (spend : F) (clock : PolicyWallClock) (perMinute perWeek : ℕ) :
    (∀ c ∈ [RuntimeCheck.rate perMinute, .weeklyRate perWeek],
      (c.evaluate engine (contextOf action spend now clock facts)).isAllow =
        (c.evaluate engine (contextOf action spend now clock
          (facts.complete (allTimes tenant agentId s.db)))).isAllow) ↔
    RowsSuffice perMinute (windowCount 60 now (allTimes tenant agentId s.db))
        (laterCount now (allTimes tenant agentId s.db)) ∧
      RowsSuffice perWeek (windowCount (7 * 24 * 60 * 60) now (allTimes tenant agentId s.db))
        (laterCount now (allTimes tenant agentId s.db)) := by
  obtain ⟨hminute, hweek⟩ := windowCount_facts hnow h
  rw [List.forall_mem_cons, List.forall_mem_singleton]
  apply and_congr
  · rw [Bool.eq_iff_iff, rate_isAllow, rate_isAllow, hminute]
    exact rowsSuffice_iff
  · rw [Bool.eq_iff_iff, weeklyRate_isAllow, weeklyRate_isAllow, hweek]
    exact rowsSuffice_iff

end Rates

/-- Without a fault the facts are loaded. -/
theorem exists_loaded (h : s.Reliable) :
    ∃ facts s', (loadAgentRuntimeFacts tenant agentId policyId now dayStart).exec s =
      (.ok facts, s') := by
  unfold loadAgentRuntimeFacts
  rw [Prog.exec_bind, Prog.exec_mapErr, Srv.exec_select_reliable h]
  dsimp only [Except.mapError]
  rw [Prog.exec_bind, Srv.exec_scalarOr]
  dsimp only
  rw [Prog.exec_bind, Srv.exec_scalarOr]
  exact ⟨_, _, rfl⟩

/-- A receipt of the sample agent. -/
def receiptAt (receiptId : String) (timestamp : ℤ) : ReceiptRow :=
  ⟨⟨"default", receiptId, "", "agt_1", "", "", "", "", timestamp, "accepted", "", 0, "", ""⟩,
    none, none⟩

/-- The sample agent with so many receipts of second 0. -/
def busyWorld (n : ℕ) : World ℚ :=
  .steady { Db.empty ℚ with receipts := (List.range n).map fun i => receiptAt (toString i) 0 } 0

theorem allTimes_busyWorld (n : ℕ) :
    allTimes "default" "agt_1" (busyWorld n).db = List.replicate n 0 := by
  have hall : ∀ r ∈ (busyWorld n).db.receipts, (r.tenantId == "default" && r.agentId == "agt_1") =
      true := by
    intro r hr
    obtain ⟨i, -, rfl⟩ := List.mem_map.1 hr
    rfl
  rw [allTimes, List.filter_eq_self.2 hall]
  simp [busyWorld, receiptAt, World.steady, Function.comp_def]

theorem windowCount_replicate (n : ℕ) : windowCount 60 0 (List.replicate n 0) = n := by
  simp [windowCount, List.countP_replicate, satI64]

theorem laterCount_replicate (n : ℕ) : laterCount 0 (List.replicate n 0) = 0 := by
  simp [laterCount, List.countP_replicate]

/-- What is loaded for the sample agent. -/
def loadBusy (n : ℕ) (now : ℤ) : Except AppError (AgentRuntimeFacts ℚ) × World ℚ :=
  (loadAgentRuntimeFacts "default" "agt_1" "p" now 0).exec (busyWorld n)

theorem exists_loadBusy (n : ℕ) (now : ℤ) : ∃ facts s', loadBusy n now = (.ok facts, s') :=
  exists_loaded (.of_nil rfl)

/-- The context of an action of the sample agent. -/
def contextWith (now : ℤ) (facts : AgentRuntimeFacts ℚ) : EvaluationContext ℚ :=
  contextOf { actionId := "", tool := "", timestamp := 0 } 0 now ⟨"", 0, "", 0⟩ facts

/-- 20001 calls of the last minute do not reach a limit of 20001. -/
theorem limit_above_cap_not_reached : ∃ facts s', loadBusy 20001 0 = (.ok facts, s') ∧
    ((RuntimeCheck.rate 20001).evaluate (sampleEngine ℚ) (contextWith 0 facts)).isAllow = true ∧
    ((RuntimeCheck.rate 20001).evaluate (sampleEngine ℚ) (contextWith 0
      (facts.complete (allTimes "default" "agt_1" (busyWorld 20001).db)))).isAllow = false := by
  obtain ⟨facts, s', h⟩ := exists_loadBusy 20001 0
  have hzero : (-2 ^ 63 : ℤ) ≤ 0 := by decide
  obtain ⟨hminute, -⟩ := windowCount_facts hzero h
  refine ⟨facts, s', h, rate_isAllow.2 ?_, Bool.eq_false_iff.2 fun hallow => ?_⟩
  · rw [hminute, allTimes_busyWorld, windowCount_replicate, laterCount_replicate]
    decide
  · have hfew := rate_isAllow.1 hallow
    rw [AgentRuntimeFacts.complete, allTimes_busyWorld, windowCount_replicate] at hfew
    exact absurd hfew (by decide)

/-- Three calls, a limit of 100 in a minute and of 2 in a week. -/
theorem few_calls_judged_alike : ∃ facts s', loadBusy 3 0 = (.ok facts, s') ∧
    ∀ c ∈ [RuntimeCheck.rate 100, .weeklyRate 2],
      (c.evaluate (sampleEngine ℚ) (contextWith 0 facts)).isAllow =
        (c.evaluate (sampleEngine ℚ) (contextWith 0
          (facts.complete (allTimes "default" "agt_1" (busyWorld 3).db)))).isAllow := by
  obtain ⟨facts, s', h⟩ := exists_loadBusy 3 0
  have hzero : (-2 ^ 63 : ℤ) ≤ 0 := by decide
  refine ⟨facts, s', h, (rate_verdicts_iff hzero h _ _ _ 100 2).2 ?_⟩
  rw [allTimes_busyWorld]
  exact ⟨.inr (.inl (by decide)), .inr (.inr (by decide))⟩

/-! ## The cooldown -/

/-- The time of the agent's latest receipt. -/
def latestReceipt (tenant agentId : String) (db : Db F) : Option ℤ :=
  (allTimes tenant agentId db).max?

omit [Float64 F] in
/-- The first row is the latest receipt, if that is after `lower`. -/
theorem head?_receiptTimes (db : Db F) (lower : ℤ) : (receiptTimes tenant agentId db lower).head? =
      (latestReceipt tenant agentId db).filter fun t => decide (lower < t) := by
  rw [receiptTimes_eq, List.head?_take, if_neg (by decide)]
  set rows := (allTimes tenant agentId db).filter fun t => decide (lower < t) with hrows
  have hsorted : (orderBy (fun t : ℤ => -t) rows).Pairwise (· ≥ ·) :=
    (pairwise_orderBy _ _).imp fun hab => by omega
  have hmem : ∀ t, t ∈ orderBy (fun t : ℤ => -t) rows ↔
      t ∈ allTimes tenant agentId db ∧ lower < t := by
    intro t
    rw [(perm_orderBy _ _).mem_iff, hrows, List.mem_filter, decide_eq_true_eq]
  cases hlist : orderBy (fun t : ℤ => -t) rows with
  | nil =>
    rw [hlist] at hmem
    refine (Option.filter_eq_none_iff.2 fun t ht hlower => ?_).symm
    have ht := (hmem t).2 ⟨List.max?_mem ht, of_decide_eq_true hlower⟩
    cases ht
  | cons t rest =>
    rw [hlist] at hmem hsorted
    obtain ⟨ht, hlower⟩ := (hmem t).1 List.mem_cons_self
    refine (Option.filter_eq_some_iff.2 ⟨List.max?_eq_some_iff.2 ⟨ht, fun u hu => ?_⟩,
      decide_eq_true hlower⟩).symm
    by_cases hu' : lower < u
    · rcases List.mem_cons.1 ((hmem u).2 ⟨hu, hu'⟩) with rfl | hrest
      · exact le_rfl
      · exact (List.pairwise_cons.1 hsorted).1 u hrest
    · omega

variable {seconds : ℕ}

omit [Float64 F] in
/-- The one check of the name is that of the cooldown. -/
theorem CompiledPolicy.forall_cooldown (p : CompiledPolicy engine)
    (hp : p.raw.binding.cooldownSeconds = some seconds) {P : RuntimeCheck F → Prop} :
    (∀ c ∈ p.checks, c.name = "cooldown" → P c) ↔ P (.cooldown seconds) := by
  have hmem : ∀ n, RuntimeCheck.cooldown n ∈ p.checks ↔ n = seconds := by
    intro n
    rw [p.mem_checks rfl]
    unfold orderedChecks
    simp [optional, hp]
  constructor
  · intro hall
    exact hall _ ((hmem seconds).2 rfl) rfl
  · intro hP c hc hname
    cases c with
    | cooldown n => rwa [(hmem n).1 hc]
    | _ => simp [RuntimeCheck.name] at hname

/-- The check reads the latest receipt of the week. -/
theorem cooldown_allows_iff
    (h : (loadAgentRuntimeFacts tenant agentId policyId now dayStart).exec s = (.ok facts, s'))
    {action : Action F} {spend : F} {clock : PolicyWallClock} :
    (RuntimeCheck.cooldown seconds).evaluate engine (contextOf action spend now clock facts) =
        .allow ↔
      ∀ t, latestReceipt tenant agentId s.db = some t → satI64 (now - 7 * 24 * 60 * 60) < t →
        wrapI64 seconds ≤ satI64 (now - t) := by
  obtain ⟨daily, inFlight, rfl⟩ := exec_loadAgentRuntimeFacts h
  unfold RuntimeCheck.evaluate
  simp only [contextOf, AgentRuntimeFacts.ofReads, head?_receiptTimes]
  generalize satI64 (now - 7 * 24 * 60 * 60) = week
  cases hlatest : latestReceipt tenant agentId s.db with
  | none => simp
  | some t =>
    rw [Option.filter_some]
    by_cases hweek : week < t
    · simp [hweek, denyIf]
    · simp [hweek]

/-- **The cooldown.** For every policy with a cooldown, every history of receipts and every time
that is not before the latest, the check passes exactly if there is no receipt or the latest is
old enough, unless one that is not has left the window of seven days or the cooldown is no
`i64`. -/
theorem cooldown_passes_iff {s s' : World F} {facts : AgentRuntimeFacts F}
    (p : CompiledPolicy engine) {seconds : ℕ} (hp : p.raw.binding.cooldownSeconds = some seconds)
    (hseconds : seconds < 2 ^ 64) (hnow : now < 2 ^ 63)
    (h : (loadAgentRuntimeFacts tenant agentId policyId now dayStart).exec s = (.ok facts, s'))
    (hlatest : ∀ t ∈ allTimes tenant agentId s.db, t ≤ now)
    (action : Action F) (spend : F) (clock : PolicyWallClock) :
    ((∀ c ∈ p.checks, c.name = "cooldown" →
        c.evaluate engine (contextOf action spend now clock facts) = .allow) ↔
      ∀ t, latestReceipt tenant agentId s.db = some t → seconds ≤ now - t) ↔
    ∀ t, latestReceipt tenant agentId s.db = some t →
      seconds ≤ now - t ∨ (satI64 (now - 7 * 24 * 60 * 60) < t ∧ seconds < 2 ^ 63) := by
  rw [p.forall_cooldown hp, cooldown_allows_iff h]
  cases hmax : latestReceipt tenant agentId s.db with
  | none => simp
  | some t =>
    have ht : t ≤ now := hlatest t (List.max?_mem hmax)
    -- a cooldown that is no `i64` is read as a negative one
    have hwrap : wrapI64 seconds = seconds ∧ seconds < 2 ^ 63 ∨
        wrapI64 seconds < 0 ∧ 2 ^ 63 ≤ seconds := by
      rcases Nat.lt_or_ge seconds (2 ^ 63) with hlt | hge
      · exact .inl ⟨wrapI64_of_lt (by omega) (by omega), hlt⟩
      · refine .inr ⟨?_, hge⟩
        have hlow : (seconds - 2 ^ 64 : ℤ) < 0 := by omega
        rw [wrapI64, ← Int.sub_bmod_right, show ((2 ^ 64 : ℕ) : ℤ) = 2 ^ 64 from rfl]
        exact (wrapI64_of_lt (by omega) (by omega)).trans_lt hlow
    simp only [Option.some.injEq, forall_eq']
    unfold satI64
    omega

/-- A policy with nothing but a cooldown. -/
def cooldownPolicy (seconds : ℕ) : CompiledPolicy (sampleEngine ℚ) :=
  ⟨"p", "agt_1", [.cooldown seconds],
    ⟨"1", "agt_1", { cooldownSeconds := some seconds }, []⟩, rfl⟩

theorem latestReceipt_busyWorld : latestReceipt "default" "agt_1" (busyWorld 1).db = some 0 := by
  rw [latestReceipt, allTimes_busyWorld]
  rfl

/-- A cooldown of two weeks passes on the eighth day, and one of `2 ^ 63` seconds at once. -/
theorem cooldown_passes_early : latestReceipt "default" "agt_1" (busyWorld 1).db = some 0 ∧
    (∃ facts s', loadBusy 1 691200 = (.ok facts, s') ∧
      evaluate (cooldownPolicy 1209600) (contextWith 691200 facts) = .allow) ∧
    ∃ facts s', loadBusy 1 0 = (.ok facts, s') ∧
      evaluate (cooldownPolicy (2 ^ 63)) (contextWith 0 facts) = .allow := by
  refine ⟨latestReceipt_busyWorld, ?_, ?_⟩
  · obtain ⟨facts, s', h⟩ := exists_loadBusy 1 691200
    refine ⟨facts, s', h, evaluateChecks_eq_allow.2 (List.forall_mem_singleton.2
      ((cooldown_allows_iff h).2 ?_))⟩
    rw [latestReceipt_busyWorld]
    decide
  · obtain ⟨facts, s', h⟩ := exists_loadBusy 1 0
    refine ⟨facts, s', h, evaluateChecks_eq_allow.2 (List.forall_mem_singleton.2
      ((cooldown_allows_iff h).2 ?_))⟩
    rw [latestReceipt_busyWorld]
    decide

/-- A cooldown of a minute, ten seconds after the latest receipt. -/
theorem cooldown_of_minute_kept : ∃ facts s', loadBusy 1 10 = (.ok facts, s') ∧
    ((∀ c ∈ (cooldownPolicy 60).checks, c.name = "cooldown" →
        c.evaluate (sampleEngine ℚ) (contextWith 10 facts) = .allow) ↔
      ∀ t, latestReceipt "default" "agt_1" (busyWorld 1).db = some t →
        ((60 : ℕ) : ℤ) ≤ 10 - t) := by
  obtain ⟨facts, s', h⟩ := exists_loadBusy 1 10
  have hpast : ∀ t ∈ allTimes "default" "agt_1" (busyWorld 1).db, t ≤ 10 := by
    rw [allTimes_busyWorld]
    decide
  refine ⟨facts, s', h, (cooldown_passes_iff (cooldownPolicy 60) rfl (by decide) (by decide) h
    hpast _ _ _).2 ?_⟩
  rw [latestReceipt_busyWorld]
  simp [satI64]

end SauronID.Dsl
