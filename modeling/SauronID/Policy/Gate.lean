import SauronID.Lib.Order
import SauronID.Model.Env
import SauronID.Model.Rules

/-!
# The gate every action route passes

`gateActionOnBoundPolicy` looks up the policy bound to an agent, gathers the facts its
checks read and lets the action through if the policy allows it. Five reads feed the
decision. Errors of the first three are handed on; the last two, the daily spend and
the in-flight count, fall back to zero.
-/

namespace SauronID.Dsl

open Conc Text

/-! ## The wall clock of a policy -/

/-- The civil date of a day counted from 1970-01-01: year, month and day. -/
def civilDate (days : ℤ) : ℤ × ℤ × ℤ :=
  -- years are counted from March, eras are 400 years
  let z := days + 719468
  let era := z / 146097
  let doe := z % 146097
  let yoe := (doe - doe / 1460 + doe / 36524 - doe / 146096) / 365
  let doy := doe - (365 * yoe + yoe / 4 - yoe / 100)
  let mp := (5 * doy + 2) / 153
  let month := if mp < 10 then mp + 3 else mp - 9
  (yoe + era * 400 + (if month ≤ 2 then 1 else 0), month, doy - (153 * mp + 2) / 5 + 1)

example : civilDate 0 = (1970, 1, 1) := by decide

example : civilDate 19782 = (2024, 2, 29) := by decide

/-- A number with leading zeros. -/
def padded (width : ℕ) (n : ℕ) : String :=
  let digits := toString n
  String.ofList (List.replicate (width - digits.length) '0') ++ digits

/-- `%Y-%m-%d`; a year outside four digits has a sign. -/
def formatDate (date : ℤ × ℤ × ℤ) : String :=
  let (year, month, day) := date
  let sign := if year < 0 then "-" else if 9999 < year then "+" else ""
  sign ++ padded 4 year.natAbs ++ "-" ++ padded 2 month.toNat ++ "-" ++ padded 2 day.toNat

structure PolicyWallClock where
  hhmm : String
  weekday : ℕ
  date : String
  /-- Local midnight. -/
  dayStartEpoch : ℤ
  deriving DecidableEq, Repr

variable {F : Type}

/-- The zone of the time window; an unknown one is UTC. -/
def policyTz (engine : Engine F) (policy : Policy F) : Zone :=
  (engine.zone ((policy.binding.timeWindow.map (·.timezone)).getD "UTC")).getD .utc

def policyWallClock (engine : Engine F) (policy : Policy F) (now : ℤ) : PolicyWallClock :=
  if engine.representable now then
    let tz := policyTz engine policy
    let localSecs := now + tz.offset now
    let day := localSecs / 86400
    let minutes := (localSecs % 86400) / 60
    { hhmm := padded 2 (minutes / 60).toNat ++ ":" ++ padded 2 (minutes % 60).toNat
      weekday := ((day + 4) % 7).toNat
      date := formatDate (civilDate day)
      dayStartEpoch :=
        match tz.fromLocal (day * 86400) with
        | .single t => t
        | .ambiguous _ later => later
        | .none => now }
  else
    -- no business day has number 7, and the empty date is on no blackout list
    { hhmm := "00:00", weekday := 7, date := "", dayStartEpoch := now }

/-! ## The facts the checks read -/

/-- `MAX_RATE_WINDOW_ROWS`. -/
def maxRateWindowRows : ℕ := 20000

structure AgentRuntimeFacts (F : Type) where
  recentCallTimestamps : List ℤ
  weeklyCallTimestamps : List ℤ
  dailySpendUsd : F
  inFlightActions : ℕ
  lastActionAt : Option ℤ

section Queries

variable (tenant agentId : String) (db : Db F)

/-- The policy bound to an agent. -/
def boundPolicyId : Option String :=
  (db.bindings.find? fun r => r.tenantId == tenant && r.agentId == agentId).map (·.policyId)

/-- The times of the agent's receipts after `lower`, newest first. -/
def receiptTimes (lower : ℤ) : List ℤ :=
  (orderBy (fun t => -t) ((db.receipts.filter fun r =>
    r.tenantId == tenant && r.agentId == agentId && decide (lower < r.timestamp)).map
      (·.timestamp))).take maxRateWindowRows

/-- The capabilities the agent holds and may still redeem. -/
def inFlightCount (now : ℤ) : ℤ :=
  (db.capabilities.countP fun r => r.tenantId == tenant && r.agentId == agentId &&
    r.usedAt.isNone && decide (now ≤ r.expiresAt) : ℕ)

variable [Float64 F] (policyId : String)

/-- The lifetime total of the ledger; a missing row is zero. -/
def spendTotal : F :=
  ((db.spendLedger.find? fun r => r.policyId == policyId && r.agentId == agentId &&
    r.periodStart == 0 && r.tenantId == tenant).map (·.totalUsd)).getD (Float64.ofInt 0)

/-- What was spent since `dayStart`. -/
def dailySpend (dayStart : ℤ) : F :=
  (db.spendLog.filter fun r => r.tenantId == tenant && r.policyId == policyId &&
    r.agentId == agentId && decide (dayStart ≤ r.recordedAt)).foldl
      (fun sum r => Float64.add sum r.amountUsd) (Float64.ofInt 0)

end Queries

variable [Float64 F]

/-- The facts out of what the three reads gave. -/
def AgentRuntimeFacts.ofReads (now : ℤ) (weekly : List ℤ) (daily : F) (inFlight : ℤ) :
    AgentRuntimeFacts F where
  recentCallTimestamps := weekly.filter fun t => decide (satI64 (now - 60) < t)
  weeklyCallTimestamps := weekly
  dailySpendUsd := daily
  inFlightActions := clampU32 inFlight
  lastActionAt := weekly.head?

def loadAgentRuntimeFacts (tenant agentId policyId : String) (now dayStart : ℤ) :
    Srv F AppError (AgentRuntimeFacts F) := do
  let weekly ← (Srv.select (.receiptWindow tenant agentId)
    (receiptTimes tenant agentId · (satI64 (now - 7 * 24 * 60 * 60)))).mapErr .internal
  let daily ← Srv.scalarOr (.dailySpend tenant policyId agentId)
    (fun db => some (dailySpend tenant agentId db policyId dayStart)) (Float64.ofInt 0)
  let inFlight ← Srv.scalarOr (.inFlight tenant agentId)
    (fun db => some (inFlightCount tenant agentId db now)) 0
  return .ofReads now weekly daily inFlight

/-- The context an action is judged in. -/
def contextOf (action : Action F) (spend : F) (now : ℤ) (clock : PolicyWallClock)
    (facts : AgentRuntimeFacts F) : EvaluationContext F where
  action := action
  spendTotalUsd := spend
  recentCallTimestamps := facts.recentCallTimestamps
  nowEpoch := now
  nowTzHhmm := clock.hhmm
  dailySpendUsd := facts.dailySpendUsd
  weeklyCallTimestamps := facts.weeklyCallTimestamps
  inFlightActions := facts.inFlightActions
  lastActionAt := facts.lastActionAt
  nowWeekday := clock.weekday
  nowDate := clock.date

/-! ## The gate -/

inductive BoundPolicyOutcome where
  | noBinding
  | policyUnavailable (policyId : String)
  | allow (policyId : String)
  | deny (policyId check reason : String)
  deriving DecidableEq, Repr

variable (env : Env F) (tenant agentId : String) (action : Action F)

/-- `enforce_bound_policy_with_handles`. -/
def enforceBoundPolicyWithHandles : Srv F AppError BoundPolicyOutcome := do
  .rejectIf (agentId = "") (.badRequest "agent_id required")
  let bound ← (Srv.select (.binding tenant agentId) (boundPolicyId tenant agentId)).mapErr
    fun e => .internal s!"binding lookup: {e}"
  match bound with
  | none => return .noBinding
  | some policyId =>
    match env.policyStore tenant policyId with
    | none => return .policyUnavailable policyId
    | some compiled =>
      let spend ← (Srv.select (.spendTotal tenant policyId agentId)
        (spendTotal tenant agentId · policyId)).mapErr fun e => .internal s!"ledger backend: {e}"
      let now ← Srv.nowSecs
      let clock := policyWallClock env.engine compiled.raw now
      let facts ← loadAgentRuntimeFacts tenant agentId policyId now clock.dayStartEpoch
      let verdict := evaluate compiled (contextOf action spend now clock facts)
      Srv.judged tenant agentId policyId verdict.isAllow
      match verdict with
      | .allow => return .allow policyId
      | .deny check reason => return .deny policyId check reason

/-- What the gate makes of the outcome in `Enforce` mode. -/
def enforceOutcome : Except AppError BoundPolicyOutcome → Except AppError Unit
  | .ok (.allow _) => .ok ()
  | .ok (.deny policyId check reason) =>
      .error (.ofStatus 403 s!"policy {policyId} denied {check}: {reason}")
  | .ok (.policyUnavailable policyId) =>
      .error (.ofStatus 503 s!"bound policy {policyId} is unavailable (failing closed)")
  | .ok .noBinding =>
      if env.requireBinding then
        .error (.ofStatus 403 "no bound policy for agent (SAURON_POLICY_REQUIRE_BINDING)")
      else .ok ()
  | .error e =>
      .error (.ofStatus 503 s!"policy enforcement unavailable (failing closed): {e.display}")

def gateActionOnBoundPolicy : Srv F AppError Unit :=
  match env.policyMode with
  | .off => pure ()
  | .advisory => do
      let _ ← (enforceBoundPolicyWithHandles env tenant agentId action).attempt
  | .enforce => do
      let outcome ← (enforceBoundPolicyWithHandles env tenant agentId action).attempt
      .ofExcept (enforceOutcome env outcome)

/-! ## What passing the gate means -/

/-- The action was judged by the policy bound to the agent: the request has looked up the
binding, and if there was one, its policy was evaluated on the action with the total
spend the request has read, and allowed it. -/
def Mediated (t : History F) : Prop :=
  ∃ s, (.select (.binding tenant agentId), s) ∈ t ∧
    ∀ policyId, boundPolicyId tenant agentId s.db = some policyId →
      ∃ p sSpend sJudged ctx, env.policyStore tenant policyId = some p ∧
        (.select (.spendTotal tenant policyId agentId), sSpend) ∈ t ∧
        (.judged tenant agentId policyId true, sJudged) ∈ t ∧
        ctx.action = action ∧
        ctx.spendTotalUsd = spendTotal tenant agentId sSpend.db policyId ∧
        evaluate p ctx = .allow

variable {env tenant agentId action}

theorem Mediated.mono {t t' : History F} (h : Mediated env tenant agentId action t)
    (ht : t <:+ t') : Mediated env tenant agentId action t' := by
  obtain ⟨s, hs, hbound⟩ := h
  refine ⟨s, ht.subset hs, fun policyId hp => ?_⟩
  obtain ⟨p, sSpend, sJudged, ctx, hstore, hspend, hjudged, hctx⟩ := hbound policyId hp
  exact ⟨p, sSpend, sJudged, ctx, hstore, ht.subset hspend, ht.subset hjudged, hctx⟩

/-! ### What the gate has read -/

/-- The worlds in which the gate has made its reads. -/
structure GateReads (F : Type) where
  binding : World F
  spend : World F
  clock : World F
  window : World F
  daily : World F
  inFlight : World F

namespace GateReads

variable (r : GateReads F) (tenant agentId policyId : String)

/-- The statements of the gate, newest first. -/
def history : History F :=
  [(.select (.inFlight tenant agentId), r.inFlight),
    (.select (.dailySpend tenant policyId agentId), r.daily),
    (.select (.receiptWindow tenant agentId), r.window), (.clock, r.clock),
    (.select (.spendTotal tenant policyId agentId), r.spend),
    (.select (.binding tenant agentId), r.binding)]

/-- The in-flight count the gate has read; a read that fails is zero. -/
def inFlightActions : ℤ :=
  if r.inFlight.fault = none then inFlightCount tenant agentId r.inFlight.db r.clock.nowSecs else 0

/-- The facts the gate has read, with what `daily` was read as. -/
def facts (daily : F) : AgentRuntimeFacts F :=
  .ofReads r.clock.nowSecs
    (receiptTimes tenant agentId r.window.db (satI64 (r.clock.nowSecs - 7 * 24 * 60 * 60)))
    daily (r.inFlightActions tenant agentId)

end GateReads

variable (env tenant agentId action) in
/-- The action has passed the gate: the request has looked up the binding, and if there was
one, its policy has allowed the action on the facts that the gate has read, one statement
after the other. -/
def Gated (t : History F) : Prop :=
  ∃ s, (.select (.binding tenant agentId), s) ∈ t ∧
    ∀ policyId, boundPolicyId tenant agentId s.db = some policyId →
      ∃ (p : CompiledPolicy env.engine) (r : GateReads F) (sJudged : World F) (daily : F),
        env.policyStore tenant policyId = some p ∧
        ((.judged tenant agentId policyId true, sJudged) ::
          r.history tenant agentId policyId).Sublist t ∧
        evaluate p (contextOf action (spendTotal tenant agentId r.spend.db policyId)
          r.clock.nowSecs (policyWallClock env.engine p.raw r.clock.nowSecs)
          (r.facts tenant agentId daily)) = .allow

theorem Gated.mono {t t' : History F} (h : Gated env tenant agentId action t) (ht : t <:+ t') :
    Gated env tenant agentId action t' := by
  obtain ⟨s, hs, hbound⟩ := h
  refine ⟨s, ht.subset hs, fun policyId hp => ?_⟩
  obtain ⟨p, r, sJudged, daily, hstore, hreads, hallow⟩ := hbound policyId hp
  exact ⟨p, r, sJudged, daily, hstore, hreads.trans ht.sublist, hallow⟩

theorem Gated.mediated {t : History F} (h : Gated env tenant agentId action t) :
    Mediated env tenant agentId action t := by
  obtain ⟨s, hs, hbound⟩ := h
  refine ⟨s, hs, fun policyId hp => ?_⟩
  obtain ⟨p, r, sJudged, daily, hstore, hreads, hallow⟩ := hbound policyId hp
  refine ⟨p, r.spend, sJudged, _, hstore, hreads.subset ?_, hreads.subset (.head _), rfl, rfl,
    hallow⟩
  simp [GateReads.history]

variable {may : May F} {t : History F}

theorem loadAgentRuntimeFacts_yields {policyId : String} {now dayStart : ℤ} :
    (loadAgentRuntimeFacts tenant agentId policyId now dayStart).Yields (srvRules may) t
      fun t' facts => ∃ (sWindow sDaily sInFlight : World F) (daily : F),
        t' = (.select (.inFlight tenant agentId), sInFlight) ::
          (.select (.dailySpend tenant policyId agentId), sDaily) ::
          (.select (.receiptWindow tenant agentId), sWindow) :: t ∧ facts = .ofReads now
          (receiptTimes tenant agentId sWindow.db (satI64 (now - 7 * 24 * 60 * 60))) daily
          (if sInFlight.fault = none then inFlightCount tenant agentId sInFlight.db now
            else 0) := by
  refine .bind (.mapErr (Srv.yields_select fun sWindow _ => ?_))
  refine .bind (Srv.yields_scalarOr fun sDaily daily _ => ?_)
  exact .bind (Srv.yields_scalarOr_eq fun sInFlight =>
    Prog.yields_pure ⟨sWindow, sDaily, sInFlight, daily, rfl, rfl⟩)

theorem enforceBoundPolicyWithHandles_yields :
    (enforceBoundPolicyWithHandles env tenant agentId action).Yields (srvRules may) t
      fun t' outcome => enforceOutcome env (.ok outcome) = .ok () →
        Gated env tenant agentId action t' := by
  refine .rejectIf fun _ => .bind (.mapErr (Srv.yields_select fun s _ => ?_))
  cases hbound : boundPolicyId tenant agentId s.db with
  | none =>
    refine Prog.yields_pure fun _ => ⟨s, .head _, fun policyId hp => ?_⟩
    rw [hbound] at hp
    cases hp
  | some policyId =>
    dsimp only
    cases hstore : env.policyStore tenant policyId with
    | none => exact Prog.yields_pure nofun
    | some p =>
      dsimp only
      refine .bind (.mapErr (Srv.yields_select fun sSpend _ => ?_))
      refine Srv.yields_nowSecs fun sNow => ?_
      refine loadAgentRuntimeFacts_yields.andThen fun t' facts _ hfacts => ?_
      obtain ⟨sWindow, sDaily, sInFlight, daily, rfl, rfl⟩ := hfacts
      refine Srv.yields_judged fun sJudged => ?_
      let r : GateReads F := ⟨s, sSpend, sNow, sWindow, sDaily, sInFlight⟩
      cases hv : evaluate p (contextOf action (spendTotal tenant agentId sSpend.db policyId)
          sNow.nowSecs (policyWallClock env.engine p.raw sNow.nowSecs)
          (r.facts tenant agentId daily)) with
      | deny check reason =>
        simp only [GateReads.facts, GateReads.inFlightActions] at hv
        rw [hv]
        exact Prog.yields_pure nofun
      | allow =>
        have hallow := hv
        simp only [r, GateReads.facts, GateReads.inFlightActions] at hv
        rw [hv]
        refine Prog.yields_pure fun _ => ⟨s, by simp, fun policyId' hp => ?_⟩
        cases hbound.symm.trans hp
        exact ⟨p, r, sJudged, daily, hstore, List.sublist_append_left _ t, hallow⟩

/-- **The gate.** In `Enforce` mode an action that passes the gate was allowed by the bound
policy on what the gate has read. -/
theorem gate_yields_gated :
    (gateActionOnBoundPolicy env tenant agentId action).Yields (srvRules may) t
      fun t' _ => env.policyMode = .enforce → Gated env tenant agentId action t' := by
  unfold gateActionOnBoundPolicy
  cases hmode : env.policyMode with
  | off => exact Prog.yields_pure nofun
  | advisory =>
    refine .bind (.attempt (Prog.Follows.mono enforceBoundPolicyWithHandles_yields ?_))
    exact fun t' r _ => Prog.yields_pure nofun
  | enforce =>
    refine .bind (.attempt (Prog.Follows.mono enforceBoundPolicyWithHandles_yields ?_))
    intro t' r hr
    cases r with
    | error e => exact Prog.follows_done.2 nofun
    | ok outcome => exact Prog.follows_done.2 fun a ha _ => hr outcome rfl ha

/-- **The gate mediates.** In `Enforce` mode an action that passes the gate was judged by
the bound policy. -/
theorem gate_yields : (gateActionOnBoundPolicy env tenant agentId action).Yields (srvRules may) t
      fun t' _ => env.policyMode = .enforce → Mediated env tenant agentId action t' :=
  gate_yields_gated.mono fun _ _ h henf => (h henf).mediated

/-! ## Runs -/

/-- No statement changes a binding: the table is the same now and at every statement. -/
def BindingsKept (bindings : List BindingRow) (s : World F) (log : RunLog F) : Prop :=
  s.db.bindings = bindings ∧ ∀ e ∈ log, e.before.db.bindings = bindings

theorem bindingsKept {C : LogEntry F → RunLog F → Prop} (may : ℕ → May F)
    (bindings : List BindingRow) :
    TraceInvariant (fun i => srvRules (may i)) C (BindingsKept bindings) where
  tick _ h := h
  step := by
    rintro s log i lbl s' ⟨hs, hlog⟩ - heff -
    refine ⟨(Label.Effect.sameOff heff).bindings.trans hs, fun e he => ?_⟩
    rcases List.mem_cons.1 he with rfl | he
    · exact hs
    · exact hlog e he

end SauronID.Dsl
