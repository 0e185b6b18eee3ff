import SauronID.Policy.Gate

/-!
# What a failed read can hide from the gate

The gate refuses when the binding, the total spend or the receipts cannot be read. The
daily spend and the in-flight count count as zero when they cannot be read, so a
failure of one of these two reads lets an action through whose only obstacle was the
daily budget or the concurrency cap. `gate_fail_closed_iff` says that this is the only
way a failure can turn a refusal into an admission.
-/

namespace SauronID.Dsl

open Conc Text

variable {F : Type} [Float64 F]

/-! ## Which checks read a fact that falls back to zero -/

def RuntimeCheck.readsDefaulted : RuntimeCheck F → Bool
  | dailyBudget _ | concurrency _ => true
  | _ => false

variable {engine : Engine F}

/-- Every other check judges without the daily spend and the in-flight count. -/
theorem RuntimeCheck.evaluate_of_not_readsDefaulted {c : RuntimeCheck F}
    (hc : c.readsDefaulted = false) (ctx : EvaluationContext F) (daily : F) (inFlight : ℕ) :
    c.evaluate engine { ctx with dailySpendUsd := daily, inFlightActions := inFlight } =
      c.evaluate engine ctx := by
  cases c with
  | dailyBudget _ | concurrency _ => cases hc
  | expression src expr binding =>
    have hsame : EvalEnv.Same ⟨ctx.action, ctx, binding, ctx.nowEpoch⟩
        ⟨ctx.action, { ctx with dailySpendUsd := daily, inFlightActions := inFlight }, binding,
          ctx.nowEpoch⟩ := ⟨rfl, rfl, rfl, rfl⟩
    simp only [RuntimeCheck.evaluate, evalPredicate_congr hsame]
  | _ => rfl

/-- A policy allows when its daily budget and its concurrency cap are kept and every
other check allows. -/
theorem evaluate_eq_allow {p : CompiledPolicy engine}
    {ctx : EvaluationContext F} : evaluate p ctx = .allow ↔
      (∀ c ∈ p.checks, c.readsDefaulted = false → c.evaluate engine ctx = .allow) ∧
      (∀ cap, p.raw.binding.dailyBudgetUsd = some cap →
        Float64.lt cap (Float64.add ctx.dailySpendUsd ctx.action.amountOrZero) = false) ∧
      ∀ n, p.raw.binding.maxConcurrent = some n → ctx.inFlightActions < n := by
  have hdaily (cap : F) : (RuntimeCheck.dailyBudget cap).evaluate engine ctx = .allow ↔
      Float64.lt cap (Float64.add ctx.dailySpendUsd ctx.action.amountOrZero) = false := by
    simp [RuntimeCheck.evaluate, amountCap, denyIf]
  have hconc (n : ℕ) : (RuntimeCheck.concurrency (F := F) n).evaluate engine ctx = .allow ↔
      ctx.inFlightActions < n := by
    simp [RuntimeCheck.evaluate, denyIf]
  rw [evaluate, evaluateChecks_eq_allow]
  constructor
  · intro h
    exact ⟨fun c hc _ => h c hc, fun cap hcap => (hdaily cap).1 (h _ (p.dailyBudget_mem.2 hcap)),
      fun n hn => (hconc n).1 (h _ (p.concurrency_mem.2 hn))⟩
  · rintro ⟨hother, hcap, hn⟩ c hc
    cases c with
    | dailyBudget cap => exact (hdaily cap).2 (hcap cap (p.dailyBudget_mem.1 hc))
    | concurrency n => exact (hconc n).2 (hn n (p.concurrency_mem.1 hc))
    | _ => exact hother _ hc rfl

/-! ## What the gate decides -/

section Gate

variable (env : Env F) (tenant agentId : String) (action : Action F) (s : World F)

/-- The context of the action in the state `s`, every fact as the database has it. -/
def trueContext (policyId : String) (p : CompiledPolicy env.engine) : EvaluationContext F :=
  let now := s.nowSecs
  let clock := policyWallClock env.engine p.raw now
  contextOf action (spendTotal tenant agentId s.db policyId) now clock
    (.ofReads now (receiptTimes tenant agentId s.db (satI64 (now - 7 * 24 * 60 * 60)))
      (dailySpend tenant agentId s.db policyId clock.dayStartEpoch)
      (inFlightCount tenant agentId s.db now))

/-- The context the gate builds in the state `s`: zero for the daily spend and for the
in-flight count when their reads, the fourth and the fifth, fail. -/
def seenContext (policyId : String) (p : CompiledPolicy env.engine) : EvaluationContext F :=
  let ctx := trueContext env tenant agentId action s policyId p
  { ctx with
    dailySpendUsd := if (s.faultAt 3).isSome then Float64.ofInt 0 else ctx.dailySpendUsd
    inFlightActions := if (s.faultAt 4).isSome then 0 else ctx.inFlightActions }

theorem contextOf_seen (policyId : String) (p : CompiledPolicy env.engine) :
    contextOf action (spendTotal tenant agentId s.db policyId) s.nowSecs
        (policyWallClock env.engine p.raw s.nowSecs) (.ofReads s.nowSecs
          (receiptTimes tenant agentId s.db (satI64 (s.nowSecs - 7 * 24 * 60 * 60)))
          (if (s.faultAt 3).isSome then Float64.ofInt 0 else dailySpend tenant agentId s.db policyId
              (policyWallClock env.engine p.raw s.nowSecs).dayStartEpoch)
          (if (s.faultAt 4).isSome then 0 else inFlightCount tenant agentId s.db s.nowSecs)) =
      seenContext env tenant agentId action s policyId p := by
  unfold seenContext
  cases s.faultAt 4 <;> rfl

/-- The facts of an agent out of three reads. -/
theorem loadAgentRuntimeFacts_exec (policyId : String) (now dayStart : ℤ) :
    ((loadAgentRuntimeFacts tenant agentId policyId now dayStart).exec s) =
      (match s.fault with
        | some e => (.error (.internal e), s.spendFault)
        | none =>
          (.ok (.ofReads now (receiptTimes tenant agentId s.db (satI64 (now - 7 * 24 * 60 * 60)))
            (if (s.faultAt 1).isSome then Float64.ofInt 0
              else dailySpend tenant agentId s.db policyId dayStart)
            (if (s.faultAt 2).isSome then 0 else inFlightCount tenant agentId s.db now)),
          s.spendFault.spendFault.spendFault)) := by
  unfold loadAgentRuntimeFacts
  rw [Prog.exec_bind, Prog.exec_mapErr, Srv.exec_select]
  cases s.fault with
  | some e => rfl
  | none =>
    simp only [Except.mapError]
    rw [Prog.exec_bind, Srv.exec_scalarOr]
    simp only
    rw [Prog.exec_bind, Srv.exec_scalarOr]
    simp [World.fault_eq_faultAt]

/-- What the five reads come to. -/
def outcomeSeen : Except AppError BoundPolicyOutcome :=
  if agentId = "" then .error (.badRequest "agent_id required")
  else
    match s.faultAt 0, boundPolicyId tenant agentId s.db with
    | some e, _ => .error (.internal s!"binding lookup: {e}")
    | none, none => .ok .noBinding
    | none, some policyId =>
      match env.policyStore tenant policyId with
      | none => .ok (.policyUnavailable policyId)
      | some p =>
        match s.faultAt 1, s.faultAt 2 with
        | some e, _ => .error (.internal s!"ledger backend: {e}")
        | none, some e => .error (.internal e)
        | none, none =>
          match evaluate p (seenContext env tenant agentId action s policyId p) with
          | .allow => .ok (.allow policyId)
          | .deny check reason => .ok (.deny policyId check reason)

theorem enforceBoundPolicyWithHandles_exec :
    ((enforceBoundPolicyWithHandles env tenant agentId action).exec s).1 =
      outcomeSeen env tenant agentId action s := by
  unfold enforceBoundPolicyWithHandles outcomeSeen
  by_cases hid : agentId = ""
  · simp [hid, Prog.rejectIf, Prog.fail]
  rw [Prog.rejectIf, if_neg hid, if_neg hid, Prog.exec_bind, Prog.pure_eq, Prog.exec_done]
  simp only
  rw [Prog.exec_bind, Prog.exec_mapErr, Srv.exec_select, World.fault_eq_faultAt]
  cases h₀ : s.faultAt 0 with
  | some e => rfl
  | none =>
    simp only [Except.mapError]
    cases hbound : boundPolicyId tenant agentId s.db with
    | none => rfl
    | some policyId =>
      cases hstore : env.policyStore tenant policyId with
      | none => simp [hstore]
      | some p =>
        simp only [hstore]
        rw [Prog.exec_bind, Prog.exec_mapErr, Srv.exec_select, World.fault_eq_faultAt,
          World.spendFault_faultAt]
        cases h₁ : s.faultAt 1 with
        | some e => rfl
        | none =>
          simp only [Except.mapError]
          rw [Prog.exec_bind, Srv.nowSecs, Prog.atomic, Prog.exec_step, Prog.pure_eq,
            Prog.exec_done]
          simp only [id]
          rw [Prog.exec_bind, loadAgentRuntimeFacts_exec, World.fault_eq_faultAt]
          simp only [World.spendFault_faultAt]
          cases h₂ : s.faultAt 2 with
          | some e => rfl
          | none =>
            simp only [World.spendFault_db, World.spendFault_nowSecs, Nat.reduceAdd,
              contextOf_seen, Srv.judged, Prog.atomic, Prog.step_bind, Prog.exec_step,
              Prog.pure_eq, Prog.done_ok_bind]
            cases evaluate p (seenContext env tenant agentId action s policyId p) <;> rfl

variable {env} in
theorem gate_exec (henf : env.policyMode = .enforce) :
    ((gateActionOnBoundPolicy env tenant agentId action).exec s).1 =
      enforceOutcome env (outcomeSeen env tenant agentId action s) := by
  rw [gateActionOnBoundPolicy, henf, ← enforceBoundPolicyWithHandles_exec]
  simp only
  rw [Prog.exec_bind, Prog.exec_attempt]
  rfl

/-- The gate lets an action through when the reads it insists on succeed and the agent is
unbound without having to be bound, or its policy allows on what the gate sees. -/
theorem gate_ok_iff (henf : env.policyMode = .enforce) :
    ((gateActionOnBoundPolicy env tenant agentId action).exec s).1 = .ok () ↔
      agentId ≠ "" ∧ s.faultAt 0 = none ∧
      ((boundPolicyId tenant agentId s.db = none ∧ env.requireBinding = false) ∨
        ∃ policyId p, boundPolicyId tenant agentId s.db = some policyId ∧
          env.policyStore tenant policyId = some p ∧ s.faultAt 1 = none ∧ s.faultAt 2 = none ∧
          evaluate p (seenContext env tenant agentId action s policyId p) = .allow) := by
  rw [gate_exec tenant agentId action s henf, outcomeSeen]
  by_cases hid : agentId = ""
  · simp [hid, enforceOutcome]
  cases s.faultAt 0 with
  | some e => simp [hid, enforceOutcome]
  | none =>
    cases boundPolicyId tenant agentId s.db with
    | none => simp [hid, enforceOutcome]
    | some policyId =>
      cases hstore : env.policyStore tenant policyId with
      | none => simp [hid, enforceOutcome, hstore]
      | some p =>
        cases s.faultAt 1 with
        | some e => simp [hid, enforceOutcome, hstore]
        | none =>
          cases s.faultAt 2 with
          | some e => simp [hid, enforceOutcome, hstore]
          | none =>
            cases hv : evaluate p (seenContext env tenant agentId action s policyId p) <;>
              simp [hid, enforceOutcome, hstore, hv]

variable {policyId : String} {p : CompiledPolicy env.engine}

variable {env s} in
/-- When no read fails, the gate of a bound agent decides as its policy does on the facts. -/
theorem gate_ok_iff_of_reliable (henf : env.policyMode = .enforce) (hid : agentId ≠ "")
    (hs : s.Reliable) (hbound : boundPolicyId tenant agentId s.db = some policyId)
    (hstore : env.policyStore tenant policyId = some p) :
    ((gateActionOnBoundPolicy env tenant agentId action).exec s).1 = .ok () ↔
      evaluate p (trueContext env tenant agentId action s policyId p) = .allow := by
  have hseen : seenContext env tenant agentId action s policyId p =
      trueContext env tenant agentId action s policyId p := by
    simp [seenContext, hs 3, hs 4]
  simp [gate_ok_iff env tenant agentId action s henf, hid, hs _, hbound, hstore, hseen]

/-- On the facts and on what the gate sees, the checks that do not read the daily spend
or the in-flight count judge alike. -/
theorem evaluate_seen {c : RuntimeCheck F} (hc : c.readsDefaulted = false) :
    c.evaluate env.engine (seenContext env tenant agentId action s policyId p) =
      c.evaluate env.engine (trueContext env tenant agentId action s policyId p) :=
  RuntimeCheck.evaluate_of_not_readsDefaulted hc _ _ _

/-- The first three reads succeed and every check but the daily budget and the
concurrency cap allows. Those two pass on what the gate sees, but one of them does not
pass on the facts, and the read it depends on failed. -/
def FailsOpen : Prop :=
  agentId ≠ "" ∧ s.faultAt 0 = none ∧ s.faultAt 1 = none ∧ s.faultAt 2 = none ∧
  ∃ policyId p, boundPolicyId tenant agentId s.db = some policyId ∧
    env.policyStore tenant policyId = some p ∧
    let facts := trueContext env tenant agentId action s policyId p
    let seen := seenContext env tenant agentId action s policyId p
    let limits := p.raw.binding
    (∀ c ∈ p.checks, c.readsDefaulted = false → c.evaluate env.engine facts = .allow) ∧
    (∀ cap, limits.dailyBudgetUsd = some cap →
      Float64.lt cap (Float64.add seen.dailySpendUsd action.amountOrZero) = false) ∧
    (∀ n, limits.maxConcurrent = some n → seen.inFlightActions < n) ∧
    (((s.faultAt 3).isSome ∧ ∃ cap, limits.dailyBudgetUsd = some cap ∧
        Float64.lt cap (Float64.add facts.dailySpendUsd action.amountOrZero) = true) ∨
      ((s.faultAt 4).isSome ∧ ∃ n, limits.maxConcurrent = some n ∧ n ≤ facts.inFlightActions))

variable {env tenant agentId action s} in
/-- The failing states are those in which the gate admits on what it sees and would
refuse on the facts. -/
theorem failsOpen_iff : FailsOpen env tenant agentId action s ↔
      agentId ≠ "" ∧ s.faultAt 0 = none ∧ s.faultAt 1 = none ∧ s.faultAt 2 = none ∧
      ∃ policyId p, boundPolicyId tenant agentId s.db = some policyId ∧
        env.policyStore tenant policyId = some p ∧
        evaluate p (seenContext env tenant agentId action s policyId p) = .allow ∧
        evaluate p (trueContext env tenant agentId action s policyId p) ≠ .allow := by
  unfold FailsOpen
  refine and_congr_right fun _ => and_congr_right fun _ => and_congr_right fun _ =>
    and_congr_right fun _ => exists_congr fun policyId => exists_congr fun p =>
      and_congr_right fun _ => and_congr_right fun _ => ?_
  have hsame (c : RuntimeCheck F) (hc : c.readsDefaulted = false) :
      c.evaluate env.engine (seenContext env tenant agentId action s policyId p) =
        c.evaluate env.engine (trueContext env tenant agentId action s policyId p) :=
    evaluate_seen env tenant agentId action s hc
  rw [evaluate_eq_allow, Ne, evaluate_eq_allow]
  constructor
  · rintro ⟨hother, hdaily, hconc, hhidden⟩
    refine ⟨⟨fun c hc hn => (hsame c hn).trans (hother c hc hn), hdaily, hconc⟩, ?_⟩
    rintro ⟨-, hdaily', hconc'⟩
    rcases hhidden with ⟨-, cap, hcap, hlt⟩ | ⟨-, n, hn, hle⟩
    · exact Bool.noConfusion (hlt.symm.trans (hdaily' cap hcap))
    · exact absurd (hconc' n hn) (not_lt.2 hle)
  · rintro ⟨⟨hother, hdaily, hconc⟩, hdeny⟩
    have hother' := fun c hc hn => (hsame c hn).symm.trans (hother c hc hn)
    refine ⟨hother', hdaily, hconc, ?_⟩
    by_contra hhidden
    -- a limit whose read succeeded is judged on the facts
    refine hdeny ⟨hother', fun cap hcap => ?_, fun n hn => ?_⟩
    · cases hf : (s.faultAt 3).isSome with
      | false => simpa [seenContext, hf] using hdaily cap hcap
      | true =>
        by_contra hlt
        exact hhidden (.inl ⟨hf, cap, hcap, Bool.eq_true_of_not_eq_false hlt⟩)
    · cases hf : (s.faultAt 4).isSome with
      | false => simpa [seenContext, hf] using hconc n hn
      | true =>
        by_contra hlt
        exact hhidden (.inr ⟨hf, n, hn, not_lt.1 hlt⟩)

/-- **Fail closed, but for two reads.** For every pattern of failures the gate admits only
what it would admit without failures, exactly outside the states of `FailsOpen`. -/
theorem gate_fail_closed_iff (henf : env.policyMode = .enforce) :
    (((gateActionOnBoundPolicy env tenant agentId action).exec s).1 = .ok () →
      ((gateActionOnBoundPolicy env tenant agentId action).exec { s with faults := [] }).1 =
        .ok ()) ↔ ¬FailsOpen env tenant agentId action s := by
  rw [gate_ok_iff _ _ _ _ _ henf, gate_ok_iff _ _ _ _ _ henf, failsOpen_iff]
  constructor
  · rintro hclosed ⟨hid, h₀, h₁, h₂, policyId, p, hbound, hstore, hseen, hfacts⟩
    obtain ⟨-, -, ⟨hnone, -⟩ | ⟨_, _, hbound', hstore', -, -, hallow⟩⟩ :=
      hclosed ⟨hid, h₀, .inr ⟨policyId, p, hbound, hstore, h₁, h₂, hseen⟩⟩
    · exact absurd (hbound.symm.trans hnone) nofun
    · cases hbound.symm.trans hbound'
      cases hstore.symm.trans hstore'
      exact hfacts hallow
  · rintro hnot ⟨hid, h₀, ⟨hnone, hreq⟩ | ⟨policyId, p, hbound, hstore, h₁, h₂, hseen⟩⟩
    · exact ⟨hid, rfl, .inl ⟨hnone, hreq⟩⟩
    · refine ⟨hid, rfl, .inr ⟨policyId, p, hbound, hstore, rfl, rfl, ?_⟩⟩
      by_contra hfacts
      exact hnot ⟨hid, h₀, h₁, h₂, policyId, p, hbound, hstore, hseen, hfacts⟩

end Gate

/-! ## A daily budget that is used up -/

/-- A policy with a daily budget of 100 USD and nothing else. -/
def dailyPolicy : CompiledPolicy (sampleEngine ℚ) where
  policyId := "pol_1"
  agent := "agt_1"
  checks := [.dailyBudget 100]
  raw := { version := "1", agent := "agt_1", binding := { dailyBudgetUsd := some 100 },
           invariants := [] }
  compiled := rfl

def dailyEnv : Env ℚ := { sampleEnv ℚ with policyStore := fun _ _ => some dailyPolicy }

/-- The agent is bound to the policy and has spent its 100 USD of today. -/
def spentWorld : World ℚ :=
  let db := { Db.empty ℚ with
    bindings := [⟨"default", "agt_1", "pol_1"⟩]
    spendLog := [⟨"splog_1", "default", "pol_1", "agt_1", 100, 0, "sdk_flush"⟩] }
  World.steady db 1000

/-- The read of the daily spend, the fourth, fails. -/
def lostDailySpend : World ℚ :=
  { spentWorld with faults := [none, none, none, some "database is locked"] }

def spendOne : Action ℚ :=
  { actionId := "act_1", tool := "pay", amountUsd := some 1, timestamp := 1 }

/-- The gate admits one more dollar when it cannot read the spend of the day, and
refuses it when it can. -/
theorem lost_daily_spend_admits :
    ((gateActionOnBoundPolicy dailyEnv "default" "agt_1" spendOne).exec lostDailySpend).1 = .ok () ∧
    ((gateActionOnBoundPolicy dailyEnv "default" "agt_1" spendOne).exec
      { lostDailySpend with faults := [] }).1 ≠ .ok () := by
  decide +kernel

theorem failsOpen_lostDailySpend :
    dailyEnv.policyMode = .enforce ∧
      FailsOpen dailyEnv "default" "agt_1" spendOne lostDailySpend := by
  refine ⟨rfl, not_not.1 fun h => ?_⟩
  have hclosed := (gate_fail_closed_iff dailyEnv "default" "agt_1" spendOne lostDailySpend rfl).2 h
  exact absurd (hclosed (by decide +kernel)) (by decide +kernel)

end SauronID.Dsl
