import SauronID.Request.Payment

/-!
# Payment authorizations against the budget

Runs of the routes that issue authorizations, redeem them and record spend. The budget
check compares the cap with the spend ledger, and issuing an authorization does not
write the ledger. `issued_le_budget` says what that leaves: the authorizations issued
stay within the cap in every run in which a request stores an authorization only when
the ledger total it has read covers those issued before.
-/

namespace SauronID.Request

open Conc Text SauronID.Action Dsl

variable (env : Env ℚ)

/-- A request to a route of payments or spend. -/
inductive PaymentCall where
  | authorize (tenant : String) (body : AgentPaymentAuthorizeBody)
  | consume (tenant signer authorizationId : String)
  | spend (tenant agentId : String) (body : RecordSpendBody ℚ)

def PaymentCall.prog : PaymentCall → Srv ℚ AppError Unit
  | authorize tenant body => do
    let _ ← agentPaymentAuthorize env tenant body
    return ()
  | consume tenant signer authorizationId => do
    let _ ← agentPaymentConsume tenant signer authorizationId
    return ()
  | spend tenant agentId body => do
    let _ ← recordSpend env tenant agentId body
    return ()

/-- A payment authorization is stored only after the bound policy has judged it. -/
def payMay (t : History ℚ) (w : Write ℚ) (_ : World ℚ) : Prop :=
  match w with
  | .insertPaymentAuth row => PaymentJudged env t row
  | _ => True

theorem payMay_unguarded : Unguarded (payMay env) := by
  rintro t w s hfree
  cases w with
  | insertPaymentAuth row => cases hfree
  | _ => trivial

theorem PaymentCall.prog_yields (call : PaymentCall) :
    (call.prog env).Yields (srvRules (payMay env)) [] fun _ _ => True := by
  cases call with
  | authorize tenant body =>
    exact (agentPaymentAuthorize_yields (payMay_unguarded env) (fun _ _ _ _ _ _ _ => trivial)
      fun _ _ _ h => h).andThen fun _ _ _ _ => Prog.yields_pure trivial
  | consume tenant signer authorizationId =>
    exact (agentPaymentConsume_yields fun _ _ _ _ _ => trivial).andThen
      fun _ _ _ _ => Prog.yields_pure trivial
  | spend tenant agentId body =>
    exact (recordSpend_yields (payMay_unguarded env)).andThen
      fun _ _ _ _ => Prog.yields_pure trivial

/-! ## The issued authorizations -/

/-- The amount of an authorization in US dollars, if it is the agent's. -/
def authUsd (tenant agentId : String) (r : PaymentAuthRow) : ℚ :=
  if r.tenantId = tenant ∧ r.agentId = agentId then (r.amountMinor : ℚ) / 100 else 0

/-- The sum of the agent's authorizations. -/
def issuedUsd (tenant agentId : String) (db : Db ℚ) : ℚ :=
  (db.paymentAuths.map (authUsd tenant agentId)).sum

section Issued

variable {tenant agentId : String} {s : World ℚ}

@[simp] theorem authUsd_redeem (r : PaymentAuthRow) (tenant' authId : String) (now : ℤ) :
    authUsd tenant agentId (r.redeem tenant' authId now) = authUsd tenant agentId r := by
  unfold PaymentAuthRow.redeem
  split <;> rfl

omit s in
/-- Authorizations are stored and redeemed, and nothing else. -/
theorem label_of_table {lbl : Label ℚ} (h : lbl.table = .paymentAuths) :
    (∃ row, lbl = .write (.insertPaymentAuth row)) ∨
      ∃ tenant authId now, lbl = .write (.consumePaymentAuth tenant authId now) := by
  cases lbl with
  | write w =>
    cases w with
    | insertPaymentAuth row => exact .inl ⟨row, rfl⟩
    | consumePaymentAuth tenant authId now => exact .inr ⟨tenant, authId, now, rfl⟩
    | _ => cases h
  | _ => cases h

/-- Redeeming an authorization does not change what has been issued. -/
theorem issuedUsd_consume (tenant' authId : String) (now : ℤ) :
    issuedUsd tenant agentId (s.afterWrite (.consumePaymentAuth tenant' authId now)).db =
      issuedUsd tenant agentId s.db := by
  rcases World.afterWrite_cases s (.consumePaymentAuth tenant' authId now) with
    ⟨e, -, hdb⟩ | ⟨db, n, -, happly, -, hdb⟩
  · rw [hdb]
  · cases happly
    rw [hdb]
    simp [issuedUsd, Function.comp_def]

/-- Storing an authorization adds its amount, or fails. -/
theorem issuedUsd_insert (tenant agentId : String) (s : World ℚ) (row : PaymentAuthRow) :
    issuedUsd tenant agentId (s.afterWrite (.insertPaymentAuth row)).db =
        issuedUsd tenant agentId s.db ∨
      issuedUsd tenant agentId (s.afterWrite (.insertPaymentAuth row)).db =
        issuedUsd tenant agentId s.db + authUsd tenant agentId row := by
  rcases World.afterWrite_cases s (.insertPaymentAuth row) with
    ⟨e, -, hdb⟩ | ⟨db, n, -, happly, -, hdb⟩
  · exact .inl (by rw [hdb])
  · right
    simp only [Write.apply] at happly
    split at happly
    · cases happly
    · split at happly
      · cases happly
      · cases happly
        rw [hdb]
        simp [issuedUsd]

end Issued

/-! ## Runs -/

/-- The entry is the reading of the agent's spend total by its request. -/
def readsSpendTotal (tenant agentId policyId : String) (e : LogEntry ℚ) : Bool :=
  match e.label with
  | .select q => q == .spendTotal tenant policyId agentId
  | _ => false

/-- When an authorization of the agent is stored, the ledger total its request has read
covers the authorizations issued to the agent since `start`. -/
def ledgerCovers (start : World ℚ) (tenant agentId policyId : String)
    (e : LogEntry ℚ) (older : RunLog ℚ) : Bool :=
  match e.label with
  | .write (.insertPaymentAuth row) =>
    !(row.tenantId == tenant && row.agentId == agentId) ||
      older.all fun e' =>
        !(e'.thread == e.thread && readsSpendTotal tenant agentId policyId e') ||
          decide (issuedUsd tenant agentId e.before.db - issuedUsd tenant agentId start.db ≤
            spendTotal tenant agentId e'.before.db policyId)
  | _ => true

/-- What the budget check has compared. -/
theorem le_of_evaluate_allow {engine : Engine ℚ} {p : CompiledPolicy engine} {cap amount : ℚ}
    {ctx : EvaluationContext ℚ} (hcap : p.raw.binding.maxBudgetUsd = some cap)
    (hamount : ctx.action.amountUsd = some amount) (h : evaluate p ctx = .allow) :
    ctx.spendTotalUsd + amount ≤ cap := by
  have hbudget := evaluateChecks_eq_allow.1 h _ (p.budget_mem.2 hcap)
  simpa [RuntimeCheck.evaluate, amountCap, denyIf, Action.amountOrZero, hamount, Float64.lt,
    Float64.add] using hbudget

section Runs

variable {env} {start : World ℚ} {tenant agentId policyId : String}

/-- The bindings are those of the start, and the agent's new authorizations are within
the cap. -/
def WithinBudget (start : World ℚ) (tenant agentId : String) (cap : ℚ) (s : World ℚ)
    (log : RunLog ℚ) : Prop :=
  BindingsKept start.db.bindings s log ∧
    issuedUsd tenant agentId s.db - issuedUsd tenant agentId start.db ≤ cap

variable {p : CompiledPolicy env.engine} {cap : ℚ}

/-- The step that counts: an authorization of the agent is stored. -/
theorem insert_within (henf : env.policyMode = .enforce)
    (hbound : boundPolicyId tenant agentId start.db = some policyId)
    (hstore : env.policyStore tenant policyId = some p)
    (hcap : p.raw.binding.maxBudgetUsd = some cap) {s : World ℚ}
    {log : RunLog ℚ} {i : ℕ} {row : PaymentAuthRow} (hkept : BindingsKept start.db.bindings s log)
    (hcov : ledgerCovers start tenant agentId policyId
      ⟨i, .write (.insertPaymentAuth row), s⟩ log = true)
    (hjudged : PaymentJudged env (threadTrace i log) row)
    (hrow : row.tenantId = tenant ∧ row.agentId = agentId) :
    issuedUsd tenant agentId s.db - issuedUsd tenant agentId start.db +
      authUsd tenant agentId row ≤ cap := by
  obtain ⟨rfl, rfl⟩ := hrow
  obtain ⟨action, hamount, sBind, hread, hmed⟩ := hjudged.2 henf
  have hbound' : boundPolicyId row.tenantId row.agentId sBind.db = some policyId := by
    rwa [boundPolicyId, hkept.2 _ (mem_threadTrace.1 hread)]
  obtain ⟨p', sSpend, -, ctx, hstore', hspend, -, hctx, htotal, hallow⟩ := hmed _ hbound'
  cases hstore.symm.trans hstore'
  have hle := le_of_evaluate_allow hcap (hctx ▸ hamount) hallow
  have hcov' : issuedUsd row.tenantId row.agentId s.db -
      issuedUsd row.tenantId row.agentId start.db ≤ ctx.spendTotalUsd := by
    simp only [ledgerCovers, beq_self_eq_true, Bool.and_self, Bool.not_true, Bool.false_or,
      List.all_eq_true] at hcov
    simpa [readsSpendTotal, htotal] using hcov _ (mem_threadTrace.1 hspend)
  have husd : authUsd row.tenantId row.agentId row = amountUsd row.amountMinor := by
    simp [authUsd, amountUsd, Float64.div, Float64.ofInt]
  rw [husd]
  exact (add_le_add_left hcov' _).trans hle

/-- Statements of payments and spend keep the agent within the cap. -/
theorem withinBudget_invariant (henf : env.policyMode = .enforce)
    (hbound : boundPolicyId tenant agentId start.db = some policyId)
    (hstore : env.policyStore tenant policyId = some p)
    (hcap : p.raw.binding.maxBudgetUsd = some cap) : TraceInvariant (fun _ => srvRules (payMay env))
      (fun e older => ledgerCovers start tenant agentId policyId e older = true)
      (WithinBudget start tenant agentId cap) where
  tick _ h := h
  step := by
    rintro s log i lbl s' ⟨hkept, hle⟩ hcov heff hmay
    have hkept' := (bindingsKept (C := fun _ _ => True) (fun _ => payMay env) _).step hkept
      trivial heff hmay
    refine ⟨hkept', ?_⟩
    -- Only the two statements on the authorizations can change what is issued.
    by_cases htable : lbl.table = .paymentAuths
    · obtain ⟨row, rfl⟩ | ⟨tenant', authId, now, rfl⟩ := label_of_table htable
      · cases heff
        rcases issuedUsd_insert tenant agentId s row with hsame | hadd
        · rwa [hsame]
        · rw [hadd]
          by_cases hrow : row.tenantId = tenant ∧ row.agentId = agentId
          · rw [add_sub_right_comm]
            exact insert_within henf hbound hstore hcap hkept hcov hmay hrow
          · simpa [authUsd, hrow] using hle
      · cases heff
        rwa [issuedUsd_consume]
    · rwa [issuedUsd, (Label.Effect.sameOff heff).paymentAuths htable]

/-- **Budget.** In `Enforce` mode the authorizations issued to an agent whose bound policy
has the cap `cap` add up to at most `cap`, after every schedule. The parser rejects a
negative cap. -/
theorem issued_le_budget (henf : env.policyMode = .enforce) (start : World ℚ)
    {tenant agentId policyId : String}
    (hbound : boundPolicyId tenant agentId start.db = some policyId)
    {p : CompiledPolicy env.engine} (hstore : env.policyStore tenant policyId = some p) {cap : ℚ}
    (hcap : p.raw.binding.maxBudgetUsd = some cap) (hnonneg : 0 ≤ cap)
    (calls : List PaymentCall) (sched : List Event)
    (hlog : LogOk (fun e older => ledgerCovers start tenant agentId policyId e older = true)
      ((Config.init start (calls.map (PaymentCall.prog env))).run sched).log) :
    issuedUsd tenant agentId
        ((Config.init start (calls.map (PaymentCall.prog env))).run sched).world.db -
      issuedUsd tenant agentId start.db ≤ cap := by
  have hinit : WithinBudget start tenant agentId cap start [] :=
    ⟨⟨rfl, List.forall_mem_nil _⟩, by rwa [sub_self]⟩
  exact ((withinBudget_invariant henf hbound hstore hcap).run_calls
    (fun _ call _ => PaymentCall.prog_yields env call) hinit sched hlog).1.2

end Runs

/-! ## A budget of 100 USD -/

def budgetPolicy : CompiledPolicy (sampleEngine ℚ) where
  policyId := "pol_1"
  agent := "agt_1"
  checks := [.budget 100]
  raw := { version := "1", agent := "agt_1", binding := { maxBudgetUsd := some 100 },
           invariants := [] }
  compiled := rfl

def budgetEnv : Env ℚ := { tokenEnv with policyStore := fun _ _ => some budgetPolicy }

/-- The bank's agent is bound to the policy and has two proof-of-possession challenges. -/
def budgetWorld : World ℚ :=
  World.steady { Db.empty ℚ with
    agents := [bankAgent], bindings := [⟨"default", "agt_1", "pol_1"⟩],
    popChallenges := [⟨"pop_1", "agt_1", "c1", 100⟩, ⟨"pop_2", "agt_1", "c1", 100⟩] } 1000

/-- A payment of `minor` cents with the token `token`, whose action is signed for it. -/
def pay (token popId : String) (minor : ℤ) : PaymentCall :=
  .authorize "default"
    { ajwt := token, amountMinor := minor, currency := "USD", paymentRef := "ref",
      merchantId := "", popChallengeId := popId, popJws := samplePopJws "c1",
      agentAction := { sampleProof with
        envelope := { sampleProof.envelope with
          action := "payment_initiation", resource := "ref", amountMinor := minor,
          currency := "USD", nonce := "nonce-0123456789" ++ token, ajwtJti := token } } }

/-- `n` requests one after the other, each to its end. -/
def inTurn (n : ℕ) : List Event :=
  (List.range n).flatMap fun i => List.replicate 40 (.step i)

def budgetRun (calls : List PaymentCall) : SrvConfig ℚ AppError Unit :=
  (Config.init budgetWorld (calls.map (PaymentCall.prog budgetEnv))).run (inTurn calls.length)

theorem two_payments_exceed_budget :
    (budgetRun [pay "t1" "pop_1" 6000, pay "t2" "pop_2" 6000]).result 0 = some (.ok ()) ∧
      (budgetRun [pay "t1" "pop_1" 6000, pay "t2" "pop_2" 6000]).result 1 = some (.ok ()) ∧
      ¬ issuedUsd "default" "agt_1"
          (budgetRun [pay "t1" "pop_1" 6000, pay "t2" "pop_2" 6000]).world.db -
        issuedUsd "default" "agt_1" budgetWorld.db ≤ 100 := by
  decide +kernel

/-- The requests of the witness: the first payment is recorded before the second. -/
def recordedPayments : List PaymentCall :=
  [pay "t1" "pop_1" 6000, .spend "default" "agt_1" ⟨"pol_1", 60⟩, pay "t2" "pop_2" 4000]

theorem recorded_payments_within_budget :
    issuedUsd "default" "agt_1" (budgetRun recordedPayments).world.db = 100 ∧
      issuedUsd "default" "agt_1" (budgetRun recordedPayments).world.db -
        issuedUsd "default" "agt_1" budgetWorld.db ≤ 100 := by
  have henf : budgetEnv.policyMode = .enforce := rfl
  have hbound : boundPolicyId "default" "agt_1" budgetWorld.db = some "pol_1" := by
    decide +kernel
  have hstore : budgetEnv.policyStore "default" "pol_1" = some budgetPolicy := rfl
  have hcap : budgetPolicy.raw.binding.maxBudgetUsd = some 100 := rfl
  refine ⟨by decide +kernel, ?_⟩
  have hnonneg : (0 : ℚ) ≤ 100 := by decide
  unfold budgetRun
  exact issued_le_budget henf budgetWorld hbound hstore hcap hnonneg recordedPayments
    (inTurn recordedPayments.length) (by decide +kernel)

end SauronID.Request
