import SauronID.Action.History
import SauronID.Usage.Ledger

/-!
# Budgets of a ring

The rule of a ring may cap the tokens of each pseudonym. Runs of `record_usage` and
`validate_anon_action`, interleaved: once more than the cap is recorded for a pseudonym, its
actions are refused, as long as the ledger can be read. It cannot be read when the query fails,
and when a sum has left the range of `i64`; both count as no usage.
-/

namespace SauronID.Usage

open Conc Text SauronID.Action

variable {F : Type} [Float64 F] (env : Env F)

/-! ## The anonymous path and the budget -/

section Anon

variable {env} {may : May F} {t : History F}

variable (env) in
/-- The rule of a ring was read. -/
def ReadRule (tenant ringId : String) (t : History F) (rule : RingRule F) : Prop :=
  ∃ (s : World F) (r : RingRow), (.select .other, s) ∈ t ∧
    (s.db.rings.find? fun r => r.tenantId == tenant && r.ringId == ringId) = some r ∧
    env.parseRingRule r.ruleJson = .ok rule

variable {tenant ringId : String} {t' : History F}

omit [Float64 F] in
theorem ReadRule.mono {t : History F} {rule : RingRule F} (h : ReadRule env tenant ringId t rule)
    (ht : t <:+ t') : ReadRule env tenant ringId t' rule := by
  obtain ⟨s, r, hs, hr⟩ := h
  exact ⟨s, r, ht.subset hs, hr⟩

theorem getRing_yields : (getRing env tenant ringId).Yields (srvRules may) t fun t' found =>
      ∀ rule ∈ found, ReadRule env tenant ringId t' rule.1 := by
  refine .bind (.attempt (Srv.follows_select fun s =>
    ⟨_, ⟨.inl rfl, trivial, rfl⟩, fun _ => ?_, fun _ _ => Prog.yields_pure nofun⟩))
  cases hr : s.db.rings.find? fun r => r.tenantId == tenant && r.ringId == ringId with
  | none => exact Prog.yields_pure nofun
  | some r =>
    cases hrule : env.parseRingRule r.ruleJson with
    | error e =>
      simp only [hrule]
      exact Prog.yields_fail
    | ok rule =>
      simp only [hrule]
      refine Prog.yields_pure ?_
      rintro _ ⟨⟩
      exact ⟨s, r, .head _, hr, hrule⟩

variable {e : AnonActionEnvelope}

theorem admitByRing_yields {sig : RingSignature} {texts : RingErrors} :
    (admitByRing env e ringId sig texts).Yields (srvRules may) t fun t' rule =>
      ReadRule env e.tenantId ringId t' rule.1 := by
  refine getRing_yields.mapErr.andThen fun t₁ found _ hfound => .okOr fun rule hrule => ?_
  split
  · exact Prog.yields_fail
  · refine listMemberPoints_yields.mapErr.andThen fun t₂ members ht₂ _ => ?_
    refine .rejectIf fun _ => .rejectIf fun _ => Prog.yields_pure ?_
    exact (hfound rule hrule).mono ht₂

theorem admitByAlsoRings_yields (rings : List (String × RingSignature)) :
    (admitByAlsoRings env e rings).Yields (srvRules may) t fun _ _ => True := by
  induction rings generalizing t with
  | nil => exact Prog.yields_pure trivial
  | cons ring rings ih =>
    refine admitByRing_yields.andThen fun t₁ rule _ _ => ?_
    exact ih.andThen fun t₂ versions _ _ => Prog.yields_pure trivial

/-- Whose action it is. -/
def actor (proof : AnonActionProof) : Pseudonym :=
  ⟨proof.envelope.tenantId, proof.envelope.ringId, hexEncode proof.ringSignature.keyImage⟩

/-- What the ledger says of a pseudonym, if it can be read. -/
def readTotals (p : Pseudonym) (s : World F) : ℤ × ℤ × F :=
  ((totalsOf p s.db.usage).bind usageTotals).getD (0, 0, Float64.ofInt 0)

variable (env) in
/-- The ledger was read, and what it said did not exceed the budgets of the rule. -/
def WithinBudget (proof : AnonActionProof) (t : History F) : Prop :=
  ∃ (rule : RingRule F) (s : World F),
    ReadRule env proof.envelope.tenantId proof.envelope.ringId t rule ∧
    (.select (.usage (actor proof).tenantId (actor proof).ringId (actor proof).keyImageHex), s) ∈
      t ∧
    (s.fault = none → budgetExceeded (readTotals (actor proof) s) rule.budgets = none)

variable {proof : AnonActionProof}

theorem WithinBudget.mono {t : History F}
    (h : WithinBudget env proof t) (ht : t <:+ t') : WithinBudget env proof t' := by
  obtain ⟨rule, s, hrule, hs, hwithin⟩ := h
  exact ⟨rule, s, hrule.mono ht, ht.subset hs, hwithin⟩

/-- An action that is accepted was within the budget, as far as the ledger was read. -/
theorem validateAnonAction_yields (hnonces : MayWrite .nonces may)
    (hreceipts : MayWrite .receipts may) {now : ℤ} :
    (validateAnonAction env proof now).Yields (srvRules may) t fun t' _ =>
      WithinBudget env proof t' := by
  refine .ofExcept fun _ _ => admitByRing_yields.andThen fun t₁ rule _ hrule => ?_
  refine (admitByAlsoRings_yields _).andThen fun t₂ also ht₂ _ => ?_
  refine .bind (.mapErr (Srv.yields_scalarOr fun s totals htotals => ?_))
  dsimp only
  split
  · exact Prog.yields_fail
  · next hwithin =>
    have hread : WithinBudget env proof
        ((.select (.usage proof.envelope.tenantId proof.envelope.ringId
          (hexEncode proof.ringSignature.keyImage)), s) :: t₂) := by
      refine ⟨rule.1, s, (hrule.mono ht₂).mono (List.suffix_cons _ _), .head _, fun hf => ?_⟩
      rw [← hwithin, htotals hf]
      rfl
    refine (spendNonce_yields hnonces).andThen fun t₃ _ ht₃ _ => ?_
    refine nextChainPosition_yields.mapErr.andThen fun t₄ position ht₄ _ => ?_
    refine Srv.yields_random fun sDraw => ?_
    refine .bind (.mapErr (Srv.yields_execute fun sStore =>
      ⟨hreceipts _ _ _ rfl, fun _ _ => Prog.yields_pure (hread.mono ?_)⟩))
    exact (ht₃.trans ht₄).trans ((List.suffix_cons _ _).trans (List.suffix_cons _ _))

end Anon

/-! ## Runs -/

/-- The requests that count usage and that are bounded by it. -/
inductive BudgetCall where
  | record (receiptId modelId : String) (inTokens outTokens now : ℤ)
  | act (proof : AnonActionProof) (now : ℤ)

def BudgetCall.prog : BudgetCall → Srv F AppError Unit
  | record receiptId modelId inTokens outTokens now => do
    let _ ← recordUsage env receiptId modelId inTokens outTokens now
  | act proof now => do let _ ← validateAnonAction env proof now

/-- The requests run together from `start`. -/
def budgetRun (start : World F) (calls : List BudgetCall) (sched : List Event) :
    SrvConfig F AppError Unit :=
  (Config.init start (calls.map (BudgetCall.prog env))).run sched

/-- Counts that are added are not negative. -/
def budgetMay (_ : History F) (w : Write F) (_ : World F) : Prop :=
  match w with
  | .addUsage row => Nonneg row
  | _ => True

variable {env}

omit [Float64 F] in
theorem mayWrite_budgetMay {table : Table} (h : table ≠ .usage) :
    MayWrite (F := F) table budgetMay := by
  intro t w s hw
  cases w with
  | addUsage row => exact absurd hw.symm h
  | _ => trivial

theorem BudgetCall.prog_yields (call : BudgetCall) :
    (call.prog env).Yields (srvRules budgetMay) [] fun t _ =>
      ∀ proof now, call = .act proof now → WithinBudget env proof t := by
  cases call with
  | record receiptId modelId inTokens outTokens now =>
    refine (recordUsage_yields (fun _ _ _ _ _ => trivial) fun _ _ _ _ _ _ h _ => h).andThen
      fun t _ _ _ => Prog.yields_pure nofun
  | act proof now =>
    refine (validateAnonAction_yields (mayWrite_budgetMay nofun)
      (mayWrite_budgetMay nofun)).andThen fun t _ _ h => Prog.yields_pure ?_
    rintro _ _ ⟨⟩
    exact h

/-- No request of the pool changes the rules of the rings. -/
theorem rings_invariant {may : ℕ → May F} (start : World F) (C : LogEntry F → RunLog F → Prop) :
    TraceInvariant (fun i => srvRules (may i)) C fun s _ => s.db.rings = start.db.rings where
  tick _ h := h
  step h _ heff _ := (Label.Effect.sameOff heff).rings.trans h

/-- The cap of a rule on one kind of tokens is exceeded. -/
def Exceeds (cap : Option ℤ) (n : ℤ) : Prop := ∃ c, cap = some c ∧ c < n

/-- Totals over a cap exceed the budgets. -/
theorem budgetExceeded_ne_none {totals : ℤ × ℤ × F} {budgets : RingBudgets F}
    (h : Exceeds budgets.inputTokens totals.1 ∨ Exceeds budgets.outputTokens totals.2.1) :
    budgetExceeded totals budgets ≠ none := by
  intro hnone
  simp only [budgetExceeded, Option.orElse_eq_orElse, Option.orElse_eq_or, Option.or_eq_none_iff]
    at hnone
  obtain ⟨⟨-, hin⟩, hout⟩ := hnone
  rcases h with ⟨cap, hcap, hlt⟩ | ⟨cap, hcap, hlt⟩
  · simp [hcap, hlt] at hin
  · simp [hcap, hlt] at hout

/-- Totals in range are read as they are. -/
theorem readTotals_of_holds {p : Pseudonym} {m n : ℤ} {s : World F} (h : Holds p m n s.db.usage) :
    (readTotals p s).1 = m ∧ (readTotals p s).2.1 = n := by
  unfold Holds at h
  unfold readTotals
  cases ht : totalsOf p s.db.usage with
  | none =>
    rw [ht] at h
    obtain ⟨rfl, rfl⟩ := h
    exact ⟨rfl, rfl⟩
  | some r =>
    rw [ht] at h
    simp [usageTotals, h.1, h.2, IntCell.toI64]

variable (env) in
/-- **Budgets are enforced.** Once the tokens recorded for a pseudonym exceed the cap of the
ring's rule, no action of the pseudonym that starts later is accepted, if it can read the
ledger and what has been recorded is still an `i64`. -/
theorem over_budget_refused (start : World F) (calls : List BudgetCall) (es fs : List Event)
    {j : ℕ} {proof : AnonActionProof} {now : ℤ} (hcall : calls[j]? = some (.act proof now))
    {m n : ℤ} (hm : 0 ≤ m) (hn : 0 ≤ n) (hstart : Holds (actor proof) m n start.db.usage)
    {r : RingRow} {rule : RingRule F}
    (hring : (start.db.rings.find? fun r => r.tenantId == proof.envelope.tenantId &&
      r.ringId == proof.envelope.ringId) = some r)
    (hrule : env.parseRingRule r.ruleJson = .ok rule)
    (hover : Exceeds rule.budgets.inputTokens
        (recorded (·.inputTokens) (actor proof) m (budgetRun env start calls es).log) ∨
      Exceeds rule.budgets.outputTokens
        (recorded (·.outputTokens) (actor proof) n (budgetRun env start calls es).log))
    (hlater : ∀ e ∈ (budgetRun env start calls es).log, e.thread ≠ j)
    (hread : ∀ e ∈ (budgetRun env start calls (es ++ fs)).log, e.thread = j →
      e.label = .select (.usage (actor proof).tenantId (actor proof).ringId
        (actor proof).keyImageHex) → e.before.fault = none)
    (hrange : InRange (actor proof) m n (budgetRun env start calls (es ++ fs)).log) :
    (budgetRun env start calls (es ++ fs)).result j ≠ some (.ok ()) := by
  intro hok
  have hledger : TraceInvariant (fun _ => srvRules (F := F) budgetMay) (fun _ _ => True)
      (LedgerSum (actor proof) m n) :=
    ledgerSum_invariant (fun _ _ _ _ h => h) (actor proof) hm hn _
  obtain ⟨⟨⟨⟨hrows, -⟩, -⟩, hpast⟩, hpost⟩ :=
    (hledger.and (rings_invariant start _)).throughout.run_calls
      (fun i call (_ : calls[i]? = some call) => call.prog_yields)
      ⟨⟨ledgerSum_nil hstart, rfl⟩, List.forall_mem_nil _⟩ (es ++ fs) (LogOk.of_true _)
  obtain ⟨rule', s, ⟨sRule, r', hsRule, hr', hrule'⟩, hs, hwithin⟩ :=
    hpost j _ () hcall hok proof now rfl
  -- the rule that was read is the one of the start
  obtain ⟨-, -, -, hrings⟩ := hpast _ (mem_threadTrace.1 hsRule)
  rw [hrings, hring] at hr'
  cases hr'
  cases hrule.symm.trans hrule'
  -- the ledger was read after the cap was exceeded, and it held the sums at that time
  obtain ⟨older, hsuffix, ⟨hall, hholds⟩, -⟩ := hpast _ (mem_threadTrace.1 hs)
  have hes : (budgetRun env start calls es).log <:+ older := by
    refine suffix_of_notMem hsuffix ?_ fun he => hlater _ he rfl
    rw [budgetRun, Config.run_append]
    exact Config.log_suffix_run _ fs
  have hend : older <:+ (budgetRun env start calls (es ++ fs)).log :=
    (List.suffix_cons _ _).trans hsuffix
  have hrange' : InRange (actor proof) m n older :=
    ⟨(recorded_mono hend fun x hx => (hrows x hx).1).trans_lt hrange.1,
      (recorded_mono hend fun x hx => (hrows x hx).2).trans_lt hrange.2⟩
  obtain ⟨htotal, htotal'⟩ := readTotals_of_holds (hholds hrange')
  refine budgetExceeded_ne_none ?_ (hwithin (hread _ (mem_threadTrace.1 hs) rfl rfl))
  rw [htotal, htotal']
  refine hover.imp ?_ ?_
  · rintro ⟨cap, hcap, hlt⟩
    exact ⟨cap, hcap, hlt.trans_le (recorded_mono hes fun x hx => (hall x hx).1)⟩
  · rintro ⟨cap, hcap, hlt⟩
    exact ⟨cap, hcap, hlt.trans_le (recorded_mono hes fun x hx => (hall x hx).2)⟩

/-! ## An action over the budget -/

/-- The pseudonym `00` reads. -/
def anonRead : AnonActionProof where
  envelope :=
    { tenantId := "default", ringId := "ring", alsoRingIds := [], action := "read",
      resource := "", merchantId := "", amountMinor := 0, currency := "", configDigest := "",
      nonce := "nonce-0123456789", expiresAt := 100 }
  ringSignature := ⟨[], [], [0]⟩
  alsoRingSignatures := []

/-- The requests: the counts are reported, and the pseudonym reads. -/
def reportsThenRead (counts : List ℤ) : List BudgetCall :=
  counts.map (fun n => .record "ar_1" "model" n 0 5) ++ [.act anonRead 5]

/-- The reports one after the other. -/
def reportAll (counts : List ℤ) : List Event :=
  (List.range counts.length).flatMap fun i => List.replicate 5 (.step i)

/-- After all reports and some steps of the read. -/
@[irreducible] def readAfter (faults : List (Option String)) (counts : List ℤ) (steps : ℕ) :
    SrvConfig ℚ AppError Unit :=
  budgetRun usageEnv { usageWorld with faults := faults } (reportsThenRead counts)
    (reportAll counts ++ List.replicate steps (.step counts.length))

/-- More than the cap of 10 tokens is recorded before the read begins, and it is accepted: when
its query of the ledger fails, and when the sum is no `i64`. -/
theorem over_budget_accepted :
    (recorded (·.inputTokens) (actor anonRead) 0
        (readAfter (List.replicate 6 none ++ [some "disk I/O error"]) [11] 0).log = 11 ∧
      (readAfter (List.replicate 6 none ++ [some "disk I/O error"]) [11] 9).result 1 =
        some (.ok ())) ∧
      recorded (·.inputTokens) (actor anonRead) 0 (readAfter [] [2 ^ 63 - 1, 1] 0).log = 2 ^ 63 ∧
      (readAfter [] [2 ^ 63 - 1, 1] 9).result 2 = some (.ok ()) := by
  decide +kernel

/-- 11 tokens are recorded, and the read is refused. -/
theorem eleven_tokens_refused :
    (readAfter [] [11] 9).result 0 = some (.ok ()) ∧
      (readAfter [] [11] 9).result 1 ≠ some (.ok ()) := by
  have hrun : (readAfter [] [11] 9).result 0 = some (.ok ()) ∧
      10 < recorded (·.inputTokens) (actor anonRead) 0 (readAfter [] [11] 0).log ∧
      (∀ e ∈ (readAfter [] [11] 0).log, e.thread ≠ 1) ∧
      (∀ e ∈ (readAfter [] [11] 9).log, e.before.fault = none) ∧
      recorded (·.inputTokens) (actor anonRead) 0 (readAfter [] [11] 9).log < 2 ^ 63 ∧
      recorded (·.outputTokens) (actor anonRead) 0 (readAfter [] [11] 9).log < 2 ^ 63 := by
    decide +kernel
  obtain ⟨hreported, hover, hlater, hread, hrange⟩ := hrun
  refine ⟨hreported, ?_⟩
  unfold readAfter at hover hlater hread hrange ⊢
  exact over_budget_refused usageEnv _ (reportsThenRead [11]) (reportAll [11]) _
    (show (reportsThenRead [11])[1]? = some (.act anonRead 5) from rfl) le_rfl le_rfl ⟨rfl, rfl⟩
    rfl rfl
    (.inl ⟨10, rfl, by simpa using hover⟩) (by simpa using hlater) (fun e he _ _ => hread e he)
    hrange

end SauronID.Usage
