import Mathlib.Data.List.Destutter
import SauronID.Lib.Order
import SauronID.Model.Tables

/-!
# Audit reports and their scope

A report of a tenant over a period counts receipts, lists the statistics that were submitted,
and sums up the policy violations of the security log. The request may name the agents it is
about. Only the query for the receipts has that filter: the violations and the statistics are
those of the whole tenant. `report_in_scope_iff` says when that makes no difference.

The report is a function of what the queries return; rows come in the order of the table. The
anchors are passed in as the two anchor queries found them, since nothing here compares them.
-/

namespace SauronID.Audit

open Text

variable {F : Type}

/-! ## The report -/

/-- `AuditEvent::PolicyViolation` -/
structure PolicyViolation where
  tenantId : String
  agentId : String
  policyId : String
  check : String
  reason : String
  deriving DecidableEq

inductive AuditError where
  | invalid (message : String)
  | storage (message : String)
  deriving DecidableEq

structure BuildRequest where
  /-- Absent or empty for all agents of the tenant. -/
  agentIds : Option (List String)
  periodStart : ℤ
  periodEnd : ℤ

inductive SectionEvidence (F : Type) where
  | spendBound (circuit : String) (publicInputs : List String) (claim : String)
  | toolAllowlist (allowlist : List String) (attemptedViolations : ℕ)
  | timeWindow (windowStart windowEnd : String) (violations : ℕ)
  | anchorChain (btcRoot : Option String) (btcBlock : Option ℕ) (solanaSig : Option String)
      (solanaSlot : Option ℕ)
  | statsCommitment (metricId : String) (value : F) (nRecords : ℕ) (vkId : String)
  | policyEvaluations (allowed denied : ℕ) (denialBreakdown : List (String × ℕ))
  deriving DecidableEq

inductive SectionVerdict where
  | confirmed
  | partly (gaps : List String)
  | insufficient (reason : String)
  deriving DecidableEq

structure AuditSection (F : Type) where
  heading : String
  statement : String
  evidence : SectionEvidence F
  verdict : SectionVerdict
  deriving DecidableEq

structure AttachedProof where
  circuit : String
  publicInputs : List String
  proofB64 : String
  vkId : String
  deriving DecidableEq

structure AnchorEvidence where
  merkleRoot : String
  bitcoinOtsReceiptB64 : Option String
  bitcoinBlockHeight : Option ℕ
  solanaSignature : Option String
  solanaSlot : Option ℕ
  deriving DecidableEq

structure ComplianceSummary (F : Type) where
  policyIdsEvaluated : List String
  totalActions : ℕ
  allowed : ℕ
  denied : ℕ
  policyViolationRate : F
  deriving DecidableEq

structure AuditReport (F : Type) where
  reportId : String
  tenantId : String
  agentIds : List String
  periodStart : ℤ
  periodEnd : ℤ
  generatedAt : ℤ
  merkleRoot : String
  sections : List (AuditSection F)
  anchors : AnchorEvidence
  zkProofs : List AttachedProof
  rawReceiptsCount : ℕ
  policyComplianceSummary : ComplianceSummary F
  deriving DecidableEq

/-- `saturating_add` of `u32`. -/
def satAddU32 (a b : ℕ) : ℕ := min (a + b) (2 ^ 32 - 1)

/-- `ComplianceSummary::from_counts` -/
def ComplianceSummary.fromCounts [Float64 F] (policyIds : List String) (allowed denied : ℕ) :
    ComplianceSummary F :=
  let total := satAddU32 allowed denied
  { policyIdsEvaluated := policyIds
    totalActions := total
    allowed := allowed
    denied := denied
    policyViolationRate :=
      if total = 0 then Float64.ofInt 0
      else Float64.div (Float64.ofInt denied) (Float64.ofInt total) }

/-! ## The queries -/

/-- `created_at >= start AND created_at <= end` -/
def BuildRequest.covers (req : BuildRequest) (t : ℤ) : Bool :=
  decide (req.periodStart ≤ t) && decide (t ≤ req.periodEnd)

def BuildRequest.canonicalAgents (req : BuildRequest) : List String := req.agentIds.getD []

/-- The receipts of the period, of the agents asked for. -/
def periodReceipts (db : Db F) (tenantId : String) (req : BuildRequest) : List ReceiptRow :=
  db.receipts.filter fun r => r.tenantId == tenantId &&
    (req.canonicalAgents.isEmpty || req.canonicalAgents.contains r.agentId) &&
    req.covers r.timestamp

/-- The rows of `customer_stats` that lie in the period. -/
def inPeriod (tenantId : String) (req : BuildRequest) (r : StatsRow) : Bool :=
  r.tenantId == tenantId && decide (req.periodStart ≤ r.periodStart) &&
    decide (r.periodEnd ≤ req.periodEnd)

/-- `… ORDER BY period_start ASC, metric_id ASC` -/
def periodStats (db : Db F) (tenantId : String) (req : BuildRequest) : List StatsRow :=
  orderBy (fun r => toLex (r.periodStart, r.metricId))
    (db.customerStats.filter (inPeriod tenantId req))

/-- A violation of the tenant in the period, by its columns. -/
def isViolation (tenantId : String) (req : BuildRequest) (r : AuditRow) : Bool :=
  r.tenantId == tenantId && r.eventType == "policy_violation" && req.covers r.timestamp

/-- The violations that can be read; the loop skips the other rows. -/
def periodViolations (readEvent : String → Option PolicyViolation) (db : Db F)
    (tenantId : String) (req : BuildRequest) : List PolicyViolation :=
  (db.audit.filter (isViolation tenantId req)).filterMap fun r => readEvent r.eventJson

/-- What the anchor queries found: root, OTS receipt and height; root, signature and slot. -/
structure AnchorsFound where
  btc : Option (String × Option Bytes × ℕ) := none
  sol : Option (String × String × ℕ) := none

/-! ## The loop over the violations -/

/-- `*map.entry(check).or_insert(0) += 1` -/
def countCheck (check : String) : List (String × ℕ) → List (String × ℕ)
  | [] => [(check, 1)]
  | (c, n) :: rest =>
    if c = check then (c, wrapU32 (n + 1)) :: rest else (c, n) :: countCheck check rest

structure Denials where
  policyIds : List String := []
  breakdown : List (String × ℕ) := []
  denied : ℕ := 0

def Denials.add (d : Denials) (v : PolicyViolation) : Denials where
  policyIds :=
    if v.policyId ≠ "" ∧ v.policyId ∉ d.policyIds then d.policyIds ++ [v.policyId]
    else d.policyIds
  breakdown := countCheck v.check d.breakdown
  denied := satAddU32 d.denied 1

def denialsOf (violations : List PolicyViolation) : Denials := violations.foldl Denials.add {}

def Denials.count (d : Denials) (check : String) : ℕ :=
  ((d.breakdown.find? fun p => p.1 == check).map Prod.snd).getD 0

/-! ## The sections -/

section Sections

variable [Float64 F]

def isSpendMetric (r : StatsRow) : Bool := contains r.metricId "spend" || contains r.metricId "cost"

def statsProof (r : StatsRow) : AttachedProof :=
  ⟨"StatsHonestComputation", [r.merkleRoot, r.metricId], r.proofB64, r.vkId⟩

/-- The proof attached for the spend section. -/
def spendProof (stats : List StatsRow) (r : StatsRow) : AttachedProof :=
  ⟨"ActionSumBound", [r.merkleRoot, r.metricId, toString r.claimedValue],
    ((stats.find? fun r' => r'.metricId == r.metricId).map StatsRow.proofB64).getD "", r.vkId⟩

def spendSection : Option StatsRow → AuditSection F
  | some r =>
    { heading := "Spend Budget Compliance"
      statement := "Spend metric " ++ r.metricId ++ " bounded by ZK proof anchored at " ++
        r.merkleRoot
      evidence := .spendBound "ActionSumBound"
        [r.merkleRoot, r.metricId, toString r.claimedValue, toString r.nRecords]
        ("spend_total (" ++ toString r.claimedValue ++ ") bound proven")
      verdict := .confirmed }
  | none =>
    { heading := "Spend Budget Compliance"
      statement := "No spend-bound proof submitted in this period"
      evidence := .spendBound "ActionSumBound" [] "no proof"
      verdict := .insufficient "no spend stats submission found in period" }

def allowlistSection (d : Denials) : AuditSection F :=
  let n := wrapU32 (d.count "allowlist" + d.count "tool_allowlist")
  { heading := "Tool Allowlist"
    statement := toString n ++ " out-of-allowlist attempts blocked by policy"
    evidence := .toolAllowlist [] n
    verdict := if n = 0 then .confirmed
      else .partly [toString n ++ " denials require operator review"] }

def timeWindowSection (d : Denials) : AuditSection F :=
  let n := d.count "time_window"
  { heading := "Time Window"
    statement := toString n ++ " actions attempted outside declared time window"
    evidence := .timeWindow "" "" n
    verdict := if n = 0 then .confirmed else .partly ["window violations recorded"] }

def anchorSection (found : AnchorsFound) : AuditSection F where
  heading := "Anchor Chain"
  statement := "Latest Bitcoin OTS + Solana memo anchors for the period"
  evidence := .anchorChain (found.btc.map fun b => b.1) (found.btc.map fun b => b.2.2)
    (found.sol.map fun s => s.2.1) (found.sol.map fun s => s.2.2)
  verdict := if found.btc.isSome || found.sol.isSome then .confirmed
    else .insufficient "no anchors landed in period"

def statsSection (r : StatsRow) : AuditSection F :=
  let value : F := Float64.div (Float64.ofInt r.claimedValue) (Float64.ofInt 1000)
  { heading := "Stats Commitment: " ++ r.metricId
    statement := "Tenant claims " ++ r.metricId ++ "=" ++ Float64.display value ++ " over " ++
      toString r.nRecords ++ " records"
    evidence := .statsCommitment r.metricId value (wrapU32 (max r.nRecords 0).toNat) r.vkId
    verdict := .confirmed }

def evaluationsSection (allowed : ℕ) (d : Denials) : AuditSection F where
  heading := "Policy Evaluations"
  statement := toString allowed ++ " allowed, " ++ toString d.denied ++ " denied across " ++
    toString d.policyIds.length ++ " policy ids"
  evidence := .policyEvaluations allowed d.denied d.breakdown
  verdict := if d.denied = 0 then .confirmed
    else .partly [toString d.denied ++ " denials in the period"]

def anchorEvidence (base64 : Bytes → String) (found : AnchorsFound) : AnchorEvidence where
  merkleRoot := ((found.btc.map fun b => b.1).or (found.sol.map fun s => s.1)).getD ""
  bitcoinOtsReceiptB64 := (found.btc.bind fun b => b.2.1).map base64
  bitcoinBlockHeight := found.btc.map fun b => b.2.2
  solanaSignature := found.sol.map fun s => s.2.1
  solanaSlot := found.sol.map fun s => s.2.2

/-- The agents of the report, sorted and without repetitions. -/
def observedAgents (req : BuildRequest) (receipts : List ReceiptRow) : List String :=
  (orderBy id (if req.canonicalAgents.isEmpty then receipts.map fun r => r.agentId
    else req.canonicalAgents)).destutter (· ≠ ·)

/-- What the build takes from outside the database. -/
structure BuildInput where
  readEvent : String → Option PolicyViolation
  base64 : Bytes → String
  found : AnchorsFound
  reportId : String
  now : ℤ

/-- The report from what the queries returned. -/
def assembleReport (input : BuildInput) (tenantId : String) (req : BuildRequest)
    (receipts : List ReceiptRow) (stats : List StatsRow) (violations : List PolicyViolation) :
    AuditReport F :=
  let d := denialsOf violations
  let allowed := wrapU32 receipts.length
  let spend := stats.find? isSpendMetric
  { reportId := input.reportId
    tenantId := tenantId
    agentIds := observedAgents req receipts
    periodStart := req.periodStart
    periodEnd := req.periodEnd
    generatedAt := input.now
    merkleRoot := (anchorEvidence input.base64 input.found).merkleRoot
    sections := [spendSection spend, allowlistSection d, timeWindowSection d,
      anchorSection input.found] ++ stats.map statsSection ++ [evaluationsSection allowed d]
    anchors := anchorEvidence input.base64 input.found
    zkProofs := stats.map statsProof ++ spend.toList.map (spendProof stats)
    rawReceiptsCount := allowed
    policyComplianceSummary := .fromCounts d.policyIds allowed d.denied }

/-- `build_audit_report` -/
def buildAuditReport (input : BuildInput) (db : Db F) (tenantId : String) (req : BuildRequest) :
    Except AuditError (AuditReport F) :=
  if req.periodEnd < req.periodStart then .error (.invalid "period_end < period_start")
  else .ok (assembleReport input tenantId req (periodReceipts db tenantId req)
    (periodStats db tenantId req) (periodViolations input.readEvent db tenantId req))

end Sections

/-! ## The scope of a request -/

section Scope

variable (readEvent : String → Option PolicyViolation) (tenantId : String) (req : BuildRequest)

/-- The row of the statistics is about an agent asked for. -/
def statsInScope (r : StatsRow) : Bool := req.canonicalAgents.contains r.agentId

def violationInScope (v : PolicyViolation) : Bool := req.canonicalAgents.contains v.agentId

/-- The row of the security log is about an agent asked for. -/
def auditInScope (r : AuditRow) : Bool := (readEvent r.eventJson).any (violationInScope req)

/-- Two states hold the same rows of the tenant and period about the agents asked for. -/
structure SameInScope (db db' : Db F) : Prop where
  receipts :
    (db.receipts.filter fun r => r.tenantId == tenantId &&
      req.canonicalAgents.contains r.agentId && req.covers r.timestamp) =
    db'.receipts.filter fun r => r.tenantId == tenantId &&
      req.canonicalAgents.contains r.agentId && req.covers r.timestamp
  stats :
    (db.customerStats.filter fun r => inPeriod tenantId req r && statsInScope req r) =
    db'.customerStats.filter fun r => inPeriod tenantId req r && statsInScope req r
  violations :
    (db.audit.filter fun r => isViolation tenantId req r && auditInScope readEvent req r) =
    db'.audit.filter fun r => isViolation tenantId req r && auditInScope readEvent req r

/-- No statistics and no violations of the tenant and period are about anyone else. -/
structure OnlyInScope (db : Db F) : Prop where
  stats : ∀ r ∈ db.customerStats, inPeriod tenantId req r = true → r.agentId ∈ req.canonicalAgents
  violations : ∀ r ∈ db.audit, isViolation tenantId req r = true →
    ∀ v, readEvent r.eventJson = some v → v.agentId ∈ req.canonicalAgents

/-- The state without the rows about anyone else. -/
def withoutOthers (db : Db F) : Db F :=
  { db with
    customerStats := db.customerStats.filter fun r => !inPeriod tenantId req r || statsInScope req r
    audit := db.audit.filter fun r =>
      !isViolation tenantId req r || (readEvent r.eventJson).all (violationInScope req) }

end Scope

def AuditSection.isAnchor (s : AuditSection F) : Bool :=
  match s.evidence with
  | .anchorChain _ _ _ _ => true
  | _ => false

/-- What a report says apart from the anchors and what is generated for it. -/
structure ReportContent (F : Type) where
  agentIds : List String
  sections : List (AuditSection F)
  zkProofs : List AttachedProof
  rawReceiptsCount : ℕ
  policyComplianceSummary : ComplianceSummary F
  deriving DecidableEq

def AuditReport.content (r : AuditReport F) : ReportContent F where
  agentIds := r.agentIds
  sections := r.sections.filter fun s => !s.isAnchor
  zkProofs := r.zkProofs
  rawReceiptsCount := r.rawReceiptsCount
  policyComplianceSummary := r.policyComplianceSummary

/-- The content of the report, or why there is none. -/
def reportContent [Float64 F] (input : BuildInput) (db : Db F) (tenantId : String)
    (req : BuildRequest) : Except AuditError (ReportContent F) :=
  (buildAuditReport input db tenantId req).map AuditReport.content

section Proofs

variable {readEvent : String → Option PolicyViolation} {tenantId : String} {req : BuildRequest}
  {db db' : Db F}

/-- With agents asked for, the query for the receipts has the filter of the scope. -/
theorem periodReceipts_eq (hS : req.canonicalAgents ≠ []) (db : Db F) :
    periodReceipts db tenantId req = db.receipts.filter fun r => r.tenantId == tenantId &&
      req.canonicalAgents.contains r.agentId && req.covers r.timestamp := by
  have hne : req.canonicalAgents.isEmpty = false := by simpa using hS
  simp only [periodReceipts, hne, Bool.false_or]

theorem filter_periodViolations (db : Db F) :
    (periodViolations readEvent db tenantId req).filter (violationInScope req) =
      (db.audit.filter fun r =>
        isViolation tenantId req r && auditInScope readEvent req r).filterMap
          fun r => readEvent r.eventJson := by
  unfold periodViolations
  induction db.audit with
  | nil => rfl
  | cons r rows ih =>
    by_cases hr : isViolation tenantId req r = true
    · cases hv : readEvent r.eventJson with
      | none => simpa [List.filter_cons, hr, auditInScope, hv] using ih
      | some v =>
        by_cases hin : violationInScope req v = true <;>
          simpa [List.filter_cons, hr, auditInScope, hv, hin] using ih
    · simpa [List.filter_cons, hr] using ih

theorem SameInScope.filter_violations (h : SameInScope readEvent tenantId req db db') :
    (periodViolations readEvent db tenantId req).filter (violationInScope req) =
      (periodViolations readEvent db' tenantId req).filter (violationInScope req) := by
  rw [filter_periodViolations, filter_periodViolations, h.violations]

theorem SameInScope.filter_stats (h : SameInScope readEvent tenantId req db db') :
    (db.customerStats.filter (inPeriod tenantId req)).filter (statsInScope req) =
      (db'.customerStats.filter (inPeriod tenantId req)).filter (statsInScope req) := by
  have hstats := h.stats
  simp only [Bool.and_comm (inPeriod tenantId req _)] at hstats
  simpa only [List.filter_filter] using hstats

theorem mem_periodViolations {v : PolicyViolation} :
    v ∈ periodViolations readEvent db tenantId req ↔
      ∃ r ∈ db.audit, isViolation tenantId req r = true ∧ readEvent r.eventJson = some v := by
  simp [periodViolations, and_assoc]

/-- In terms of what the queries return. -/
theorem onlyInScope_iff : OnlyInScope readEvent tenantId req db ↔
    (∀ r ∈ db.customerStats.filter (inPeriod tenantId req), statsInScope req r = true) ∧
      ∀ v ∈ periodViolations readEvent db tenantId req, violationInScope req v = true := by
  simp only [statsInScope, violationInScope, List.contains_iff_mem, List.mem_filter,
    mem_periodViolations]
  constructor
  · intro h
    refine ⟨fun r hr => h.stats r hr.1 hr.2, ?_⟩
    rintro v ⟨r, hr, hviolation, hv⟩
    exact h.violations r hr hviolation v hv
  · intro h
    exact ⟨fun r hr hin => h.1 r ⟨hr, hin⟩,
      fun r hr hviolation v hv => h.2 v ⟨r, hr, hviolation, hv⟩⟩

/-- States without rows about others, and with the same rows in scope, answer the queries
alike. -/
theorem SameInScope.queries (h : SameInScope readEvent tenantId req db db')
    (hS : req.canonicalAgents ≠ []) (hdb : OnlyInScope readEvent tenantId req db)
    (hdb' : OnlyInScope readEvent tenantId req db') :
    periodReceipts db tenantId req = periodReceipts db' tenantId req ∧
      periodStats db tenantId req = periodStats db' tenantId req ∧
      periodViolations readEvent db tenantId req = periodViolations readEvent db' tenantId req := by
  rw [onlyInScope_iff] at hdb hdb'
  refine ⟨?_, ?_, ?_⟩
  · rw [periodReceipts_eq hS, periodReceipts_eq hS, h.receipts]
  · have hstats := h.filter_stats
    rw [List.filter_eq_self.2 hdb.1, List.filter_eq_self.2 hdb'.1] at hstats
    rw [periodStats, periodStats, hstats]
  · have hviolations := h.filter_violations
    rwa [List.filter_eq_self.2 hdb.2, List.filter_eq_self.2 hdb'.2] at hviolations

/-! ### What the other rows change -/

theorem stats_withoutOthers (db : Db F) :
    (withoutOthers readEvent tenantId req db).customerStats.filter (inPeriod tenantId req) =
      (db.customerStats.filter (inPeriod tenantId req)).filter (statsInScope req) := by
  simp only [withoutOthers, List.filter_filter]
  refine List.filter_congr fun r _ => ?_
  cases inPeriod tenantId req r <;> simp

theorem violations_withoutOthers (db : Db F) :
    periodViolations readEvent (withoutOthers readEvent tenantId req db) tenantId req =
      (periodViolations readEvent db tenantId req).filter (violationInScope req) := by
  unfold periodViolations
  simp only [withoutOthers]
  induction db.audit with
  | nil => rfl
  | cons r rows ih =>
    by_cases hr : isViolation tenantId req r = true
    · cases hv : readEvent r.eventJson with
      | none => simpa [List.filter_cons, hr, hv] using ih
      | some v =>
        by_cases hin : violationInScope req v = true <;>
          simpa [List.filter_cons, hr, hv, hin] using ih
    · simpa [List.filter_cons, hr] using ih

theorem onlyInScope_withoutOthers (db : Db F) :
    OnlyInScope readEvent tenantId req (withoutOthers readEvent tenantId req db) := by
  rw [onlyInScope_iff, stats_withoutOthers, violations_withoutOthers]
  exact ⟨fun r hr => (List.mem_filter.1 hr).2, fun v hv => (List.mem_filter.1 hv).2⟩

theorem sameInScope_withoutOthers (db : Db F) :
    SameInScope readEvent tenantId req db (withoutOthers readEvent tenantId req db) where
  receipts := rfl
  stats := by
    simp only [withoutOthers, List.filter_filter]
    refine List.filter_congr fun r _ => ?_
    cases inPeriod tenantId req r <;> cases statsInScope req r <;> rfl
  violations := by
    simp only [withoutOthers, List.filter_filter]
    refine List.filter_congr fun r _ => ?_
    unfold auditInScope
    cases readEvent r.eventJson <;> cases isViolation tenantId req r <;> simp

theorem denied_foldl (violations : List PolicyViolation) (d : Denials)
    (h : d.denied + violations.length < 2 ^ 32) :
    (violations.foldl Denials.add d).denied = d.denied + violations.length := by
  induction violations generalizing d with
  | nil => rfl
  | cons v violations ih =>
    rw [List.length_cons] at h
    have hdenied : (d.add v).denied = d.denied + 1 := by
      simp only [Denials.add, satAddU32]
      omega
    rw [List.foldl_cons, ih _ (by omega), hdenied, List.length_cons]
    omega

/-- Each violation that is read counts, as long as the counter does not saturate. -/
theorem denied_denialsOf {violations : List PolicyViolation} (h : violations.length < 2 ^ 32) :
    (denialsOf violations).denied = violations.length := by
  have hfold := denied_foldl violations {} (by simpa using h)
  simpa [denialsOf] using hfold

@[simp] theorem isAnchor_spendSection (o : Option StatsRow) :
    (spendSection o : AuditSection F).isAnchor = false := by
  cases o <;> rfl

@[simp] theorem isAnchor_allowlistSection (d : Denials) :
    (allowlistSection d : AuditSection F).isAnchor = false := rfl

@[simp] theorem isAnchor_timeWindowSection (d : Denials) :
    (timeWindowSection d : AuditSection F).isAnchor = false := rfl

@[simp] theorem isAnchor_anchorSection (found : AnchorsFound) :
    (anchorSection found : AuditSection F).isAnchor = true := rfl

@[simp] theorem isAnchor_evaluationsSection (allowed : ℕ) (d : Denials) :
    (evaluationsSection allowed d : AuditSection F).isAnchor = false := rfl

section Content

variable [Float64 F]

/-- The content is a function of what the three queries return. -/
theorem content_assembleReport (input : BuildInput) (receipts : List ReceiptRow)
    (stats : List StatsRow) (violations : List PolicyViolation) :
    (assembleReport input tenantId req receipts stats violations : AuditReport F).content =
      { agentIds := observedAgents req receipts
        sections := [spendSection (stats.find? isSpendMetric),
            allowlistSection (denialsOf violations), timeWindowSection (denialsOf violations)] ++
          stats.map statsSection ++
          [evaluationsSection (wrapU32 receipts.length) (denialsOf violations)]
        zkProofs := stats.map statsProof ++
          (stats.find? isSpendMetric).toList.map (spendProof stats)
        rawReceiptsCount := wrapU32 receipts.length
        policyComplianceSummary := .fromCounts (denialsOf violations).policyIds
          (wrapU32 receipts.length) (denialsOf violations).denied } := by
  have hstats : (stats.map (statsSection (F := F))).filter (fun s => !s.isAnchor) =
      stats.map statsSection := by
    refine List.filter_eq_self.2 fun s hs => ?_
    obtain ⟨r, -, rfl⟩ := List.mem_map.1 hs
    rfl
  simp [AuditReport.content, assembleReport, hstats]

theorem reportContent_eq (h : ¬req.periodEnd < req.periodStart) (input : BuildInput) (db : Db F) :
    reportContent input db tenantId req =
      .ok (assembleReport input tenantId req (periodReceipts db tenantId req)
        (periodStats db tenantId req)
        (periodViolations input.readEvent db tenantId req)).content := by
  simp only [reportContent, buildAuditReport, if_neg h, Except.map]

end Content

end Proofs

/-- **Scope of a report.** The report of a state is that of every state with the same rows
about the agents asked for and none about others, if it has none itself; and if it has any, its
report differs from theirs, unless the request is refused. -/
theorem report_in_scope_iff [Float64 F] (input : BuildInput) (tenantId : String)
    (req : BuildRequest) (hS : req.canonicalAgents ≠ []) (db : Db F) :
    (OnlyInScope input.readEvent tenantId req db ∨ req.periodEnd < req.periodStart →
      ∀ (input' : BuildInput) (db' : Db F), input'.readEvent = input.readEvent →
        SameInScope input.readEvent tenantId req db db' →
        OnlyInScope input.readEvent tenantId req db' →
        reportContent input db tenantId req = reportContent input' db' tenantId req) ∧
    ((periodViolations input.readEvent db tenantId req).length < 2 ^ 32 →
      (∀ db' : Db F, SameInScope input.readEvent tenantId req db db' →
        OnlyInScope input.readEvent tenantId req db' →
        reportContent input db tenantId req = reportContent input db' tenantId req) →
      OnlyInScope input.readEvent tenantId req db ∨ req.periodEnd < req.periodStart) := by
  by_cases hperiod : req.periodEnd < req.periodStart
  · refine ⟨fun _ input' db' _ _ _ => ?_, fun _ _ => .inr hperiod⟩
    simp only [reportContent, buildAuditReport, if_pos hperiod]
  · refine ⟨fun hdb input' db' hread hsame hdb' => ?_, fun hfew halike => .inl ?_⟩
    · obtain ⟨hreceipts, hstats, hviolations⟩ :=
        hsame.queries hS (hdb.resolve_right hperiod) hdb'
      rw [reportContent_eq hperiod, reportContent_eq hperiod, content_assembleReport,
        content_assembleReport, hread, hreceipts, hstats, hviolations]
    · have heq := halike _ (sameInScope_withoutOthers db) (onlyInScope_withoutOthers db)
      rw [reportContent_eq hperiod, reportContent_eq hperiod, content_assembleReport,
        content_assembleReport, violations_withoutOthers, Except.ok.injEq] at heq
      rw [onlyInScope_iff]
      constructor
      · -- One section for each submission.
        have hlength := congrArg (fun c => c.sections.length) heq
        simp only [List.length_append, List.length_map, List.length_cons, periodStats,
          (perm_orderBy _ _).length_eq, stats_withoutOthers] at hlength
        exact List.length_filter_eq_length_iff.1 (by omega)
      · have hdenied := congrArg (fun c => c.policyComplianceSummary.denied) heq
        have hle := List.length_filter_le (violationInScope req)
          (periodViolations input.readEvent db tenantId req)
        simp only [ComplianceSummary.fromCounts] at hdenied
        rw [denied_denialsOf hfew, denied_denialsOf (by omega)] at hdenied
        exact List.length_filter_eq_length_iff.1 hdenied.symm

/-- A violation of `agent-2`, as the log holds it. -/
def sampleEvent : String :=
  "\x7b\"type\":\"policy_violation\",\"tenant_id\":\"t1\",\"agent_id\":\"agent-2\"," ++
    "\"policy_id\":\"p1\",\"check\":\"tool_allowlist\",\"reason\":\"rm\"\x7d"

def sampleInput : BuildInput where
  readEvent text := if text = sampleEvent then
    some ⟨"t1", "agent-2", "p1", "tool_allowlist", "rm"⟩ else none
  base64 _ := ""
  found := {}
  reportId := "r1"
  now := 100

def sampleAuditRow (tenantId : String) : AuditRow :=
  ⟨"a1", tenantId, "policy_violation", sampleEvent, 10, some 1, "genesis", "h1"⟩

def sampleStatsRow : StatsRow :=
  ⟨"t1", "agent-2", "cost_total", 950, 10, 0, 60, "ff", "e30=", "vk@v0", "zkc", 60⟩

/-- The tenant's log and statistics, both about `agent-2`. -/
def aboutAgentTwo : Db ℚ :=
  { Db.empty ℚ with audit := [sampleAuditRow "t1"], customerStats := [sampleStatsRow] }

def reportOn (agentId : String) : BuildRequest := ⟨some [agentId], 0, 60⟩

/-- A report on `agent-1` has the denial and the proofs of `agent-2`. -/
theorem other_agents_reported :
    SameInScope sampleInput.readEvent "t1" (reportOn "agent-1") aboutAgentTwo (Db.empty ℚ) ∧
    ((reportContent sampleInput aboutAgentTwo "t1" (reportOn "agent-1")).toOption.map fun c =>
      (c.policyComplianceSummary.denied, c.policyComplianceSummary.policyIdsEvaluated,
        c.zkProofs.length, c.sections.map AuditSection.heading)) =
      some (1, ["p1"], 2, ["Spend Budget Compliance", "Tool Allowlist", "Time Window",
        "Stats Commitment: cost_total", "Policy Evaluations"]) ∧
    ((reportContent sampleInput (Db.empty ℚ) "t1" (reportOn "agent-1")).toOption.map fun c =>
      (c.policyComplianceSummary.denied, c.policyComplianceSummary.policyIdsEvaluated,
        c.zkProofs.length, c.sections.map AuditSection.heading)) =
      some (0, [], 0, ["Spend Budget Compliance", "Tool Allowlist", "Time Window",
        "Policy Evaluations"]) := by
  refine ⟨⟨by decide, by decide, by decide⟩, ?_⟩
  decide +kernel

/-- A report on `agent-2` does not see what other tenants have. -/
theorem other_tenants_not_reported :
    reportContent sampleInput aboutAgentTwo "t1" (reportOn "agent-2") =
      reportContent sampleInput
        { aboutAgentTwo with audit := [sampleAuditRow "t2", sampleAuditRow "t1"] } "t1"
        (reportOn "agent-2") := by
  refine (report_in_scope_iff sampleInput "t1" (reportOn "agent-2") (by decide) aboutAgentTwo).1
    (.inl ?_) sampleInput _ rfl ⟨by decide, by decide, by decide⟩ ?_
  · rw [onlyInScope_iff]
    decide
  · rw [onlyInScope_iff]
    decide

end SauronID.Audit
