import SauronID.Aggregation.Submit

/-!
# Stored statistics are backed by proofs

A statistic is overwritten by the next one of its key, its receipt is inserted once, and the
checkpoint it is held against was read in an earlier statement. `stored_stats_backed` says
that through every interleaving each stored statistic has its receipt, was in the journal
of a proof that was accepted, and is about a finalized checkpoint of its tenant.
-/

namespace SauronID.Aggregation

open Conc Text Zk Anchor

variable {F : Type} [Float64 F] (env : Env F)

/-! ## Runs -/

/-- The requests that write statistics and checkpoints. -/
inductive StatsCall where
  | submit (req : SubmitRequest)
  | finalize (tenant : Option String) (body : FinalizeProofCheckpointRequest)

inductive StatsAnswer where
  | stored (response : StatsSubmitResponse)
  | finalized (response : FinalizeProofCheckpointResponse)
  deriving DecidableEq, Repr

def StatsCall.prog (settings : StatsSettings) : StatsCall → Srv F AppError StatsAnswer
  | submit req => do
    let response ← submitTransparentHandler env settings req
    return .stored response
  | finalize tenant body => do
    let response ← finalizeProofCheckpoint env tenant body
    return .finalized response

def statsRun (settings : StatsSettings) (start : World F) (calls : List StatsCall)
    (sched : List Event) : SrvConfig F AppError StatsAnswer :=
  (Config.init start (calls.map (StatsCall.prog env settings))).run sched

/-! ## What backs a statistic -/

/-- The submission that is stored in a row. -/
def submissionOf (row : StatsRow) : StatsSubmission :=
  { tenantId := row.tenantId,
    agentIdOrNone := if row.agentId = "" then none else some row.agentId,
    metricId := row.metricId, claimedValue := row.claimedValue, nRecords := row.nRecords,
    periodStart := row.periodStart, periodEnd := row.periodEnd, merkleRoot := row.merkleRoot,
    proofB64 := row.proofB64, vkId := row.vkId, checkpointId := row.checkpointId,
    publicInputs := [] }

/-- The journal of a proof is about the statistic. -/
structure ProvenBy (stats : StatsStatement) (row : StatsRow) : Prop where
  tenantId : stats.tenantId = row.tenantId
  agentId : stats.agentIdOrNone.getD "" = row.agentId
  metricId : stats.metricId = row.metricId
  claimedValue : stats.claimedValue = row.claimedValue
  periodStart : stats.periodStart = row.periodStart
  periodEnd : stats.periodEnd = row.periodEnd
  nRecords : (stats.treeSize : ℤ) = row.nRecords
  merkleRoot : asciiLower stats.merkleRoot = asciiLower row.merkleRoot

/-- The statistic is about the batch of a finalized checkpoint. -/
structure CheckpointedBy (checkpoint : CheckpointRow) (row : StatsRow) : Prop where
  checkpointId : checkpoint.checkpointId = row.checkpointId
  tenantId : checkpoint.tenantId = row.tenantId
  circuit : checkpoint.circuit = "StatsHonestComputation"
  finalized : 0 < checkpoint.finalizedAt
  nRecords : checkpoint.treeSize = row.nRecords
  merkleRoot : checkpoint.merkleRoot = row.merkleRoot

/-- A stored statistic has the receipt of its statement, and the proof it was submitted
with was accepted for it, over a checkpoint that is stored. -/
structure Backed (calls : List StatsCall) (db : Db F) (row : StatsRow) : Prop where
  receipt : ∃ receipt ∈ db.statsReceipts,
    receipt.statementHash = syntheticActionHash env (submissionOf row)
  proven : ∃ req journal stats, .submit req ∈ calls ∧ req.verified = .ok journal ∧
    req.body.proof.receiptB64 = row.proofB64 ∧ journal.statement = .stats stats ∧
    ProvenBy stats row ∧
    ∃ checkpoint ∈ db.checkpoints, CheckpointedBy checkpoint row ∧
      stats.checkpointId = checkpoint.checkpointId ∧ stats.actionAnchorId = checkpoint.anchorId

variable {calls : List StatsCall} {db : Db F} {row : StatsRow}

omit [Float64 F] in
variable {env} in
theorem Backed.mono {db' : Db F}
    (h : Backed env calls db row) (hreceipts : db.statsReceipts ⊆ db'.statsReceipts)
    (hcheckpoints : db.checkpoints ⊆ db'.checkpoints) : Backed env calls db' row := by
  obtain ⟨⟨receipt, hmem, hhash⟩, req, journal, stats, hcall, hverified, hproof, hstats, hproven,
    checkpoint, hcp, hrest⟩ := h
  exact ⟨⟨receipt, hreceipts hmem, hhash⟩, req, journal, stats, hcall, hverified, hproof, hstats,
    hproven, checkpoint, hcheckpoints hcp, hrest⟩

omit [Float64 F] in
/-- The digest does not tell a missing agent from an empty one. -/
theorem syntheticActionHash_submissionOf {sub : StatsSubmission} (hinputs : sub.publicInputs = [])
    (now : ℤ) :
    syntheticActionHash env (submissionOf (sub.row now)) = syntheticActionHash env sub := by
  have hagent : (submissionOf (sub.row now)).agentIdOrNone.getD "" = sub.agentIdOrNone.getD "" := by
    by_cases h : sub.agentIdOrNone.getD "" = "" <;> simp [submissionOf, StatsSubmission.row, h]
  rw [syntheticActionHash, hagent]
  simp only [submissionOf, StatsSubmission.row, syntheticActionHash, hinputs]

/-! ## The rules of the requests -/

/-- A request may store what it was submitted with once it has read a checkpoint that agrees
with the journal, and only checkpoints of a size in range are inserted. -/
def statsMay (call : Option StatsCall) (t : History F) : Write F → World F → Prop
  | .storeStats row receipt, _ =>
      ∃ req journal stats s checkpoint now, call = some (.submit req) ∧
        req.verified = .ok journal ∧ journal.statement = .stats stats ∧
        checkJournal req.tenantId req.body stats = .ok () ∧ (.select .other, s) ∈ t ∧
        finalizedCheckpoint req.tenantId req.body.checkpointId s.db = some checkpoint ∧
        checkCheckpoint stats checkpoint = .ok () ∧ row = (req.submission checkpoint).row now ∧
        receipt = (req.submission checkpoint).receipt env now
  | .insertCheckpoint row, _ => 0 < row.treeSize ∧ row.treeSize ≤ 10000
  | _, _ => True

variable {env}

theorem enforceStatsPeriod_yields {may : May F}
    (settings : StatsSettings) (periodStart periodEnd : ℤ) (t : History F) :
    (enforceStatsPeriod settings periodStart periodEnd : Srv F AppError Unit).Yields (srvRules may)
      t fun _ _ => True := by
  refine .rejectIf fun _ => ?_
  split
  · refine Srv.yields_nowSecs fun s => ?_
    cases checkPeriod settings periodStart periodEnd s.nowSecs with
    | ok u => exact Prog.yields_pure trivial
    | error e => exact Prog.yields_fail
  · exact Prog.yields_pure trivial

theorem submitTransparentHandler_yields (settings : StatsSettings) (req : SubmitRequest) :
    (submitTransparentHandler env settings req).Yields
      (srvRules (statsMay env (some (.submit req)))) [] fun _ _ => True := by
  refine .rejectIf fun _ => .rejectIf fun _ => ?_
  refine (enforceStatsPeriod_yields settings _ _ _).andThen fun t _ _ _ => ?_
  refine Srv.yields_nowMs fun s₁ => .ofExcept fun journal hjournal => ?_
  refine .ofExcept fun stats hstats => .ofExcept fun _ hmatch => ?_
  refine Srv.yields_require fun s checkpoint _ hcp => .ofExcept fun _ hcheck => ?_
  refine Srv.yields_nowMs fun s₂ => Srv.yields_nowSecs fun s₃ => ?_
  have hstatement : journal.statement = .stats stats := by
    unfold journalStats at hstats
    split at hstats
    · next h =>
      cases hstats
      exact h
    · cases hstats
  refine .bind (.bind (.mapErr (Srv.yields_execute fun s₄ => ⟨?_, fun _ _ => ?_⟩)))
  · exact ⟨req, journal, stats, s, checkpoint, s₃.nowSecs, rfl, eq_ok_of_mapError hjournal,
      hstatement, hmatch, .tail _ (.tail _ (.head _)), hcp, hcheck, rfl, rfl⟩
  · exact Prog.yields_pure (Prog.yields_pure trivial)

theorem StatsCall.prog_yields (settings : StatsSettings) (call : StatsCall) :
    (call.prog env settings).Yields (srvRules (statsMay env (some call))) [] fun _ _ => True := by
  cases call with
  | submit req =>
    exact (submitTransparentHandler_yields settings req).andThen fun _ _ _ _ =>
      Prog.yields_pure trivial
  | finalize tenant body =>
    exact (finalizeProofCheckpoint_yields fun t row s h => h.size).andThen fun _ _ _ _ =>
      Prog.yields_pure trivial

/-! ## What a statement does to the tables -/

omit [Float64 F] in
theorem mem_upsertStats {rows : List StatsRow} {r : StatsRow} (h : r ∈ upsertStats rows row) :
    r = row ∨ r ∈ rows := by
  unfold upsertStats at h
  split at h
  · obtain ⟨old, hold, rfl⟩ := List.mem_map.1 h
    split
    · exact .inl rfl
    · exact .inr hold
  · simpa [or_comm] using h

omit [Float64 F] in
theorem subset_insertStatsReceipt (rows : List StatsReceiptRow) (row : StatsReceiptRow) :
    rows ⊆ insertStatsReceipt rows row := by
  unfold insertStatsReceipt
  split
  · exact List.Subset.refl rows
  · exact List.subset_append_left rows [row]

omit [Float64 F] in
/-- Whether it was there or not, the receipt is there afterwards. -/
theorem exists_mem_insertStatsReceipt (rows : List StatsReceiptRow) (row : StatsReceiptRow) :
    ∃ r ∈ insertStatsReceipt rows row, r.statementHash = row.statementHash := by
  unfold insertStatsReceipt
  split
  · next h => simpa using h
  · exact ⟨row, by simp, rfl⟩

/-- A statistic is stored with its receipt. -/
theorem stats_of_effect {lbl : Label F} {s s' : World F} (heff : lbl.Effect s s') :
    (s'.db.customerStats = s.db.customerStats ∧ s'.db.statsReceipts = s.db.statsReceipts) ∨
      ∃ row receipt, lbl = .write (.storeStats row receipt) ∧
        s'.db.customerStats = upsertStats s.db.customerStats row ∧
        s'.db.statsReceipts = insertStatsReceipt s.db.statsReceipts receipt := by
  obtain ⟨t, ht, hsame⟩ | ⟨w, db, n, rfl, htable, happly, -, hdb⟩ := heff.onTable .stats nofun
  · exact .inl ⟨hsame.customerStats ht, hsame.statsReceipts ht⟩
  · cases w with
    | storeStats row receipt =>
      cases happly
      exact .inr ⟨row, receipt, rfl, by rw [hdb], by rw [hdb]⟩
    | _ => cases htable

/-! ## The invariant -/

variable (env) in
/-- Every stored statistic is backed, checkpoints are of a size in range, and those a
request has read are still there. -/
structure StatsInvariant (calls : List StatsCall) (s : World F) (log : RunLog F) : Prop where
  rows : ∀ row ∈ s.db.customerStats, Backed env calls s.db row
  sizes : ∀ checkpoint ∈ s.db.checkpoints, 0 < checkpoint.treeSize ∧ checkpoint.treeSize ≤ 10000
  kept : ∀ e ∈ log, e.before.db.checkpoints ⊆ s.db.checkpoints

omit [Float64 F] in
/-- What a request stores is backed, if the checkpoint it has read is still there. -/
theorem backed_of_submission {req : SubmitRequest}
    {journal : TransparentJournal} {stats : StatsStatement} {checkpoint : CheckpointRow}
    {s₀ : World F} {now : ℤ} (hcall : .submit req ∈ calls)
    (hverified : req.verified = .ok journal) (hstats : journal.statement = .stats stats)
    (hmatch : checkJournal req.tenantId req.body stats = .ok ())
    (hcp : finalizedCheckpoint req.tenantId req.body.checkpointId s₀.db = some checkpoint)
    (hcheck : checkCheckpoint stats checkpoint = .ok ()) (hmem : checkpoint ∈ db.checkpoints)
    (hsize : 0 < checkpoint.treeSize ∧ checkpoint.treeSize ≤ 10000)
    (hreceipt : ∃ receipt ∈ db.statsReceipts,
      receipt.statementHash = syntheticActionHash env (req.submission checkpoint)) :
    Backed env calls db ((req.submission checkpoint).row now) := by
  rw [checkJournal, refuseIf_eq_ok] at hmatch
  rw [checkCheckpoint, refuseIf_eq_ok] at hcheck
  simp only [not_or, not_not, Bool.not_eq_false] at hmatch hcheck
  obtain ⟨htenant, hid, hagent, hmetric, hvalue, hstart, hend⟩ := hmatch
  obtain ⟨hroot, hcount, hanchor⟩ := hcheck
  have hfound := List.find?_some hcp
  simp only [Bool.and_eq_true, beq_iff_eq, decide_eq_true_eq] at hfound
  obtain ⟨⟨⟨hcpid, hcptenant⟩, hcircuit⟩, hfinal⟩ := hfound
  refine ⟨?_, req, journal, stats, hcall, hverified, rfl, hstats, ?_, checkpoint, hmem, ?_, ?_,
    hanchor⟩
  · rw [syntheticActionHash_submissionOf env rfl]
    exact hreceipt
  · exact ⟨htenant, congrArg (·.getD "") hagent, hmetric, hvalue, hstart, hend,
      hcount.trans (Int.emod_eq_of_lt (by omega) (by omega)), beq_iff_eq.1 hroot⟩
  · exact ⟨hcpid, hcptenant, hcircuit, hfinal, rfl, rfl⟩
  · exact hid.trans hcpid.symm

theorem statsInvariant (calls : List StatsCall) :
    TraceInvariant (fun i => srvRules (statsMay env calls[i]?)) (fun _ _ => True)
      (StatsInvariant env calls) where
  tick _ h := ⟨h.rows, h.sizes, h.kept⟩
  step := by
    intro s log i lbl s' h _ heff hmay
    have hgrow : s.db.checkpoints ⊆ s'.db.checkpoints := by
      obtain hsame | ⟨row, -, hnew⟩ := checkpoints_of_effect heff
      · rw [hsame]
        exact List.Subset.refl _
      · rw [hnew]
        exact List.subset_append_left _ _
    refine ⟨fun row hrow => ?_, fun checkpoint hcp => ?_, fun e he => ?_⟩
    · obtain ⟨hrows, hreceipts⟩ | ⟨new, receipt, rfl, hrows, hreceipts⟩ := stats_of_effect heff
      · rw [hrows] at hrow
        exact (h.rows row hrow).mono (by rw [hreceipts]; exact List.Subset.refl _) hgrow
      · rw [hrows] at hrow
        obtain rfl | hold := mem_upsertStats hrow
        · obtain ⟨req, journal, stats, s₀, checkpoint, now, hcall, hverified, hstats, hmatch, hread,
            hcp, hcheck, rfl, rfl⟩ := hmay
          have hmem : checkpoint ∈ s.db.checkpoints :=
            h.kept _ (mem_threadTrace.1 hread) (List.mem_of_find?_eq_some hcp)
          refine backed_of_submission (List.mem_of_getElem? hcall) hverified hstats hmatch hcp
            hcheck (hgrow hmem) (h.sizes _ hmem) ?_
          rw [hreceipts]
          exact exists_mem_insertStatsReceipt _ _
        · exact (h.rows row hold).mono (by rw [hreceipts]; exact subset_insertStatsReceipt _ _)
            hgrow
    · obtain hsame | ⟨row, rfl, hnew⟩ := checkpoints_of_effect heff
      · exact h.sizes _ (hsame ▸ hcp)
      · rw [hnew, List.mem_append, List.mem_singleton] at hcp
        obtain hold | rfl := hcp
        · exact h.sizes _ hold
        · exact hmay
    · obtain rfl | he := List.mem_cons.1 he
      · exact hgrow
      · exact List.Subset.trans (h.kept e he) hgrow

/-- **Stored statistics are backed by proofs**, through every interleaving of submissions and
finalizations, whichever statements fail. The checkpoints there are at the start are of a
size that `finalize_proof_checkpoint` accepts. -/
theorem stored_stats_backed (settings : StatsSettings) (start : World F)
    (hstats : start.db.customerStats = [])
    (hsizes : ∀ checkpoint ∈ start.db.checkpoints,
      0 < checkpoint.treeSize ∧ checkpoint.treeSize ≤ 10000)
    (calls : List StatsCall) (sched : List Event) :
    ∀ row ∈ (statsRun env settings start calls sched).world.db.customerStats,
      Backed env calls (statsRun env settings start calls sched).world.db row := by
  have hstart : StatsInvariant env calls start [] := ⟨by simp [hstats], hsizes, by simp⟩
  obtain ⟨hinv, -⟩ := (statsInvariant calls).run_calls
    (fun i call hcall => hcall ▸ StatsCall.prog_yields settings call) hstart sched (LogOk.of_true _)
  exact hinv.rows

/-! ## A statistic that is submitted twice -/

def sampleSettings : StatsSettings := ⟨false, none, none⟩

/-- A finalized batch of three receipts. -/
def sampleCheckpoint : CheckpointRow :=
  ⟨"zkc_1", "acme", "StatsHonestComputation", "ab12", 3, "aaa_1", 4⟩

def sampleStats (value : ℤ) : StatsStatement :=
  ⟨"acme", "zkc_1", "aaa_1", "AB12", 3, some "", "success_rate", value, 0, 60⟩

/-- A submission for the whole tenant, with its proof. -/
def sampleSubmit (value : ℤ) (proof : String) : SubmitRequest where
  tenant := some "acme"
  body := ⟨some "", "success_rate", value, 0, 60, "zkc_1", ⟨statsProgramId, proof⟩⟩
  verified := .ok ⟨journalProtocol, statsProgramId, .stats (sampleStats value)⟩

def sampleStatsWorld : World ℚ :=
  World.steady { Db.empty ℚ with checkpoints := [sampleCheckpoint] } 5000

/-- The two submissions statement by statement, in turn. -/
def sampleStatsRun : SrvConfig ℚ AppError StatsAnswer :=
  statsRun (sampleEnv ℚ) sampleSettings sampleStatsWorld
    [.submit (sampleSubmit 900 "p1"), .submit (sampleSubmit 950 "p2")]
    ((List.range 10).map fun k => .step (k % 2))

/-- The later of two submissions for one key is stored, and it is backed. -/
theorem resubmitted_stat_backed :
    sampleStatsRun.world.db.customerStats =
        [⟨"acme", "", "success_rate", 950, 3, 0, 60, "ab12", "p2", statsProgramId, "zkc_1", 5⟩] ∧
      ∀ row ∈ sampleStatsRun.world.db.customerStats,
        Backed (sampleEnv ℚ) [.submit (sampleSubmit 900 "p1"), .submit (sampleSubmit 950 "p2")]
          sampleStatsRun.world.db row := by
  refine ⟨by decide +kernel, ?_⟩
  exact stored_stats_backed sampleSettings sampleStatsWorld rfl (by decide) _ _

end SauronID.Aggregation
