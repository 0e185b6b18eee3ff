import SauronID.Anchor.Checkpoint
import SauronID.Zk.Types

/-!
# Submission of proved statistics

`submitTransparentHandler` takes a statistic with a proof, holds the proof's journal against
the request and against a finalized checkpoint, and stores the statistic together with a
digest of it.
-/

namespace SauronID.Aggregation

open Conc Text Zk

variable {F : Type} (env : Env F)

structure TransparentProofPayload where
  programId : String
  receiptB64 : String
  deriving DecidableEq, Repr

inductive TransparentProofError where
  | malformed (message : String)
  | configuration (message : String)
  | unsupported (message : String)
  | busy (message : String)
  | invalid (message : String)
  deriving DecidableEq, Repr

def TransparentProofError.display : TransparentProofError → String
  | malformed s => s!"malformed transparent proof: {s}"
  | configuration s => s!"transparent proof configuration: {s}"
  | unsupported s => s!"unsupported proof type: {s}"
  | busy s => s!"transparent verifier busy: {s}"
  | invalid s => s!"transparent proof rejected: {s}"

/-- A proof that is not accepted, as the handler reports it. -/
def TransparentProofError.toAppError (e : TransparentProofError) : AppError :=
  match e with
  | malformed _ | unsupported _ | invalid _ => .badRequest e.display
  | configuration _ | busy _ => .serviceUnavailable e.display

structure TransparentStatsSubmission where
  agentIdOrNone : Option String
  metricId : String
  claimedValue : ℤ
  periodStart : ℤ
  periodEnd : ℤ
  checkpointId : String
  proof : TransparentProofPayload
  deriving DecidableEq, Repr

/-- A statistic as it is stored. -/
structure StatsSubmission where
  tenantId : String
  agentIdOrNone : Option String
  metricId : String
  claimedValue : ℤ
  nRecords : ℤ
  periodStart : ℤ
  periodEnd : ℤ
  merkleRoot : String
  proofB64 : String
  vkId : String
  checkpointId : String
  publicInputs : List String
  deriving DecidableEq, Repr

structure StatsSubmitResponse where
  stored : Bool
  latencyMsVerify : ℕ
  statementHash : String
  deriving DecidableEq, Repr

/-! ## Storing -/

/-- `synthetic_action_hash`: the digest of a complete statement. -/
def syntheticActionHash (sub : StatsSubmission) : String :=
  env.sha256Hex (canonicalFields "sauron.stats-submission.v2"
    [("tenant_id", sub.tenantId), ("agent_id", sub.agentIdOrNone.getD ""),
      ("metric_id", sub.metricId), ("claimed_value", toString sub.claimedValue),
      ("n_records", toString sub.nRecords), ("period_start", toString sub.periodStart),
      ("period_end", toString sub.periodEnd), ("merkle_root", sub.merkleRoot),
      ("checkpoint_id", sub.checkpointId), ("vk_id", sub.vkId),
      ("public_inputs_sha256",
        env.sha256Hex (utf8 (env.jsonText (.arr (sub.publicInputs.map .str))))),
      ("proof_b64_sha256", env.sha256Hex (utf8 sub.proofB64))])

/-- The row that `upsert_submission_conn` writes. -/
def StatsSubmission.row (sub : StatsSubmission) (submittedAt : ℤ) : StatsRow :=
  { tenantId := sub.tenantId, agentId := sub.agentIdOrNone.getD "", metricId := sub.metricId,
    claimedValue := sub.claimedValue, nRecords := sub.nRecords, periodStart := sub.periodStart,
    periodEnd := sub.periodEnd, merkleRoot := sub.merkleRoot, proofB64 := sub.proofB64,
    vkId := sub.vkId, checkpointId := sub.checkpointId, submittedAt := submittedAt }

/-- The row that `anchor_submission_conn` inserts. -/
def StatsSubmission.receipt (sub : StatsSubmission) (submittedAt : ℤ) : StatsReceiptRow :=
  ⟨syntheticActionHash env sub, sub.tenantId, sub.checkpointId, sub.metricId, submittedAt⟩

def isDbContention (message : String) : Bool :=
  let m := asciiLower message
  contains m "database is locked" || contains m "database table is locked" ||
    contains m "deadlock detected" || contains m "could not serialize access"

def fromDbMessage (context message : String) : AppError :=
  if isDbContention message then .detailed 503 "db_contention" s!"{context}: {message}"
  else .internal s!"{context}: {message}"

/-- `persist_verified_submission`: both rows in one transaction. A statement that fails in it
is printed as an `AggError` and wrapped in one again. -/
def persistVerifiedSubmission [Float64 F] (sub : StatsSubmission) (submittedAt : ℤ) :
    Srv F AppError String := do
  let _ ← (Srv.execute (.storeStats (sub.row submittedAt) (sub.receipt env submittedAt))).mapErr
    fun e => fromDbMessage "storage" ("storage: " ++ e)
  return syntheticActionHash env sub

/-! ## Submitting -/

/-- The settings of `enforce_stats_period`: `SAURON_ENFORCE_STATS_FRESHNESS` and two
variables. -/
structure StatsSettings where
  enforceFreshness : Bool
  maxAgeSecs : Option String
  maxPeriodSecs : Option String

/-- A variable that is a number, or the default, brought into a range. -/
def clampVar (var : Option String) (default low high : ℤ) : ℤ :=
  max low (min ((var.bind parseI64).getD default) high)

def checkPeriod (settings : StatsSettings) (periodStart periodEnd now : ℤ) :
    Except AppError Unit := do
  let maxAge := clampVar settings.maxAgeSecs (14 * 24 * 3600) 300 (366 * 24 * 3600)
  let maxPeriod := clampVar settings.maxPeriodSecs (8 * 24 * 3600) 60 (366 * 24 * 3600)
  refuseIf (periodEnd < now - maxAge)
    (.badRequest s!"stats period is stale (period_end older than {maxAge}s)")
  refuseIf (periodEnd > now + 300)
    (.badRequest "stats period_end is more than 5 minutes in the future")
  refuseIf (satI64 (periodEnd - periodStart) > maxPeriod)
    (.badRequest s!"stats period exceeds maximum duration of {maxPeriod}s")

def enforceStatsPeriod (settings : StatsSettings) (periodStart periodEnd : ℤ) :
    Srv F AppError Unit := do
  .rejectIf (periodEnd < periodStart) (.badRequest "period_end < period_start")
  if settings.enforceFreshness then do
    let now ← Srv.nowSecs
    .ofExcept (checkPeriod settings periodStart periodEnd now)
  else pure ()

/-- `TRANSPARENT_STATS_METRICS` -/
def transparentStatsMetrics : List String :=
  ["success_rate", "error_rate", "tool_call_count", "cost_total"]

/-- A request with what `verify_transparent_proof` makes of its proof. -/
structure SubmitRequest where
  tenant : Option String
  body : TransparentStatsSubmission
  verified : Except TransparentProofError TransparentJournal

def SubmitRequest.tenantId (req : SubmitRequest) : String := req.tenant.getD "default"

/-- The statistic the journal is about. -/
def journalStats (journal : TransparentJournal) : Except AppError StatsStatement :=
  match journal.statement with
  | .stats statement => .ok statement
  | .actionPolicy _ => .error (.badRequest "stats guest returned a non-stats journal")

/-- The journal is about the statistic that is submitted. -/
def checkJournal (tenantId : String) (body : TransparentStatsSubmission)
    (journal : StatsStatement) : Except AppError Unit :=
  refuseIf (journal.tenantId ≠ tenantId ∨ journal.checkpointId ≠ body.checkpointId ∨
      journal.agentIdOrNone ≠ body.agentIdOrNone ∨ journal.metricId ≠ body.metricId ∨
      journal.claimedValue ≠ body.claimedValue ∨ journal.periodStart ≠ body.periodStart ∨
      journal.periodEnd ≠ body.periodEnd)
    (.badRequest
      "STARK journal does not exactly match the submitted tenant/scope/metric/value/period")

/-- `SELECT merkle_root, tree_size, anchor_id FROM zk_proof_checkpoints …` -/
def finalizedCheckpoint (tenantId checkpointId : String) (db : Db F) : Option CheckpointRow :=
  db.checkpoints.find? fun c => c.checkpointId == checkpointId && c.tenantId == tenantId &&
    c.circuit == "StatsHonestComputation" && decide (c.finalizedAt > 0)

/-- The journal is about the batch of the checkpoint; the size is cast to `u64`. -/
def checkCheckpoint (journal : StatsStatement) (checkpoint : CheckpointRow) :
    Except AppError Unit :=
  refuseIf (eqIgnoreAsciiCase journal.merkleRoot checkpoint.merkleRoot = false ∨
      (journal.treeSize : ℤ) ≠ checkpoint.treeSize % 2 ^ 64 ∨
      journal.actionAnchorId ≠ checkpoint.anchorId)
    (.badRequest "STARK journal root/size/anchor does not match the server checkpoint")

/-- What is stored of a request that has been checked. -/
def SubmitRequest.submission (req : SubmitRequest) (checkpoint : CheckpointRow) : StatsSubmission :=
  { tenantId := req.tenantId, agentIdOrNone := req.body.agentIdOrNone,
    metricId := req.body.metricId, claimedValue := req.body.claimedValue,
    nRecords := checkpoint.treeSize, periodStart := req.body.periodStart,
    periodEnd := req.body.periodEnd, merkleRoot := checkpoint.merkleRoot,
    proofB64 := req.body.proof.receiptB64, vkId := req.body.proof.programId,
    checkpointId := req.body.checkpointId, publicInputs := [] }

/-- `submit_transparent_handler` -/
def submitTransparentHandler [Float64 F] (settings : StatsSettings) (req : SubmitRequest) :
    Srv F AppError StatsSubmitResponse := do
  let body := req.body
  .rejectIf (body.proof.programId ≠ statsProgramId)
    (.badRequest s!"stats submissions require program_id '{statsProgramId}'")
  .rejectIf (body.metricId ∉ transparentStatsMetrics)
    (.badRequest s!"metric_id '{body.metricId}' is not implemented by the reviewed stats guest")
  let _ ← enforceStatsPeriod settings body.periodStart body.periodEnd
  let started ← Srv.nowMs
  let journal ← .ofExcept (req.verified.mapError TransparentProofError.toAppError)
  let stats ← .ofExcept (journalStats journal)
  let _ ← .ofExcept (checkJournal req.tenantId body stats)
  let checkpoint ← Srv.require .other (finalizedCheckpoint req.tenantId body.checkpointId)
    (AppError.notFound "finalized stats checkpoint not found")
  let _ ← .ofExcept (checkCheckpoint stats checkpoint)
  let stored := req.submission checkpoint
  let verifiedAt ← Srv.nowMs
  let now ← Srv.nowSecs
  let statementHash ← persistVerifiedSubmission env stored now
  return ⟨true, (verifiedAt - started).toNat, statementHash⟩

end SauronID.Aggregation
