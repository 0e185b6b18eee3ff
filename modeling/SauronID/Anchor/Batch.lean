import SauronID.Action.Receipts
import SauronID.Lib.Merkle

/-!
# Anchoring of action receipts

`anchorPendingActionsForTenant` takes the receipts past the watermark of a tenant,
hashes them into a Merkle tree together with the head of the audit chain, stores
the batch and publishes the root. `proofForReceiptForTenant` finds the batch of a
receipt, fetches its receipts again and asks the tree over them for a proof.
-/

namespace SauronID.Anchor

open Conc Text

variable {F : Type} [Float64 F] (env : Env F)

/-! ## Leaves -/

/-- Leaf committing the audit chain head into a batch. -/
def auditHeadLeaf (tenant : String) (seq : ℤ) (entryHash : String) : Bytes :=
  env.sha256 (canonicalFields "sauron.audit-head-leaf.v1"
    [("tenant_id", tenant), ("audit_seq", toString seq), ("audit_entry_hash", entryHash)])

/-- Legacy leaf, for batches from before the second version. -/
def leafHashV1 (receiptId actionHash : String) (createdAt : ℤ) : Bytes :=
  env.sha256 (utf8 receiptId ++ utf8 "|" ++ utf8 actionHash ++ utf8 "|" ++
    utf8 (toString createdAt))

/-- Leaf of a receipt. -/
def leafHashV2 (r : ReceiptRow) : Bytes :=
  env.sha256 (canonicalFields "sauron.action-anchor-leaf.v2"
    [("tenant_id", r.tenantId), ("receipt_id", r.receiptId), ("action_hash", r.actionHash),
      ("agent_id", r.agentId), ("ring_key_image_hex", r.ringKeyImageHex),
      ("policy_version", r.policyVersion), ("ajwt_jti", r.ajwtJti), ("pop_jkt", r.popJkt),
      ("status", r.status), ("signature", r.signature), ("created_at", toString r.timestamp),
      ("ring_id", r.ringId.getD ""), ("config_digest", r.configDigest.getD "")])

/-- How the tree hashes two nodes. -/
def combineNodes (a b : Bytes) : Bytes := env.sha256 (a ++ b)

/-- The leaves of a batch: its receipts, and the audit head if there is one. -/
def batchLeaves (tenant : String) (receipts : List ReceiptRow) (head : Option (ℤ × String)) :
    List Bytes :=
  receipts.map (leafHashV2 env) ++
    (head.map fun h => auditHeadLeaf env tenant h.1 h.2).toList

/-! ## Queries -/

/-- `(created_at, receipt_id)`, the order in which receipts are anchored. -/
def receiptKey (r : ReceiptRow) : ℤ ×ₗ String := toLex (r.timestamp, r.receiptId)

/-- `MAX_RECEIPTS_PER_BATCH` -/
def maxReceiptsPerBatch : ℕ := 10000

def submittedBatches (tenant : String) (db : Db F) : List AnchorRow :=
  db.anchors.filter fun b => b.tenantId == tenant && b.anchorStatus == .submitted

/-- `SELECT to_created_at, to_receipt_id … WHERE anchor_status = 'submitted' ORDER BY
to_created_at DESC LIMIT 1` -/
def watermark (tenant : String) (db : Db F) (tie : ℕ) : Option (ℤ × String) :=
  (pickMax (fun b : AnchorRow => b.toCreatedAt) tie (submittedBatches tenant db)).map fun b =>
    (b.toCreatedAt, b.toReceiptId)

/-- The receipts of a tenant past a watermark, in order, up to the batch limit. -/
def pendingReceipts (tenant : String) (mark : ℤ × String) (db : Db F) : List ReceiptRow :=
  (orderBy receiptKey (db.receipts.filter fun r =>
    r.tenantId == tenant && decide (toLex mark < receiptKey r))).take maxReceiptsPerBatch

theorem receiptKey_inj {rows : List ReceiptRow} (hnodup : (rows.map fun r => r.receiptId).Nodup) :
    ∀ x ∈ rows, ∀ y ∈ rows, receiptKey x = receiptKey y → x = y := by
  intro x hx y hy hxy
  have hid : x.receiptId = y.receiptId := congrArg (fun k => (ofLex k).2) hxy
  exact List.inj_on_of_nodup_map hnodup hx hy hid

omit [Float64 F] in
theorem mem_pendingReceipts {tenant : String} {m : ℤ × String} {db : Db F} {r : ReceiptRow}
    (h : r ∈ pendingReceipts tenant m db) :
    r ∈ db.receipts ∧ r.tenantId = tenant ∧ toLex m < receiptKey r := by
  have hmem := mem_orderBy.1 (List.mem_of_mem_take h)
  simpa using hmem

/-- `?2 = '*' OR tenant_id = ?2` -/
def tenantMatches (tenant rowTenant : String) : Bool := tenant == "*" || rowTenant == tenant

/-- The receipts of a tenant between two keys, both included, in order. -/
def batchReceipts (tenant : String) (first last : ℤ × String) (db : Db F) : List ReceiptRow :=
  orderBy receiptKey (db.receipts.filter fun r => tenantMatches tenant r.tenantId &&
    decide (toLex first ≤ receiptKey r) && decide (receiptKey r ≤ toLex last))

/-! ## The audit chain -/

/-- Newest numbered row of the audit log. -/
def auditHead (db : Db F) (tie : ℕ) : Option (ℤ × String) :=
  (pickMax (fun r : AuditRow => r.seq.getD 0) tie (db.audit.filter fun r => r.seq.isSome)).map
    fun r => (r.seq.getD 0, r.entryHash)

/-- `chain_head_raw`: a failed query reads as an empty log. The query is logged as `q`. -/
def chainHeadRaw {ε : Type} (q : Query) : Srv F ε (Option (ℤ × String)) := do
  match ← (Srv.selectTop q auditHead).attempt with
  | .ok head => pure head
  | .error _ => pure none

/-- `audit_chain_head` -/
def auditChainHead {ε : Type} : Srv F ε (Option (ℤ × String)) := do
  let head ← chainHeadRaw .auditHead
  return head.filter fun h => h.2 != ""

structure AuditRecord where
  auditId : String
  tenantId : String
  eventType : String
  eventJson : String
  timestamp : ℤ

def computeEntryHash (seq : ℤ) (prevHash : String) (r : AuditRecord) : String :=
  hexEncode (env.hmacSha256 env.auditHmacKey (utf8 (toString seq ++ "|" ++ prevHash ++ "|" ++
    r.auditId ++ "|" ++ r.tenantId ++ "|" ++ r.eventType ++ "|" ++ r.eventJson ++ "|" ++
    toString r.timestamp)))

/-- Append an event to the audit chain; an insertion that lost a race is tried again.
The failure to record an event is not reported to the caller. -/
def appendAudit {ε : Type} (record : AuditRecord) : (attempts : ℕ) → Srv F ε Unit
  | 0 => pure ()
  | attempts + 1 => do
    let head ← chainHeadRaw .other
    let last := head.getD (0, "genesis")
    let entryHash := computeEntryHash env (last.1 + 1) last.2 record
    let res ← (Srv.execute (.insertAudit ⟨record.auditId, record.tenantId, record.eventType,
      record.eventJson, record.timestamp, some (last.1 + 1), last.2, entryHash⟩)).attempt
    match res with
    | .ok _ => pure ()
    | .error e => if isUniqueViolation e then appendAudit record attempts else pure ()

/-- `AUDIT_CHAIN_APPEND_ATTEMPTS` -/
def auditChainAppendAttempts : ℕ := 4

/-! ## Anchoring -/

/-- Which publishers are configured. -/
structure Publishers where
  bitcoin : Bool
  solana : Bool
  deriving DecidableEq, Repr

/-- One publication: the publisher's receipt id, empty without one, and the errors. -/
def publishTo {ε : Type} (configured : Bool) (network : Network) (name rootHex : String) :
    Srv F ε (String × List String) :=
  if configured then do
    match ← Srv.publish network rootHex with
    | .anchored anchorId _ => pure (anchorId, [])
    | .failed e => pure ("", [name ++ ": " ++ e])
    | .crashed e => pure ("", [name ++ " task: " ++ e])
  else pure ("", [])

/-- Re-stamp a publisher's row with the tenant; a failure is ignored. -/
def restamp {ε : Type} (network : Network) (tenant anchorId : String) : Srv F ε Unit :=
  if anchorId = "" then pure ()
  else do
    let _ ← (Srv.execute (.restampAnchor network tenant anchorId)).attempt
    return ()

/-- How a batch ends. -/
def batchStatus (publishers : Publishers) (btcId solId : String) : AnchorStatus :=
  let expected := publishers.bitcoin.toNat + publishers.solana.toNat
  let successes := (btcId != "").toNat + (solId != "").toNat
  if 0 < expected ∧ successes = expected then .submitted
  else if 0 < successes then .partially
  else .failed

def batchError (publishers : Publishers) (errors : List String) : String :=
  if publishers.bitcoin.toNat + publishers.solana.toNat = 0 then "no anchor provider configured"
  else "; ".intercalate errors

/-- The row of a new batch over `first :: rest`. -/
def batchRow (tenant anchorId rootHex : String) (first : ReceiptRow) (rest : List ReceiptRow)
    (head : Option (ℤ × String)) (now : ℤ) : AnchorRow :=
  let last := rest.getLastD first
  { anchorId := anchorId, batchRootHex := rootHex, nActions := (first :: rest).length,
    fromReceiptId := first.receiptId, toReceiptId := last.receiptId,
    fromCreatedAt := first.timestamp, toCreatedAt := last.timestamp, btcAnchorId := "",
    solAnchorId := "", anchorStatus := .pending, anchorError := "", leafVersion := 2,
    createdAt := now, tenantId := tenant, auditHeadSeq := (head.getD (0, "")).1,
    auditHeadHash := (head.getD (0, "")).2 }

/-- The part of a run after the batch is stored: publish the root, record the outcome. A
failure to record it is ignored. -/
def publishBatch (publishers : Publishers) (tenant anchorId rootHex : String) :
    Srv F String (Option String) := do
  let btc ← publishTo publishers.bitcoin .bitcoin "bitcoin" rootHex
  let sol ← publishTo publishers.solana .solana "solana" rootHex
  restamp .bitcoin tenant btc.1
  restamp .solana tenant sol.1
  let _ ← (Srv.execute (.finishAnchor anchorId btc.1 sol.1
    (batchStatus publishers btc.1 sol.1) (batchError publishers (btc.2 ++ sol.2)))).attempt
  return some anchorId

/-- The part of a run over the receipts it fetched: build the tree, store the batch,
publish. -/
def anchorBatch (publishers : Publishers) (tenant : String) (first : ReceiptRow)
    (rest : List ReceiptRow) : Srv F String (Option String) := do
  let head ← auditChainHead
  let root ← .okOr "empty merkle tree (unreachable)"
    (merkleRoot (combineNodes env) (batchLeaves env tenant (first :: rest) head))
  let rand ← Srv.random env.randomHex32
  let now ← Srv.nowSecs
  let anchorId := "aaa_" ++ rand
  let _ ← (Srv.execute (.insertAnchor (batchRow tenant anchorId (hexEncode root) first rest head
    now) (first :: rest))).mapErr fun e => "DB insert agent_action_anchors: " ++ e
  publishBatch publishers tenant anchorId (hexEncode root)

/-- The part of a run from its watermark on. -/
def anchorFrom (publishers : Publishers) (tenant : String) (mark : ℤ × String) :
    Srv F String (Option String) := do
  let receipts ← Srv.select (.pendingReceipts tenant mark) (pendingReceipts tenant mark)
  match receipts with
  | [] => pure none
  | first :: rest => anchorBatch env publishers tenant first rest

/-- `anchor_pending_actions_for_tenant` -/
def anchorPendingActionsForTenant (publishers : Publishers) (tenant : String) :
    Srv F String (Option String) := do
  match ← (Srv.selectTop (.watermark tenant) (watermark tenant)).attempt with
  | .ok mark => anchorFrom env publishers tenant (mark.getD (0, ""))
  -- a failed query reads as no watermark
  | .error _ => anchorFrom env publishers tenant (0, "")

/-! ## Proofs of inclusion -/

/-- What the proof endpoint returns. -/
structure InclusionProof where
  anchorId : String
  batchRootHex : String
  leafIndex : ℕ
  leafHex : String
  proofHashesHex : List String
  treeSize : ℕ
  leafVersion : ℤ
  btcAnchorId : String
  solAnchorId : String
  solConfirmed : Bool
  solSlot : Option ℤ
  solSig : Option String
  btcProvider : String
  btcOtsUpgraded : Bool
  anchored : Bool
  deriving DecidableEq, Repr

/-- The oldest batch whose time range covers a creation time. -/
def coveringBatch (tenant : String) (createdAt : ℤ) (db : Db F) (tie : ℕ) : Option AnchorRow :=
  pickMax (fun b : AnchorRow => -b.createdAt) tie (db.anchors.filter fun b =>
    decide (b.fromCreatedAt ≤ createdAt) && decide (createdAt ≤ b.toCreatedAt) &&
      tenantMatches tenant b.tenantId)

/-- Confirmation, slot and signature of a Solana receipt; a missing row and a failed query
read as unconfirmed. -/
def solanaState {ε : Type} (tenant solId : String) : Srv F ε (Bool × Option ℤ × Option String) :=
  if solId = "" then pure (false, none, none)
  else Srv.scalarOr .other
    (fun db => (db.solAnchors.find? fun r =>
        r.anchorId == solId && tenantMatches tenant r.tenantId).map
      fun r => (r.confirmed, some r.slot, some r.signature))
    (false, none, none)

def bitcoinState {ε : Type} (tenant btcId : String) : Srv F ε (Bool × String) :=
  if btcId = "" then pure (false, "opentimestamps")
  else Srv.scalarOr .other
    (fun db => (db.btcAnchors.find? fun r =>
        r.anchorId == btcId && tenantMatches tenant r.tenantId).map
      fun r => (r.otsUpgraded, r.provider))
    (false, "opentimestamps")

/-- The leaf of a receipt in the version of its batch. -/
def leafHash (leafVersion : ℤ) (r : ReceiptRow) : Bytes :=
  if 2 ≤ leafVersion then leafHashV2 env r else leafHashV1 env r.receiptId r.actionHash r.timestamp

/-- Build the answer from a batch and its receipts, fetched again. -/
def buildProof (receiptId : String) (batch : AnchorRow) (receipts : List ReceiptRow)
    (sol : Bool × Option ℤ × Option String) (btc : Bool × String) : Except String InclusionProof :=
  let leaves := receipts.map (leafHash env batch.leafVersion)
  match receipts.findIdx? fun r => r.receiptId == receiptId with
  | none => .error "receipt not in batch (DB drift?)"
  | some i => .ok
      { anchorId := batch.anchorId, batchRootHex := batch.batchRootHex, leafIndex := i,
        leafHex := hexEncode (leaves.getD i []),
        proofHashesHex := (merkleProof (combineNodes env) leaves i).map hexEncode,
        treeSize := leaves.length, leafVersion := batch.leafVersion,
        btcAnchorId := batch.btcAnchorId, solAnchorId := batch.solAnchorId,
        solConfirmed := sol.1, solSlot := sol.2.1, solSig := sol.2.2, btcProvider := btc.2,
        btcOtsUpgraded := btc.1,
        anchored := if batch.btcAnchorId = "" then sol.1 else sol.1 && btc.1 }

/-- `proof_for_receipt_for_tenant` -/
def proofForReceiptForTenant (receiptId tenant : String) :
    Srv F String (Option InclusionProof) := do
  let created ← (Srv.select .other fun db => (db.receipts.find? fun r =>
    r.receiptId == receiptId && tenantMatches tenant r.tenantId).map fun r => r.timestamp).attempt
  match created with
  | .ok (some createdAt) =>
    let found ← (Srv.selectTop .other (coveringBatch tenant createdAt)).attempt
    match found with
    | .ok (some batch) =>
      let sol ← solanaState tenant batch.solAnchorId
      let btc ← bitcoinState tenant batch.btcAnchorId
      let first := (batch.fromCreatedAt, batch.fromReceiptId)
      let last := (batch.toCreatedAt, batch.toReceiptId)
      let receipts ← Srv.select (.batchReceipts tenant first last) (batchReceipts tenant first last)
      let proof ← .ofExcept (buildProof env receiptId batch receipts sol btc)
      return some proof
    | _ => pure none
  | _ => pure none

/-! ## Sample values -/

/-- A receipt of the sample agent. -/
def sampleReceipt (receiptId : String) : ReceiptRow where
  tenantId := "default"
  receiptId := receiptId
  actionHash := ""
  agentId := "agt_1"
  ringKeyImageHex := ""
  policyVersion := ""
  ajwtJti := ""
  popJkt := ""
  timestamp := 5
  status := "verified"
  signature := ""
  seq := 0
  prevHash := ""
  ownerMandateHash := ""
  ringId := none
  configDigest := none

/-- The sample environment with a hash that is the identity. -/
def plainEnv : Env ℚ := { sampleEnv ℚ with sha256 := id, hmacSha256 := fun _ _ => [1] }

def bothPublishers : Publishers := ⟨true, true⟩

end SauronID.Anchor
