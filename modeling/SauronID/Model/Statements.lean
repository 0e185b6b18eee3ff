import SauronID.Model.Tables

/-!
# The statements the server sends to its database

`Write` lists the data-changing statements of the modelled code, each under the
table it changes, and `Write.apply` is what such a statement does to the rows:
the new database and the number of rows it reports, or the text of the
constraint it violates. A sequence inside one explicit transaction is one
`Write`. `Query` names the `SELECT`s, so that a log can tell them apart.
-/

namespace SauronID

/-- The `SELECT` statements that a proof has to tell apart, and the rest. -/
inductive Query where
  /-- The row of an agent. -/
  | agent (tenant agentId : String)
  /-- Newest receipt of a tenant's chain. -/
  | chainHead (tenant : String)
  | loadReceipt (receiptId : String)
  /-- End of the last submitted batch of a tenant. -/
  | watermark (tenant : String)
  /-- Receipts of a tenant past a watermark. -/
  | pendingReceipts (tenant : String) (mark : ℤ × String)
  /-- Head of the audit chain, as an anchoring run reads it. -/
  | auditHead
  /-- Receipts of a tenant between two ends, both included. -/
  | batchReceipts (tenant : String) (first last : ℤ × String)
  /-- Lifetime spend of an agent under a policy. -/
  | spendTotal (tenant policyId agentId : String)
  | binding (tenant agentId : String)
  /-- Receipts of an agent in the last week. -/
  | receiptWindow (tenant agentId : String)
  | dailySpend (tenant policyId agentId : String)
  | inFlight (tenant agentId : String)
  /-- How many agents of a tenant hold a key at `now`. -/
  | activePublicKey (tenant publicKeyHex : String) (now : ℤ)
  | activeKeyImage (tenant ringKeyImageHex : String) (now : ℤ)
  /-- How many agents of a tenant are unrevoked. -/
  | activeAgents (tenant : String)
  /-- The row of an agent that is to be the parent of another. -/
  | parent (tenant agentId : String)
  /-- Totals of a ring pseudonym. -/
  | usage (tenant ringId keyImageHex : String)
  /-- Version and checksum of the stored inputs of an agent. -/
  | checksumInputs (agentId : String)
  | other
  deriving DecidableEq, Repr

/-- A public ledger a Merkle root is published to. -/
inductive Network where
  | bitcoin
  | solana
  deriving DecidableEq, Repr

/-- The data-changing statements. -/
inductive Write (F : Type) where
  /-- `DELETE FROM agent_action_nonces WHERE expires_at < now` -/
  | pruneNonces (now : ℤ)
  | insertNonce (row : NonceRow)
  /-- `INSERT OR REPLACE … ON CONFLICT(receipt_id) DO UPDATE`; the two action paths
  name different columns. -/
  | upsertReceipt (row : ReceiptRow) (anon : Bool)
  /-- The batch row; `leaves` are the receipts it was built from. -/
  | insertAnchor (row : AnchorRow) (leaves : List ReceiptRow)
  | finishAnchor (anchorId btc sol : String) (status : AnchorStatus) (error : String)
  /-- `UPDATE … SET tenant_id` on the publisher's own row. -/
  | restampAnchor (network : Network) (tenant anchorId : String)
  | insertAudit (row : AuditRow)
  /-- `INSERT OR REPLACE INTO agents … ON CONFLICT(agent_id) DO UPDATE` -/
  | upsertAgent (row : AgentRow)
  | insertAgent (row : AgentRow)
  | revokeAgent (agentId human tenant : String)
  | upsertAgentVc (row : AgentVcRow)
  /-- Count one request in a rate window; reports the new count. -/
  | bumpRisk (bucket : String) (window : ℤ)
  | pruneRisk (window : ℤ)
  | deletePopChallenge (id : String)
  /-- Delete expired identifiers and insert this one, in one transaction. -/
  | consumeJti (now : ℤ) (jti : String) (exp : ℤ)
  | insertPaymentAuth (row : PaymentAuthRow)
  | consumePaymentAuth (tenant authId : String) (now : ℤ)
  /-- Append to `spend_log` and add to `spend_ledger`, in one transaction. -/
  | recordSpend (row : SpendLogRow F) (period : ℤ)
  | pruneCapabilities (now : ℤ)
  | insertCapability (row : CapabilityRow)
  /-- `UPDATE … SET used_at` of an unspent, unexpired capability for exactly this request. -/
  | useCapability (now : ℤ) (tokenHashHex tenant agentId method url bodyHashHex : String)
  | insertEgressLog (row : EgressLogRow)
  | insertCallNonce (row : CallNonceRow)
  /-- `UPDATE … SET used_at` where it is null and the challenge has not expired. -/
  | claimAttestation (id : String) (now : ℤ)
  | insertChecksumInputs (row : ChecksumInputsRow)
  /-- `DELETE … WHERE exp < now` of the garbage collection. -/
  | pruneJtis (now : ℤ)
  | prunePopChallenges (now : ℤ)
  | pruneCallNonces (now : ℤ)
  /-- `UPDATE … SET session_epoch = session_epoch + 1` of an owner. -/
  | bumpSessionEpoch (keyImage : String)
  | insertCheckpoint (row : CheckpointRow)
  /-- Upsert a statistic and, unless it is there, insert the receipt of its statement, in
  one transaction. -/
  | storeStats (row : StatsRow) (receipt : StatsReceiptRow)
  | insertUsageLog (row : UsageLogRow F)
  /-- `INSERT INTO usage_ledger … ON CONFLICT DO UPDATE`: add the counts and the price of a
  log row to the totals of its pseudonym. -/
  | addUsage (row : UsageLogRow F)
  /-- `INSERT OR IGNORE INTO ring_members` -/
  | insertMember (row : RingMemberRow)
  | deleteMember (row : RingMemberRow)
  /-- The new configuration of an agent, with its version. -/
  | updateChecksumInputs (agentId agentType canonical checksum : String) (version now : ℤ)
  /-- `UPDATE agents SET agent_checksum` of an agent, in whatever tenant. -/
  | setAgentChecksum (agentId checksum : String)
  | insertChecksumAudit (row : ChecksumAuditRow)
  | insertPopChallenge (row : PopChallengeRow)
  | insertAttestation (row : AttestationRow)
  /-- `DELETE … WHERE expires_at < now OR used_at IS NOT NULL` -/
  | pruneAttestations (now : ℤ)
  | insertUserAuthChallenge (row : UserAuthChallengeRow)
  /-- `DELETE … WHERE expires_at < cutoff OR used_at > 0` -/
  | pruneUserAuthChallenges (cutoff : ℤ)
  /-- `UPDATE … SET used_at = now` where it is 0 and the challenge has not expired. -/
  | claimUserAuthChallenge (id tenant keyImage : String) (now : ℤ)

/-! ## Uniqueness of active agent keys -/

/-- Both rows are in the partial index over the column `key` and agree on it:
unrevoked, of one tenant, with the same non-empty key. -/
def AgentRow.sameActiveKey (key : AgentRow → String) (a b : AgentRow) : Bool :=
  a.revoked == 0 && b.revoked == 0 && a.tenantId == b.tenantId && key a != "" && key a == key b

/-- The rows cannot stand in the table together: they agree on a column of one of
the `uq_agents_active_*` indexes. -/
def AgentRow.clashes (a b : AgentRow) : Bool :=
  a.sameActiveKey AgentRow.publicKeyHex b || a.sameActiveKey AgentRow.ringKeyImageHex b ||
    a.sameActiveKey AgentRow.popPublicKeyB64u b

/-- The columns of the first violated index, as the error text names them. -/
def AgentRow.clashColumn (a b : AgentRow) : String :=
  if a.sameActiveKey AgentRow.publicKeyHex b then "agents.public_key_hex"
  else if a.sameActiveKey AgentRow.ringKeyImageHex b then "agents.ring_key_image_hex"
  else "agents.pop_public_key_b64u"

def uniqueViolation (columns : String) : String := "UNIQUE constraint failed: " ++ columns

/-- What `DO UPDATE SET` of the upsert makes of the row it finds: every column of
the new row except the ones the statement does not name. -/
def AgentRow.updateFrom (old new : AgentRow) : AgentRow :=
  { new with ownerMandateSigB64u := old.ownerMandateSigB64u,
             ownerMandateHash := old.ownerMandateHash }

/-- The upsert on `agents`. A row with the same `agent_id` is updated, and the
update fails if it collides with another row on an active key. Otherwise every
row that collides on an active key is deleted and the new row is inserted. -/
def upsertAgents (rows : List AgentRow) (row : AgentRow) : Except String (List AgentRow) :=
  match rows.find? fun r => r.agentId == row.agentId with
  | some old =>
    let updated := old.updateFrom row
    match rows.find? fun r => r.agentId != row.agentId && r.clashes updated with
    | some other => .error (uniqueViolation ("agents.tenant_id, " ++ updated.clashColumn other))
    | none => .ok (rows.map fun r => if r.agentId == row.agentId then updated else r)
  | none => .ok (rows.filter (fun r => !r.clashes row) ++ [row])

/-- The plain insert on `agents`: any collision is an error. -/
def insertAgents (rows : List AgentRow) (row : AgentRow) : Except String (List AgentRow) :=
  if rows.any fun r => r.agentId == row.agentId then .error (uniqueViolation "agents.agent_id")
  else
    match rows.find? fun r => r.clashes row with
    | some other => .error (uniqueViolation ("agents.tenant_id, " ++ row.clashColumn other))
    | none => .ok (rows ++ [row])

theorem insertAgents_eq_ok {rows rows' : List AgentRow} {row : AgentRow}
    (h : insertAgents rows row = .ok rows') :
    (∀ r ∈ rows, r.agentId ≠ row.agentId) ∧ rows' = rows ++ [row] := by
  unfold insertAgents at h
  split at h
  · cases h
  · next hnone =>
    split at h <;> cases h
    exact ⟨by simpa using hnone, rfl⟩

/-- The row of an agent of this tenant and owner. -/
def AgentRow.ownedBy (agentId human tenant : String) (r : AgentRow) : Bool :=
  r.agentId == agentId && r.humanKeyImage == human && r.tenantId == tenant

/-- `UPDATE agents SET revoked = 1` at one row. -/
def AgentRow.revokeIf (agentId human tenant : String) (r : AgentRow) : AgentRow :=
  if r.ownedBy agentId human tenant then { r with revoked := 1 } else r

/-- `UPDATE agents SET agent_checksum` at one row. -/
def AgentRow.checksumIf (agentId checksum : String) (r : AgentRow) : AgentRow :=
  if r.agentId == agentId then { r with agentChecksum := checksum } else r

/-! ## Receipts -/

/-- What `DO UPDATE SET` of the receipt upsert makes of the row it finds: the
identity path does not name the ring columns, the anonymous path does not name the
mandate. -/
def ReceiptRow.updateFrom (old new : ReceiptRow) (anon : Bool) : ReceiptRow :=
  if anon then { new with ownerMandateHash := old.ownerMandateHash }
  else { new with ringId := old.ringId, configDigest := old.configDigest }

def upsertReceipts (rows : List ReceiptRow) (row : ReceiptRow) (anon : Bool) : List ReceiptRow :=
  if rows.any fun r => r.receiptId == row.receiptId then
    rows.map fun r => if r.receiptId == row.receiptId then r.updateFrom row anon else r
  else rows ++ [row]

/-! ## Spend -/

/-- Add an amount to the ledger row of its key, creating the row if it is missing. -/
def addSpend {F : Type} [Float64 F] (ledger : List (SpendLedgerRow F)) (row : SpendLogRow F)
    (period : ℤ) : List (SpendLedgerRow F) :=
  let isKey := fun l : SpendLedgerRow F =>
    l.tenantId == row.tenantId && l.policyId == row.policyId && l.agentId == row.agentId &&
      l.periodStart == period
  if ledger.any isKey then
    ledger.map fun l =>
      if isKey l then { l with totalUsd := Float64.add l.totalUsd row.amountUsd } else l
  else ledger ++ [⟨row.tenantId, row.policyId, row.agentId, period, row.amountUsd⟩]

/-! ## Usage -/

/-- Addition in SQL: out of the range of `i64` the sum is a `REAL`, and stays one. -/
def IntCell.add {F : Type} [Float64 F] : IntCell F → ℤ → IntCell F
  | int m, n =>
    if -2 ^ 63 ≤ m + n ∧ m + n < 2 ^ 63 then int (m + n)
    else real (Float64.add (Float64.ofInt m) (Float64.ofInt n))
  | real x, n => real (Float64.add x (Float64.ofInt n))

/-- The totals that a log row counts towards. -/
def UsageRow.isOf {F : Type} (row : UsageLogRow F) (r : UsageRow F) : Bool :=
  r.tenantId == row.tenantId && r.ringId == row.ringId && r.keyImageHex == row.keyImageHex

/-- The totals after a log row. -/
def UsageRow.plus {F : Type} [Float64 F] (r : UsageRow F) (row : UsageLogRow F) : UsageRow F :=
  { r with inputTokens := r.inputTokens.add row.inputTokens,
           outputTokens := r.outputTokens.add row.outputTokens,
           usd := Float64.add r.usd row.usd }

/-- The upsert on `usage_ledger`. -/
def upsertUsage {F : Type} [Float64 F] (rows : List (UsageRow F)) (row : UsageLogRow F) :
    List (UsageRow F) :=
  if rows.any (UsageRow.isOf row) then
    rows.map fun r => if r.isOf row then r.plus row else r
  else
    rows ++ [⟨row.tenantId, row.ringId, row.keyImageHex, .int row.inputTokens,
      .int row.outputTokens, row.usd⟩]

/-! ## Single use -/

/-- The authorization may still be redeemed at `now`. -/
def PaymentAuthRow.redeemable (tenant authId : String) (now : ℤ) (r : PaymentAuthRow) : Bool :=
  r.tenantId == tenant && r.authId == authId && r.consumed == 0 && decide (r.expiresAt > now)

/-- `UPDATE … SET consumed = 1` at one row. -/
def PaymentAuthRow.redeem (tenant authId : String) (now : ℤ) (r : PaymentAuthRow) :
    PaymentAuthRow :=
  if r.redeemable tenant authId now then { r with consumed := 1 } else r

/-- The capability is for this request and may still be spent at `now`. -/
def CapabilityRow.usable (now : ℤ) (tokenHashHex tenant agentId method url bodyHashHex : String)
    (r : CapabilityRow) : Bool :=
  r.tokenHashHex == tokenHashHex && r.tenantId == tenant && r.agentId == agentId &&
    r.method == method && r.url == url && r.bodyHashHex == bodyHashHex && r.usedAt.isNone &&
    decide (now ≤ r.expiresAt)

/-- The challenge may still be used at `now`. -/
def AttestationRow.claimable (id : String) (now : ℤ) (r : AttestationRow) : Bool :=
  r.id == id && r.usedAt.isNone && decide (now ≤ r.expiresAt)

/-- The challenge is for this user and may still be used at `now`. -/
def UserAuthChallengeRow.claimable (id tenant keyImage : String) (now : ℤ)
    (r : UserAuthChallengeRow) : Bool :=
  r.challengeId == id && r.tenantId == tenant && r.keyImageHex == keyImage && r.usedAt == 0 &&
    decide (now ≤ r.expiresAt)

/-- The rows of one statistic. -/
def StatsRow.sameKey (a b : StatsRow) : Bool :=
  a.tenantId == b.tenantId && a.agentId == b.agentId && a.metricId == b.metricId &&
    a.periodStart == b.periodStart

/-- The upsert on `customer_stats`: the columns that are not of the key are replaced. -/
def upsertStats (rows : List StatsRow) (row : StatsRow) : List StatsRow :=
  if rows.any (·.sameKey row) then rows.map fun r => if r.sameKey row then row else r
  else rows ++ [row]

/-- `INSERT OR IGNORE INTO stats_submission_receipts` -/
def insertStatsReceipt (rows : List StatsReceiptRow) (row : StatsReceiptRow) :
    List StatsReceiptRow :=
  if rows.any fun r => r.statementHash == row.statementHash then rows else rows ++ [row]

/-! ## What a statement does -/

/-- The effect of a statement on the database and the count it reports. -/
def Write.apply {F : Type} [Float64 F] (db : Db F) : Write F → Except String (Db F × ℕ)
  | .pruneNonces now =>
      let keep := db.nonces.filter fun r => !decide (r.expiresAt < now)
      .ok ({ db with nonces := keep }, db.nonces.length - keep.length)
  | .insertNonce row =>
      if db.nonces.any fun r => r.nonce == row.nonce then
        .error (uniqueViolation "agent_action_nonces.nonce")
      else .ok ({ db with nonces := db.nonces ++ [row] }, 1)
  | .upsertReceipt row anon =>
      .ok ({ db with receipts := upsertReceipts db.receipts row anon }, 1)
  | .insertAnchor row _ =>
      if db.anchors.any fun r => r.anchorId == row.anchorId then
        .error (uniqueViolation "agent_action_anchors.anchor_id")
      else .ok ({ db with anchors := db.anchors ++ [row] }, 1)
  | .finishAnchor anchorId btc sol status error =>
      .ok ({ db with anchors := db.anchors.map fun r =>
        if r.anchorId == anchorId then
          { r with btcAnchorId := btc, solAnchorId := sol, anchorStatus := status,
                   anchorError := error }
        else r }, 1)
  | .restampAnchor .bitcoin tenant anchorId =>
      .ok ({ db with btcAnchors := db.btcAnchors.map fun r =>
        if r.anchorId == anchorId then { r with tenantId := tenant } else r }, 1)
  | .restampAnchor .solana tenant anchorId =>
      .ok ({ db with solAnchors := db.solAnchors.map fun r =>
        if r.anchorId == anchorId then { r with tenantId := tenant } else r }, 1)
  | .insertAudit row =>
      if db.audit.any fun r => r.auditId == row.auditId then
        .error (uniqueViolation "security_audit_log.audit_id")
      else .ok ({ db with audit := db.audit ++ [row] }, 1)
  | .upsertAgent row => do
      let agents ← upsertAgents db.agents row
      return ({ db with agents := agents }, 1)
  | .insertAgent row => do
      let agents ← insertAgents db.agents row
      return ({ db with agents := agents }, 1)
  | .revokeAgent agentId human tenant =>
      .ok ({ db with agents := db.agents.map (·.revokeIf agentId human tenant) },
        db.agents.countP fun r => r.ownedBy agentId human tenant)
  | .upsertAgentVc row =>
      if db.agentVcs.any fun r => r.agentId == row.agentId then
        .ok ({ db with agentVcs := db.agentVcs.map fun r =>
          if r.agentId == row.agentId then { row with revoked := r.revoked } else r }, 1)
      else .ok ({ db with agentVcs := db.agentVcs ++ [row] }, 1)
  | .bumpRisk bucket window =>
      match db.riskCounters.find? fun c => c.1 == bucket && c.2.1 == window with
      | some c =>
        .ok ({ db with riskCounters := db.riskCounters.map fun c' =>
          if c'.1 == bucket && c'.2.1 == window then (c'.1, c'.2.1, c'.2.2 + 1) else c' },
          (c.2.2 + 1).toNat)
      | none => .ok ({ db with riskCounters := db.riskCounters ++ [(bucket, window, 1)] }, 1)
  | .pruneRisk window =>
      .ok ({ db with riskCounters := db.riskCounters.filter fun c => !decide (c.2.1 < window) }, 0)
  | .deletePopChallenge id =>
      .ok ({ db with popChallenges := db.popChallenges.filter fun r => r.id != id },
        db.popChallenges.countP fun r => r.id == id)
  | .consumeJti now jti exp =>
      let live := db.usedJtis.filter fun p => !decide (p.2 < now)
      if live.any fun p => p.1 == jti then .error (uniqueViolation "ajwt_used_jtis.jti")
      else .ok ({ db with usedJtis := live ++ [(jti, exp)] }, 1)
  | .insertPaymentAuth row =>
      if db.paymentAuths.any fun r => r.authId == row.authId then
        .error (uniqueViolation "agent_payment_authorizations.auth_id")
      else if db.paymentAuths.any fun r => r.jti == row.jti then
        .error (uniqueViolation "agent_payment_authorizations.jti")
      else .ok ({ db with paymentAuths := db.paymentAuths ++ [row] }, 1)
  | .consumePaymentAuth tenant authId now =>
      .ok ({ db with paymentAuths := db.paymentAuths.map (·.redeem tenant authId now) },
        db.paymentAuths.countP fun r => r.redeemable tenant authId now)
  | .recordSpend row period =>
      if db.spendLog.any fun r => r.logId == row.logId then
        .error (uniqueViolation "spend_log.log_id")
      else .ok ({ db with spendLog := db.spendLog ++ [row],
                          spendLedger := addSpend db.spendLedger row period }, 1)
  | .pruneCapabilities now =>
      .ok ({ db with capabilities := db.capabilities.filter fun r =>
        !(decide (r.expiresAt < now) || r.usedAt.isSome) }, 0)
  | .insertCapability row =>
      if db.capabilities.any fun r => r.tokenHashHex == row.tokenHashHex then
        .error (uniqueViolation "agent_egress_capabilities.token_hash_hex")
      else .ok ({ db with capabilities := db.capabilities ++ [row] }, 1)
  | .useCapability now tokenHashHex tenant agentId method url bodyHashHex =>
      let usable := CapabilityRow.usable now tokenHashHex tenant agentId method url bodyHashHex
      .ok ({ db with
          capabilities := db.capabilities.map fun r =>
            if usable r then { r with usedAt := some now } else r },
        db.capabilities.countP usable)
  | .insertEgressLog row => .ok ({ db with egressLog := db.egressLog ++ [row] }, 1)
  | .insertCallNonce row =>
      if db.callNonces.any fun r => r.agentId == row.agentId && r.nonce == row.nonce then
        .error (uniqueViolation "agent_call_nonces.agent_id, agent_call_nonces.nonce")
      else .ok ({ db with callNonces := db.callNonces ++ [row] }, 1)
  | .claimAttestation id now =>
      .ok ({ db with attestations := db.attestations.map fun r =>
          if r.claimable id now then { r with usedAt := some now } else r },
        db.attestations.countP fun r => r.claimable id now)
  | .insertChecksumInputs row =>
      if db.checksumInputs.any fun r => r.agentId == row.agentId then
        .error (uniqueViolation "agent_checksum_inputs.agent_id")
      else .ok ({ db with checksumInputs := db.checksumInputs ++ [row] }, 1)
  | .pruneJtis now =>
      .ok ({ db with usedJtis := db.usedJtis.filter fun p => !decide (p.2 < now) },
        db.usedJtis.countP fun p => decide (p.2 < now))
  | .prunePopChallenges now =>
      .ok ({ db with popChallenges := db.popChallenges.filter fun r => !decide (r.exp < now) },
        db.popChallenges.countP fun r => decide (r.exp < now))
  | .pruneCallNonces now =>
      .ok ({ db with callNonces := db.callNonces.filter fun r => !decide (r.exp < now) },
        db.callNonces.countP fun r => decide (r.exp < now))
  | .bumpSessionEpoch keyImage =>
      .ok ({ db with credentials := db.credentials.map fun r =>
          if r.keyImageHex == keyImage then { r with sessionEpoch := r.sessionEpoch + 1 } else r },
        db.credentials.countP fun r => r.keyImageHex == keyImage)
  | .insertCheckpoint row =>
      if db.checkpoints.any fun r => r.checkpointId == row.checkpointId then
        .error (uniqueViolation "zk_proof_checkpoints.checkpoint_id")
      else if db.checkpoints.any fun r => r.tenantId == row.tenantId && r.circuit == row.circuit &&
          r.anchorId == row.anchorId then
        .error (uniqueViolation ("zk_proof_checkpoints.tenant_id, zk_proof_checkpoints.circuit, " ++
          "zk_proof_checkpoints.anchor_id"))
      else .ok ({ db with checkpoints := db.checkpoints ++ [row] }, 1)
  | .storeStats row receipt =>
      .ok ({ db with customerStats := upsertStats db.customerStats row,
                     statsReceipts := insertStatsReceipt db.statsReceipts receipt }, 1)
  | .insertUsageLog row =>
      -- a NaN is bound as a null
      if Float64.isNan row.usd then .error "NOT NULL constraint failed: usage_log.usd"
      else if db.usageLog.any fun r => r.logId == row.logId then
        .error (uniqueViolation "usage_log.log_id")
      else .ok ({ db with usageLog := db.usageLog ++ [row] }, 1)
  | .addUsage row =>
      if Float64.isNan row.usd || db.usage.any fun r =>
          r.isOf row && Float64.isNan (Float64.add r.usd row.usd) then
        .error "NOT NULL constraint failed: usage_ledger.usd"
      else .ok ({ db with usage := upsertUsage db.usage row }, 1)
  | .insertMember row =>
      if row ∈ db.ringMembers then .ok (db, 0)
      else .ok ({ db with ringMembers := db.ringMembers ++ [row] }, 1)
  | .deleteMember row =>
      .ok ({ db with ringMembers := db.ringMembers.filter (· ≠ row) }, db.ringMembers.count row)
  | .updateChecksumInputs agentId agentType canonical checksum version now =>
      .ok ({ db with checksumInputs := db.checksumInputs.map fun r =>
          if r.agentId == agentId then
            { r with agentType := agentType, inputsCanonical := canonical,
                     computedChecksum := checksum, version := version, updatedAt := now }
          else r },
        db.checksumInputs.countP fun r => r.agentId == agentId)
  | .setAgentChecksum agentId checksum =>
      .ok ({ db with agents := db.agents.map (·.checksumIf agentId checksum) },
        db.agents.countP fun r => r.agentId == agentId)
  | .insertChecksumAudit row =>
      .ok ({ db with checksumAudit := db.checksumAudit ++ [row] }, 1)
  | .insertPopChallenge row =>
      if db.popChallenges.any fun r => r.id == row.id then
        .error (uniqueViolation "agent_pop_challenges.id")
      else .ok ({ db with popChallenges := db.popChallenges ++ [row] }, 1)
  | .insertAttestation row =>
      if db.attestations.any fun r => r.id == row.id then
        .error (uniqueViolation "agent_attestation_challenges.id")
      else .ok ({ db with attestations := db.attestations ++ [row] }, 1)
  | .pruneAttestations now =>
      .ok ({ db with attestations := db.attestations.filter fun r =>
          !(decide (r.expiresAt < now) || r.usedAt.isSome) },
        db.attestations.countP fun r => decide (r.expiresAt < now) || r.usedAt.isSome)
  | .insertUserAuthChallenge row =>
      if db.userAuthChallenges.any fun r => r.challengeId == row.challengeId then
        .error (uniqueViolation "user_auth_challenges.challenge_id")
      else .ok ({ db with userAuthChallenges := db.userAuthChallenges ++ [row] }, 1)
  | .pruneUserAuthChallenges cutoff =>
      .ok ({ db with userAuthChallenges := db.userAuthChallenges.filter fun r =>
          !(decide (r.expiresAt < cutoff) || decide (0 < r.usedAt)) },
        db.userAuthChallenges.countP fun r =>
          decide (r.expiresAt < cutoff) || decide (0 < r.usedAt))
  | .claimUserAuthChallenge id tenant keyImage now =>
      .ok ({ db with userAuthChallenges := db.userAuthChallenges.map fun r =>
          if r.claimable id tenant keyImage now then { r with usedAt := now } else r },
        db.userAuthChallenges.countP fun r => r.claimable id tenant keyImage now)

/-! ## What a statement leaves alone -/

/-- The tables that are written. The two spend tables are written together, and so are the
two of the statistics; the tables of the two publishers are not told apart. -/
inductive Table where
  | agents
  | agentVcs
  | nonces
  | receipts
  | anchors
  | providers
  | audit
  | spend
  | capabilities
  | paymentAuths
  | usedJtis
  | popChallenges
  | riskCounters
  | callNonces
  | attestations
  | checksumInputs
  | egressLog
  | credentials
  | checkpoints
  | stats
  | usage
  | usageLog
  | ringMembers
  | checksumAudit
  | userAuthChallenges
  deriving DecidableEq, Repr

/-- The table a statement writes. -/
def Write.table {F : Type} : Write F → Table
  | .pruneNonces _ => .nonces
  | .insertNonce _ => .nonces
  | .upsertReceipt _ _ => .receipts
  | .insertAnchor _ _ => .anchors
  | .finishAnchor _ _ _ _ _ => .anchors
  | .restampAnchor _ _ _ => .providers
  | .insertAudit _ => .audit
  | .upsertAgent _ => .agents
  | .insertAgent _ => .agents
  | .revokeAgent _ _ _ => .agents
  | .upsertAgentVc _ => .agentVcs
  | .bumpRisk _ _ => .riskCounters
  | .pruneRisk _ => .riskCounters
  | .deletePopChallenge _ => .popChallenges
  | .consumeJti _ _ _ => .usedJtis
  | .insertPaymentAuth _ => .paymentAuths
  | .consumePaymentAuth _ _ _ => .paymentAuths
  | .recordSpend _ _ => .spend
  | .pruneCapabilities _ => .capabilities
  | .insertCapability _ => .capabilities
  | .useCapability _ _ _ _ _ _ _ => .capabilities
  | .insertEgressLog _ => .egressLog
  | .insertCallNonce _ => .callNonces
  | .claimAttestation _ _ => .attestations
  | .insertChecksumInputs _ => .checksumInputs
  | .pruneJtis _ => .usedJtis
  | .prunePopChallenges _ => .popChallenges
  | .pruneCallNonces _ => .callNonces
  | .bumpSessionEpoch _ => .credentials
  | .insertCheckpoint _ => .checkpoints
  | .storeStats _ _ => .stats
  | .insertUsageLog _ => .usageLog
  | .addUsage _ => .usage
  | .insertMember _ => .ringMembers
  | .deleteMember _ => .ringMembers
  | .updateChecksumInputs _ _ _ _ _ _ => .checksumInputs
  | .setAgentChecksum _ _ => .agents
  | .insertChecksumAudit _ => .checksumAudit
  | .insertPopChallenge _ => .popChallenges
  | .insertAttestation _ => .attestations
  | .pruneAttestations _ => .attestations
  | .insertUserAuthChallenge _ => .userAuthChallenges
  | .pruneUserAuthChallenges _ => .userAuthChallenges
  | .claimUserAuthChallenge _ _ _ _ => .userAuthChallenges

/-- Two databases that agree on the tables the proofs follow, off the table `t`. -/
structure Db.SameOff {F : Type} (t : Table) (db db' : Db F) : Prop where
  agents : t ≠ .agents → db'.agents = db.agents
  nonces : t ≠ .nonces → db'.nonces = db.nonces
  receipts : t ≠ .receipts → db'.receipts = db.receipts
  anchors : t ≠ .anchors → db'.anchors = db.anchors
  audit : t ≠ .audit → db'.audit = db.audit
  spendLedger : t ≠ .spend → db'.spendLedger = db.spendLedger
  paymentAuths : t ≠ .paymentAuths → db'.paymentAuths = db.paymentAuths
  usedJtis : t ≠ .usedJtis → db'.usedJtis = db.usedJtis
  callNonces : t ≠ .callNonces → db'.callNonces = db.callNonces
  capabilities : t ≠ .capabilities → db'.capabilities = db.capabilities
  spendLog : t ≠ .spend → db'.spendLog = db.spendLog
  credentials : t ≠ .credentials → db'.credentials = db.credentials
  checkpoints : t ≠ .checkpoints → db'.checkpoints = db.checkpoints
  customerStats : t ≠ .stats → db'.customerStats = db.customerStats
  statsReceipts : t ≠ .stats → db'.statsReceipts = db.statsReceipts
  usage : t ≠ .usage → db'.usage = db.usage
  usageLog : t ≠ .usageLog → db'.usageLog = db.usageLog
  checksumInputs : t ≠ .checksumInputs → db'.checksumInputs = db.checksumInputs
  checksumAudit : t ≠ .checksumAudit → db'.checksumAudit = db.checksumAudit
  popChallenges : t ≠ .popChallenges → db'.popChallenges = db.popChallenges
  attestations : t ≠ .attestations → db'.attestations = db.attestations
  userAuthChallenges : t ≠ .userAuthChallenges →
    db'.userAuthChallenges = db.userAuthChallenges
  rings : db'.rings = db.rings
  bindings : db'.bindings = db.bindings
  credentialTenants : db'.credentialTenants = db.credentialTenants

variable {F : Type}

theorem Db.SameOff.rfl (t : Table) (db : Db F) : Db.SameOff t db db := by
  constructor <;> simp

/-- **Frame.** A statement changes no table but its own. -/
theorem Write.apply_sameOff [Float64 F] {w : Write F} {db db' : Db F} {n : ℕ}
    (h : w.apply db = .ok (db', n)) : Db.SameOff w.table db db' := by
  cases w with
  | upsertAgent row =>
    cases hrows : upsertAgents db.agents row with
    | error e => simp [Write.apply, hrows, bind, Except.bind] at h
    | ok rows =>
      simp only [Write.apply, hrows] at h
      cases h
      constructor <;> first | exact rfl | exact fun _ => rfl | exact fun h => absurd rfl h
  | insertAgent row =>
    cases hrows : insertAgents db.agents row with
    | error e => simp [Write.apply, hrows, bind, Except.bind] at h
    | ok rows =>
      simp only [Write.apply, hrows] at h
      cases h
      constructor <;> first | exact rfl | exact fun _ => rfl | exact fun h => absurd rfl h
  | bumpRisk _ _ | upsertAgentVc _ | insertMember _ =>
    simp only [Write.apply] at h
    split at h <;> cases h <;> constructor <;> first | exact rfl | exact fun _ => rfl
  | insertNonce _ | insertAnchor _ _ | insertAudit _ | consumeJti _ _ _ | recordSpend _ _
  | insertCapability _ | insertCallNonce _ | insertChecksumInputs _ | addUsage _
  | insertPopChallenge _ | insertAttestation _ | insertUserAuthChallenge _ =>
    simp only [Write.apply] at h
    split at h <;> cases h
    constructor <;> first | exact rfl | exact fun _ => rfl | exact fun h => absurd rfl h
  | restampAnchor network _ _ =>
    cases network <;> cases h <;> constructor <;> first | exact rfl | exact fun _ => rfl
  | insertPaymentAuth row | insertCheckpoint row | insertUsageLog row =>
    simp only [Write.apply] at h
    split at h
    · cases h
    · split at h <;> cases h
      constructor <;> first | exact rfl | exact fun _ => rfl | exact fun h => absurd rfl h
  | _ =>
    cases h
    constructor <;> first | exact rfl | exact fun _ => rfl | exact fun h => absurd rfl h

end SauronID
