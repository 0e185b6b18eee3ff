import SauronID.Lib.Float64
import SauronID.Lib.Text

/-!
# The tables of the server

One record per row of the tables the modelled code reads or writes, and the
database as the list of rows of each table in the order they were inserted.
Columns that no modelled statement reads are left out. An amount column
(`REAL`) has the number type `F`.
-/

namespace SauronID

open Text

/-- A row of `agents`. -/
structure AgentRow where
  agentId : String
  humanKeyImage : String
  agentChecksum : String
  intentJson : String
  assuranceLevel : String
  publicKeyHex : String
  ringKeyImageHex : String
  issuedAt : ℤ
  expiresAt : ℤ
  revoked : ℤ
  parentAgentId : Option String
  delegationDepth : ℤ
  popJkt : String
  popPublicKeyB64u : String
  tenantId : String
  ownerMandateSigB64u : String
  ownerMandateHash : String
  deriving DecidableEq, Repr

/-- A row of `agent_vcs`. -/
structure AgentVcRow where
  agentId : String
  issuedAt : ℤ
  expiresAt : ℤ
  revoked : ℤ
  deriving DecidableEq, Repr

/-- A row of `agent_action_nonces`. -/
structure NonceRow where
  nonce : String
  agentId : String
  actionHash : String
  expiresAt : ℤ
  usedAt : ℤ
  deriving DecidableEq, Repr

/-- An action receipt as the code passes it around. -/
structure ActionReceipt where
  tenantId : String
  receiptId : String
  actionHash : String
  agentId : String
  ringKeyImageHex : String
  policyVersion : String
  ajwtJti : String
  popJkt : String
  timestamp : ℤ
  status : String
  signature : String
  seq : ℤ
  prevHash : String
  ownerMandateHash : String
  deriving DecidableEq, Repr

/-- A row of `agent_action_receipts`: a receipt and the two columns of the
anonymous ring path. `created_at` is the receipt's timestamp. -/
structure ReceiptRow extends ActionReceipt where
  ringId : Option String
  configDigest : Option String
  deriving DecidableEq, Repr

/-- A row of `rings`. -/
structure RingRow where
  tenantId : String
  ringId : String
  ruleJson : String
  version : ℤ
  deriving DecidableEq, Repr

/-- A row of `ring_members`. -/
structure RingMemberRow where
  tenantId : String
  ringId : String
  memberPointHex : String
  deriving DecidableEq, Repr

/-- What an `INTEGER` column holds: a sum that leaves the range of `i64` is kept as a
`REAL`. -/
inductive IntCell (F : Type) where
  | int (n : ℤ)
  | real (x : F)
  deriving DecidableEq, Repr

/-- Decoding as `i64`. -/
def IntCell.toI64 {F : Type} : IntCell F → Option ℤ
  | int n => some n
  | real _ => none

/-- A row of `usage_ledger`. -/
structure UsageRow (F : Type) where
  tenantId : String
  ringId : String
  keyImageHex : String
  inputTokens : IntCell F
  outputTokens : IntCell F
  usd : F

/-- A row of `usage_log`. -/
structure UsageLogRow (F : Type) where
  logId : String
  tenantId : String
  ringId : String
  keyImageHex : String
  modelId : String
  inputTokens : ℤ
  outputTokens : ℤ
  usd : F
  recordedAt : ℤ
  deriving DecidableEq, Repr

/-- The state of an anchor batch. -/
inductive AnchorStatus where
  | pending
  | submitted
  | partially
  | failed
  deriving DecidableEq, Repr

/-- A row of `agent_action_anchors`. -/
structure AnchorRow where
  anchorId : String
  batchRootHex : String
  nActions : ℤ
  fromReceiptId : String
  toReceiptId : String
  fromCreatedAt : ℤ
  toCreatedAt : ℤ
  btcAnchorId : String
  solAnchorId : String
  anchorStatus : AnchorStatus
  anchorError : String
  leafVersion : ℤ
  createdAt : ℤ
  tenantId : String
  auditHeadSeq : ℤ
  auditHeadHash : String
  deriving DecidableEq, Repr

/-- A row of `bitcoin_merkle_anchors`. -/
structure BtcAnchorRow where
  anchorId : String
  provider : String
  otsUpgraded : Bool
  tenantId : String
  deriving DecidableEq, Repr

/-- A row of `solana_merkle_anchors`. -/
structure SolAnchorRow where
  anchorId : String
  slot : ℤ
  confirmed : Bool
  signature : String
  tenantId : String
  deriving DecidableEq, Repr

/-- A row of `security_audit_log`; `seq` is null on rows from before the chain. -/
structure AuditRow where
  auditId : String
  tenantId : String
  eventType : String
  eventJson : String
  timestamp : ℤ
  seq : Option ℤ
  prevHash : String
  entryHash : String
  deriving DecidableEq, Repr

/-- A row of `agent_policy_bindings`. -/
structure BindingRow where
  tenantId : String
  agentId : String
  policyId : String
  deriving DecidableEq, Repr

/-- A row of `spend_ledger`; `periodStart = 0` is the lifetime total. -/
structure SpendLedgerRow (F : Type) where
  tenantId : String
  policyId : String
  agentId : String
  periodStart : ℤ
  totalUsd : F

/-- A row of `spend_log`. -/
structure SpendLogRow (F : Type) where
  logId : String
  tenantId : String
  policyId : String
  agentId : String
  amountUsd : F
  recordedAt : ℤ
  source : String

/-- A row of `agent_egress_capabilities`. -/
structure CapabilityRow where
  tokenHashHex : String
  tenantId : String
  agentId : String
  method : String
  url : String
  bodyHashHex : String
  actionReceiptId : String
  expiresAt : ℤ
  usedAt : Option ℤ
  deriving DecidableEq, Repr

/-- A row of `agent_egress_log`, without its number. -/
structure EgressLogRow where
  tenantId : String
  agentId : String
  targetHost : String
  targetPath : String
  method : String
  bodyHashHex : String
  statusCode : ℤ
  ts : ℤ
  allowed : Bool
  deriving DecidableEq, Repr

/-- A row of `agent_payment_authorizations`. -/
structure PaymentAuthRow where
  authId : String
  tenantId : String
  agentId : String
  jti : String
  amountMinor : ℤ
  currency : String
  merchantId : String
  paymentRef : String
  createdAt : ℤ
  expiresAt : ℤ
  consumed : ℤ
  deriving DecidableEq, Repr

/-- A row of `agent_pop_challenges`. -/
structure PopChallengeRow where
  id : String
  agentId : String
  challenge : String
  exp : ℤ
  deriving DecidableEq, Repr

/-- A row of `users`. -/
structure UserRow where
  keyImageHex : String
  publicKeyHex : String
  deriving DecidableEq, Repr

/-- A row of `agent_call_nonces`. -/
structure CallNonceRow where
  agentId : String
  nonce : String
  exp : ℤ
  deriving DecidableEq, Repr

/-- A row of `user_auth_credentials`. -/
structure CredentialRow where
  keyImageHex : String
  ed25519PublicKeyB64u : String
  sessionEpoch : ℤ
  deriving DecidableEq, Repr

/-- A row of `agent_attestation_challenges`. -/
structure AttestationRow where
  id : String
  tenantId : String
  humanKeyImage : String
  nonce : String
  popPublicKeyB64u : String
  expiresAt : ℤ
  usedAt : Option ℤ
  deriving DecidableEq, Repr

/-- A row of `user_auth_challenges`; `usedAt` is 0 until the challenge is used. -/
structure UserAuthChallengeRow where
  challengeId : String
  tenantId : String
  keyImageHex : String
  nonce : String
  expiresAt : ℤ
  usedAt : ℤ
  deriving DecidableEq, Repr

/-- A row of `agent_checksum_inputs`. -/
structure ChecksumInputsRow where
  agentId : String
  agentType : String
  inputsCanonical : String
  computedChecksum : String
  version : ℤ
  createdAt : ℤ
  updatedAt : ℤ
  deriving DecidableEq, Repr

/-- A row of `agent_checksum_audit`; its number is its place in the table. -/
structure ChecksumAuditRow where
  agentId : String
  fromChecksum : String
  toChecksum : String
  fromInputsHash : String
  toInputsHash : String
  reason : String
  actor : String
  ts : ℤ
  deriving DecidableEq, Repr

/-- A row of `zk_proof_checkpoints`. -/
structure CheckpointRow where
  checkpointId : String
  tenantId : String
  circuit : String
  merkleRoot : String
  treeSize : ℤ
  anchorId : String
  finalizedAt : ℤ
  deriving DecidableEq, Repr

/-- A row of `customer_stats`. -/
structure StatsRow where
  tenantId : String
  /-- Empty for the whole tenant. -/
  agentId : String
  metricId : String
  claimedValue : ℤ
  nRecords : ℤ
  periodStart : ℤ
  periodEnd : ℤ
  merkleRoot : String
  proofB64 : String
  vkId : String
  checkpointId : String
  submittedAt : ℤ
  deriving DecidableEq, Repr

/-- A row of `stats_submission_receipts`. -/
structure StatsReceiptRow where
  statementHash : String
  tenantId : String
  checkpointId : String
  metricId : String
  submittedAt : ℤ
  deriving DecidableEq, Repr

/-- The database. -/
structure Db (F : Type) where
  agents : List AgentRow
  agentVcs : List AgentVcRow
  nonces : List NonceRow
  receipts : List ReceiptRow
  rings : List RingRow
  ringMembers : List RingMemberRow
  usage : List (UsageRow F)
  usageLog : List (UsageLogRow F)
  anchors : List AnchorRow
  btcAnchors : List BtcAnchorRow
  solAnchors : List SolAnchorRow
  audit : List AuditRow
  bindings : List BindingRow
  spendLedger : List (SpendLedgerRow F)
  spendLog : List (SpendLogRow F)
  capabilities : List CapabilityRow
  paymentAuths : List PaymentAuthRow
  /-- `ajwt_used_jtis`: jti and expiry. -/
  usedJtis : List (String × ℤ)
  popChallenges : List PopChallengeRow
  /-- `risk_rate_counters`: bucket, window and count. -/
  riskCounters : List (String × ℤ × ℤ)
  users : List UserRow
  /-- `bank_kyc_links`: the linked key images. -/
  bankLinks : List String
  callNonces : List CallNonceRow
  credentials : List CredentialRow
  /-- `user_auth_tenant_bindings`: tenant and key image. -/
  credentialTenants : List (String × String)
  attestations : List AttestationRow
  userAuthChallenges : List UserAuthChallengeRow
  checksumInputs : List ChecksumInputsRow
  checksumAudit : List ChecksumAuditRow
  egressLog : List EgressLogRow
  checkpoints : List CheckpointRow
  customerStats : List StatsRow
  statsReceipts : List StatsReceiptRow

/-- A database with no rows. -/
def Db.empty (F : Type) : Db F where
  agents := []
  agentVcs := []
  nonces := []
  receipts := []
  rings := []
  ringMembers := []
  usage := []
  usageLog := []
  anchors := []
  btcAnchors := []
  solAnchors := []
  audit := []
  bindings := []
  spendLedger := []
  spendLog := []
  capabilities := []
  paymentAuths := []
  usedJtis := []
  popChallenges := []
  riskCounters := []
  users := []
  bankLinks := []
  callNonces := []
  credentials := []
  credentialTenants := []
  attestations := []
  userAuthChallenges := []
  checksumInputs := []
  checksumAudit := []
  egressLog := []
  checkpoints := []
  customerStats := []
  statsReceipts := []

end SauronID
