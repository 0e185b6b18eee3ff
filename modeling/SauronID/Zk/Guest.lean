import SauronID.Lib.Merkle
import SauronID.Zk.Types

/-!
# The statistics guest

The program that runs in the proof system. It reads the receipts of a whole batch with the
envelopes the agents signed, checks that every envelope is the preimage its receipt commits
to, rebuilds the Merkle root over all receipts, and commits to a journal. An assertion that
fails, or an `expect`, is an error with the text of the source: then there is no journal.
-/

namespace SauronID.Zk

open Text SauronID.Action

variable {F : Type} (env : Env F)

/-! ## Hashes -/

/-- `canonical_fields` in the guest, where a length that does not fit is a panic. -/
def guestFields (tooLong domain : String) (fields : List (String × String)) : Except String Bytes :=
  if FieldsFit fields then .ok (canonicalFields domain fields) else .error tooLong

/-- The members of an object as `serde_json` writes them: names without escapes, and the
texts of the values. -/
def jsonMembers : List (String × String) → String
  | [] => ""
  | [(name, value)] => "\"" ++ name ++ "\":" ++ value
  | (name, value) :: rest => "\"" ++ name ++ "\":" ++ value ++ "," ++ jsonMembers rest

def jsonObject (members : List (String × String)) : String :=
  "\x7b" ++ jsonMembers members ++ "\x7d"

/-- `serde_json::to_vec` of an envelope: its members in the order of the struct. -/
def envelopeJson (e : AgentActionEnvelope) : String :=
  jsonObject
    [("agent_id", env.jsonStr e.agentId), ("human_key_image", env.jsonStr e.humanKeyImage),
      ("action", env.jsonStr e.action), ("resource", env.jsonStr e.resource),
      ("merchant_id", env.jsonStr e.merchantId), ("amount_minor", toString e.amountMinor),
      ("currency", env.jsonStr e.currency), ("nonce", env.jsonStr e.nonce),
      ("expires_at", toString e.expiresAt), ("policy_hash", env.jsonStr e.policyHash),
      ("ajwt_jti", env.jsonStr e.ajwtJti)]

/-- `action_hash` in the guest. -/
def guestActionHash (e : AgentActionEnvelope) : String :=
  env.sha256Hex (utf8 (envelopeJson env e))

def leafDomain : String := "sauron.action-anchor-leaf.v2"

def leafFields (r : AnchoredReceiptV2) : List (String × String) :=
  [("tenant_id", r.tenantId), ("receipt_id", r.receiptId), ("action_hash", r.actionHash),
    ("agent_id", r.agentId), ("ring_key_image_hex", r.ringKeyImageHex),
    ("policy_version", r.policyVersion), ("ajwt_jti", r.ajwtJti), ("pop_jkt", r.popJkt),
    ("status", r.status), ("signature", r.signature), ("created_at", toString r.createdAt),
    ("ring_id", r.ringId), ("config_digest", r.configDigest)]

/-- `receipt_leaf` -/
def receiptLeaf (tooLong : String) (r : AnchoredReceiptV2) : Except String Bytes := do
  return env.sha256 (← guestFields tooLong leafDomain (leafFields r))

/-- Two nodes side by side, hashed. -/
def parentNode (a b : Bytes) : Bytes := env.sha256 (a ++ b)

/-- `merkle_root` -/
def guestMerkleRoot (nodes : List Bytes) : Except String Bytes :=
  match merkleRoot (parentNode env) nodes with
  | some root => .ok root
  | none => .error "empty receipt set"

/-! ## Checks -/

/-- `trim_start_matches("0x")` -/
def trimStartHex : List Char → List Char
  | '0' :: 'x' :: rest => trimStartHex rest
  | cs => cs

/-- The root of the input, as the guests compare it. -/
def expectedRoot (text : String) : String :=
  asciiLower (String.ofList (trimStartHex (trim text).toList))

/-- The envelope is of the tenant and the agent of the receipt, and is its preimage. -/
def checkPreimage (tenantId : String) (record : PrivateStatsRecord) : Except String Unit := do
  refuseIf (record.receipt.tenantId ≠ tenantId) "tenant mismatch"
  refuseIf (record.receipt.agentId ≠ record.envelope.agentId) "agent mismatch"
  refuseIf (record.receipt.ajwtJti ≠ record.envelope.ajwtJti) "JTI mismatch"
  refuseIf (record.receipt.actionHash ≠ guestActionHash env record.envelope)
    "action preimage mismatch"

/-- The scope of one agent, when the input has one. -/
def checkScope (agentIdOrNone : Option String) (record : PrivateStatsRecord) : Except String Unit :=
  refuseIf (agentIdOrNone.any (record.receipt.agentId ≠ ·)) "agent scope mismatch"

/-- The receipt is an ordinary signed one. -/
def checkOrdinary (anonRing anonConfig : String) (record : PrivateStatsRecord) :
    Except String Unit := do
  refuseIf record.receipt.ringKeyImageHex.isEmpty "missing ring identity"
  refuseIf record.receipt.signature.isEmpty "unsigned receipt"
  refuseIf (¬record.receipt.ringId.isEmpty) anonRing
  refuseIf (¬record.receipt.configDigest.isEmpty) anonConfig

/-- The root over the leaves of all records, which must be the expected one. -/
def batchRoot (leaf : PrivateStatsRecord → Except String Bytes) (mismatch expected : String)
    (records : List PrivateStatsRecord) : Except String String := do
  let leaves ← records.mapM leaf
  let root ← guestMerkleRoot env leaves
  refuseIf (hexEncode root ≠ expected) mismatch
  return hexEncode root

/-! ## Statistics -/

def isSuccess (status : String) : Bool :=
  asciiLower status ∈ ["accepted", "authorized", "ok", "success", "verified"]

/-- An `i64` operation that may not overflow. -/
def checkedI64 (overflow : String) (i : ℤ) : Except String ℤ :=
  if satI64 i = i then .ok i else .error overflow

/-- The cost of a receipt in thousandths, added to a total. -/
def addCost (total : ℤ) (record : PrivateStatsRecord) : Except String ℤ := do
  refuseIf (¬eqIgnoreAsciiCase record.envelope.currency "USD")
    ("cost_total only accepts USD receipts; currency conversion is not hidden inside " ++
      "the proof")
  refuseIf (¬0 ≤ record.envelope.amountMinor) "negative cost receipt"
  let milli ← checkedI64 "milli-USD conversion overflow" (record.envelope.amountMinor * 10)
  checkedI64 "cost total overflow" (total + milli)

/-- `computed_metric` -/
def computedMetric (metricId : String) (records : List PrivateStatsRecord) : Except String ℤ := do
  let n ← checkedI64 "receipt count exceeds i64" records.length
  match metricId with
  | "success_rate" =>
    let successes := records.countP fun r => isSuccess r.receipt.status
    return (← checkedI64 "success sum overflow" (successes * 1000)).tdiv n
  | "error_rate" =>
    let errors := records.countP fun r => !isSuccess r.receipt.status
    return (← checkedI64 "error sum overflow" (errors * 1000)).tdiv n
  | "tool_call_count" =>
    let calls := records.countP fun r => !(trim r.envelope.action).isEmpty
    checkedI64 "call count overflow" (calls * 1000)
  | "cost_total" => records.foldlM addCost 0
  | _ => .error "metric is not implemented by this reviewed guest"

/-- What the statistics guest does with a record. -/
def statsLeaf (input : StatsProofInput) (record : PrivateStatsRecord) : Except String Bytes := do
  checkPreimage env input.tenantId record
  refuseIf (¬(input.periodStart ≤ record.receipt.createdAt ∧
    record.receipt.createdAt ≤ input.periodEnd)) "receipt outside reporting period"
  checkScope input.agentIdOrNone record
  checkOrdinary "anonymous receipt uses a different preimage" "unexpected anonymous config digest"
    record
  receiptLeaf env "canonical field length exceeds u32" record.receipt

/-- The statistics guest. -/
def statsGuest (input : StatsProofInput) : Except String TransparentJournal := do
  refuseIf (trim input.tenantId).isEmpty "tenant_id is empty"
  refuseIf (trim input.checkpointId).isEmpty "checkpoint_id is empty"
  refuseIf (trim input.actionAnchorId).isEmpty "action anchor is empty"
  refuseIf (¬input.periodStart ≤ input.periodEnd) "invalid period"
  refuseIf input.records.isEmpty "empty receipt set"
  refuseIf (10000 < input.records.length) "receipt cap exceeded"
  let expected := expectedRoot input.expectedMerkleRoot
  refuseIf (expected.utf8ByteSize ≠ 64) "root must be 32-byte hex"
  let root ← batchRoot env (statsLeaf env input) "complete batch Merkle root mismatch" expected
    input.records
  let claimedValue ← computedMetric input.metricId input.records
  return {
    protocol := journalProtocol
    programId := statsProgramId
    statement := .stats {
      tenantId := input.tenantId
      checkpointId := input.checkpointId
      actionAnchorId := input.actionAnchorId
      merkleRoot := root
      treeSize := input.records.length
      agentIdOrNone := input.agentIdOrNone
      metricId := input.metricId
      claimedValue := claimedValue
      periodStart := input.periodStart
      periodEnd := input.periodEnd } }

/-! ## The envelope in the guest and on the server -/

theorem envelopeJson_eq (e : AgentActionEnvelope) :
    envelopeJson env e = canonicalEnvelopeJson env e := by
  change _ = "\x7b" ++ ("\"" ++ "agent_id" ++ "\":") ++ env.jsonStr e.agentId ++
    ("," ++ ("\"" ++ "human_key_image" ++ "\":")) ++ env.jsonStr e.humanKeyImage ++
    ("," ++ ("\"" ++ "action" ++ "\":")) ++ env.jsonStr e.action ++
    ("," ++ ("\"" ++ "resource" ++ "\":")) ++ env.jsonStr e.resource ++
    ("," ++ ("\"" ++ "merchant_id" ++ "\":")) ++ env.jsonStr e.merchantId ++
    ("," ++ ("\"" ++ "amount_minor" ++ "\":")) ++ toString e.amountMinor ++
    ("," ++ ("\"" ++ "currency" ++ "\":")) ++ env.jsonStr e.currency ++
    ("," ++ ("\"" ++ "nonce" ++ "\":")) ++ env.jsonStr e.nonce ++
    ("," ++ ("\"" ++ "expires_at" ++ "\":")) ++ toString e.expiresAt ++
    ("," ++ ("\"" ++ "policy_hash" ++ "\":")) ++ env.jsonStr e.policyHash ++
    ("," ++ ("\"" ++ "ajwt_jti" ++ "\":")) ++ env.jsonStr e.ajwtJti ++ "\x7d"
  simp only [envelopeJson, jsonObject, jsonMembers, String.append_assoc]

/-- The guest hashes an envelope as the server does. -/
theorem guestActionHash_eq (e : AgentActionEnvelope) :
    guestActionHash env e = actionHash env e := by
  rw [guestActionHash, envelopeJson_eq]
  rfl

/-! ## What a guest that commits has checked -/

/-- The hash of a leaf that fits. -/
def leafHash (r : AnchoredReceiptV2) : Bytes :=
  env.sha256 (canonicalFields leafDomain (leafFields r))

/-- The checks of a record that both guests make. -/
structure RecordOk (tenantId : String) (agentIdOrNone : Option String)
    (record : PrivateStatsRecord) : Prop where
  tenant : record.receipt.tenantId = tenantId
  agent : record.receipt.agentId = record.envelope.agentId
  jti : record.receipt.ajwtJti = record.envelope.ajwtJti
  preimage : record.receipt.actionHash = guestActionHash env record.envelope
  scope : ∀ agent ∈ agentIdOrNone, record.receipt.agentId = agent
  ring : record.receipt.ringKeyImageHex ≠ ""
  signature : record.receipt.signature ≠ ""
  ordinary : record.receipt.ringId = "" ∧ record.receipt.configDigest = ""
  fits : FieldsFit (leafFields record.receipt)

variable {env} {tenantId : String} {record : PrivateStatsRecord}

theorem checkPreimage_eq_ok :
    checkPreimage env tenantId record = .ok () ↔ record.receipt.tenantId = tenantId ∧
      record.receipt.agentId = record.envelope.agentId ∧
      record.receipt.ajwtJti = record.envelope.ajwtJti ∧
      record.receipt.actionHash = guestActionHash env record.envelope := by
  simp only [checkPreimage, refuseIf_bind_eq_ok, refuseIf_eq_ok, not_not, ne_eq]

variable {agentIdOrNone : Option String}

theorem checkScope_eq_ok : checkScope agentIdOrNone record = .ok () ↔
      ∀ agent ∈ agentIdOrNone, record.receipt.agentId = agent := by
  cases agentIdOrNone <;> simp [checkScope, refuseIf_eq_ok]

theorem checkOrdinary_eq_ok {anonRing anonConfig : String} :
    checkOrdinary anonRing anonConfig record = .ok () ↔ record.receipt.ringKeyImageHex ≠ "" ∧
      record.receipt.signature ≠ "" ∧ record.receipt.ringId = "" ∧
      record.receipt.configDigest = "" := by
  simp [checkOrdinary, refuseIf_bind_eq_ok, refuseIf_eq_ok]

/-- The leaf of a receipt whose fields fit. -/
theorem receiptLeaf_eq_ok {tooLong : String} {r : AnchoredReceiptV2} {leaf : Bytes} :
    receiptLeaf env tooLong r = .ok leaf ↔ FieldsFit (leafFields r) ∧ leaf = leafHash env r := by
  by_cases hfits : FieldsFit (leafFields r)
  · simp [receiptLeaf, guestFields, hfits, leafHash, bind, Except.bind, pure, Except.pure, eq_comm]
  · simp [receiptLeaf, guestFields, hfits, bind, Except.bind]

/-- The guest computes the root of the server. -/
theorem guestMerkleRoot_eq_ok {nodes : List Bytes} {root : Bytes} :
    guestMerkleRoot env nodes = .ok root ↔ merkleRoot (parentNode env) nodes = some root := by
  cases h : merkleRoot (parentNode env) nodes <;> simp [guestMerkleRoot, h]

variable {input : StatsProofInput}

/-- A record has a leaf exactly if it is in order and in the period. -/
theorem statsLeaf_eq_ok (record : PrivateStatsRecord) (leaf : Bytes) :
    statsLeaf env input record = .ok leaf ↔
      (RecordOk env input.tenantId input.agentIdOrNone record ∧
        input.periodStart ≤ record.receipt.createdAt ∧
        record.receipt.createdAt ≤ input.periodEnd) ∧ leaf = leafHash env record.receipt := by
  simp only [statsLeaf, check_bind_eq_ok, checkPreimage_eq_ok, refuseIf_eq_ok, checkScope_eq_ok,
    checkOrdinary_eq_ok, receiptLeaf_eq_ok, not_not]
  constructor
  · rintro ⟨⟨htenant, hagent, hjti, hhash⟩, hperiod, hscope, ⟨hring, hsig, hord⟩, hfits, rfl⟩
    exact ⟨⟨⟨htenant, hagent, hjti, hhash, hscope, hring, hsig, hord, hfits⟩, hperiod⟩, rfl⟩
  · rintro ⟨⟨⟨htenant, hagent, hjti, hhash, hscope, hring, hsig, hord, hfits⟩, hperiod⟩, rfl⟩
    exact ⟨⟨htenant, hagent, hjti, hhash⟩, hperiod, hscope, ⟨hring, hsig, hord⟩, hfits, rfl⟩

/-- The root of a batch, as text. -/
def batchRootHex (env : Env F) (records : List PrivateStatsRecord) : Option String :=
  (merkleRoot (parentNode env) (records.map fun record => leafHash env record.receipt)).map
    hexEncode

variable {records : List PrivateStatsRecord}

/-- The records of a batch are accepted exactly if each is, and their root is the expected one. -/
theorem batchRoot_eq_ok {leaf : PrivateStatsRecord → Except String Bytes}
    {p : PrivateStatsRecord → Prop}
    (hleaf : ∀ record x, leaf record = .ok x ↔ p record ∧ x = leafHash env record.receipt)
    {mismatch expected text : String} : batchRoot env leaf mismatch expected records = .ok text ↔
      (∀ record ∈ records, p record) ∧ batchRootHex env records = some expected ∧
        text = expected := by
  have hmap := mapM_eq_ok_iff hleaf records
  by_cases hall : ∀ record ∈ records, p record
  · rw [batchRoot, (hmap _).2 ⟨hall, rfl⟩, and_iff_right hall]
    simp only [batchRootHex, guestMerkleRoot, bind, Except.bind]
    cases merkleRoot (parentNode env) (records.map fun record => leafHash env record.receipt) with
    | none => simp
    | some root =>
      by_cases hroot : hexEncode root = expected
      · simp [refuseIf, hroot, pure, Except.pure, eq_comm]
      · simp [refuseIf, hroot]
  · rw [batchRoot]
    cases hleaves : records.mapM leaf with
    | error e => simp [hall, bind, Except.bind]
    | ok leaves => exact absurd ((hmap leaves).1 hleaves).1 hall

/-- The checks of an input that both guests make. -/
structure BatchOk (env : Env F) (tenantId checkpointId actionAnchorId root : String)
    (agentIdOrNone : Option String) (records : List PrivateStatsRecord) : Prop where
  ids : trim tenantId ≠ "" ∧ trim checkpointId ≠ "" ∧ trim actionAnchorId ≠ ""
  nonempty : records ≠ []
  cap : records.length ≤ 10000
  size : (expectedRoot root).utf8ByteSize = 64
  recordOk : ∀ record ∈ records, RecordOk env tenantId agentIdOrNone record
  rebuilds : batchRootHex env records = some (expectedRoot root)

theorem batchOk_iff {checkpointId actionAnchorId root : String} :
    BatchOk env tenantId checkpointId actionAnchorId root agentIdOrNone records ↔
      ¬(trim tenantId).isEmpty ∧ ¬(trim checkpointId).isEmpty ∧ ¬(trim actionAnchorId).isEmpty ∧
      ¬records.isEmpty ∧ ¬10000 < records.length ∧ ¬(expectedRoot root).utf8ByteSize ≠ 64 ∧
      (∀ record ∈ records, RecordOk env tenantId agentIdOrNone record) ∧
      batchRootHex env records = some (expectedRoot root) := by
  simp only [String.isEmpty_iff, List.isEmpty_iff, not_lt, ne_eq, not_not]
  constructor
  · rintro ⟨⟨htenant, hcheckpoint, hanchor⟩, hne, hcap, hsize, hrecords, hroot⟩
    exact ⟨htenant, hcheckpoint, hanchor, hne, hcap, hsize, hrecords, hroot⟩
  · rintro ⟨htenant, hcheckpoint, hanchor, hne, hcap, hsize, hrecords, hroot⟩
    exact ⟨⟨htenant, hcheckpoint, hanchor⟩, hne, hcap, hsize, hrecords, hroot⟩

/-- The journal of the statistics guest. -/
def statsJournal (input : StatsProofInput) (claimedValue : ℤ) : TransparentJournal where
  protocol := journalProtocol
  programId := statsProgramId
  statement := .stats {
    tenantId := input.tenantId
    checkpointId := input.checkpointId
    actionAnchorId := input.actionAnchorId
    merkleRoot := expectedRoot input.expectedMerkleRoot
    treeSize := input.records.length
    agentIdOrNone := input.agentIdOrNone
    metricId := input.metricId
    claimedValue := claimedValue
    periodStart := input.periodStart
    periodEnd := input.periodEnd }

/-- The statistics guest commits when the batch is complete and in the period, and the
metric can be computed. -/
theorem statsGuest_eq_ok {journal : TransparentJournal} : statsGuest env input = .ok journal ↔
      BatchOk env input.tenantId input.checkpointId input.actionAnchorId input.expectedMerkleRoot
        input.agentIdOrNone input.records ∧
      (input.periodStart ≤ input.periodEnd ∧ ∀ record ∈ input.records,
        input.periodStart ≤ record.receipt.createdAt ∧ record.receipt.createdAt ≤ input.periodEnd) ∧
      ∃ value, computedMetric input.metricId input.records = .ok value ∧
        journal = statsJournal input value := by
  simp only [statsGuest, refuseIf_bind_eq_ok, batchOk_iff]
  simp only [bind_eq_ok_iff, batchRoot_eq_ok statsLeaf_eq_ok]
  constructor
  · rintro ⟨htenant, hcheckpoint, hanchor, hperiod, hne, hcap, hsize, root, ⟨hrecords, hroot, rfl⟩,
      value, hvalue, h⟩
    cases h
    exact ⟨⟨htenant, hcheckpoint, hanchor, hne, hcap, hsize, fun r hr => (hrecords r hr).1, hroot⟩,
      ⟨not_not.1 hperiod, fun r hr => (hrecords r hr).2⟩, value, hvalue, rfl⟩
  · rintro ⟨⟨htenant, hcheckpoint, hanchor, hne, hcap, hsize, hrecords, hroot⟩, ⟨hperiod, hin⟩,
      value, hvalue, rfl⟩
    exact ⟨htenant, hcheckpoint, hanchor, not_not.2 hperiod, hne, hcap, hsize, _,
      ⟨fun r hr => ⟨hrecords r hr, hin r hr⟩, hroot, rfl⟩, value, hvalue, rfl⟩

end SauronID.Zk
