import SauronID.Action.Canonical

/-!
# The types of the transparent proofs

What the guest programs read and commit to: the receipts of a batch with the envelopes the
agents signed, and the journal that a verified proof carries.
-/

namespace SauronID.Zk

open SauronID.Action

def journalProtocol : String := "sauron.transparent-proof.v1"
def statsProgramId : String := "sauron-stats-v1"

/-- The fields a leaf of an anchored batch commits to. -/
structure AnchoredReceiptV2 where
  tenantId : String
  receiptId : String
  actionHash : String
  agentId : String
  ringKeyImageHex : String
  policyVersion : String
  ajwtJti : String
  popJkt : String
  status : String
  signature : String
  createdAt : ℤ
  ringId : String
  configDigest : String
  deriving DecidableEq, Repr

structure PrivateStatsRecord where
  envelope : AgentActionEnvelope
  receipt : AnchoredReceiptV2
  deriving DecidableEq, Repr

/-- The private input of the statistics guest. -/
structure StatsProofInput where
  tenantId : String
  checkpointId : String
  actionAnchorId : String
  expectedMerkleRoot : String
  agentIdOrNone : Option String
  metricId : String
  periodStart : ℤ
  periodEnd : ℤ
  records : List PrivateStatsRecord
  deriving DecidableEq, Repr

structure StatsStatement where
  tenantId : String
  checkpointId : String
  actionAnchorId : String
  merkleRoot : String
  treeSize : ℕ
  agentIdOrNone : Option String
  metricId : String
  claimedValue : ℤ
  periodStart : ℤ
  periodEnd : ℤ
  deriving DecidableEq, Repr

structure ActionPolicyStatement where
  tenantId : String
  checkpointId : String
  actionAnchorId : String
  merkleRoot : String
  treeSize : ℕ
  predicateId : String
  predicateParametersSha256 : String
  deriving DecidableEq, Repr

inductive TransparentStatement where
  | stats (statement : StatsStatement)
  | actionPolicy (statement : ActionPolicyStatement)
  deriving DecidableEq, Repr

/-- What a guest commits to. -/
structure TransparentJournal where
  protocol : String
  programId : String
  statement : TransparentStatement
  deriving DecidableEq, Repr

end SauronID.Zk
