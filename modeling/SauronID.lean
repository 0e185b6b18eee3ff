import SauronID.Lib.Chain
import SauronID.Lib.Prog
import SauronID.Lib.Pool
import SauronID.Lib.Trace
import SauronID.Lib.Text
import SauronID.Lib.Encoding
import SauronID.Lib.Int64
import SauronID.Lib.Float64
import SauronID.Lib.Merkle
import SauronID.Lib.Once
import SauronID.Lib.Order
import SauronID.Lib.MerkleTree
import SauronID.Lib.Recent
import SauronID.Lib.Alike
import SauronID.Lib.Cycle
import SauronID.Lib.Sequential
import SauronID.Lib.Fallible
import SauronID.Lib.SlidingWindow
import SauronID.Lib.TokenBucket
import SauronID.Lib.Codec
import SauronID.Lib.Transaction
import SauronID.Model.Json
import SauronID.Model.Tables
import SauronID.Model.Statements
import SauronID.Model.Server
import SauronID.Policy.Ast
import SauronID.Policy.Expr
import SauronID.Policy.Checks
import SauronID.Policy.Compile
import SauronID.Model.Env
import SauronID.Model.Rules
import SauronID.Model.Ring
import SauronID.Policy.Gate
import SauronID.Policy.FailClosed
import SauronID.Policy.Store
import SauronID.Policy.AgentIndex
import SauronID.Policy.Strict
import SauronID.Policy.Tighten
import SauronID.Policy.RuntimeFacts
import SauronID.Policy.WallClock
import SauronID.Policy.TwoWays
import SauronID.Policy.Lexer
import SauronID.Policy.Scope
import SauronID.Agent.Intent
import SauronID.Action.Canonical
import SauronID.Action.Receipts
import SauronID.Action.Validate
import SauronID.Action.Anon
import SauronID.Action.Steps
import SauronID.Action.History
import SauronID.Agent.CallSig
import SauronID.Agent.CallUse
import SauronID.Agent.Session
import SauronID.Request.Support
import SauronID.Agent.Issue
import SauronID.Agent.Issuance
import SauronID.Agent.Licence
import SauronID.Agent.Checksum
import SauronID.Agent.Register
import SauronID.Request.Authorize
import SauronID.Request.Capability
import SauronID.Request.Challenge
import SauronID.Request.Payment
import SauronID.Agent.Revocation
import SauronID.Agent.Token
import SauronID.Agent.Mandate
import SauronID.Agent.SessionRevocation
import SauronID.Agent.Ceiling
import SauronID.Agent.Delegation
import SauronID.Agent.DistinctKeys
import SauronID.Agent.Rotation
import SauronID.Agent.CustomGate
import SauronID.Action.NonceUse
import SauronID.Action.ReceiptChain
import SauronID.Action.TamperEvidence
import SauronID.Usage.Record
import SauronID.Action.Signed
import SauronID.Agent.SigningInputs
import SauronID.Agent.Skew
import SauronID.Agent.ChecksumIdentity
import SauronID.Action.RingMember
import SauronID.Action.TenantView
import SauronID.Action.Pseudonym
import SauronID.Action.NamedRings
import SauronID.Anchor.Batch
import SauronID.Anchor.Steps
import SauronID.Anchor.BatchLog
import SauronID.Anchor.Inclusion
import SauronID.Anchor.Lookup
import SauronID.Anchor.Checkpoint
import SauronID.Audit.Chain
import SauronID.Audit.Append
import SauronID.Audit.Report
import SauronID.Audit.ReportMac
import SauronID.Request.Budget
import SauronID.Request.Mediation
import SauronID.Request.Redeem
import SauronID.Request.Verify
import SauronID.Request.TokenUse
import SauronID.Request.ToolRestriction
import SauronID.Request.GlobalRateLimit
import SauronID.Admin.Tenancy
import SauronID.Request.RiskWindow
import SauronID.Request.TransactionHelper
import SauronID.Request.SpendLedger
import SauronID.Egress.Rules
import SauronID.Egress.Proxy
import SauronID.Egress.Content
import SauronID.Egress.SingleUse
import SauronID.Egress.OneAction
import SauronID.Egress.Validation
import SauronID.Egress.Addresses
import SauronID.Egress.Headers
import SauronID.Usage.Ledger
import SauronID.Usage.Budget
import SauronID.Usage.Charging
import SauronID.Sdk.Ring
import SauronID.Sdk.Evaluator
import SauronID.Sdk.Tracker
import SauronID.Sdk.Bind
import SauronID.Admin.Auth
import SauronID.Admin.Confined
import SauronID.Admin.Acting
import SauronID.Zk.Types
import SauronID.Aggregation.Submit
import SauronID.Aggregation.Backed
import SauronID.Zk.Guest
import SauronID.Zk.Sound
import SauronID.Zk.AnchoredBatch
