import SauronID.Anchor.Batch
import SauronID.Model.Rules

/-!
# Checkpoints of anchored batches

`finalizeProofCheckpoint` freezes the root and the size of an anchored batch for a circuit.
For the transparent circuits it checks that the batch holds ordinary receipts only, as many
as were anchored, each with its server signature.
-/

namespace SauronID.Anchor

open Conc Text SauronID.Action

variable {F : Type} [Float64 F] (env : Env F)

structure FinalizeProofCheckpointRequest where
  circuit : String
  actionAnchorId : String
  deriving DecidableEq, Repr

structure FinalizeProofCheckpointResponse where
  checkpointId : String
  anchorId : String
  finalized : Bool
  statementCommitmentHex : String
  deriving DecidableEq, Repr

/-- The characters of a circuit name. -/
def isCircuitChar (c : Char) : Bool :=
  ('0' ≤ c && c ≤ '9') || ('a' ≤ c && c ≤ 'z') || ('A' ≤ c && c ≤ 'Z') || c == '_' || c == '-' ||
    c == '.'

def allowedCheckpointCircuits : List String :=
  ["StatsHonestComputation", "TransparentActionPolicy", "ActionRangeProof", "ActionTimeWindow",
    "ActionSetMembership", "ActionSetNonMembership", "ActionSumBound", "ActionCountInRange"]

/-- The circuits whose guests read the signed envelopes. -/
def isTransparentCircuit (circuit : String) : Bool :=
  circuit == "StatsHonestComputation" || circuit == "TransparentActionPolicy"

/-- An anchor of the tenant, with what is known of its publication on Bitcoin:
`COALESCE(b.ots_upgraded, 0)` and `COALESCE(b.provider, '')` of a left join. -/
def tenantAnchor (tenantId anchorId : String) (db : Db F) : Option (AnchorRow × Bool × String) :=
  (db.anchors.find? fun a => a.anchorId == anchorId && a.tenantId == tenantId).map fun a =>
    match db.btcAnchors.find? fun b => b.anchorId == a.btcAnchorId && b.tenantId == a.tenantId with
    | some b => (a, b.otsUpgraded, b.provider)
    | none => (a, false, "")

/-- The receipts of the tenant between the ends of a batch, in order. -/
def checkpointReceipts (tenantId : String) (first last : ℤ × String) (db : Db F) :
    List ReceiptRow :=
  orderBy receiptKey (db.receipts.filter fun r => r.tenantId == tenantId &&
    decide (toLex first ≤ receiptKey r) && decide (receiptKey r ≤ toLex last))

/-- A receipt of the ordinary action path. -/
def isOrdinary (r : ReceiptRow) : Bool :=
  r.agentId != "" && r.ringKeyImageHex != "" && r.signature != "" && r.ringId.getD "" == "" &&
    r.configDigest.getD "" == ""

def verifyReceiptSignature (r : ActionReceipt) : Bool := signReceipt env r == r.signature

/-- The receipts of a batch are complete, ordinary and signed by the server. -/
def batchIsProvable (treeSize : ℤ) (rows : List ReceiptRow) : Bool :=
  decide ((rows.length : ℤ) = treeSize) && rows.all isOrdinary &&
    rows.all fun r => verifyReceiptSignature env r.toActionReceipt

def statementCommitment (tenantId circuit anchorId rootHex : String) (treeSize : ℤ) : String :=
  env.sha256Hex (canonicalFields "sauron.zk-checkpoint.v2"
    [("tenant_id", tenantId), ("circuit", circuit), ("action_anchor_id", anchorId),
      ("merkle_root", rootHex), ("tree_size", toString treeSize)])

/-- What is asked of the request itself. -/
def checkCheckpointRequest (body : FinalizeProofCheckpointRequest) : Except AppError Unit := do
  refuseIf (body.circuit = "" ∨ body.circuit.toList.any fun c => !isCircuitChar c)
    (.ofStatus 400 "invalid circuit name")
  refuseIf (body.circuit ∉ allowedCheckpointCircuits)
    (.ofStatus 400 "unsupported checkpoint circuit")
  refuseIf (trim body.actionAnchorId = "") (.ofStatus 400 "action_anchor_id is required")

/-- What is asked of the anchor before its receipts are looked at. -/
def checkAnchorSize (anchor : AnchorRow) : Except AppError Unit := do
  refuseIf (anchor.nActions ≤ 0 ∨ 10000 < anchor.nActions)
    (.ofStatus 400 "action anchor has invalid tree size")
  refuseIf (anchor.leafVersion < 2)
    (.ofStatus 400 "legacy partial receipt leaves cannot back a production proof checkpoint")

/-- What is asked of the anchor's publication and its root. -/
def checkAnchorFinal (anchor : AnchorRow) (otsUpgraded : Bool) (provider : String) :
    Except AppError Unit := do
  refuseIf (anchor.anchorStatus ≠ .submitted ∨ anchor.btcAnchorId = "")
    (.ofStatus 409 "action batch is not fully submitted to its configured anchors")
  refuseIf (env.development = false ∧ (provider ≠ "opentimestamps" ∨ otsUpgraded = false))
    (.ofStatus 409
      "production checkpoint requires an upgraded OpenTimestamps proof committed in Bitcoin")
  match hexDecode anchor.batchRootHex with
  | none => .error (.ofStatus 500 "stored anchor root is not hex")
  | some root => refuseIf (root.length ≠ 32) (.ofStatus 500 "stored anchor root is not 32 bytes")

/-- The check of the batch of a transparent circuit. -/
def checkBatch (tenantId circuit : String) (anchor : AnchorRow) : Srv F AppError Unit :=
  if isTransparentCircuit circuit then do
    let first := (anchor.fromCreatedAt, anchor.fromReceiptId)
    let last := (anchor.toCreatedAt, anchor.toReceiptId)
    let rows ← (Srv.select (.batchReceipts tenantId first last)
      (checkpointReceipts tenantId first last)).mapErr (.ofStatus 500)
    .rejectIf (!batchIsProvable env anchor.nActions rows)
      (.ofStatus 409 ("transparent checkpoints require a complete, unchanged batch of ordinary " ++
        "action receipts with valid tenant-bound server MACs"))
  else pure ()

/-- The row of a checkpoint. -/
def checkpointRow (tenantId : String) (body : FinalizeProofCheckpointRequest) (anchor : AnchorRow)
    (rand : String) (now : ℤ) : CheckpointRow :=
  { checkpointId := "zkc_" ++ rand, tenantId := tenantId, circuit := body.circuit,
    merkleRoot := anchor.batchRootHex, treeSize := anchor.nActions,
    anchorId := body.actionAnchorId, finalizedAt := now }

/-- `finalize_proof_checkpoint` -/
def finalizeProofCheckpoint (tenant : Option String) (body : FinalizeProofCheckpointRequest) :
    Srv F AppError FinalizeProofCheckpointResponse := do
  let tenantId := tenant.getD "default"
  let _ ← .ofExcept (checkCheckpointRequest body)
  let (anchor, otsUpgraded, provider) ← Srv.require .other
    (tenantAnchor tenantId body.actionAnchorId)
    (AppError.ofStatus 404 "tenant action anchor not found")
  let _ ← .ofExcept (checkAnchorSize anchor)
  let _ ← checkBatch env tenantId body.circuit anchor
  let _ ← .ofExcept (checkAnchorFinal env anchor otsUpgraded provider)
  let now ← Srv.nowSecs
  let rand ← Srv.random env.randomHex32
  let row := checkpointRow tenantId body anchor rand now
  let _ ← (Srv.execute (.insertCheckpoint row)).mapErr (.ofStatus 500)
  return ⟨row.checkpointId, body.actionAnchorId, true,
    statementCommitment env tenantId body.circuit body.actionAnchorId anchor.batchRootHex
      anchor.nActions⟩

/-! ## What finalizing does -/

/-- What a request has found when it stores a checkpoint: a submitted anchor of its tenant
and, for a transparent circuit, the receipts between its ends, which it has read after it. -/
def Finalizes (tenant : Option String) (body : FinalizeProofCheckpointRequest) (t : History F)
    (row : CheckpointRow) : Prop :=
  ∃ s anchor otsUpgraded provider rand now,
    row = checkpointRow (tenant.getD "default") body anchor rand now ∧
    trim body.actionAnchorId ≠ "" ∧ (.select .other, s) ∈ t ∧
    tenantAnchor (tenant.getD "default") body.actionAnchorId s.db =
      some (anchor, otsUpgraded, provider) ∧
    checkAnchorSize anchor = .ok () ∧ checkAnchorFinal env anchor otsUpgraded provider = .ok () ∧
    (isTransparentCircuit body.circuit = true → ∃ s',
      [(.select (.batchReceipts (tenant.getD "default") (anchor.fromCreatedAt, anchor.fromReceiptId)
        (anchor.toCreatedAt, anchor.toReceiptId)), s'), (.select .other, s)].Sublist t ∧
      batchIsProvable env anchor.nActions (checkpointReceipts (tenant.getD "default")
        (anchor.fromCreatedAt, anchor.fromReceiptId) (anchor.toCreatedAt, anchor.toReceiptId)
        s'.db) = true)

variable {env}

omit [Float64 F] in
theorem checkAnchorSize_eq_ok {anchor : AnchorRow} {u : Unit} (h : checkAnchorSize anchor = .ok u) :
    0 < anchor.nActions ∧ anchor.nActions ≤ 10000 ∧ 2 ≤ anchor.leafVersion := by
  rw [checkAnchorSize, refuseIf_bind_eq_ok, refuseIf_eq_ok] at h
  omega

variable {tenant : Option String} {body : FinalizeProofCheckpointRequest}

omit [Float64 F] in
/-- A checkpoint is over one to ten thousand receipts. -/
theorem Finalizes.size {t : History F} {row : CheckpointRow} (h : Finalizes env tenant body t row) :
    0 < row.treeSize ∧ row.treeSize ≤ 10000 := by
  obtain ⟨s, anchor, otsUpgraded, provider, rand, now, rfl, -, -, -, hsize, -⟩ := h
  obtain ⟨hpos, hle, -⟩ := checkAnchorSize_eq_ok hsize
  exact ⟨hpos, hle⟩

variable {may : May F}

theorem checkBatch_yields (tenantId circuit : String) (anchor : AnchorRow) (t : History F) :
    (checkBatch env tenantId circuit anchor).Yields (srvRules may) t fun t' _ =>
      isTransparentCircuit circuit = true → ∃ s',
        t' = (.select (.batchReceipts tenantId (anchor.fromCreatedAt, anchor.fromReceiptId)
          (anchor.toCreatedAt, anchor.toReceiptId)), s') :: t ∧
        batchIsProvable env anchor.nActions (checkpointReceipts tenantId
          (anchor.fromCreatedAt, anchor.fromReceiptId) (anchor.toCreatedAt, anchor.toReceiptId)
          s'.db) = true := by
  unfold checkBatch
  split
  · refine .bind (.mapErr (Srv.yields_select fun s _ => Prog.yields_rejectIf fun hok _ => ?_))
    exact ⟨s, rfl, by simpa using hok⟩
  · next hcircuit => exact Prog.yields_pure fun h => absurd h hcircuit

/-- **Finalizing.** Only a checkpoint of what was found is stored. -/
theorem finalizeProofCheckpoint_yields
    (hmay : ∀ t row s, Finalizes env tenant body t row → may t (.insertCheckpoint row) s) :
    (finalizeProofCheckpoint env tenant body).Yields (srvRules may) [] fun _ _ => True := by
  refine .ofExcept fun _ hreq => Srv.yields_require fun s found _ hfound => ?_
  obtain ⟨anchor, otsUpgraded, provider⟩ := found
  refine .ofExcept fun _ hsize => (checkBatch_yields _ _ _ _).andThen fun t _ ht hbatch => ?_
  refine .ofExcept fun _ hfinal => Srv.yields_nowSecs fun s₁ => Srv.yields_random fun s₂ => ?_
  refine .bind (.mapErr (Srv.yields_execute fun s₃ => ⟨hmay _ _ _ ?_, fun _ _ =>
    Prog.yields_pure trivial⟩))
  simp only [checkCheckpointRequest, refuseIf_bind_eq_ok] at hreq
  refine ⟨s, anchor, otsUpgraded, provider, _, _, rfl, refuseIf_eq_ok.1 hreq.2.2, ?_, hfound,
    hsize, hfinal, ?_⟩
  · exact .tail _ (.tail _ (ht.subset (.head _)))
  · intro hcircuit
    obtain ⟨s', rfl, hok⟩ := hbatch hcircuit
    exact ⟨s', ((List.Sublist.refl _).cons _).cons _, hok⟩

/-- Checkpoints are inserted and stay as they are. -/
theorem checkpoints_of_effect {lbl : Label F} {s s' : World F} (heff : lbl.Effect s s') :
    s'.db.checkpoints = s.db.checkpoints ∨ ∃ row, lbl = .write (.insertCheckpoint row) ∧
        s'.db.checkpoints = s.db.checkpoints ++ [row] := by
  obtain ⟨t, ht, hsame⟩ | ⟨w, db, n, rfl, htable, happly, -, hdb⟩ :=
    heff.onTable .checkpoints nofun
  · exact .inl (hsame.checkpoints ht)
  · cases w with
    | insertCheckpoint row =>
      simp only [Write.apply] at happly
      split at happly
      · cases happly
      · split at happly <;> cases happly
        exact .inr ⟨row, rfl, by rw [hdb]⟩
    | _ => cases htable

end SauronID.Anchor
