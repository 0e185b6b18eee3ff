import SauronID.Action.Steps
import SauronID.Anchor.Batch

/-!
# What anchoring does, statement by statement

The histories of this part are pools of action calls, receipt insertions, audit
appends, anchoring runs and proof requests. `HistStep` is the protocol they all keep
to: receipts are only inserted, batches are only stored and finished by the run that
built them, and everything else leaves both tables alone. The phase of an
anchoring run or a proof request is what it has read so far.
-/

namespace SauronID.Anchor

open Conc Text SauronID.Action

variable {F : Type} [Float64 F] (env : Env F)

/-- How far an anchoring run or a proof request has come. -/
inductive Phase where
  | idle
  /-- The watermark was read. -/
  | marked (mark : ℤ × String)
  /-- The receipts past the watermark were read. -/
  | fetched (mark : ℤ × String) (receipts : List ReceiptRow)
  /-- The audit head was read. -/
  | headed (mark : ℤ × String) (receipts : List ReceiptRow) (head : Option (ℤ × String))
  /-- The batch was stored. -/
  | stored (mark : ℤ × String) (receipts : List ReceiptRow) (row : AnchorRow)
  | finished
  /-- A proof request has found its batch. -/
  | chosen (batch : AnchorRow)
  /-- A proof request has fetched the receipts of its batch. -/
  | rebuilt (batch : AnchorRow) (receipts : List ReceiptRow)

/-- Between fetching the receipts and reading the audit head a run does nothing else. -/
def Phase.waits : Phase → Bool
  | .fetched _ _ => false
  | _ => true

/-- The statements the histories are told by. -/
def tracked : Label F → Bool
  | .select (.watermark _) => true
  | .select (.pendingReceipts _ _) => true
  | .select .auditHead => true
  | .select (.batchReceipts _ _ _) => true
  | .write w => w.table == .receipts || w.table == .anchors
  | _ => false

/-- The watermark as an anchoring run reads it. -/
def markRead (tenant : String) (s : World F) : ℤ × String :=
  match s.fault with
  | some _ => (0, "")
  | none => (watermark tenant s.db s.tie).getD (0, "")

/-- The audit head as an anchoring run reads it. -/
def headRead (s : World F) : Option (ℤ × String) :=
  match s.fault with
  | some _ => none
  | none => (auditHead s.db s.tie).filter fun h => h.2 != ""

/-- The ends of a batch. -/
def firstKey (b : AnchorRow) : ℤ × String := (b.fromCreatedAt, b.fromReceiptId)

def lastKey (b : AnchorRow) : ℤ × String := (b.toCreatedAt, b.toReceiptId)

/-- The row an anchoring run stores for the receipts it fetched and the head it read. -/
def IsBatch (tenant : String) (row : AnchorRow) (receipts : List ReceiptRow)
    (head : Option (ℤ × String)) : Prop :=
  ∃ first rest root anchorId now, receipts = first :: rest ∧
    merkleRoot (combineNodes env) (batchLeaves env tenant receipts head) = some root ∧
    row = batchRow tenant anchorId (hexEncode root) first rest head now

variable {row : AnchorRow} {rs : List ReceiptRow}

omit [Float64 F] in
variable {env} in
/-- A batch is pending and lies between its first and its last receipt. -/
theorem IsBatch.ends {tenant : String} {head : Option (ℤ × String)}
    (h : IsBatch env tenant row rs head) : row.tenantId = tenant ∧ row.anchorStatus = .pending ∧
      ∃ first last, rs.head? = some first ∧ rs.getLast? = some last ∧
        toLex (firstKey row) = receiptKey first ∧ toLex (lastKey row) = receiptKey last := by
  obtain ⟨first, rest, root, anchorId, now, rfl, -, rfl⟩ := h
  refine ⟨rfl, rfl, first, rest.getLastD first, rfl, ?_, rfl, rfl⟩
  rw [List.getLast?_cons, List.getLastD_eq_getLast?]

/-- The statements of a history; `tenant` is the tenant of the run or the request. -/
inductive HistStep (tenant : String) : Phase → Label F → World F → World F → Phase → Prop
  | quiet (p s s' lbl) : p.waits = true → tracked lbl = false → s'.db.receipts = s.db.receipts →
      s'.db.anchors = s.db.anchors → HistStep tenant p lbl s s' p
  | receipt (p s row anon) : p.waits = true →
      HistStep tenant p (.write (.upsertReceipt row anon)) s
        (s.afterWrite (.upsertReceipt row anon)) p
  | mark (s) : HistStep tenant .idle (.select (.watermark tenant)) s s.spendTie
      (.marked (markRead tenant s))
  | fetchFailed (m s) : s.fault ≠ none →
      HistStep tenant (.marked m) (.select (.pendingReceipts tenant m)) s s.spendFault (.marked m)
  | fetch (m s) : s.fault = none →
      HistStep tenant (.marked m) (.select (.pendingReceipts tenant m)) s s.spendFault
        (.fetched m (pendingReceipts tenant m s.db))
  | head (m rs s) : HistStep tenant (.fetched m rs) (.select .auditHead) s s.spendTie
      (.headed m rs (headRead s))
  | storeFailed (m rs head row s e) : s.writeResult (.insertAnchor row rs) = .error e →
      HistStep tenant (.headed m rs head) (.write (.insertAnchor row rs)) s
        (s.afterWrite (.insertAnchor row rs)) .finished
  | store (m rs head row s n) : IsBatch env tenant row rs head →
      s.writeResult (.insertAnchor row rs) = .ok n →
      HistStep tenant (.headed m rs head) (.write (.insertAnchor row rs)) s
        (s.afterWrite (.insertAnchor row rs)) (.stored m rs row)
  | finish (m rs row s btc sol status err) :
      HistStep tenant (.stored m rs row)
        (.write (.finishAnchor row.anchorId btc sol status err)) s
        (s.afterWrite (.finishAnchor row.anchorId btc sol status err)) .finished
  | choose (s b) : b ∈ s.db.anchors → tenantMatches tenant b.tenantId = true →
      HistStep tenant .idle (.select .other) s s.spendTie (.chosen b)
  | rebuildFailed (b s) : s.fault ≠ none →
      HistStep tenant (.chosen b) (.select (.batchReceipts tenant (firstKey b) (lastKey b))) s
        s.spendFault (.chosen b)
  | rebuild (b s) : s.fault = none →
      HistStep tenant (.chosen b) (.select (.batchReceipts tenant (firstKey b) (lastKey b))) s
        s.spendFault (.rebuilt b (batchReceipts tenant (firstKey b) (lastKey b) s.db))

variable {env} {tenant : String} {p : Phase} {s s' : World F} {lbl : Label F}

/-- A silent statement of a history. -/
theorem HistStep.silent (hp : p.waits = true)
    (hlbl : tracked lbl = false) (hdb : s'.db = s.db) : HistStep env tenant p lbl s s' p :=
  .quiet p s s' lbl hp hlbl (by rw [hdb]) (by rw [hdb])

/-- A write to another table. -/
theorem HistStep.write {w : Write F} (hp : p.waits = true) (hr : w.table ≠ .receipts)
    (ha : w.table ≠ .anchors) : HistStep env tenant p (.write w) s (s.afterWrite w) p :=
  .quiet p s _ _ hp (by simp [tracked, hr, ha]) ((World.afterWrite_sameOff s w).receipts hr)
    ((World.afterWrite_sameOff s w).anchors ha)

/-! ## Action calls -/

/-- An action call stores receipts and leaves the batches alone. -/
theorem HistStep.of_actStep {c : CallInfo} {l l' : ActLocal}
    (h : ActStep env c l lbl s s' l') (hp : p.waits = true) : HistStep env tenant p lbl s s' p := by
  cases h with
  | clock => exact .silent hp rfl rfl
  | query | usage => exact .silent hp rfl rfl
  | agent => exact .silent hp rfl rfl
  | headFailed => exact .silent hp rfl rfl
  | head => exact .silent hp rfl rfl
  | loadFailed => exact .silent hp rfl rfl
  | load => exact .silent hp rfl rfl
  | draw => exact .silent hp rfl rfl
  | prune => exact .write hp nofun nofun
  | spendFailed => exact .write hp nofun nofun
  | spend => exact .write hp nofun nofun
  | store => exact .receipt _ _ _ _ hp

theorem actionCall_hist (call : ActionCall) (hp : p.waits = true) :
    (call.prog env).Follows (HistStep env tenant) p fun p' _ => p' = p := by
  refine (call.follows.simulate (fun _ q => q = p) ?_ rfl).mono fun _ _ ⟨_, hq, _⟩ => hq
  intro l q lbl s s' l' hq hstep
  subst hq
  exact ⟨q, .of_actStep hstep hp, rfl⟩

/-! ## Audit appends -/

variable {ε : Type}

theorem chainHeadRaw_hist (hp : p.waits = true) :
    (chainHeadRaw .other : Srv F ε _).Follows (HistStep env tenant) p fun p' _ => p' = p := by
  refine .bind (.attempt (Srv.follows_selectTop fun s => ⟨p, .silent hp rfl rfl, fun _ => ?_,
    fun _ _ => ?_⟩))
  · exact Prog.follows_pure.2 rfl
  · exact Prog.follows_pure.2 rfl

theorem appendAudit_hist (record : AuditRecord) (hp : p.waits = true)
    (attempts : ℕ) : (appendAudit env record attempts : Srv F ε _).Follows (HistStep env tenant) p
      fun p' _ => p' = p := by
  induction attempts with
  | zero => exact Prog.follows_pure.2 rfl
  | succ n ih =>
    refine .bind ((chainHeadRaw_hist hp).mono fun p' r hp' => ?_)
    subst hp'
    cases r with
    | error e => rfl
    | ok head =>
      refine .bind (.attempt (Srv.follows_execute fun s => ⟨p', .write hp nofun nofun, ?_⟩))
      dsimp only
      cases s.writeResult _ with
      | ok n => exact Prog.follows_pure.2 rfl
      | error e =>
        dsimp only
        split
        · exact ih
        · exact Prog.follows_pure.2 rfl

/-! ## Anchoring runs -/

theorem publishTo_hist (hp : p.waits = true) (configured : Bool)
    (network : Network) (name rootHex : String) :
    (publishTo configured network name rootHex : Srv F ε _).Follows (HistStep env tenant) p
      fun p' r => p' = p ∧ r.isOk := by
  unfold publishTo
  split
  · refine Prog.Follows.atomic fun s => ⟨p, .quiet p s _ _ hp rfl
      (s.afterPublish_receipts network) (s.afterPublish_anchors network), ?_⟩
    cases s.publication with
    | anchored id detail => exact Prog.follows_pure.2 ⟨rfl, rfl⟩
    | failed e => exact Prog.follows_pure.2 ⟨rfl, rfl⟩
    | crashed e => exact Prog.follows_pure.2 ⟨rfl, rfl⟩
  · exact Prog.follows_pure.2 ⟨rfl, rfl⟩

theorem restamp_hist (hp : p.waits = true) (network : Network)
    (t anchorId : String) : (restamp network t anchorId : Srv F ε _).Follows (HistStep env tenant) p
      fun p' _ => p' = p := by
  unfold restamp
  split
  · exact Prog.follows_pure.2 rfl
  · exact .bind (.attempt (Srv.follows_execute fun s => ⟨p, .write hp nofun nofun,
      Prog.follows_pure.2 rfl⟩))

variable {m : ℤ × String}

/-- From a stored batch, publication ends with the batch finished. -/
theorem publishBatch_hist (publishers : Publishers) {anchorId rootHex : String}
    (hid : row.anchorId = anchorId) :
    (publishBatch publishers tenant anchorId rootHex : Srv F String _).Follows
      (HistStep env tenant) (.stored m rs row) fun _ r => r ≠ .ok none := by
  subst hid
  refine .bind ((publishTo_hist rfl _ _ _ _).mono fun p r hp => ?_)
  obtain ⟨rfl, hok⟩ := hp
  cases r with
  | error e => cases hok
  | ok btc =>
    refine .bind ((publishTo_hist rfl _ _ _ _).mono fun p r hp => ?_)
    obtain ⟨rfl, hok⟩ := hp
    cases r with
    | error e => cases hok
    | ok sol =>
      refine .bind ((restamp_hist rfl _ _ _).mono fun p r hp => ?_)
      subst hp
      cases r with
      | error e => simp
      | ok _ =>
        refine .bind ((restamp_hist rfl _ _ _).mono fun p r hp => ?_)
        subst hp
        cases r with
        | error e => simp
        | ok _ =>
          exact .bind (.attempt (Srv.follows_execute fun s =>
            ⟨_, .finish m rs row s _ _ _ _, Prog.follows_pure.2 (by simp)⟩))

theorem auditChainHead_hist :
    (auditChainHead : Srv F ε _).Follows (HistStep env tenant) (.fetched m rs)
      fun p r => ∃ head, p = .headed m rs head ∧ r = .ok head := by
  refine .bind (.bind (.attempt (Srv.follows_selectTop fun s => ⟨_, .head m rs s, ?_, ?_⟩)))
  · intro hf
    refine Prog.follows_pure.2 (Prog.follows_pure.2 ⟨_, rfl, ?_⟩)
    simp [headRead, hf]
  · intro e hf
    refine Prog.follows_pure.2 (Prog.follows_pure.2 ⟨_, rfl, ?_⟩)
    simp [headRead, hf]

theorem anchorBatch_hist (publishers : Publishers) {first : ReceiptRow} {rest : List ReceiptRow} :
    (anchorBatch env publishers tenant first rest).Follows (HistStep env tenant)
      (.fetched m (first :: rest)) fun _ r => r ≠ .ok none := by
  refine .bind (auditChainHead_hist.mono fun p r hp => ?_)
  obtain ⟨head, rfl, rfl⟩ := hp
  refine .okOr (by simp) fun root hroot => ?_
  refine Srv.follows_random fun s => ⟨_, .silent rfl rfl rfl, ?_⟩
  refine Srv.follows_nowSecs fun s => ⟨_, .silent rfl rfl rfl, ?_⟩
  refine .bind (.mapErr (Srv.follows_execute fun s => ?_))
  dsimp only
  cases hres : s.writeResult _ with
  | error e => exact ⟨_, .storeFailed m _ head _ s e hres, by simp⟩
  | ok n =>
    exact ⟨_, .store m _ head _ s n ⟨first, rest, root, _, _, rfl, hroot, rfl⟩ hres,
      publishBatch_hist publishers rfl⟩

theorem anchorFrom_hist (publishers : Publishers) (m : ℤ × String) :
    (anchorFrom env publishers tenant m).Follows (HistStep env tenant) (.marked m)
      fun p r => r = .ok none → ∃ m, p = .fetched m [] := by
  refine .bind (Srv.follows_select fun s => ?_)
  cases hf : s.fault with
  | some e => exact ⟨_, .fetchFailed m s (by simp [hf]), by simp, by simp⟩
  | none =>
    refine ⟨_, .fetch m s hf, fun _ => ?_, by simp⟩
    cases pendingReceipts tenant m s.db with
    | nil => exact Prog.follows_pure.2 fun _ => ⟨m, rfl⟩
    | cons first rest =>
      refine (anchorBatch_hist publishers).mono ?_
      intro p r hr hnone
      exact absurd hnone hr

/-- **An anchoring run keeps to the protocol.** It returns nothing only if it has
fetched nothing. -/
theorem anchorPendingActionsForTenant_hist (publishers : Publishers) :
    (anchorPendingActionsForTenant env publishers tenant).Follows (HistStep env tenant) .idle
      fun p r => r = .ok none → ∃ m, p = .fetched m [] := by
  refine .bind (.attempt (Srv.follows_selectTop fun s => ⟨_, .mark s, ?_, ?_⟩))
  · intro hf
    rw [markRead, hf]
    exact anchorFrom_hist publishers _
  · intro e hf
    rw [markRead, hf]
    exact anchorFrom_hist publishers _

/-! ## Proof requests -/

theorem solanaState_hist (hp : p.waits = true) (t solId : String) :
    (solanaState t solId : Srv F ε _).Follows (HistStep env tenant) p fun p' _ => p' = p := by
  unfold solanaState
  split
  · exact Prog.follows_pure.2 rfl
  · exact Srv.follows_scalarOr_silent (fun s => .silent hp rfl rfl) fun _ => rfl

theorem bitcoinState_hist (hp : p.waits = true) (t btcId : String) :
    (bitcoinState t btcId : Srv F ε _).Follows (HistStep env tenant) p fun p' _ => p' = p := by
  unfold bitcoinState
  split
  · exact Prog.follows_pure.2 rfl
  · exact Srv.follows_scalarOr_silent (fun s => .silent hp rfl rfl) fun _ => rfl

omit [Float64 F] in
theorem coveringBatch_mem {t : String} {createdAt : ℤ} {db : Db F} {tie : ℕ} {b : AnchorRow}
    (h : coveringBatch t createdAt db tie = some b) :
    b ∈ db.anchors ∧ tenantMatches t b.tenantId = true := by
  obtain ⟨hmem, hcond⟩ := List.mem_filter.1 (pickMax_mem h).1
  exact ⟨hmem, (Bool.and_eq_true_iff.1 hcond).2⟩

/-- **A proof request keeps to the protocol.** A proof it returns is built from a stored
batch and the receipts fetched for it. -/
theorem proofForReceiptForTenant_hist (receiptId : String) :
    (proofForReceiptForTenant env receiptId tenant).Follows (HistStep env tenant) .idle
      fun p r => ∀ q, r = .ok (some q) → ∃ b rs sol btc, p = .rebuilt b rs ∧
        buildProof env receiptId b rs sol btc = .ok q := by
  refine .bind (.attempt (Srv.follows_select_silent (fun s => .silent rfl rfl rfl) (fun db => ?_)
    fun e => Prog.follows_pure.2 (by simp)))
  dsimp only
  split
  · refine .bind (.attempt (Srv.follows_selectTop fun s => ?_))
    cases hb : coveringBatch tenant _ s.db s.tie with
    | none =>
      exact ⟨_, .silent rfl rfl rfl, fun _ => Prog.follows_pure.2 (by simp),
        fun e _ => Prog.follows_pure.2 (by simp)⟩
    | some b =>
      refine ⟨_, .choose s b (coveringBatch_mem hb).1 (coveringBatch_mem hb).2, fun _ => ?_,
        fun e _ => Prog.follows_pure.2 (by simp)⟩
      refine .bind ((solanaState_hist rfl _ _).mono fun p r hp => ?_)
      subst hp
      cases r with
      | error e => simp
      | ok sol =>
        refine .bind ((bitcoinState_hist rfl _ _).mono fun p r hp => ?_)
        subst hp
        cases r with
        | error e => simp
        | ok btc =>
          refine .bind (Srv.follows_select fun s' => ?_)
          cases hf : s'.fault with
          | some e => exact ⟨_, .rebuildFailed b s' (by simp [hf]), by simp, by simp⟩
          | none =>
            refine ⟨_, .rebuild b s' hf, fun _ => ?_, by simp⟩
            refine .ofExcept (by simp) fun q hq => Prog.follows_pure.2 fun q' hq' => ?_
            cases hq'
            exact ⟨b, _, sol, btc, rfl, hq⟩
  · exact Prog.follows_pure.2 (by simp)

/-! ## Histories -/

/-- One request of a history. -/
inductive HistCall where
  | action (call : ActionCall)
  /-- Some other writer of receipts: the creation time is read, then the row is inserted. -/
  | insert (row : ReceiptRow) (anon : Bool)
  | audit (record : AuditRecord)
  | anchor (tenant : String)
  | proof (receiptId tenant : String)

inductive HistResult where
  | receipt (r : ActionReceipt)
  | inserted
  | appended
  | anchored (anchorId : Option String)
  | proved (proof : Option InclusionProof)

/-- Insert a receipt with an id of its own. -/
def insertReceipt (row : ReceiptRow) (anon : Bool) : Srv F String Unit := do
  let now ← Srv.nowSecs
  let _ ← Srv.execute (.upsertReceipt { row with timestamp := now } anon)
  return ()

def HistCall.prog (env : Env F) (publishers : Publishers) : HistCall → Srv F AppError HistResult
  | action call => do
    let r ← call.prog env
    return .receipt r
  | insert row anon => do
    (insertReceipt row anon).mapErr (AppError.ofStatus 500)
    return .inserted
  | audit record => do
    appendAudit env record auditChainAppendAttempts
    return .appended
  | anchor tenant => do
    let id ← (anchorPendingActionsForTenant env publishers tenant).mapErr (AppError.ofStatus 500)
    return .anchored id
  | proof receiptId tenant => do
    let p ← (proofForReceiptForTenant env receiptId tenant).mapErr (AppError.ofStatus 500)
    return .proved p

/-- The tenant an anchoring run or a proof request is for. -/
def HistCall.forTenant : HistCall → String
  | anchor tenant => tenant
  | proof _ tenant => tenant
  | _ => ""

/-- What a request has done when it returns. -/
def HistCall.post (env : Env F) (call : HistCall) (p : Phase) (r : Except AppError HistResult) :
    Prop :=
  (r = .ok (.anchored none) → ∃ m, p = .fetched m []) ∧
    ∀ q, r = .ok (.proved (some q)) → ∃ receiptId, call = .proof receiptId call.forTenant ∧
      ∃ b rs sol btc, p = .rebuilt b rs ∧ buildProof env receiptId b rs sol btc = .ok q

theorem HistCall.follows (publishers : Publishers) (call : HistCall) :
    (call.prog env publishers).Follows (HistStep env call.forTenant) .idle (call.post env) := by
  cases call with
  | action call =>
    refine .bind ((actionCall_hist call rfl).mono fun p r _ => ?_)
    cases r with
    | error e => simp [HistCall.post]
    | ok a => exact Prog.follows_pure.2 (by simp [HistCall.post])
  | insert row anon =>
    refine .bind (.mapErr (Srv.follows_nowSecs fun s => ⟨_, .silent rfl rfl rfl, ?_⟩))
    refine .bind (Srv.follows_execute fun s' => ⟨_, .receipt _ _ _ _ rfl, ?_⟩)
    cases s'.writeResult _ with
    | error e => simp [HistCall.post]
    | ok n => exact Prog.follows_pure.2 (Prog.follows_pure.2 (by simp [HistCall.post]))
  | audit record =>
    refine .bind ((appendAudit_hist record rfl _).mono fun p r _ => ?_)
    cases r with
    | error e => simp [HistCall.post]
    | ok _ => exact Prog.follows_pure.2 (by simp [HistCall.post])
  | anchor tenant =>
    refine .bind (.mapErr ((anchorPendingActionsForTenant_hist publishers).mono fun p r hr => ?_))
    cases r with
    | error e => simp [HistCall.post]
    | ok id =>
      refine Prog.follows_pure.2 ⟨fun hnone => hr ?_, by simp⟩
      simpa using hnone
  | proof receiptId tenant =>
    refine .bind (.mapErr ((proofForReceiptForTenant_hist receiptId).mono fun p r hr => ?_))
    cases r with
    | error e => simp [HistCall.post]
    | ok q =>
      refine Prog.follows_pure.2 ⟨by simp, fun q' hq' => ⟨receiptId, rfl, hr q' ?_⟩⟩
      simpa using hq'

/-- The tenant of the `i`-th request. -/
def histTenant (calls : List HistCall) (i : ℕ) : String :=
  (calls[i]?.map HistCall.forTenant).getD ""

theorem histPool_follows (publishers : Publishers) (calls : List HistCall) :
    PoolFollows (fun i => HistStep env (histTenant calls i))
      (fun i p r => ∀ call, calls[i]? = some call → call.post env p r)
      (calls.map (HistCall.prog env publishers)) fun _ => .idle := by
  intro i p hp
  rw [List.getElem?_map] at hp
  cases hc : calls[i]? with
  | none => simp [hc] at hp
  | some call =>
    have hpc : HistCall.prog env publishers call = p := by simpa [hc] using hp
    have htenant : histTenant calls i = call.forTenant := by simp [histTenant, hc]
    rw [← hpc]
    show (call.prog env publishers).Follows (HistStep env (histTenant calls i)) .idle _
    rw [htenant]
    refine (call.follows publishers).mono fun q r hq call' hcall' => ?_
    rw [hc] at hcall'
    cases hcall'
    exact hq

end SauronID.Anchor
