import SauronID.Anchor.BatchLog
import SauronID.Zk.Sound

/-!
# Which anchored batches can be proved

`anchor_pending_actions_for_tenant` hashes the receipts of a batch and, if the audit log has a
head, the head. The guest rebuilds the root from receipts alone. So a batch that was stored in a
run can be proved only if the anchoring call has read no head (`proved_batch_has_no_head`). A
read of the head that fails counts as no head.
-/

namespace SauronID.Zk

open Conc Text SauronID.Action Anchor

variable {F : Type} {env : Env F} {S : Set Bytes}

/-- The receipt of a row, as the guest reads it. -/
def AnchoredReceiptV2.ofRow (r : ReceiptRow) : AnchoredReceiptV2 where
  tenantId := r.tenantId
  receiptId := r.receiptId
  actionHash := r.actionHash
  agentId := r.agentId
  ringKeyImageHex := r.ringKeyImageHex
  policyVersion := r.policyVersion
  ajwtJti := r.ajwtJti
  popJkt := r.popJkt
  status := r.status
  signature := r.signature
  createdAt := r.timestamp
  ringId := r.ringId.getD ""
  configDigest := r.configDigest.getD ""

def auditHeadMessage (tenant : String) (seq : ℤ) (entryHash : String) : Bytes :=
  canonicalFields "sauron.audit-head-leaf.v1"
    [("tenant_id", tenant), ("audit_seq", toString seq), ("audit_entry_hash", entryHash)]

/-- What is hashed for the leaves of an anchored batch. -/
def anchorMessages (tenant : String) (rows : List ReceiptRow) (head : Option (ℤ × String)) :
    List Bytes :=
  (rows.map .ofRow).map leafMessage ++ (head.map fun h => auditHeadMessage tenant h.1 h.2).toList

theorem batchLeaves_eq (tenant : String) (rows : List ReceiptRow) (head : Option (ℤ × String)) :
    batchLeaves env tenant rows head = (anchorMessages tenant rows head).map env.sha256 := by
  rw [anchorMessages, List.map_append, List.map_map, List.map_map]
  cases head <;> rfl

theorem length_auditHeadMessage (tenant : String) (seq : ℤ) (entryHash : String) :
    64 < (auditHeadMessage tenant seq entryHash).length := by
  have hdomain : (utf8 "sauron.audit-head-leaf.v1").length = 25 := by decide +kernel
  have hhash : (utf8 "audit_entry_hash").length = 16 := by decide +kernel
  simp only [auditHeadMessage, canonicalFields, lengthPrefixed, beBytes, List.flatMap_cons,
    List.length_append, List.length_reverse, length_leBytes]
  omega

theorem length_anchorMessages (tenant : String) (rows : List ReceiptRow)
    (head : Option (ℤ × String)) : ∀ m ∈ anchorMessages tenant rows head, m.length ≠ 32 + 32 := by
  rw [anchorMessages, List.forall_mem_append]
  refine ⟨List.forall_mem_map.2 fun r _ => (length_leafMessage r).ne', fun m hm => ?_⟩
  obtain ⟨h, -, rfl⟩ := Option.map_eq_some_iff.1 (Option.mem_toList.1 hm)
  exact (length_auditHeadMessage _ _ _).ne'

-- The domains of the two kinds of leaves differ.
theorem leafMessage_ne_auditHeadMessage (r : AnchoredReceiptV2) (tenant : String) (seq : ℤ)
    (entryHash : String) : leafMessage r ≠ auditHeadMessage tenant seq entryHash := by
  intro h
  have hdomain := (lengthPrefixed_append_inj (by decide +kernel) (by decide +kernel) h).1
  exact absurd hdomain (by decide +kernel)

/-- A journal with the root of a batch is over the receipts of that batch, which was built
without a head. -/
theorem receipts_of_proved (laws : HashLaws env S) {input : StatsProofInput}
    {journal : TransparentJournal} {st : StatsStatement}
    (hrun : statsGuest env input = .ok journal) (hst : journal.statement = .stats st)
    {tenant : String} {rows : List ReceiptRow} {head : Option (ℤ × String)} {root : Bytes}
    (hfit : ∀ r ∈ rows, FieldsFit (leafFields (.ofRow r)))
    (hroot : merkleRoot (combineNodes env) (batchLeaves env tenant rows head) = some root)
    (hcommits : st.merkleRoot = hexEncode root)
    (hS : ∀ m ∈ treeMessages env.sha256 (anchorMessages tenant rows head), m ∈ S)
    (hS' : ∀ m ∈ batchMessages env (input.records.map (·.receipt)), m ∈ S) :
    head = none ∧ input.records.map (·.receipt) = rows.map .ofRow := by
  obtain ⟨hok, -, value, -, rfl⟩ := statsGuest_eq_ok.1 hrun
  obtain rfl := TransparentStatement.stats.inj hst
  have hguest : merkleRoot (parentNode env) (((input.records.map (·.receipt)).map
      leafMessage).map env.sha256) = some root := by
    have hbatch := hok.rebuilds
    rw [show expectedRoot input.expectedMerkleRoot = hexEncode root from hcommits] at hbatch
    obtain ⟨root', hroot', hhex⟩ := Option.map_eq_some_iff.1 hbatch
    rw [← map_leafHash, List.map_map, ← hexEncode_injective hhex]
    exact hroot'
  rw [batchLeaves_eq] at hroot
  have hmessages := messages_eq_of_root laws.length_sha256 laws.injOn
    (List.forall_mem_map.2 fun r _ => (length_leafMessage r).ne')
    (length_anchorMessages tenant rows head) hS' hS hguest hroot
  cases head with
  | none =>
    rw [anchorMessages, Option.map_none, Option.toList_none, List.append_nil] at hmessages
    have hinj : Set.InjOn leafMessage {r | FieldsFit (leafFields r)} :=
      fun r hr r' hr' h => eq_of_leafMessage hr hr' h
    have hfit' : ∀ r ∈ input.records.map (·.receipt), FieldsFit (leafFields r) :=
      List.forall_mem_map.2 fun record hrecord => (hok.recordOk record hrecord).fits
    exact ⟨rfl, eq_of_map_eq hinj hfit' (List.forall_mem_map.2 hfit) hmessages⟩
  | some h =>
    have hmem : auditHeadMessage tenant h.1 h.2 ∈
        (input.records.map (·.receipt)).map leafMessage := by
      simp [hmessages, anchorMessages]
    obtain ⟨r, -, hr⟩ := List.mem_map.1 hmem
    exact absurd hr (leafMessage_ne_auditHeadMessage r tenant h.1 h.2)

/-! ## Runs -/

section Runs

variable [Float64 F] {calls : List HistCall} {s : World F} {g : ℕ → Phase} {log : RunLog F}

/-- The statement with which an anchoring call has read the audit head. -/
def ReadsHead (e : LogEntry F) (i : ℕ) (head : Option (ℤ × String)) : Prop :=
  e.thread = i ∧ e.label = .select .auditHead ∧ headRead e.before = head

/-- A stored batch is built with the head that its anchoring call has read. -/
structure HeadInv (env : Env F) (calls : List HistCall) (g : ℕ → Phase) (log : RunLog F) :
    Prop where
  headed : ∀ i m rs head, g i = .headed m rs head → ∃ e ∈ log, ReadsHead e i head
  stored : ∀ e older, e :: older <:+ log → ∀ row rs, storedBatch e = some (row, rs) →
    ∃ e' ∈ older, ∃ head, ReadsHead e' e.thread head ∧
      IsBatch env (histTenant calls e.thread) row rs head

/-- One more statement. -/
theorem HeadInv.next (h : HeadInv env calls g log) {i : ℕ} {lbl : Label F} {p' : Phase}
    (hphase : ∀ m rs head, p' = .headed m rs head →
      ∃ e ∈ (⟨i, lbl, s⟩ : LogEntry F) :: log, ReadsHead e i head)
    (hstored : ∀ row rs, storedBatch ⟨i, lbl, s⟩ = some (row, rs) →
      ∃ e ∈ log, ∃ head, ReadsHead e i head ∧ IsBatch env (histTenant calls i) row rs head) :
    HeadInv env calls (Function.update g i p') (⟨i, lbl, s⟩ :: log) where
  headed j m rs head hj := by
    by_cases hji : j = i
    · subst hji
      rw [Function.update_self] at hj
      exact hphase m rs head hj
    · rw [Function.update_of_ne hji] at hj
      obtain ⟨e, he, hreads⟩ := h.headed j m rs head hj
      exact ⟨e, .tail _ he, hreads⟩
  stored e older hsuffix := by
    rcases List.suffix_cons_iff.1 hsuffix with heq | hsuffix
    · cases heq
      exact hstored
    · exact h.stored e older hsuffix

variable (env calls) in
theorem headInv_run : RunInvariant (fun i => HistStep env (histTenant calls i))
    (fun _ _ => True) fun _ g log => HeadInv env calls g log where
  tick _ h := h
  step {s g log i lbl s' p'} h _ hstep := by
    generalize hp : g i = p at hstep
    have hkeep (m rs head) (hp' : p = .headed m rs head) :
        ∃ e ∈ (⟨i, lbl, s⟩ : LogEntry F) :: log, ReadsHead e i head := by
      obtain ⟨e, he, hreads⟩ := h.headed i m rs head (hp.trans hp')
      exact ⟨e, .tail _ he, hreads⟩
    cases hstep with
    | quiet _ _ _ _ _ hlbl =>
      refine h.next hkeep fun row rs hs => ?_
      rw [(untracked hlbl i s).2] at hs
      cases hs
    | receipt => exact h.next hkeep fun _ _ hs => by cases hs
    | head m rs =>
      refine h.next ?_ fun _ _ hs => by cases hs
      rintro _ _ _ ⟨⟩
      exact ⟨_, .head _, rfl, rfl, rfl⟩
    | store m rs head row _ n hbatch hres =>
      refine h.next (fun _ _ _ hp' => by cases hp') fun row' rs' hs => ?_
      simp only [storedBatch, hres, Option.some.injEq, Prod.mk.injEq] at hs
      obtain ⟨rfl, rfl⟩ := hs
      obtain ⟨e, he, hreads⟩ := h.headed i m rs head hp
      exact ⟨e, he, head, hreads, hbatch⟩
    | storeFailed m rs head row _ e hres =>
      refine h.next (fun _ _ _ hp' => by cases hp') fun row' rs' hs => ?_
      simp [storedBatch, hres] at hs
    | rebuildFailed | fetchFailed | mark | fetch | finish | choose | rebuild =>
      exact h.next (fun _ _ _ hp' => by cases hp') fun _ _ hs => by cases hs

/-- **Provable batches.** In every run, for every batch an anchoring call has stored and the
statement with which the call has read the audit head: a journal with the stored root is over
the receipts of the batch, in order, and if that read did not fail, then the audit log had no
head with a hash. -/
theorem proved_batch_has_no_head (laws : HashLaws env S) (publishers : Publishers)
    (calls : List HistCall) (start : World F) (sched : List Event) {e : LogEntry F}
    {older : RunLog F} (he : e :: older <:+
      ((Config.init start (calls.map (HistCall.prog env publishers))).run sched).log)
    {row : AnchorRow} {rs : List ReceiptRow} (hstored : storedBatch e = some (row, rs))
    (hfit : ∀ r ∈ rs, FieldsFit (leafFields (.ofRow r))) :
    ∃ read ∈ older, read.thread = e.thread ∧ read.label = .select .auditHead ∧
      ∀ input journal st, statsGuest env input = .ok journal → journal.statement = .stats st →
        st.merkleRoot = row.batchRootHex →
        (∀ m ∈ treeMessages env.sha256 (anchorMessages row.tenantId rs (headRead read.before)),
          m ∈ S) → (∀ m ∈ batchMessages env (input.records.map (·.receipt)), m ∈ S) →
        input.records.map (·.receipt) = rs.map .ofRow ∧ (read.before.fault = none →
          ∀ head, auditHead read.before.db read.before.tie = some head → head.2 = "") := by
  obtain ⟨g, hinv, -⟩ := (headInv_run env calls).run (c := .init start _)
    (histPool_follows publishers calls) ⟨nofun, fun _ _ h => by cases List.suffix_nil.1 h⟩ sched
    (LogOk.of_true _)
  obtain ⟨read, hread, _, ⟨hthread, hlbl, rfl⟩, hbatch⟩ := hinv.stored e older he row rs hstored
  refine ⟨read, hread, hthread, hlbl, fun input journal st hrun hst hcommits hS hS' => ?_⟩
  obtain ⟨htenant, -⟩ := hbatch.ends
  obtain ⟨first, rest, root, anchorId, now, -, hroot, rfl⟩ := hbatch
  obtain ⟨hnone, hreceipts⟩ := receipts_of_proved laws hrun hst hfit (htenant ▸ hroot) hcommits
    hS hS'
  refine ⟨hreceipts, fun hfault head hhead => ?_⟩
  simpa [headRead, hfault, hhead] using hnone

end Runs

/-- The rows of the two receipts. -/
def twoRows : List ReceiptRow := twoReceipts.map fun r =>
  { sampleReceipt r.receiptId with
    tenantId := r.tenantId, actionHash := r.actionHash, ringKeyImageHex := r.ringKeyImageHex,
    policyVersion := r.policyVersion, ajwtJti := r.ajwtJti, popJkt := r.popJkt,
    status := r.status, signature := r.signature }

/-- The receipts are anchored; there is no audit log. -/
def anchorTwoRows : SrvConfig ℚ AppError HistResult :=
  (Config.init (World.steady { Db.empty ℚ with receipts := twoRows } 1000)
    ([.anchor "t"].map (HistCall.prog lengthEnv ⟨false, false⟩))).run (List.replicate 12 (.step 0))

theorem two_rows_proved :
    statsGuest lengthEnv twoRecordsInput = .ok (statsJournal twoRecordsInput 2000) ∧
      ∃ e ∈ anchorTwoRows.log, ∃ row, storedBatch e = some (row, twoRows) ∧
        row.batchRootHex = expectedRoot twoRecordsInput.expectedMerkleRoot ∧
        twoRecords.map (·.receipt) = twoRows.map .ofRow := by
  have hrun : statsGuest lengthEnv twoRecordsInput = .ok (statsJournal twoRecordsInput 2000) := by
    decide +kernel
  have hlog : (anchorTwoRows.log.any fun e => (storedBatch e).any fun x =>
        x.1.batchRootHex == expectedRoot twoRecordsInput.expectedMerkleRoot &&
          x.1.tenantId == "t" && x.2 == twoRows) = true ∧
      ∀ e ∈ anchorTwoRows.log, headRead e.before = none := by
    decide +kernel
  have hrows : twoRows.map .ofRow = twoReceipts := by decide +kernel
  obtain ⟨hany, hhead⟩ := hlog
  obtain ⟨e, he, hany⟩ := List.any_eq_true.1 hany
  obtain ⟨⟨row, rs⟩, hstored, hrow⟩ := (Option.any_eq_true _ _).1 hany
  simp only [Bool.and_eq_true, beq_iff_eq] at hrow
  obtain ⟨⟨hroot, htenant⟩, rfl⟩ := hrow
  obtain ⟨newer, older, hsplit⟩ := List.append_of_mem he
  obtain ⟨read, hread, -, -, hproved⟩ := proved_batch_has_no_head lengthEnv_laws ⟨false, false⟩
    [.anchor "t"] _ _ ⟨newer, hsplit.symm⟩ hstored (by decide +kernel)
  refine ⟨hrun, e, he, row, hstored, hroot, (hproved _ _ _ hrun rfl hroot.symm (fun m hm => ?_)
    fun m hm => List.mem_append_left _ hm).1⟩
  have hmem : read ∈ anchorTwoRows.log := hsplit ▸ List.mem_append_right _ (.tail _ hread)
  rw [htenant, hhead read hmem, anchorMessages, hrows] at hm
  exact List.mem_append_left _ hm

end SauronID.Zk
