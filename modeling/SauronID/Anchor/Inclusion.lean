import SauronID.Anchor.BatchLog

/-!
# Inclusion proofs verify

A batch is hashed from the receipts an anchoring run fetched; a proof is built from
the receipts fetched again between the ends of the batch. `proof_verifies` shows that
the two lists agree, so that the proof verifies against the stored root, in every
history in which the audit chain has no head when a batch is built and no receipt is
inserted between the ends of a batch already fetched. `proof_fails_with_audit_head`
is the shortest history with an audit entry: the root commits to one leaf more than
the proof accounts for.
-/

namespace SauronID.Anchor

open Conc Text SauronID.Action

variable {F : Type} (env : Env F)

/-! ## What an auditor checks -/

def decodeAll : List String → Option (List Bytes)
  | [] => some []
  | h :: hs => do
    let b ← hexDecode h
    let bs ← decodeAll hs
    return b :: bs

/-- The returned leaf, index, siblings and tree size recompute a root given in
hexadecimal. -/
def verifyInclusion (rootHex : String) (q : InclusionProof) : Bool :=
  match hexDecode rootHex, hexDecode q.leafHex, decodeAll q.proofHashesHex with
  | some root, some leaf, some hashes =>
    merkleVerify (combineNodes env) root q.leafIndex leaf hashes q.treeSize
  | _, _, _ => false

theorem decodeAll_map_hexEncode (bs : List Bytes) : decodeAll (bs.map hexEncode) = some bs := by
  induction bs with
  | nil => rfl
  | cons b bs ih => simp [decodeAll, hexDecode_hexEncode, ih]

variable {env} {receiptId : String} {batch : AnchorRow} {rs : List ReceiptRow}
  {sol : Bool × Option ℤ × Option String} {btc : Bool × String} {q : InclusionProof}

/-- A proof built from the receipts the root was built from verifies. -/
theorem buildProof_verifies {root : Bytes}
    (hbuild : buildProof env receiptId batch rs sol btc = .ok q) (hversion : batch.leafVersion = 2)
    (hroot : merkleRoot (combineNodes env) (rs.map (leafHashV2 env)) = some root) :
    ∃ r ∈ rs, r.receiptId = receiptId ∧ q.leafHex = hexEncode (leafHashV2 env r) ∧
      q.treeSize = rs.length ∧ verifyInclusion env (hexEncode root) q = true := by
  unfold buildProof at hbuild
  have hleaves : rs.map (leafHash env batch.leafVersion) = rs.map (leafHashV2 env) := by
    simp [leafHash, hversion]
  rw [hleaves] at hbuild
  cases hidx : rs.findIdx? fun r => r.receiptId == receiptId with
  | none => simp [hidx] at hbuild
  | some i =>
    obtain ⟨hi, hid, -⟩ := List.findIdx?_eq_some_iff_getElem.1 hidx
    have hleaf : (rs.map (leafHashV2 env))[i]? = some (leafHashV2 env rs[i]) := by
      rw [List.getElem?_map, List.getElem?_eq_getElem hi]
      rfl
    have hgetD : (rs.map (leafHashV2 env)).getD i [] = leafHashV2 env rs[i] := by
      rw [List.getD_eq_getElem?_getD, hleaf]
      rfl
    simp only [hidx, hgetD, Except.ok.injEq] at hbuild
    subst hbuild
    refine ⟨rs[i], List.getElem_mem hi, by simpa using hid, rfl, by simp, ?_⟩
    simp only [verifyInclusion, hexDecode_hexEncode, decodeAll_map_hexEncode]
    exact merkleVerify_proof hleaf hroot

theorem buildProof_anchorId (hbuild : buildProof env receiptId batch rs sol btc = .ok q) :
    q.anchorId = batch.anchorId := by
  unfold buildProof at hbuild
  dsimp only at hbuild
  split at hbuild
  · cases hbuild
  · cases hbuild
    rfl

/-! ## The receipts of a batch, fetched again -/

/-- The receipt lies between the first and the last of a list. -/
def inSpan (rs : List ReceiptRow) (r : ReceiptRow) : Bool :=
  match rs.head?, rs.getLast? with
  | some a, some b => decide (receiptKey a ≤ receiptKey r) && decide (receiptKey r ≤ receiptKey b)
  | _, _ => false

/-- The table gives the list back: its receipts are those of its tenant between its ends. -/
def Rebuilds (rs rows : List ReceiptRow) : Prop :=
  ∀ t, (∃ a, rs.head? = some a ∧ a.tenantId = t) →
    orderBy receiptKey (rows.filter fun r => r.tenantId == t && inSpan rs r) = rs

/-- What a run fetches is what the table gives back. -/
theorem rebuilds_pendingReceipts {tenant : String} {m : ℤ × String} {db : Db F}
    (hnodup : (db.receipts.map fun r => r.receiptId).Nodup) :
    Rebuilds (pendingReceipts tenant m db) db.receipts := by
  rintro t ⟨a, ha, hat⟩
  obtain ⟨b, hb⟩ : ∃ b, (pendingReceipts tenant m db).getLast? = some b := by
    cases hrs : pendingReceipts tenant m db with
    | nil => simp [hrs] at ha
    | cons x xs => exact ⟨_, List.getLast?_eq_some_getLast (by simp)⟩
  have ht : tenant = t :=
    (mem_pendingReceipts (List.mem_of_mem_head? ha)).2.1.symm.trans hat
  subst ht
  have hsub : ((db.receipts.filter fun r => r.tenantId == tenant)).Nodup :=
    hnodup.of_map.filter _
  have hfilter : pendingReceipts tenant m db =
      (orderBy receiptKey ((db.receipts.filter fun r => r.tenantId == tenant).filter fun r =>
        decide (toLex m < receiptKey r))).take maxReceiptsPerBatch := by
    rw [pendingReceipts, List.filter_filter]
    simp only [Bool.and_comm]
  have hspan : ∀ x ∈ db.receipts.filter fun r => r.tenantId == tenant,
      inSpan (pendingReceipts tenant m db) x = true ↔
        receiptKey a ≤ receiptKey x ∧ receiptKey x ≤ receiptKey b := by
    intro x _
    simp [inSpan, ha, hb]
  rw [show (db.receipts.filter fun r => r.tenantId == tenant &&
      inSpan (pendingReceipts tenant m db) r) = (db.receipts.filter fun r =>
        r.tenantId == tenant).filter fun r => inSpan (pendingReceipts tenant m db) r by
    rw [List.filter_filter]; simp only [Bool.and_comm]]
  rw [hfilter] at ha hb ⊢
  refine orderBy_between hsub ?_ ?_ ha hb (by rwa [hfilter] at hspan)
  · intro x hx y hy
    exact receiptKey_inj hnodup x (List.mem_of_mem_filter hx) y (List.mem_of_mem_filter hy)
  · intro x _ y _ hpx hxy
    simp only [decide_eq_true_eq] at hpx ⊢
    exact lt_of_lt_of_le hpx hxy

theorem rebuilds_nil (rows : List ReceiptRow) : Rebuilds [] rows := by
  rintro t ⟨a, ha, -⟩
  cases ha

variable {rows : List ReceiptRow}

/-- A receipt of another tenant or outside the ends does not change what the table gives back. -/
theorem Rebuilds.concat (h : Rebuilds rs rows) {row : ReceiptRow}
    (hout : (rs.any (fun r => r.tenantId == row.tenantId) && inSpan rs row) = false) :
    Rebuilds rs (rows ++ [row]) := by
  rintro t ⟨a, ha, hat⟩
  have hrow : (row.tenantId == t && inSpan rs row) = false := by
    by_cases ht : row.tenantId = t
    · have hany : rs.any (fun r => r.tenantId == row.tenantId) = true :=
        List.any_eq_true.2 ⟨a, List.mem_of_mem_head? ha, by simp [hat, ht]⟩
      rw [hany, Bool.true_and] at hout
      simp [hout]
    · simp [ht]
  rw [List.filter_append, List.filter_singleton, hrow]
  simpa using h t ⟨a, ha, hat⟩

/-- The ids of a list the table gives back are distinct. -/
theorem Rebuilds.nodup (h : Rebuilds rs rows)
    (hnodup : (rows.map fun r => r.receiptId).Nodup) : (rs.map fun r => r.receiptId).Nodup := by
  cases hrs : rs.head? with
  | none =>
    rw [List.head?_eq_none_iff.1 hrs]
    exact List.nodup_nil
  | some a =>
    rw [← h a.tenantId ⟨a, hrs, rfl⟩]
    refine (((perm_orderBy _ _).map _).nodup_iff).2 ?_
    exact hnodup.sublist (List.filter_sublist.map _)

/-! ## The invariant -/

variable [Float64 F]

def oneTenant (rs : List ReceiptRow) : Bool :=
  rs.all fun r => rs.all fun r' => r.tenantId == r'.tenantId

/-- A statement that keeps batches and proofs in step: an inserted receipt falls between
the ends of no batch its tenant has fetched, a batch is built when the audit chain has no
head, and a proof for every tenant finds receipts of one tenant only. -/
def keepsInStep (e : LogEntry F) (older : RunLog F) : Bool :=
  match e.label with
  | .write (.upsertReceipt row _) => older.all fun f =>
      !((fetchedRows f).any (fun r => r.tenantId == row.tenantId) && inSpan (fetchedRows f) row)
  | .select .auditHead => (headRead e.before).isNone
  | .select (.batchReceipts tenant first last) =>
      tenant != "*" || oneTenant (batchReceipts tenant first last e.before.db)
  | _ => true

/-- The receipts were fetched for the tenant. -/
def Fetched (log : RunLog F) (tenant : String) (rs : List ReceiptRow) : Prop :=
  (∃ e ∈ log, fetchedRows e = rs) ∧ ∀ r ∈ rs, r.tenantId = tenant

/-- What a run or a request has read is what the log says. -/
def PhaseOk (log : RunLog F) (tenant : String) : Phase → Prop
  | .fetched _ rs => Fetched log tenant rs
  | .headed _ rs head => Fetched log tenant rs ∧ head = none
  | .chosen b =>
    tenantMatches tenant b.tenantId = true ∧ ∃ row rs, Stored log row rs ∧ SameBatch b row
  | .rebuilt b rs => ∃ row, Stored log row rs ∧ SameBatch b row
  | _ => True

/-- What holds of the receipts, the batches and the log throughout a history. -/
structure InclInv (env : Env F) (calls : List HistCall) (s : World F) (g : ℕ → Phase)
    (log : RunLog F) : Prop where
  nodup : (s.db.receipts.map fun r => r.receiptId).Nodup
  /-- The table gives every fetched list back. -/
  span : ∀ e ∈ log, Rebuilds (fetchedRows e) s.db.receipts
  batches : BatchLog s log
  /-- Every batch was built from a fetched list, without an audit head. -/
  built : ∀ row rs, Stored log row rs → IsBatch env row.tenantId row rs none ∧
    Fetched log row.tenantId rs
  phases : ∀ i, PhaseOk log (histTenant calls i) (g i)

section Cons

variable {log : RunLog F} {e : LogEntry F} {tenant : String} {rs : List ReceiptRow}

omit [Float64 F] in
theorem Fetched.cons (h : Fetched log tenant rs) : Fetched (e :: log) tenant rs := by
  obtain ⟨⟨f, hf, hrs⟩, ht⟩ := h
  exact ⟨⟨f, List.mem_cons_of_mem _ hf, hrs⟩, ht⟩

theorem PhaseOk.cons {p : Phase} (h : PhaseOk log tenant p) : PhaseOk (e :: log) tenant p := by
  cases p with
  | fetched m rs => exact Fetched.cons h
  | headed m rs head => exact ⟨Fetched.cons h.1, h.2⟩
  | chosen b =>
    obtain ⟨ht, row, rs, hs, hb⟩ := h
    exact ⟨ht, row, rs, hs.cons, hb⟩
  | rebuilt b rs =>
    obtain ⟨row, hs, hb⟩ := h
    exact ⟨row, hs.cons, hb⟩
  | _ => trivial

end Cons

namespace InclInv

variable {calls : List HistCall} {s s' : World F} {g : ℕ → Phase}
  {log : RunLog F} {i : ℕ} {lbl : Label F} {p' : Phase}

theorem initial (calls : List HistCall) (hnodup : (s.db.receipts.map fun r => r.receiptId).Nodup)
    (hanchors : s.db.anchors = []) : InclInv env calls s (fun _ => .idle) [] where
  nodup := hnodup
  span := by simp
  batches := .initial hanchors
  built := by simp [Stored]
  phases _ := trivial

section

variable (h : InclInv env calls s g log)

include h

/-- A statement after which the table still gives back what was fetched. -/
theorem next (hnodup : (s'.db.receipts.map fun r => r.receiptId).Nodup)
    (hspan : Rebuilds (fetchedRows ⟨i, lbl, s⟩) s'.db.receipts)
    (hspans : ∀ e ∈ log, Rebuilds (fetchedRows e) s'.db.receipts)
    (hbatches : BatchLog s' (⟨i, lbl, s⟩ :: log))
    (hbuilt : ∀ row rs, storedBatch ⟨i, lbl, s⟩ = some (row, rs) →
      IsBatch env row.tenantId row rs none ∧ Fetched log row.tenantId rs)
    (hphase : PhaseOk (⟨i, lbl, s⟩ :: log) (histTenant calls i) p') :
    InclInv env calls s' (Function.update g i p') (⟨i, lbl, s⟩ :: log) where
  nodup := hnodup
  span := List.forall_mem_cons.2 ⟨hspan, hspans⟩
  batches := hbatches
  built row rs hs := by
    obtain ⟨hbatch, hfetched⟩ := (stored_cons.1 hs).elim (hbuilt row rs) (h.built row rs)
    exact ⟨hbatch, hfetched.cons⟩
  phases := (Function.forall_update_iff g fun j => PhaseOk _ (histTenant calls j)).2
    ⟨hphase, fun j _ => (h.phases j).cons⟩

/-- A statement that reads, or writes other tables. -/
theorem quiet (hrows : s'.db.receipts = s.db.receipts) (hanchors : s'.db.anchors = s.db.anchors)
    (hfetch : fetchedRows ⟨i, lbl, s⟩ = []) (hstore : storedBatch ⟨i, lbl, s⟩ = none)
    (hphase : PhaseOk (⟨i, lbl, s⟩ :: log) (histTenant calls i) p') :
    InclInv env calls s' (Function.update g i p') (⟨i, lbl, s⟩ :: log) := by
  refine h.next (hrows ▸ h.nodup) ?_ (hrows ▸ h.span) (h.batches.quiet hstore hanchors) ?_ hphase
  · rw [hfetch]
    exact rebuilds_nil _
  · intro row rs hs
    rw [hstore] at hs
    cases hs

/-- A receipt with a fresh id that falls between the ends of no fetched list. -/
theorem receipt {row : ReceiptRow} {anon : Bool}
    (hfresh : freshId ⟨i, .write (.upsertReceipt row anon), s⟩ = true)
    (hout : keepsInStep ⟨i, .write (.upsertReceipt row anon), s⟩ log = true) :
    InclInv env calls (s.afterWrite (.upsertReceipt row anon)) (Function.update g i (g i))
      (⟨i, .write (.upsertReceipt row anon), s⟩ :: log) := by
  have hanchors := (World.afterWrite_sameOff s (.upsertReceipt row anon)).anchors nofun
  rcases afterWrite_upsertReceipt hfresh with hrows | ⟨hrows, hnew⟩
  · exact h.quiet hrows hanchors rfl rfl (h.phases i).cons
  have hclear : ∀ f ∈ log, ((fetchedRows f).any (fun r => r.tenantId == row.tenantId) &&
      inSpan (fetchedRows f) row) = false := by
    intro f hf
    have hf' := List.all_eq_true.1 hout f hf
    rwa [Bool.not_eq_true'] at hf'
  refine h.next ?_ (rebuilds_nil _) (fun e he => ?_) (h.batches.quiet rfl hanchors)
    (by simp [storedBatch]) (h.phases i).cons
  · rw [hrows, List.map_append, List.map_singleton]
    refine h.nodup.append (List.nodup_singleton _) ?_
    simpa using hnew
  · rw [hrows]
    exact (h.span e he).concat (hclear e he)

/-- The receipts fetched for a proof are those the batch was built from. -/
theorem rebuilt_eq {tenant : String} {b row : AnchorRow}
    {rs : List ReceiptRow} (hs : Stored log row rs) (hb : SameBatch b row)
    (hmatch : tenantMatches tenant b.tenantId = true) (hone : (tenant != "*" ||
      oneTenant (batchReceipts tenant (firstKey b) (lastKey b) s.db)) = true) :
    batchReceipts tenant (firstKey b) (lastKey b) s.db = rs := by
  obtain ⟨hbatch, ⟨e, he, hfetch⟩, htenant⟩ := h.built row rs hs
  obtain ⟨-, -, first, last, hhead, hlast, hfirstKey, hlastKey⟩ := hbatch.ends
  rw [← hb.first] at hfirstKey
  rw [← hb.last] at hlastKey
  have hspan := h.span e he
  rw [hfetch] at hspan
  have hrebuild := hspan row.tenantId
    ⟨first, hhead, htenant first (List.mem_of_mem_head? hhead)⟩
  have hin : ∀ r, inSpan rs r = (decide (toLex (firstKey b) ≤ receiptKey r) &&
      decide (receiptKey r ≤ toLex (lastKey b))) := by
    intro r
    simp only [inSpan, hhead, hlast, hfirstKey, hlastKey]
  rw [← hrebuild]
  unfold batchReceipts
  refine congrArg _ (List.filter_congr fun r hr => ?_)
  rw [Bool.and_assoc, ← hin]
  -- the two conditions differ in how they compare tenants
  by_cases hstar : tenant = "*"
  · cases hspanr : inSpan rs r with
    | false => simp
    | true =>
      have hmem : ∀ x ∈ s.db.receipts, inSpan rs x = true →
          x ∈ batchReceipts tenant (firstKey b) (lastKey b) s.db := by
        intro x hx hxs
        refine mem_orderBy.2 (List.mem_filter.2 ⟨hx, ?_⟩)
        rw [Bool.and_assoc, ← hin, hxs]
        simp [tenantMatches, hstar]
      have hfirst : first ∈ s.db.receipts.filter fun r =>
          r.tenantId == row.tenantId && inSpan rs r := by
        have hmem := List.mem_of_mem_head? hhead
        rw [← hrebuild] at hmem
        exact mem_orderBy.1 hmem
      obtain ⟨hfmem, hfcond⟩ := List.mem_filter.1 hfirst
      obtain ⟨hft, hfs⟩ := Bool.and_eq_true_iff.1 hfcond
      have hall : oneTenant (batchReceipts tenant (firstKey b) (lastKey b) s.db) = true := by
        simpa [hstar] using hone
      have hsame := List.all_eq_true.1 (List.all_eq_true.1 hall r (hmem r hr hspanr)) first
        (hmem first hfmem hfs)
      have : r.tenantId = row.tenantId := by
        rw [beq_iff_eq.1 hsame, beq_iff_eq.1 hft]
      simp [tenantMatches, hstar, this]
  · have htt : b.tenantId = tenant := by simpa [tenantMatches, hstar] using hmatch
    rw [hb.tenantId] at htt
    subst htt
    have hname : (row.tenantId == "*") = false := beq_eq_false_iff_ne.2 hstar
    simp [tenantMatches, hname]

end

end InclInv

/-- Every statement of a history keeps the invariant, given that it keeps batches and
proofs in step. -/
theorem inclInv_run (calls : List HistCall) :
    RunInvariant (fun i => HistStep env (histTenant calls i))
      (fun e older => freshId e = true ∧ keepsInStep e older = true) (InclInv env calls) where
  tick _ h := ⟨h.nodup, h.span, ⟨h.batches.known, h.batches.present, h.batches.unique⟩, h.built,
    h.phases⟩
  step {s g log i lbl s' p'} h hcond hstep := by
    generalize hp : g i = p at hstep
    have hphase := h.phases i
    rw [hp] at hphase
    obtain ⟨hfresh, hkeep⟩ := hcond
    cases hstep with
    | quiet _ _ _ _ _ hlbl hrows hanchors =>
      obtain ⟨hfetch, hstore⟩ := untracked hlbl i s
      exact h.quiet hrows hanchors hfetch hstore hphase.cons
    | receipt _ row anon =>
      rw [← hp]
      exact h.receipt hfresh hkeep
    | mark => exact h.quiet rfl rfl rfl rfl trivial
    | fetchFailed m _ hf =>
      refine h.quiet rfl rfl ?_ rfl trivial
      obtain ⟨e, he⟩ := Option.ne_none_iff_exists'.1 hf
      simp [fetchedRows, he]
    | fetch m _ hf =>
      have hrows : fetchedRows ⟨i, .select (.pendingReceipts (histTenant calls i) m), s⟩ =
          pendingReceipts (histTenant calls i) m s.db := by
        simp [fetchedRows, hf]
      refine h.next h.nodup ?_ h.span (h.batches.quiet rfl rfl) (by simp [storedBatch]) ?_
      · rw [hrows]
        exact rebuilds_pendingReceipts h.nodup
      · exact ⟨⟨_, List.mem_cons_self, hrows⟩, fun r hr => (mem_pendingReceipts hr).2.1⟩
    | head m rs =>
      refine h.quiet rfl rfl rfl rfl ⟨Fetched.cons hphase, ?_⟩
      simpa [keepsInStep] using hkeep
    | storeFailed m rs head row _ e hres =>
      have hdb : (s.afterWrite (.insertAnchor row rs)).db = s.db := World.afterWrite_of_failed hres
      exact h.quiet (by rw [hdb]) (by rw [hdb]) rfl (by simp [storedBatch, hres]) trivial
    | store m rs head row _ n hbatch hres =>
      obtain ⟨hfetched, rfl⟩ := hphase
      have htenant : row.tenantId = histTenant calls i := by
        obtain ⟨_, _, _, _, _, -, -, rfl⟩ := hbatch
        rfl
      have hrows := receipts_insertAnchor s row rs
      refine h.next (hrows ▸ h.nodup) (rebuilds_nil _) (hrows ▸ h.span) (h.batches.store hres)
        (fun row' rs' hs => ?_) trivial
      simp only [storedBatch, hres, Option.some.injEq, Prod.mk.injEq] at hs
      obtain ⟨rfl, rfl⟩ := hs
      rw [htenant]
      exact ⟨hbatch, hfetched⟩
    | finish m rs row _ btc sol status err =>
      have hrows := receipts_finishAnchor s row.anchorId btc sol status err
      exact h.next (hrows ▸ h.nodup) (rebuilds_nil _) (hrows ▸ h.span)
        (h.batches.finish i _ _ _ _ _) (by simp [storedBatch]) trivial
    | choose _ b hb hmatch =>
      obtain ⟨e, he, row, rs, hs, hsame⟩ := h.batches.known b hb
      exact h.quiet rfl rfl rfl rfl
        ⟨hmatch, row, rs, ⟨e, List.mem_cons_of_mem _ he, hs⟩, hsame⟩
    | rebuildFailed b _ hf => exact h.quiet rfl rfl rfl rfl hphase.cons
    | rebuild b _ hf =>
      obtain ⟨hmatch, row, rs, hs, hsame⟩ := hphase
      refine h.quiet rfl rfl rfl rfl ⟨row, ?_, hsame⟩
      rw [h.rebuilt_eq hs hsame hmatch hkeep]
      exact hs.cons

/-- **Inclusion proofs verify.** In every history whose statements keep batches and
proofs in step, a proof returned for a leaf `r` of a stored batch, when it names that
batch, has the leaf of `r`, the size of the batch, and verifies against the root the
batch was stored with. -/
theorem proof_verifies (env : Env F) (publishers : Publishers) (calls : List HistCall)
    (s : World F) (hnodup : (s.db.receipts.map fun r => r.receiptId).Nodup)
    (hanchors : s.db.anchors = []) (sched : List Event)
    (hkeep : LogOk (fun e older => freshId e = true ∧ keepsInStep e older = true)
      ((Config.init s (calls.map (HistCall.prog env publishers))).run sched).log)
    (e : Entry (Label F) (World F))
    (he : e ∈ ((Config.init s (calls.map (HistCall.prog env publishers))).run sched).log)
    (row : AnchorRow) (rs : List ReceiptRow) (hstored : storedBatch e = some (row, rs))
    (r : ReceiptRow) (hr : r ∈ rs) (i : ℕ) (tenant : String) (q : InclusionProof)
    (hcall : calls[i]? = some (.proof r.receiptId tenant))
    (hproof : ((Config.init s (calls.map (HistCall.prog env publishers))).run sched).result i =
      some (.ok (.proved (some q))))
    (hselects : q.anchorId = row.anchorId) :
    q.leafHex = hexEncode (leafHashV2 env r) ∧ q.treeSize = rs.length ∧
      verifyInclusion env row.batchRootHex q = true := by
  obtain ⟨g, hinv, hpool⟩ := (inclInv_run calls).run (histPool_follows publishers calls)
    (InclInv.initial calls hnodup hanchors) sched hkeep
  obtain ⟨receiptId, hid, b, rs', sol, btc, hphase, hbuild⟩ :=
    (hpool.result hproof _ hcall).2 q rfl
  cases hid
  have hok := hinv.phases i
  rw [hphase] at hok
  obtain ⟨row', ⟨e', he', hs'⟩, hsame⟩ := hok
  -- the proof names the batch, and an id names one batch
  have hq : q.anchorId = b.anchorId := buildProof_anchorId hbuild
  obtain ⟨rfl, rfl⟩ := hinv.batches.unique e' he' e he row' rs' row rs hs' hstored
    (by rw [← hsame.anchorId, ← hq, hselects])
  obtain ⟨⟨first, rest, root, anchorId, now, -, hroot, hrow⟩, ⟨f, hf, hfetch⟩, -⟩ :=
    hinv.built row' rs' ⟨e, he, hstored⟩
  have hversion : b.leafVersion = 2 := by
    rw [hsame.leafVersion, hrow]
    rfl
  have hroot' : merkleRoot (combineNodes env) (rs'.map (leafHashV2 env)) = some root := by
    simpa [batchLeaves] using hroot
  obtain ⟨x, hx, hxid, hleaf, hsize, hverify⟩ := buildProof_verifies hbuild hversion hroot'
  have hids : (rs'.map fun r => r.receiptId).Nodup := by
    have hspan := hinv.span f hf
    rw [hfetch] at hspan
    exact hspan.nodup hinv.nodup
  have hxr : x = r := List.inj_on_of_nodup_map hids hx hr hxid
  subst hxr
  refine ⟨hleaf, hsize, ?_⟩
  rw [hrow]
  exact hverify

/-! ## The history in which a proof fails -/

/-- A hash without collisions that is short on the given inputs. -/
def tagHash (known : List Bytes) (b : Bytes) : Bytes :=
  if known.contains b then [UInt8.ofNat (known.idxOf b)] else 0 :: 0 :: b

theorem tagHash_injective (known : List Bytes) (hlen : known.length ≤ 256) :
    Function.Injective (tagHash known) := by
  intro a b hab
  unfold tagHash at hab
  split at hab <;> split at hab
  · next ha hb =>
    rw [List.contains_iff_mem] at ha hb
    have hia := List.idxOf_lt_length_of_mem ha
    have hib := List.idxOf_lt_length_of_mem hb
    have hsize : UInt8.size = 256 := rfl
    have hnat := congrArg UInt8.toNat (List.cons.inj hab).1
    rw [UInt8.toNat_ofNat_of_lt' (by omega), UInt8.toNat_ofNat_of_lt' (by omega)] at hnat
    exact (List.idxOf_inj ha).1 hnat
  · exact absurd (congrArg List.length hab) (by simp)
  · exact absurd (congrArg List.length hab) (by simp)
  · exact (List.cons.inj (List.cons.inj hab).2).2

/-- The leaf of the sample receipt and the leaf of the first audit entry, before hashing. -/
def sampleLeaves : List Bytes :=
  [leafHashV2 plainEnv (sampleReceipt "ar_1"), auditHeadLeaf plainEnv "default" 1 "01"]

def anchorEnv : Env ℚ := { plainEnv with sha256 := tagHash sampleLeaves }

/-- Second 5, with both publishers at work. -/
def auditedStart : World ℚ :=
  { sampleWorld 5000 with
    publications := [.anchored "btca_1" "mock", .anchored "sola_1" "sig"] }

/-- A receipt, an audit entry, an anchoring run and a proof request. -/
def auditedCalls : List HistCall :=
  [.insert (sampleReceipt "ar_1") false, .audit ⟨"audit_1", "default", "login", "", 5⟩,
    .anchor "default", .proof "ar_1" "default"]

def auditedRun (sched : List Event) : SrvConfig ℚ AppError HistResult :=
  (Config.init auditedStart (auditedCalls.map (HistCall.prog anchorEnv bothPublishers))).run
    sched

/-- The receipt is anchored before anything is logged. -/
def anchoredThenAudited : List Event :=
  List.replicate 2 (.step 0) ++ List.replicate 11 (.step 2) ++ List.replicate 2 (.step 1) ++
    List.replicate 5 (.step 3)

/-- The receipt is anchored after the audit entry. -/
def auditedThenAnchored : List Event :=
  List.replicate 2 (.step 0) ++ List.replicate 2 (.step 1) ++ List.replicate 11 (.step 2) ++
    List.replicate 5 (.step 3)

/-- The stored batch and the returned proof. -/
def batchAndProof (c : SrvConfig ℚ AppError HistResult) :
    Option (AnchorRow × List ReceiptRow × InclusionProof) :=
  match c.log.findSome? storedBatch, c.result 3 with
  | some (row, rs), some (.ok (.proved (some q))) => some (row, rs, q)
  | _, _ => none

/-- The proof names the stored batch, of which the receipt is a leaf. -/
def provesLeaf (x : AnchorRow × List ReceiptRow × InclusionProof) : Bool :=
  x.2.2.anchorId == x.1.anchorId && decide (sampleReceipt "ar_1" ∈ x.2.1)

theorem batchAndProof_spec {c : SrvConfig ℚ AppError HistResult} {row : AnchorRow}
    (h : batchAndProof c = some (row, rs, q)) :
    (∃ e ∈ c.log, storedBatch e = some (row, rs)) ∧ c.result 3 = some (.ok (.proved (some q))) := by
  unfold batchAndProof at h
  split at h
  · next hlog hres =>
    cases h
    exact ⟨List.exists_of_findSome?_eq_some hlog, hres⟩
  · cases h

theorem proof_verifies_before_audit :
    ∃ x, batchAndProof (auditedRun anchoredThenAudited) = some x ∧
      verifyInclusion anchorEnv x.1.batchRootHex x.2.2 = true := by
  have hsome : (batchAndProof (auditedRun anchoredThenAudited)).any provesLeaf = true := by
    decide +kernel
  obtain ⟨⟨row, rs, q⟩, hx, hleaf⟩ := (Option.any_eq_true _ _).1 hsome
  obtain ⟨⟨e, he, hstored⟩, hproof⟩ := batchAndProof_spec hx
  obtain ⟨hid, hr⟩ := Bool.and_eq_true_iff.1 hleaf
  have hkeep : LogOk (fun e older => freshId e = true ∧ keepsInStep e older = true)
      (auditedRun anchoredThenAudited).log := by
    decide +kernel
  unfold auditedRun at he hproof hkeep
  have hnodup : (auditedStart.db.receipts.map fun r => r.receiptId).Nodup := List.nodup_nil
  have hcall : auditedCalls[3]? = some (.proof (sampleReceipt "ar_1").receiptId "default") := rfl
  have hanchors : auditedStart.db.anchors = [] := rfl
  have hverifies := proof_verifies anchorEnv bothPublishers auditedCalls auditedStart hnodup
    hanchors anchoredThenAudited
  exact ⟨_, hx, (hverifies hkeep e he row rs hstored (sampleReceipt "ar_1") (of_decide_eq_true hr)
    3 "default" q hcall hproof (beq_iff_eq.1 hid)).2.2⟩

/-- The proof names the stored batch but does not verify against its root. -/
theorem proof_fails_with_audit_head :
    Function.Injective anchorEnv.sha256 ∧
      (batchAndProof (auditedRun auditedThenAnchored)).any (fun x =>
        provesLeaf x && !verifyInclusion anchorEnv x.1.batchRootHex x.2.2) = true :=
  ⟨tagHash_injective sampleLeaves (by decide), by decide +kernel⟩

end SauronID.Anchor
